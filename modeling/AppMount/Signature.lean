import AppMount.Text.Normal
import AppMount.Text.Quoted

/-!
# Parameters and calls

How the parameters of a constructor take up the arguments of a call. A constructor declares
positional-only, ordinary and keyword-only parameters and at most one collector of each kind; a
call has some positional arguments and some keyword arguments.

* `Parameter`, `Parameter.isRequired`: a declared parameter, and whether a call must supply it;
* `firstRequired?`: the first parameter a call without arguments leaves unfilled;
* `CallFault`: the ways a call can fail to fit, with their texts;
* `callFault?`: what a call runs into, if anything, in the order in which it is checked;
* `callFault?_nil_eq_none_iff`: a call without arguments fits exactly when no parameter is required.
-/

namespace AppMount

/-! ## 1. Parameters -/

/-- How a parameter takes its argument. -/
inductive ParameterKind where
  | positionalOnly
  | ordinary
  | collectPositional
  | keywordOnly
  | collectKeyword
  deriving DecidableEq, Repr

/-- **A declared parameter.** -/
structure Parameter where
  name : String
  kind : ParameterKind
  hasDefault : Bool
  deriving DecidableEq, Repr

namespace Parameter

/-- A parameter under the normal form of its name, by which it is known. -/
def normal (p : Parameter) : Parameter :=
  { p with name := Text.normal p.name }

/-- Whether the parameter takes arguments by position. -/
def isPositional (p : Parameter) : Bool :=
  p.kind = .positionalOnly || p.kind = .ordinary

/-- Whether the parameter can be named in a call. -/
def isNameable (p : Parameter) : Bool :=
  p.kind = .ordinary || p.kind = .keywordOnly

/-- Whether the parameter is a collector. -/
def isCollector (p : Parameter) : Bool :=
  p.kind = .collectPositional || p.kind = .collectKeyword

/-- **Whether a call has to supply the parameter.** -/
def isRequired (p : Parameter) : Bool :=
  !p.hasDefault && !p.isCollector

theorem isCollector_eq_false_iff (p : Parameter) :
    p.isCollector = false ↔ p.isPositional = true ∨ p.kind = .keywordOnly := by
  unfold isCollector isPositional
  cases p.kind <;> simp

end Parameter

/-- The first parameter that a call without arguments leaves unfilled. -/
def firstRequired? (params : List Parameter) : Option Parameter :=
  params.find? Parameter.isRequired

theorem firstRequired?_eq_none_iff (params : List Parameter) :
    firstRequired? params = none ↔ ∀ p ∈ params, p.isRequired = false := by
  simp [firstRequired?]

/-! ## 2. Calls that do not fit -/

/-- **Why a call does not fit the parameters.** -/
inductive CallFault where
  | missing (keywordOnly : Bool) (names : List String)
  | repeated (name : String)
  | positionalByName (names : List String)
  | unexpected (name : String)
  | surplus (least most given namedGiven : Nat)
  deriving DecidableEq, Repr

namespace CallFault

/-- The ending of a noun counted by `n`. -/
def plural (n : Nat) : String :=
  if n = 1 then "" else "s"

/-- The text of a fault, after the name of what was called. -/
def text : CallFault → String
  | .missing keywordOnly names =>
    " missing " ++ toString names.length ++ " required "
      ++ (if keywordOnly then "keyword-only" else "positional") ++ " argument"
      ++ plural names.length ++ ": " ++ Text.enumerated (names.map Text.quoted)
  | .repeated name => " got multiple values for argument " ++ Text.quoted name
  | .positionalByName names =>
    " got some positional-only arguments passed as keyword arguments: '"
      ++ ", ".intercalate names ++ "'"
  | .unexpected name => " got an unexpected keyword argument " ++ Text.quoted name
  | .surplus least most given namedGiven =>
    " takes " ++ (if least = most then toString most
        else "from " ++ toString least ++ " to " ++ toString most)
      ++ " positional argument" ++ (if least = most then plural most else "s")
      ++ " but " ++ toString given
      ++ (if namedGiven = 0 then ""
        else " positional argument" ++ plural given ++ " (and " ++ toString namedGiven
          ++ " keyword-only argument" ++ plural namedGiven ++ ")")
      ++ (if given = 1 ∧ namedGiven = 0 then " was" else " were") ++ " given"

end CallFault

/-! ## 3. Binding -/

/-- The positional parameters, in order. -/
def positionalOf (params : List Parameter) : List Parameter :=
  params.filter Parameter.isPositional

/-- What is wrong with one keyword, when the first `given` positional parameters already have an
    argument. -/
def keywordFault? (params : List Parameter) (given : Nat) (name : String) : Option CallFault :=
  if (((positionalOf params).take given).filter Parameter.isNameable).any (·.name = name) then
    some (.repeated name)
  else if (params.filter Parameter.isNameable).any (·.name = name) then none
  else if params.any (·.kind = .collectKeyword) then none
  else if params.any fun p => p.kind = .positionalOnly && p.name = name then
    some (.positionalByName [name])
  else some (.unexpected name)

/-- What is wrong with the number of positional arguments. The receiver of the call counts as one
    more parameter and one more argument. -/
def surplusFault? (params : List Parameter) (given : Nat) (keywords : List String) :
    Option CallFault :=
  let positional := positionalOf params
  if given ≤ positional.length ∨ params.any (·.kind = .collectPositional) then none
  else
    let defaults := (positional.filter (·.hasDefault)).length
    let named := (params.filter fun p => p.kind = .keywordOnly && keywords.contains p.name).length
    some (.surplus (positional.length - defaults + 1) (positional.length + 1) (given + 1) named)

/-- The required parameters among `params` that no keyword supplies. -/
def unfilled (params : List Parameter) (keywords : List String) : List String :=
  (params.filter fun p => p.isRequired && !(p.isNameable && keywords.contains p.name)).map (·.name)

/-- The fault of leaving parameters unfilled, if any is left. -/
def missingFault? (keywordOnly : Bool) (names : List String) : Option CallFault :=
  if names.isEmpty then none else some (.missing keywordOnly names)

/-- **What a call with `given` positional arguments and these keywords runs into.** Keywords are
    looked at first, one after the other; then the number of positional arguments; then what is
    missing, positional parameters before keyword-only ones. -/
def callFault? (params : List Parameter) (given : Nat) (keywords : List String) :
    Option CallFault :=
  keywords.findSome? (keywordFault? params given)
    |>.or (surplusFault? params given keywords)
    |>.or (missingFault? false (unfilled ((positionalOf params).drop given) keywords))
    |>.or (missingFault? true (unfilled (params.filter (·.kind = .keywordOnly)) keywords))

theorem missingFault?_eq_none_iff (keywordOnly : Bool) (names : List String) :
    missingFault? keywordOnly names = none ↔ names = [] := by
  unfold missingFault?
  cases names <;> simp

theorem unfilled_nil_eq_nil_iff (params : List Parameter) :
    unfilled params [] = [] ↔ ∀ p ∈ params, p.isRequired = false := by
  simp [unfilled]

/-- **A call without arguments fits exactly when no parameter is required.** -/
theorem callFault?_nil_eq_none_iff (params : List Parameter) :
    callFault? params 0 [] = none ↔ firstRequired? params = none := by
  have split_kind : ∀ p : Parameter, p.isRequired = true →
      p.isPositional = true ∨ p.kind = .keywordOnly := by
    intro p hp
    refine (Parameter.isCollector_eq_false_iff p).1 ?_
    simp only [Parameter.isRequired, Bool.and_eq_true, Bool.not_eq_true'] at hp
    exact hp.2
  simp only [callFault?, List.findSome?_nil, Option.none_or, surplusFault?, Nat.zero_le, true_or,
    if_true, List.drop_zero, Option.or_eq_none_iff, missingFault?_eq_none_iff,
    unfilled_nil_eq_nil_iff, firstRequired?_eq_none_iff, positionalOf, List.mem_filter]
  constructor
  · rintro ⟨hpos, hkey⟩ p hp
    cases hreq : p.isRequired with
    | false => rfl
    | true =>
      rcases split_kind p hreq with h | h
      · exact absurd (hpos p ⟨hp, h⟩) (by simp [hreq])
      · exact absurd (hkey p ⟨hp, by simp [h]⟩) (by simp [hreq])
  · intro h
    exact ⟨fun p hp => h p hp.1, fun p hp => h p hp.1⟩

end AppMount
