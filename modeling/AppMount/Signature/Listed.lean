import AppMount.Signature

/-!
# Parameters in writing

A text may list parameters: names in brackets with commas between them, where a name may have a
value to fall back on. A slash ends the parameters that cannot be named; a star collects what is
given by position, or just begins those that have to be named; two stars collect what is named and
end the list. A dollar sign marks the parameter for the instance. Blanks do not count.

* `ListPart`, `ListPart.read?`: what stands between two commas;
* `ListedSo`: how far a list has been read;
* `Parameter.listed?`: the parameters that a text lists, if it lists any;
* `Parameter.unbound?`: those that are left once the instance is given.
-/

namespace AppMount

/-! ## 1. What stands between two commas -/

/-- **A part of a list of parameters.** -/
inductive ListPart where
  | single (name : String) (hasDefault : Bool)
  | slash
  | star (name : Option String)
  | stars (name : String)
  deriving DecidableEq, Repr

namespace ListPart

/-- Whether a character can begin a name. -/
def beginsName (c : Char) : Bool :=
  c.isAlpha || c = '_'

/-- The name that characters spell, if they spell one. -/
def name? : List Char → Option String
  | [] => none
  | c :: rest =>
    if beginsName c && rest.all fun c => c.isAlphanum || c = '_' then
      some (String.ofList (c :: rest))
    else none

/-- Whether characters spell a value: a constant, a number, or a text in quotation marks. -/
def isValue (cs : List Char) : Bool :=
  ["None", "True", "False"].contains (String.ofList cs)
    || (!cs.isEmpty && cs.all Char.isDigit)
    || match cs, cs.getLast? with
      | c :: _ :: _, some last => (c = '\'' || c = '"') && last = c
      | _, _ => false

/-- **What stands between two commas**, if that is a part of a list. -/
def read? (cs : List Char) : Option ListPart :=
  match cs with
  | ['/'] => some .slash
  | ['*'] => some (.star none)
  | '*' :: '*' :: rest => (name? rest).map .stars
  | '*' :: rest => (name? rest).map fun name => .star (some name)
  | '$' :: rest => (name? rest).map fun name => .single name false
  | cs =>
    let (name, rest) := cs.span (· ≠ '=')
    match rest with
    | [] => (name? name).map fun name => .single name false
    | _ :: value => if isValue value then (name? name).map fun name => .single name true else none

end ListPart

/-! ## 2. Lists -/

/-- **How far a list of parameters has been read**: what was read, whether a parameter with a value
    to fall back on came, and, once a star came, whether something named has to follow. -/
structure ListedSo where
  params : List Parameter := []
  optional : Bool := false
  starred : Option Bool := none
  deriving DecidableEq, Repr

namespace ListedSo

/-- One parameter more. -/
def add (x : ListedSo) (name : String) (kind : ParameterKind) (hasDefault : Bool) : ListedSo :=
  { x with params := x.params ++ [⟨name, kind, hasDefault⟩] }

/-- One part more, if it can stand there. -/
def read (x : ListedSo) : ListPart → Option ListedSo
  | .single name hasDefault =>
    match x.starred with
    | some _ => some { x.add name .keywordOnly hasDefault with starred := some false }
    | none =>
      if x.optional && !hasDefault then none
      else some { x.add name .ordinary hasDefault with optional := hasDefault }
  | .slash =>
    if x.starred.isSome || x.params.any (·.kind = .positionalOnly) then none
    else some { x with params := x.params.map ({ · with kind := .positionalOnly }) }
  | .star name =>
    match x.starred, name with
    | some _, _ => none
    | none, some name => some { x.add name .collectPositional false with starred := some false }
    | none, none => some { x with starred := some true }
  | .stars name =>
    if x.starred = some true then none else some (x.add name .collectKeyword false)

/-- Reads parts one after the other. Nothing comes after what collects all that is named. -/
def readAll (x : ListedSo) : List (List Char) → Option ListedSo
  | [] => if x.starred = some true then none else some x
  | part :: rest => do
    if x.params.any (·.kind = .collectKeyword) then none
    (← x.read (← ListPart.read? part)).readAll rest

end ListedSo

namespace Parameter

/-- The parts of a list in brackets. A comma may come after the last. -/
def partsOf? (cs : List Char) : Option (List (List Char)) :=
  match cs, cs.getLast? with
  | '(' :: inner, some ')' =>
    let parts := ((String.ofList inner.dropLast).splitOn ",").map String.toList
    some (if parts.getLast? = some [] then parts.dropLast else parts)
  | _, _ => none

/-- **The parameters that a text lists**, if it lists any and no name twice. -/
def listed? (s : String) : Option (List Parameter) := do
  let read ← ({} : ListedSo).readAll (← partsOf? (s.toList.filter (· ≠ ' ')))
  if (read.params.map (·.name)).Nodup then some read.params else none

/-- **The parameters that are left once the instance is given**, if it has one to go to. What
    collects by position goes on to do so. -/
def unbound? : List Parameter → Option (List Parameter)
  | [] => none
  | p :: rest =>
    match p.kind with
    | .positionalOnly | .ordinary => some rest
    | .collectPositional => some (p :: rest)
    | .keywordOnly | .collectKeyword => none

end Parameter

end AppMount
