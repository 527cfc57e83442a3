import AppMount.Construction
import AppMount.Signature.Listed

/-!
# Constructible without arguments

An application class is called without arguments, and is refused before that if its parameters show
that it cannot be. So is anything else that stands in the place of one. A thing may say itself what
its parameters are: by something that it wraps, by what it holds for that purpose, or in a text.

* `Action.stated`, `Action.listed`: what a thing says itself;
* `Action.checkParameters`: the check of a class; `Action.instantiate`: the check and the call;
* `Action.checkParametersFound`: the check of anything else; `Action.expectedOf`: the parameters of
  a thing that can be called.
-/

namespace AppMount

namespace Action

/-! ## 1. What things say themselves -/

/-- The parameters that a call has to fit, or why there are none to fit. -/
abbrev Expected := Except ParameterFault (List Parameter)

/-- **What a thing says itself about its parameters**, or about what it wraps, if it says anything.
    What it wraps has none to show, unless it is a method: that takes the instance, if it does not
    have it. A method in the namespace of a thing does not have it. -/
def stated (ρ : Dispatch) (r : Ref) : Action (Option Expected) := do
  let wrapped ← member? ρ r "__wrapped__"
  let signature ← member? ρ r "__signature__"
  let w ← get
  match signature, wrapped with
  | none, some (.thing t) =>
    if (w.foundCode? (.thing t)).isNone then throw (.noSignatureOf (w.describe t))
    return some (.ok [⟨"self", .ordinary, false⟩])
  | none, some _ =>
    return some (if r.class?.isSome then .error (.missing "self") else .ok [])
  | some (.thing .none), _ | none, none => pure none
  | some found, _ => return some (.error (.meaningless (← describeFound ρ r found)))

/-- **The parameters that a thing lists in a text**, if it has such a text and that is not empty. -/
def listed (ρ : Dispatch) (r : Ref) : Action (Option (List Parameter)) := do
  match ← member? ρ r "__text_signature__" with
  | none => pure none
  | some found =>
    if !(← foundTruth ρ found) then return none
    match found with
    | .thing (.datum (.text s) _) =>
      match Parameter.listed? s with
      | some params => pure (some params)
      | none => throw (.wrongSignature (← describe ρ r))
    | found => throw (← lacking r found "split")

/-! ## 2. Application classes -/

/-- Refuses an application class of a name whose parameters do not take a call without arguments. -/
def checkExpected (qualname : String) : Expected → Action Unit
  | .error reason => throw (.unconstructible qualname reason)
  | .ok params =>
    match firstRequired? params with
    | some p => throw (.unconstructible qualname (.missing p.name))
    | none => pure ()

/-- **Refuses a class that cannot be called without arguments**, judging by the parameters it
    shows. -/
def checkParameters (ρ : Dispatch) (c : ClassId) : Action Unit := do
  let stated ← if ρ.replaces then stated ρ (.cls c) else pure none
  let w ← get
  let x := w.classDef c
  match stated, w.shown c with
  | some expected, _ => checkExpected x.qualname expected
  | none, .nothing => throw (.noSignature ("type " ++ x.describe))
  | none, .uncallable d => checkExpected x.qualname (.error (.uncallable d.describe))
  | none, .parameters params => checkExpected x.qualname (.ok params)

/-- **Makes the application of an application class.** -/
def instantiate (ρ : Dispatch) (c : ClassId) : Action Ref := do
  checkParameters ρ c
  construct ρ c {}

/-! ## 3. Other things in the place of application classes -/

/-- The parameters of a member that was taken off, given those that it lists, if it does. -/
def expectedOfTaken (x : TakenMember) (listed : Option (List Parameter)) : Action Expected := do
  match x, listed with
  | .bound .., some params =>
    match Parameter.unbound? params with
    | some params => pure (.ok params)
    | none => throw .noInstanceParameter
  | .free .., some params => pure (.ok params)
  | .free .., none => pure (.ok [⟨"self", .ordinary, false⟩])
  | .builtIn name, _ => pure (.ok [⟨name, .ordinary, false⟩])
  | .bound .., none | .computed, _ => pure (.ok [])

/-- The parameters of what makes the instances of a class callable. -/
def expectedOfCall (ρ : Dispatch) (r : Ref) : Member → Action Expected
  | .method m => return .ok (m.parameters?.getD [])
  | .value .null _ => do throw (.noSignatureOf (← describe ρ r))
  | .value d _ => return .error (.uncallable d.describe)
  | member => return .error (.uncallable (World.plainDescription member.typeWord))

/-- The parameters of an instance that stands in for another member, as it is taken for a built-in
    one: it has to list them. All others are compared with the classes that everything comes
    from. -/
def expectedOfStandIn (ρ : Dispatch) (r : Ref) : Action (Option Expected) := do
  let w ← get
  let has (member : String) : Bool := ((w.classOf? r).bind (w.member? · member)).isSome
  if has "__get__" && !has "__set__" then
    match ← listed ρ r with
    | some params => return some (.ok params)
    | none => throw (.noSignature (← describe ρ r))
  let _ ← special ρ r "__eq__" 1
  pure none

/-- What methods have. An instance that can be called is asked for all of it before its class is. -/
def methodMarks : List String :=
  ["_partialmethod", "__name__", "__code__", "__defaults__", "__kwdefaults__", "__annotations__"]

/-- **The parameters of a thing that is no class**, if it can be called. -/
def expectedOf (ρ : Dispatch) (r : Ref) : Action Expected := do
  let w ← get
  match w.content? r, (w.classOf? r).bind (w.member? · "__call__") with
  | some (.member _ .computed), _ | none, none => return .error (.uncallable (← describe ρ r))
  | some (.member _ x), _ =>
    match ← stated ρ r with
    | some expected => pure expected
    | none => expectedOfTaken x (← listed ρ r)
  | _, some (_, member) =>
    match ← stated ρ r with
    | some expected => pure expected
    | none =>
      methodMarks.forM fun mark => do
        let _ ← member? ρ r mark
      match ← expectedOfStandIn ρ r with
      | some expected => pure expected
      | none => expectedOfCall ρ r member
  | some _, none => return .error (.uncallable (← describe ρ r))

/-- The parameters of what was found in the place of an application class. What goes wrong with the
    kinds of things on the way is why there are none. -/
def expectedOfFound (ρ : Dispatch) (found : Found) : Action Expected := do
  let read ← attempt (match found with
    | .method _ m => return .ok (m.parameters?.getD [])
    | .thing t => expectedOf ρ t
    | .inner typeName => return .error (.uncallable (World.plainDescription typeName)))
  match read with
  | .ok expected => pure expected
  | .error fault =>
    if fault.category = "TypeError" then return .error (.other fault.message) else throw fault

/-- The qualified name of a thing that is no class, if it has one. -/
def qualnameOf (ρ : Dispatch) (r : Ref) : Action Datum := do
  foundDatum r (← access ρ r "__qualname__")

/-- The qualified name of what was found in the place of an application class of `r`. -/
def qualnameFound (ρ : Dispatch) (r : Ref) : Found → Action String
  | .method _ m => pure m.callee
  | .thing t => return (← qualnameOf ρ t).plain
  | found => do throw (.noMember ((← get).foundTypeName r found) "__qualname__")

/-- **Refuses what stands in the place of an application class** of `r` and cannot be called without
    arguments. -/
def checkParametersFound (ρ : Dispatch) (r : Ref) (found : Found) : Action Unit := do
  let expected ← expectedOfFound ρ found
  match expected.map firstRequired? with
  | .ok none => pure ()
  | _ => checkExpected (← qualnameFound ρ r found) expected

end Action

end AppMount
