import AppMount.Members

/-!
# Calls of methods

How a call finds the code that it runs, and how a field is read and written. A class may put a
method of its own in the place of one of the library; a call on an instance then runs that method.
Such a method takes nothing but the instance and hands an answer back.

* `Arguments`: what a class is called with;
* `Dispatch`: how answers are run, and whether methods of the library can be replaced at all;
* `Action.fit`, `Action.note`: the two things that come before the code of an application;
* `Action.access`: asking for a member; `Action.member?`: asking for one that need not be there;
* `Action.callFound`: calling what is found under a member; `Action.callWritten`: calling a method
  that was written for a single thing;
* `Action.special`: what a method that is called without asking for it hands back, if a class has
  one; `Action.named`: what a method in the place of one of the library hands back;
* `Action.orReplaced`: the library's own method, unless it is replaced;
* `Action.standIn`: what stands in the place of a field that is read; `Action.claim`: making room
  for a value of its own that a field is to be given;
* `orReplaced_of_library`: the library by itself replaces nothing.
-/

namespace AppMount

/-! ## 1. Arguments -/

/-- **What a class is called with**: positional arguments, and perhaps a name. -/
structure Arguments where
  positional : List Ref := []
  name : Option Datum := none
  deriving DecidableEq, Repr

namespace Arguments

/-- The keywords of a call. -/
def keywords (args : Arguments) : List String :=
  if args.name.isSome then ["name"] else []

/-- Whether a call has no arguments. -/
def isEmpty (args : Arguments) : Bool :=
  args.positional.isEmpty && args.name.isNone

/-- The number of arguments. -/
def count (args : Arguments) : Nat :=
  args.positional.length + args.keywords.length

@[simp] theorem keywords_default : ({} : Arguments).keywords = [] := rfl

end Arguments

/-! ## 2. Dispatch -/

/-- **How calls find and run the code of applications.** -/
structure Dispatch where
  /-- Whether methods of the library can be replaced. -/
  replaces : Bool
  /-- Runs a written answer. -/
  run : Answer → Action Offer

namespace Action

/-- Refuses a call that does not fit the parameters of what is called. -/
def fitCall (callee : String) (params : List Parameter) (given : Nat) (keywords : List String) :
    Action Unit :=
  match callFault? params given keywords with
  | some fault => throw (.call callee fault)
  | none => pure ()

/-- Refuses arguments that do not fit the parameters of a method. -/
def fit (m : Method) (params : List Parameter) (args : Arguments) : Action Unit :=
  fitCall m.callee params args.positional.length args.keywords

/-- Notes a call into application code. -/
def note (k : Ref) (method : String) : Action Unit :=
  modify fun w => { w with calls := w.calls ++ [⟨k, method⟩] }

/-- Calls a method that is written in `k` with so many arguments besides the instance. -/
def callCode (ρ : Dispatch) (k : Ref) (m : Method) (given : Nat) : Action Offer := do
  fitCall m.callee [] given []
  match m.code with
  | .answer answer =>
    note k m.name
    ρ.run answer
  | _ => pure (.datum .null 0)

/-! ## 3. Asking for members -/

/-- Refuses to ask a thing for anything if its class has a way of its own to be asked: such a method
    takes no arguments, and so cannot be told what it is asked for. -/
def checkAccess (ρ : Dispatch) (r : Ref) : Action Unit := do
  if ρ.replaces then
    let w ← get
    match w.overfullCall? (w.classOf? r) "__getattribute__" 1 with
    | some fault => throw fault
    | none => pure ()

/-- **Asks for a member of a thing.** -/
def access (ρ : Dispatch) (r : Ref) (member : String) : Action Found := do
  checkAccess ρ r
  let w ← get
  match w.find? r member with
  | some found => pure found
  | none => throw (w.missingMember r (w.missingName r member))

/-- **Asks for a member that a thing need not have.** Only a fault of another kind than that it is
    missing is one. -/
def member? (ρ : Dispatch) (r : Ref) (member : String) : Action (Option Found) := do
  checkAccess ρ r
  let w ← get
  match w.find? r member, w.missingMember r member with
  | some found, _ => pure (some found)
  | none, fault => if fault.category = "AttributeError" then pure none else throw fault

/-- Whether a method is one of the library. -/
def isOwn (m : Method) : Bool :=
  m.code = .own || m.code = .hidden

/-- **What a method that is called without asking for it hands back**, if the class of a thing has
    one that is not the library's. Nothing that is written into the namespace of the thing itself
    counts. -/
def special (ρ : Dispatch) (self : Ref) (method : String) (given : Nat) :
    Action (Option Offer) := do
  if ρ.replaces then
    let w ← get
    match (w.classOf? self).bind (w.member? · method) with
    | some (k, .method m) =>
      if isOwn m then pure none else return some (← callCode ρ (.cls k) m given)
    | some (_, .value d _) => throw (.notCallable d.typeWord)
    | _ => pure none
  else pure none

/-- **Calls a method that was found on a class.** It takes the first argument for the instance, so
    that a method of the library lacks its last parameter. -/
def callFree (ρ : Dispatch) (k : Ref) (m : Method) (given : Nat) (lastParameter : String) :
    Action Offer := do
  if m.code = .own then throw (.call m.callee (.missing false [lastParameter]))
  match given with
  | 0 => throw (.call m.callee (.missing false ["self"]))
  | given + 1 => callCode ρ k m given

/-- Calls what was found on a thing where its class has no method. Only a method in the namespace of
    the thing can be called, which is not told the thing. -/
def callWritten (ρ : Dispatch) (r : Ref) (found : Found) (given : Nat) : Action Offer := do
  let w ← get
  match found, w.foundCode? found with
  | _, some (k, m) => callFree ρ k m given "self"
  | found, none => throw (.notCallable (w.foundTypeName r found))

/-- **What a method in the place of one of the library hands back**, if there is one. -/
def named (ρ : Dispatch) (self : Ref) (method : String) (given : Nat) : Action (Option Offer) := do
  if ρ.replaces then
    match ← access ρ self method with
    | .method k m => if isOwn m then pure none else return some (← callCode ρ k m given)
    | found => return some (← callWritten ρ self found given)
  else pure none

/-- **The library's own method, unless it is replaced.** Tells whether it was its own. -/
def orReplaced (ρ : Dispatch) (self : Ref) (method : String) (given : Nat) (own : Action Unit) :
    Action Bool := do
  match ← named ρ self method given with
  | some _ => pure false
  | none =>
    own
    pure true

/-- **Calls what was found under the name of a method of descriptors.** Hands back what that hands
    back, unless it was the library's own method. -/
def callFound (ρ : Dispatch) (r : Ref) (found : Found) (given : Nat) (lastParameter : String)
    (own : DescriptorId → Action Unit) : Action (Option Offer) := do
  match r, found with
  | .cls _, .method k m => return some (← callFree ρ k m given lastParameter)
  | .descriptor d, .method k m =>
    if isOwn m then
      own d
      pure none
    else return some (← callCode ρ k m given)
  | _, .method k m => return some (← callCode ρ k m given)
  | r, found => return some (← callWritten ρ r found given)

/-- Calls what a thing has under the name of a method that it has no code of the library for. -/
def callOther (ρ : Dispatch) (r : Ref) (method : String) (given : Nat) : Action Offer := do
  let found ← access ρ r method
  match ← callFound ρ r found given "self" fun _ => pure () with
  | some offer => pure offer
  | none => pure (.datum .null 0)

/-- Refuses an argument that is named for what a thing has under the name of a method. No method
    that is written takes one. -/
def refuseKeyword (ρ : Dispatch) (r : Ref) (method : String) (keyword : String) : Action Unit := do
  let found ← access ρ r method
  match found, (← get).foundCode? found with
  | .method _ m, _ | _, some (_, m) => throw (.call m.callee (.unexpected keyword))
  | _, none => pure ()

/-- **A call of a method of descriptors on anything.** Tells whether it was the library's own. -/
def callMethod (ρ : Dispatch) (r : Ref) (method : String) (given : Nat) (lastParameter : String)
    (own : DescriptorId → Action Unit) : Action Bool := do
  if ρ.replaces then
    let found ← access ρ r method
    return (← callFound ρ r found given lastParameter own).isNone
  else
    match r with
    | .descriptor d =>
      own d
      pure true
    | r =>
      let _ ← callOther ρ r method given
      pure false

/-! ## 4. Fields of descriptors -/

/-- **What stands in the place of a field of a descriptor that is read**, unless it has a value of
    its own. A field without a value cannot be read. -/
def standIn (ρ : Dispatch) (d : DescriptorId) (field : String) : Action (Option Found) := do
  if ρ.replaces then
    checkAccess ρ (.descriptor d)
    let w ← get
    match w.standIn? d field with
    | none => pure none
    | some (some found) => pure (some found)
    | some none => throw (w.missingMember (.descriptor d) field)
  else pure none

/-- **Makes room for a value of its own that a field of a descriptor is to be given.** A class may
    have a way of its own to write fields, which takes nothing to be written, and it may hide a
    field, whose value is then kept in the namespace of the instance. -/
def claim (ρ : Dispatch) (d : DescriptorId) (field : String) : Action Unit := do
  if ρ.replaces then
    let w ← get
    let r := Ref.descriptor d
    match w.overfullCall? (w.classOf? r) "__setattr__" 2 with
    | some fault => throw fault
    | none =>
      match w.member? (w.descriptor d).cls field with
      | some (_, .field) =>
        set (w.changeDescriptor d fun x => { x with standIns := x.standIns.supply field })
      | _ =>
        if w.hasNamespace r then set (w.assign r field .own) else throw (w.fixedFault r field)

/-! ## 5. The library by itself -/

/-- **The library by itself runs its own methods.** -/
theorem orReplaced_of_library {ρ : Dispatch} (h : ρ.replaces = false) (self : Ref)
    (method : String) (given : Nat) (own : Action Unit) :
    orReplaced ρ self method given own = (do own; pure true) := by
  simp [orReplaced, named, h]

end Action

end AppMount
