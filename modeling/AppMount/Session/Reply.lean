import AppMount.Session.View

/-!
# Replies

What steps of a session answer when they succeed, and what all steps have in common: names are
looked up, and what a step makes is kept under a name.

* `Reply`: the answers;
* `Session.lookUp`, `Session.name`: names; `Session.newPlaces`: places for data;
* `Session.keepAs`, `Session.store`: keeping things; `Session.setMember`, `Session.deleteMember`,
  `Session.writeOwnMethod`: changing members of things;
* `Session.configReply`: the answer that shows what should be a descriptor.
-/

namespace AppMount

/-- **What a step answers** when it succeeds. A fluent call hands back what it was called on. -/
inductive Reply where
  | done
  | fluent (same : Bool)
  | frozen
  | truth (b : Bool)
  | count (n : Nat)
  | text (s : String)
  | value (d : Datum)
  | label (l : Label)
  | labels (ls : List Label)
  | names (ns : List Datum)
  | properties (entries : List (Datum × Datum))
  | config (v : ConfigView)
  | metadata (m : AppMetadata)
  | routing (r : RoutingName)
  | listener (v : Option ListenerView)
  | serverConfig (v : ServerConfigView)
  | registration (v : RegistrationView)
  | mount (v : MountView)
  | server (config : ServerConfigView) (mounts : List MountView)
  | places (ps : List (Datum × Datum))
  | attempts (succeeded : Nat) (failures : List String)
  deriving Repr

namespace Session

/-! ## 1. Names -/

/-- What a mention stands for. -/
def lookUp (m : Mention) : Action Ref := do
  Action.ofExcept ((← get).scope.resolve m)

/-- What mentions stand for. -/
def lookUpAll (ms : List Mention) : Action (List Ref) := do
  Action.ofExcept ((← get).scope.resolveAll ms)

/-- Binds a name. -/
def name (n : String) (r : Ref) : Action Unit :=
  modify fun w => { w with scope := w.scope.bind n r }

/-- Binds a name, if there is one to bind. -/
def nameIf (n : Option String) (r : Ref) : Action Unit :=
  match n with
  | some n => name n r
  | none => pure ()

/-! ## 2. Things -/

/-- So many places for data, of which it hands back the first. -/
def newPlaces (count : Nat) : Action Nat := do
  let w ← get
  set { w with places := w.places + count }
  pure w.places

/-- Keeps a new thing under a name. -/
def keepAs (result : String) (x : Content) : Action Ref := do
  let r ← Action.newThing x
  name result r
  pure r

/-- Writes what an object is. -/
def store (r : Ref) (x : Content) : Action Unit :=
  match r with
  | .object o => modify (·.setContent o x)
  | _ => pure ()

/-- Writes a datum from some place into a field of an object that has a place for it. -/
def setField (r : Ref) (field : String) (value : Datum) (place : Nat) : Action Unit := do
  let w ← get
  match w.content? r with
  | some (.registrationBuilder b) => store r (.registrationBuilder (b.assigned field value place))
  | some (.serverBuilder b) => store r (.serverBuilder (b.assigned w field value place))
  | some (.server s mounts) => store r (.server (s.assigned w field value place) mounts)
  | _ => pure ()

/-- Takes the value of a field from an object. -/
def dropField (r : Ref) (field : String) : Action Unit := do
  match (← get).content? r with
  | some (.registrationBuilder b) => store r (.registrationBuilder (b.without field))
  | some (.serverBuilder b) =>
    store r (.serverBuilder { b with standIns := b.standIns.drop field })
  | some (.server s mounts) => store r (.server { s with standIns := s.standIns.drop field } mounts)
  | _ => pure ()

/-- Changes a method that was taken off its class after a member of it was written: the name by
    which messages call it, and what it says about being left open. -/
def remark (m : Method) (member : String) (value : Ref) : Action Unit :=
  match member, value with
  | "__qualname__", .datum (.text s) _ => modify (·.changeMethod m ({ · with callee := s }))
  | "__dict__", .datum (.mapping fields) _ =>
    let mark := Keyed.get? id (.text Method.markMember) fields.toList
    modify (·.changeMethod m ({ · with mark := mark.map Datum.isTrue }))
  | member, value => do
    if member = Method.markMember then
      let mark := (← get).isTrue value
      modify (·.changeMethod m ({ · with mark := some mark }))

/-- Writes a member into the namespace of a thing, or gives the thing another namespace. -/
def writeIn (r : Ref) (member : String) (value : Ref) : Action Unit := do
  let w ← get
  let parts := (w.builtInKind? r).elim [] fun kind => (partsOf kind).map (·.1)
  match member, value with
  | "__dict__", .datum (.mapping fields) place => set (w.reassign r parts fields.toList place)
  | member, value => set (w.assign r member (.thing value))
  match w.content? r with
  | some (.member _ (.free _ m)) => remark m member value
  | _ => pure ()

/-- Takes a member out of the namespace of a thing, or everything. A part that is lost counts as
    nothing. -/
def dropIn (r : Ref) (member : String) : Action Unit := do
  let w ← get
  if (w.part? r member).isSome then set (w.assign r member (.thing .none))
  else if member = "__dict__" then set (w.reassign r [] [] 0)
  else set (w.unassign r member)
  match w.content? r with
  | some (.member _ (.free _ m)) =>
    if member = Method.markMember then modify (·.changeMethod m ({ · with mark := none }))
  | _ => pure ()

/-- Writes a datum into a field of a descriptor whose class hides the place of the field. The
    namespace of the descriptor holds the value, or tells that it is one of the field's own kind. -/
def writeHidden (d : DescriptorId) (field : String) (value : Datum) (place : Nat) :
    Action Unit := do
  let r := Ref.descriptor d
  let x := (← get).descriptor d
  let written := x.assigned field value place
  if (written.standIns.at? field).isNone then
    let kept := { written with standIns := x.standIns }
    modify fun w => (w.changeDescriptor d fun _ => kept).assign r field .own
  else
    modify (·.changeDescriptor d (·.cleared field))
    writeIn r field (.ofDatum place value)

/-- **Writes a member of a thing** that takes it. -/
def setMember (r : Ref) (member : String) (value : Datum) : Action Unit := do
  let place ← newPlaces value.span
  let w ← get
  match w.changeFault? r false member (.ofDatum place value) with
  | some fault => throw fault
  | none =>
    match r, w.isField r member with
    | .cls c, _ => modify (·.changeClass c (·.writeValue member value place))
    | .descriptor d, true => modify (·.changeDescriptor d (·.assigned member value place))
    | .descriptor d, false =>
      if ClassDef.descriptorFields.contains member then writeHidden d member value place
      else writeIn r member (.ofDatum place value)
    | r, true => setField r member value place
    | r, false => writeIn r member (.ofDatum place value)

/-- **Writes a method for a single thing**, which takes the place of what its class has. The method
    is not told the thing when it is called. -/
def writeOwnMethod (r : Ref) (method : String) (answer : Answer) : Action Unit := do
  let found ← Action.access dispatch r "__qualname__"
  let qualname ← Action.foundDatum r found
  let number ← newPlaces 1
  let m := { Method.within qualname.plain method (.answer answer) with number }
  let written ← Action.newThing (.member r (.free r m))
  let w ← get
  match w.changeFault? r false method written with
  | some fault => throw fault
  | none =>
    match r, w.isField r method with
    | .descriptor d, true =>
      modify (·.changeDescriptor d fun x => { x with standIns := x.standIns.put method written })
    | r, _ => writeIn r method written

/-- **Deletes a member of a thing** that can lose it. -/
def deleteMember (r : Ref) (member : String) : Action Unit := do
  let w ← get
  match w.changeFault? r true member .none with
  | some fault => throw fault
  | none =>
    match r, w.isField r member with
    | .cls c, _ => set (w.dropMember c member)
    | .descriptor d, true => set (w.changeDescriptor d (·.without member))
    | r, true => dropField r member
    | r, false => dropIn r member

/-- Supplies a registration builder with an application, as far as that goes. -/
def supplyBuilder (r : Ref) (supplied : RegistrationBuilder × Option Fault) : Action Unit := do
  store r (.registrationBuilder supplied.1)
  match supplied.2 with
  | some fault => throw fault
  | none => pure ()

/-- **Calls a thing.** A method that was taken off a registration builder supplies the builder with
    an application. -/
def call (r : Ref) (args : Arguments) : Action Ref := do
  let w ← get
  match w.content? r with
  | some (.member owner (.builtIn name)) =>
    let _ ← Action.callTaken dispatch (.builtIn name) args
    match w.content? owner with
    | some (.registrationBuilder b) =>
      supplyBuilder owner (← b.application dispatch (args.positional.headD .none))
      pure owner
    | _ => pure .none
  | _ => Action.callThing dispatch r args

/-- The answer that shows a thing that should be a descriptor. -/
def configReply (r : Ref) : Action Reply := do
  return .config (← viewConfig r)

end Session

end AppMount
