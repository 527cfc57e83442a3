import AppMount.Declaration
import AppMount.Session.Reply

/-!
# Definitions

The steps that define classes and make objects and metadata records.

* `ClassSketch`: the definition of a class as it is written;
* `DefinitionStep`: the steps; `Session.performDefinition`: what they do;
* `Session.defineClass`: a class from its sketch; it has its name before it is decorated;
* `Session.openMethodsOf`: the methods a class leaves open.
-/

namespace AppMount

/-! ## 1. What is written -/

/-- **The definition of a class** as it is written. -/
structure ClassSketch where
  name : String
  qualname : String
  home : String
  base : Mention
  decorations : List Decoration
  foreign : Option Datum
  initializer : Option ConstructorCode
  allocator : Option (List Parameter)
  hooks : List (Hook × Answer)
  openMethods : List String
  deriving Repr

/-- **The steps that define things.** A step that makes something binds it to the name `result`. -/
inductive DefinitionStep where
  | defineClass (result : String) (sketch : ClassSketch)
  | object (result : String) (kind : Stock)
  | executor (result : String) (falsy : Bool)
  | instantiate (result : String) (cls : Mention)
  | decorate (cls : Mention) (decorations : List Decoration)
  | writeMethod (cls : Mention) (method : String) (answer : Answer)
  | metadataOf (target : Mention)
  | metadata (result : String) (path : Datum) (routing : Mention)
  | routing (result : String) (value required : Datum)
  deriving Repr

namespace Session

/-! ## 2. Classes -/

/-- The methods without code in a sketch: written constructor methods count more than their being
    declared. -/
def markersOf (sketch : ClassSketch) : List String :=
  sketch.openMethods.filter fun method =>
    !(method = "__init__" && sketch.initializer.isSome)
      && !(method = "__new__" && sketch.allocator.isSome)

/-- What a class has in the place of the method that makes keys if it declares, of this method and
    the one that compares, only the latter: nothing. -/
def keylessIn (markers : List String) : List (String × Member) :=
  if markers.contains "__eq__" && !markers.contains "__hash__" then [("__hash__", .value .null 0)]
  else []

/-- A written answer with places for its data. -/
def placed (answer : Answer) : Action Answer := do
  return answer.writtenAt (← newPlaces answer.span)

/-- A sketch with places for the data in its hooks. -/
def placedSketch (sketch : ClassSketch) : Action ClassSketch := do
  let hooks ← sketch.hooks.mapM fun h => do return (h.1, ← placed h.2)
  return { sketch with hooks := hooks }

/-- The methods written in a sketch, under their names. -/
def codesOf (sketch : ClassSketch) : List (String × MethodCode) :=
  sketch.hooks.map (fun h => (h.1.word, .answer h.2))
    ++ (sketch.initializer.map fun code => (ClassDef.initializerMember, .setUp code.normal)).toList
    ++ (sketch.allocator.map fun params =>
        (ClassDef.allocatorMember, .make (params.map Parameter.normal))).toList

/-- The members of a class written in a sketch, whose methods get one number. What is declared
    without code counts more than a hook that is written. -/
def membersOf (sketch : ClassSketch) (number : Nat) : List (String × Member) :=
  let markers := markersOf sketch
  let written := (codesOf sketch).filter fun e => !markers.contains e.1
  let methodOf (name : String) (code : MethodCode) : Method :=
    { Method.within sketch.qualname name code with number }
  written.map (fun e => (e.1, .method (methodOf e.1 e.2)))
    ++ markers.map (fun name => (name, .method { methodOf name .blank with mark := some true }))
    ++ keylessIn markers

/-- The class written in a sketch, under its ancestors. -/
def classOfSketch (ancestors : List ClassId) (sketch : ClassSketch) (number : Nat) : ClassDef :=
  let members := membersOf sketch number
  { name := sketch.name
    qualname := sketch.qualname
    home := .text sketch.home
    ancestors := ancestors
    metadata := match sketch.foreign with | some d => .foreign d | none => .absent
    members := members
    allocates := members.any (·.1 = ClassDef.allocatorMember) }

/-- Data as names of members, of which a text is one and nothing else. -/
def memberNames : List Datum → Except Fault (List String)
  | [] => .ok []
  | .text s :: rest => do return s :: (← memberNames rest)
  | d :: _ => .error (.notMemberName d.typeWord)

/-- The names of the methods that a class holds as left open. -/
def openNamesOf (x : ClassDef) : Except Fault (List String) :=
  match x.openNames with
  | none => .ok []
  | some (.names methods) => .ok methods
  | some .method => .error (.notIterable "function")
  | some (.datum d) =>
    match d.elements? with
    | some data => memberNames data
    | none => .error (.notIterable d.typeWord)

/-- **The methods a class leaves open**: those it declares without code, and those its base left
    open that still are. -/
def openMethodsOf (w : World) (base : ClassId) (x : ClassDef) : Except Fault (List String) := do
  let markers := (x.members.filter (·.2.isOpen)).map (·.1)
  let inherited := (← openNamesOf (w.classDef base)).filter fun method =>
    (x.marks? method).getD (w.leavesOpen (w.lineage base) method)
  return (markers ++ inherited).eraseDups.mergeSort fun a b => decide (a ≤ b)

/-- The class that another one is derived from. Something that is no class may have base classes to
    offer in its place, which nobody asks for. -/
def baseClass (r : Ref) : Action ClassId := do
  match r with
  | .cls c => pure c
  | r =>
    if (← Action.member? dispatch r "__mro_entries__").isSome then throw .baseEntry
    else if (← get).classOf? r = some ClassId.object then throw .notTypes
    else throw .notBaseClass

/-- Refuses a sketch in which a method without code stands in the place of something that the
    definition of a class needs, and a name that cannot be one. -/
def checkSketch (sketch : ClassSketch) : Action Unit := do
  let has := sketch.openMethods.contains
  if has "__slots__" then throw (.notIterable "function")
  if sketch.name.toList.contains '\x00' then throw .nullInName
  if has "__qualname__" then throw .qualnameNotText
  if has "__classcell__" then throw .notCell

/-- Tells the base of a new class of it. A class may have a method for that, which has nothing to be
    called on. -/
def announce (base : ClassId) : Action Unit := do
  match (← get).member? base "__init_subclass__" with
  | some (_, .value d _) => throw (.notCallable d.typeWord)
  | some (_, .method m) =>
    if m.code != .blank then throw (.call m.callee (.missing false ["self"]))
  | _ => pure ()

/-- The names that a new class holds as those of the methods it leaves open. Only a guarded class
    is looked through for them. -/
def openNames (w : World) (base : ClassId) (guarded : Bool) (x : ClassDef) :
    Except Fault (Option OpenNames) := do
  if guarded then return some (.names (← openMethodsOf w base x)) else return none

/-- **Defines a class.** -/
def defineClass (result : String) (sketch : ClassSketch) : Action Reply := do
  let base ← baseClass (← lookUp sketch.base)
  checkSketch sketch
  announce base
  let sketch ← placedSketch sketch
  let number ← newPlaces 1
  let w ← get
  let x := classOfSketch (w.lineage base) sketch number
  let guarded := !sketch.openMethods.isEmpty || (w.classDef base).guarded
  let names ← Action.ofExcept (openNames w base guarded x)
  let (c, w) := w.newClass { x with guarded := guarded, openNames := names }
  set w
  name result (.cls c)
  Action.decorateAll c sketch.decorations
  return .metadata (← viewed (·.metadataOf c))

/-! ## 3. The steps -/

/-- Writes a method of a class, or for a single thing that has a qualified name to go by. -/
def writeMethod (r : Ref) (method : String) (answer : Answer) : Action Unit := do
  match r with
  | .cls c => Action.writeMethod c method answer (← newPlaces 1)
  | r => writeOwnMethod r method answer

/-- The routing name that an object is, if it is one; nothing is none. -/
def routingOf (r : Ref) : Action (Option RoutingName) := do
  let w ← get
  match r, w.content? r with
  | .none, _ => pure none
  | _, some (.routing x) => pure (some x)
  | r, _ => throw (w.missingMember r "value")

/-- **What a defining step does.** -/
def performDefinition : DefinitionStep → Action Reply
  | .defineClass result sketch => defineClass result sketch
  | .object result kind => do
    let _ ← keepAs result (.stock kind)
    return .done
  | .executor result falsy => do
    let _ ← keepAs result (.executor result falsy)
    return .done
  | .instantiate result cls => do
    let r ← call (← lookUp cls) {}
    name result r
    configReply r
  | .decorate cls decorations => do
    let r ← lookUp cls
    Action.mark dispatch r decorations
    return .metadata (← Action.readMetadata dispatch r)
  | .writeMethod cls method answer => do
    writeMethod (← lookUp cls) method (← placed answer)
    return .done
  | .metadataOf target => do
    return .metadata (← Action.readMetadata dispatch (← lookUp target))
  | .metadata result path routing => do
    let r ← lookUp routing
    let _ ← keepAs result (.metadata path r)
    return .metadata ⟨path, ← routingOf r⟩
  | .routing result value required => do
    let _ ← keepAs result (.routing ⟨value, required⟩)
    return .routing ⟨value, required⟩

end Session

end AppMount
