import AppMount.BuiltInMembers
import AppMount.Offer

/-!
# Members of things

What is found under the name of a member of a thing, and what happens when nothing is, or when a
member cannot be changed.

* `Found`, `World.find?`: what is found under a member;
* `World.standIn?`: what is found where a descriptor has a field; `World.foundCode?`: what is found
  that is a method by itself;
* `World.missingMember`: the fault of asking for a member that is not there;
* `World.changeFault?`: why a member of a thing cannot be assigned or deleted, if it cannot;
* `World.dropMember`: a class without one of its members.
-/

namespace AppMount

/-- **What is found under a member**: a thing, a method written in a class, or something of a kind
    that is no reference. -/
inductive Found where
  | thing (r : Ref)
  | method (definer : Ref) (m : Method)
  | inner (typeName : String)
  deriving DecidableEq, Repr

/-- A datum that is found, and that nobody wrote. -/
def Found.datum (d : Datum) : Found :=
  .thing (.ofDatum 0 d)

namespace World

/-! ## 1. Faults -/

/-- The fault of calling a method of a class that takes no arguments with some, as the methods are
    called that a class may have for questions on its instances. -/
def overfullCall? (w : World) (c : Option ClassId) (method : String) (given : Nat) :
    Option Fault :=
  match c.bind (w.member? · method) with
  | some (_, .method m) =>
    if m.code = .own then none else (callFault? [] given []).map (.call m.callee)
  | some (_, .value d _) => some (.notCallable d.typeWord)
  | _ => none

/-- The word for the kind of what is asked for the members of a thing: a method of an instance that
    was taken off asks the method of its class. -/
def askedTypeName (w : World) (r : Ref) : String :=
  match w.content? r with
  | some (.member _ (.bound ..)) | some (.member _ (.builtIn _)) => "function"
  | _ => w.typeName r

/-- The fault of asking a thing for a member that it does not have, or that has no value yet. A
    class may have a method for such questions, which takes no arguments and so cannot be told the
    member. -/
def missingMember (w : World) (r : Ref) (member : String) : Fault :=
  match r, w.overfullCall? (w.classOf? r) "__getattr__" 1 with
  | .cls c, _ => .noClassMember (w.classDef c).name member
  | _, some fault => fault
  | .descriptor d, none =>
    if (w.descriptor d).standIns.lacks member then .noValue (w.typeName r) member
    else .noMember (w.typeName r) member
  | _, none => .noMember (w.askedTypeName r) member

/-- The fault of changing a member that a thing does not have. -/
def missingToChange (w : World) (r : Ref) (member : String) : Fault :=
  match r with
  | .cls c => .noClassMember (w.classDef c).name member
  | _ => .noMemberToChange (w.typeName r) member

/-! ## 2. What is found -/

/-- The word for the kind of what is found on a thing. -/
def foundTypeName (w : World) (r : Ref) : Found → String
  | .thing r => w.typeName r
  | .method .. => if r.class?.isSome then "function" else "method"
  | .inner typeName => typeName

/-- The code of what is found on a thing, if it is a method by itself, and where that is written. -/
def foundCode? (w : World) : Found → Option (Ref × Method)
  | .thing t =>
    match w.content? t with
    | some (.member _ (.free k m)) => some (k, m)
    | _ => none
  | _ => none

/-- What a member of a class is on the class itself and, unless it is made for each of them, on its
    instances. -/
def foundMember (definer : ClassId) : Member → Found
  | .method m => .method (.cls definer) m
  | .value d place => .thing (.ofDatum place d)
  | .computed => .inner "property"
  | .field => .inner "member_descriptor"

/-- What was written into the namespace of a thing under a name, if it is a thing itself. -/
def writtenIn? (w : World) (r : Ref) (member : String) : Option Found :=
  match w.assigned? r member with
  | some (.thing t) => some (.thing t)
  | some (.metadata _) => some (.inner "AppMetadata")
  | some .own | none => none

/-- **What is found where a descriptor has a field**: nothing but the field's own value, or
    something that stands in its place, or no value at all. A class that has another member of the
    name, or lost the field, hides it, and its instances keep the value in their namespace. -/
def standIn? (w : World) (d : DescriptorId) (field : String) : Option (Option Found) :=
  match w.member? (w.descriptor d).cls field with
  | some (_, .field) => ((w.descriptor d).standIns.at? field).map (·.map .thing)
  | hidden =>
    match w.assigned? (.descriptor d) field with
    | some .own => none
    | _ =>
      some ((w.writtenIn? (.descriptor d) field).or (hidden.map fun e => foundMember e.1 e.2))

/-- The value that a descriptor itself has in a field. -/
def ownField (x : Descriptor) : String → Found
  | "name" => .datum x.name
  | "_application" => .thing (x.application.getD .none)
  | "_application_class" => .thing (x.applicationClass.elim .none .cls)
  | "_frozen" => .datum (.truth x.frozen)
  | "_classes" => .inner "set"
  | "_freeze_lock" => .inner "_thread.lock"
  | _ => .inner "dict"

/-- What is found under a field of a descriptor. -/
def field? (w : World) (d : DescriptorId) (field : String) : Option Found :=
  (w.standIn? d field).getD (some (ownField (w.descriptor d) field))

/-- The field behind a computed member of descriptors. -/
def fieldBehind (member : String) : String :=
  "_" ++ member

/-- **What is found under a member of a descriptor.** -/
def descriptorMember? (w : World) (d : DescriptorId) (member : String) : Option Found :=
  match w.member? (w.descriptor d).cls member with
  | some (_, .field) => w.field? d member
  | some (_, .computed) => w.field? d (fieldBehind member)
  | some (k, x) =>
    match w.assigned? (.descriptor d) member with
    | some .own => some (ownField (w.descriptor d) member)
    | _ => some ((w.writtenIn? (.descriptor d) member).getD (foundMember k x))
  | none =>
    match w.assigned? (.descriptor d) member with
    | some .own => some (ownField (w.descriptor d) member)
    | _ => w.writtenIn? (.descriptor d) member

/-- The methods of builders and servers. -/
def methodsOf : Content → List String
  | .registrationBuilder _ =>
    ["_apply_metadata", "application", "application_class", "build", "config", "context_root",
      "executor", "routing_name"]
  | .serverBuilder _ => ["_resolve_listener", "add_application", "build", "default_executor"]
  | .server .. => ["builder", "mounts_for"]
  | .serverConfig .. => ["listener"]
  | _ => []

/-- **What an object holds under the name of a field.** -/
def contentField? : Content → String → Option Found
  | .listener x, "name" => some (.datum x.name)
  | .listener x, "host" => some (.datum x.host)
  | .listener x, "port" => some (.datum x.port)
  | .serverConfig host _ _, "host" => some (.datum host)
  | .serverConfig _ port _, "port" => some (.datum port)
  | .serverConfig .., "listeners" => some (.inner "tuple")
  | .serverConfig .., "listener_names" => some (.inner "frozenset")
  | .routing r, "value" => some (.datum r.value)
  | .routing r, "required" => some (.datum r.required)
  | .routing r, "is_default" => some (.datum (.truth r.isDefault))
  | .metadata path _, "path" => some (.datum path)
  | .metadata _ routing, "routing" => some (.thing routing)
  | .registration r, "context_root" => some (.datum r.contextRoot)
  | .registration r, "resource_config" => some (.thing r.config)
  | .registration r, "executor" => some (.thing r.executor)
  | .registration r, "app_class_name" => some (.datum r.appClassName)
  | .registration r, "routing_name" => some (.datum r.routingName)
  | .registration r, "routing_name_required" => some (.datum r.routingRequired)
  | .mount m, "listener" => some (.datum m.listener)
  | .mount m, "context_root" => some (.datum m.contextRoot)
  | .mount m, "resource_config" => some (.thing m.config)
  | .mount m, "executor" => some (.thing m.executor)
  | .mount m, "app_class_name" => some (.datum m.appClassName)
  | .server s _, "config" =>
    if s.standIns.lacks "config" then none
    else match s.setting with
      | .config .. => some (.inner "ServerConfig")
      | .other r => some (.thing r)
  | .server s _, "mounts" =>
    match s.standIns.at? "_mounts" with
    | none => some (.inner "tuple")
    | some r => r.map .thing
  | .member _ (.bound _ m), "__qualname__" | .member _ (.free _ m), "__qualname__" =>
    some (.datum (.text m.callee))
  | .member _ (.builtIn name), "__qualname__" =>
    some (.datum (.text (TakenMember.builder ++ "." ++ name)))
  | x, member => if (methodsOf x).contains member then some (.inner "method") else none

/-- The name that things handed out one by one go by, unless they are given another. -/
def streamName? (w : World) (r : Ref) (member : String) : Option Found :=
  match w.content? r with
  | some (.collection (.stream ..)) =>
    if ["__name__", "__qualname__"].contains member then some (.datum (.text "stream")) else none
  | _ => none

/-- What is found under a member of an object. -/
def objectMember? (w : World) (r : Ref) (member : String) : Option Found :=
  match (w.content? r).bind (contentField? · member), w.writtenIn? r member with
  | some found, _ | none, some found => some found
  | none, none =>
    match (w.classOf? r).bind (w.member? · member) with
    | some (k, x) => some (foundMember k x)
    | none => w.streamName? r member

/-- What is found under a member of a class. A guarded class can be told of its kinds. -/
def classMember? (w : World) (c : ClassId) (member : String) : Option Found :=
  match w.member? c member with
  | some (k, x) => some (foundMember k x)
  | none =>
    if member = "register" && (w.classDef c).guarded then some (.inner "method")
    else if member = "__qualname__" then some (.datum (.text (w.classDef c).qualname))
    else if member = "__name__" then some (.datum (.text (w.classDef c).name))
    else none

/-- Where a thing is said to be defined that does not say so itself: where its class is, or where
    the methods of classes are written. -/
def homeFound? (w : World) (r : Ref) (member : String) : Option Found :=
  if member ≠ ClassDef.homeMember then none
  else
    match w.classOf? r, w.content? r with
    | some c, _ => some (.datum (w.classDef c).home)
    | _, some (.member _ (.builtIn _)) => some (.datum (.text "roost.registration"))
    | _, some (.member _ (.bound ..)) | _, some (.member _ (.free ..)) =>
      some (.datum (.text methodHome))
    | _, _ => none
where
  /-- Where the methods of classes are written. -/
  methodHome : String := "__main__"

/-- **What is found under a member of a thing.** -/
def find? (w : World) (r : Ref) (member : String) : Option Found :=
  match r with
  | .cls c => w.classMember? c member
  | .descriptor d => (w.descriptorMember? d member).or (w.homeFound? r member)
  | r => (w.objectMember? r member).or (w.homeFound? r member)

/-- The member whose value is missing when a member of a thing is: what is computed comes from a
    field. -/
def missingName (w : World) (r : Ref) (member : String) : String :=
  match r, (w.classOf? r).bind (w.member? · member), w.content? r with
  | .descriptor _, some (_, .computed), _ => fieldBehind member
  | _, _, some (.server ..) => if member = "mounts" then fieldBehind member else member
  | _, _, _ => member

/-! ## 3. Members that every thing has -/

/-- The members that every object has from its class. -/
def commonMembers : List String :=
  ["__delattr__", "__dir__", "__doc__", "__eq__", "__format__", "__ge__", "__getattribute__",
    "__getstate__", "__gt__", "__hash__", "__init__", "__init_subclass__", "__le__", "__lt__",
    "__ne__", "__new__", "__reduce__", "__reduce_ex__", "__repr__", "__setattr__", "__sizeof__",
    "__str__", "__subclasshook__"]

/-- The further members that an object has from a class that is not primitive. -/
def libraryMembers : List String :=
  ["__module__", "__slots__"]

/-- Whether a thing has a member from its class that cannot be changed on the thing itself. -/
def isClassMember (w : World) (r : Ref) (member : String) : Bool :=
  commonMembers.contains member
    || (w.builtInKind? r).any (builtInMembers · |>.contains member)
    || match w.classOf? r, w.content? r with
      | some c, _ =>
        (w.member? c member).isSome
          || (libraryMembers.contains member && (w.classDef c).origin = .library)
      | none, some x =>
        (methodsOf x).contains member
          || (libraryMembers.contains member && !(methodsOf x).isEmpty)
      | none, none => false

/-! ## 4. Members that are changed -/

/-- The members of an object that can be written. -/
def writableMembers (w : World) (r : Ref) : List String :=
  match w.content? r with
  | some (.registrationBuilder _) => RegistrationBuilder.fields
  | some (.serverBuilder _) => ["_config", "_default_executor", "_registrations"]
  | some (.server ..) => ["_mounts", "config"]
  | _ => []

/-- Whether a member of a thing is a field that its class has a place for. -/
def isField (w : World) (r : Ref) (member : String) : Bool :=
  match (w.classOf? r).bind (w.member? · member) with
  | some (_, .field) => true
  | some _ => false
  | none => (w.writableMembers r).contains member

/-- Whether a member of a thing is computed by its class. -/
def isComputed (w : World) (r : Ref) (member : String) : Bool :=
  match (w.classOf? r).bind (w.member? · member), w.content? r with
  | some (_, .computed), _ => true
  | none, some (.server ..) => member = "mounts"
  | _, _ => false

/-- Whether a field of a thing has no value. -/
def lacksField (w : World) (r : Ref) (field : String) : Bool :=
  match r, w.content? r with
  | .descriptor d, _ => (w.descriptor d).standIns.lacks field
  | _, some (.registrationBuilder b) => b.standIns.lacks field
  | _, some (.serverBuilder b) => b.standIns.lacks field
  | _, some (.server s _) => s.standIns.lacks field
  | _, _ => false

/-- The part that a thing of a built-in kind has under a name, unless its class holds something else
    there. -/
def part? (w : World) (r : Ref) (member : String) : Option Part :=
  if ((w.classOf? r).bind (w.member? · member)).isSome then none
  else (w.builtInKind? r).bind fun kind => (partsOf kind).lookup member

/-- The fault of changing a member of a thing without a namespace. -/
def fixedFault (w : World) (r : Ref) (member : String) : Fault :=
  if w.isClassMember r member then .classMember (w.typeName r) member
  else w.missingToChange r member

/-- The fault of changing the class of a thing: it can be assigned a class only. -/
def classFault (deleting : Bool) (typeName : String) : Fault :=
  if deleting then .classDeleted else .classAssigned typeName

/-- The class that lets its instances be referred to without being kept: the first that is written
    in a lineage. Whole numbers have no room for that. -/
def weakDefiner? (w : World) (c : ClassId) : Option ClassId :=
  if w.primitive? c = some ClassId.whole then none
  else ((w.lineage c).filter fun k => (w.classDef k).origin = .written).getLast?

/-- Whether a class still has one of the members that it has for itself and can lose. -/
def hasLoose (w : World) (c : ClassId) (member : String) : Bool :=
  ClassDef.looseMembers.contains member && !(w.classDef c).shed.contains member
    && (member ≠ "__weakref__" || w.weakDefiner? c = some c)

/-- Where a class is said to be defined that does not say so itself: where its nearest ancestor is,
    or where guarded classes come from. -/
def homeAbove (w : World) (c : ClassId) : Datum :=
  let telling := (w.classDef c).ancestors.find? fun k =>
    (w.classDef k).origin ≠ .primitive && !(w.classDef k).shed.contains ClassDef.homeMember
  telling.elim (.text "abc") fun k => (w.classDef k).home

/-- **Takes a member from a class.** -/
def dropMember (w : World) (c : ClassId) (member : String) : World :=
  w.changeClass c fun x =>
    let x := x.drop member
    if member = ClassDef.homeMember then { x with home := w.homeAbove c } else x

/-- Why a member of a class cannot be assigned a value of a kind, or deleted, if it cannot. The
    members that say what the class is are kept by the class itself. -/
def classChangeFault? (w : World) (c : ClassId) (deleting : Bool) (member : String)
    (value : Option Datum) (typeName : String) : Option Fault :=
  let x := w.classDef c
  if x.origin = .primitive then some (.sealedClass x.name member)
  else if ["__name__", "__qualname__"].contains member then
    if deleting then some (.classMemberDeleted x.name member)
    else match value with
      | some (.text s) =>
        if member = "__name__" && s.toList.contains (Char.ofNat 0) then some .nullInName else none
      | _ => some (.classNameAssigned x.name member typeName)
  else if deleting && !x.guarded && ["__doc__", ClassDef.homeMember].contains member then
    some (.classMemberDeleted x.name member)
  else if member = "__bases__" then
    some (if deleting then .classMemberDeleted x.name member
      else .ancestorsAssigned x.name typeName)
  else if ["__dict__", "__text_signature__"].contains member then
    some (.unwritableMember member "type")
  else if ["__mro__", "__base__", "__basicsize__", "__itemsize__", "__flags__",
      "__weakrefoffset__", "__dictoffset__"].contains member then some .readOnlyMember
  else if member = "__class__" then some (classFault deleting typeName)
  else if deleting && !x.has member && !w.hasLoose c member then
    some (if [ClassDef.openMember, "__annotations__"].contains member then .noValueToDelete member
      else w.missingToChange (.cls c) member)
  else none

/-- Whether a thing takes any member that its class does not compute. -/
def takesMembers (w : World) (r : Ref) : Bool :=
  w.hasNamespace r && match w.content? r with
    | some (.member _ x) => x.typeWord ≠ "method"
    | _ => true

/-- The name of the class that keeps a thing from having references to it written, if there is one
    and it has not lost or replaced them. -/
def weakDefinerName? (w : World) (r : Ref) : Option String :=
  match w.classOf? r with
  | some c =>
    let definer? := if (w.member? c "__weakref__").isSome then none else w.weakDefiner? c
    (definer?.filter (w.hasLoose · "__weakref__")).map fun k => (w.classDef k).name
  | none => if (w.builtInKind? r).isSome then none else some (w.typeName r)

/-- Whether a thing has a member in its namespace. A method has there what it says about being left
    open. -/
def holds (w : World) (r : Ref) (member : String) : Bool :=
  (w.assigned? r member).isSome || match w.content? r with
    | some (.member _ (.free _ m)) => member = Method.markMember && m.mark.isSome
    | _ => false

/-- **Why a member of a thing with a namespace cannot be changed**, if it cannot. -/
def namespaceFault? (w : World) (r : Ref) (deleting : Bool) (member : String) (value : Ref) :
    Option Fault :=
  if member = "__dict__" then
    match deleting, value with
    | true, _ => if (w.builtInKind? r) = some "function" then some .namespaceDeleted else none
    | false, .datum (.mapping _) _ => none
    | false, value => some (.namespaceAssigned (w.typeName value))
  else
    match (if member = "__weakref__" then w.weakDefinerName? r else none) with
    | some definer => some (.unwritableMember member definer)
    | none =>
      if deleting && !w.holds r member then some (w.missingToChange r member) else none

/-- **Why a member of a thing cannot be assigned a value, or deleted, if it cannot.** A record
    refuses every change. Things with a namespace of their own take any member that their class
    does not compute, and lose only what was written there. -/
def changeFault? (w : World) (r : Ref) (deleting : Bool) (member : String) (value : Ref) :
    Option Fault :=
  let typeName := w.typeName value
  let changed :=
    if deleting then w.overfullCall? (w.classOf? r) "__delattr__" 1
    else w.overfullCall? (w.classOf? r) "__setattr__" 2
  changed.or <| match r, (w.content? r).bind Content.fields? with
  | _, some fields =>
    if fields.contains member then some (.frozenField deleting member) else some .recordMember
  | .cls c, none => w.classChangeFault? c deleting member value.datum? typeName
  | r, none =>
    if w.isComputed r member then some (.computedMember deleting (w.typeQualname r) member)
    else if w.isField r member then
      if deleting && w.lacksField r member then some (.noValueToDelete member) else none
    else if member = "__class__" then some (classFault deleting typeName)
    else match w.part? r member with
      | some part => part.fault? deleting member value.datum?
      | none =>
        if w.takesMembers r then w.namespaceFault? r deleting member value
        else some (w.fixedFault r member)

end World

end AppMount
