import AppMount.Fault
import AppMount.Keyed
import AppMount.Metadata
import AppMount.Ref

/-!
# Application classes

What is written in the definition of a class: its names, its ancestors, its members and the
methods it leaves open. The code in a class refers to other things by name, and a name is looked up
when the code runs.

* `Mention`: a name, or nothing;
* `SetupStep`, `Deed`: what code does with descriptors and classes;
* `Hook`: the three questions an application answers; `Answer`: what a method hands back, with its
  data in the place where `Answer.writtenAt` puts them;
* `ConstructorCode`: what a written constructor does;
* `MethodCode`, `Method`, `Member`: what a class holds under a name;
* `ClassDef`: a class; `ClassDef.root` … `ClassDef.mapping`: the classes every store starts with;
* `ClassDef.member?`, `ClassDef.put`, `ClassDef.writeMethod`, `ClassDef.writeValue`,
  `ClassDef.drop`: its members and how they change.
-/

namespace AppMount

/-- **A mention of a thing in code**: a name, or nothing. -/
abbrev Mention := Option String

/-! ## 1. Steps -/

/-- **A step of setting up a descriptor.** -/
inductive SetupStep where
  | register (component : Mention)
  | provide (service factory : Mention)
  | setProperty (name value : Datum)
  | freeze
  deriving DecidableEq, Repr

/-- The name of a setup step. -/
def SetupStep.word : SetupStep → String
  | .register _ => "register"
  | .provide .. => "provide"
  | .setProperty .. => "set_property"
  | .freeze => "freeze"

/-- **What the code of an application may do besides answering**: it takes a step of setting up some
    descriptor, or puts a declaration on a class. -/
inductive Deed where
  | use (descriptor : Mention) (step : SetupStep)
  | decorate (cls : Mention) (x : Decoration)
  deriving DecidableEq, Repr

/-! ## 2. Hooks -/

/-- The three questions an application answers. -/
inductive Hook where
  | classes
  | singletons
  | properties
  deriving DecidableEq, Repr

/-- The name of a hook. -/
def Hook.word : Hook → String
  | .classes => "classes"
  | .singletons => "singletons"
  | .properties => "properties"

/-- All hooks. -/
def Hook.all : List Hook :=
  [.classes, .singletons, .properties]

/-- **What a hook hands back.** -/
inductive Answer where
  /-- A list of things. -/
  | list (items : List Mention)
  /-- A set of things, which fails while it is built if one of them cannot be an element. -/
  | set (items : List Mention)
  /-- Things handed out one by one, and perhaps a failure after the last. -/
  | stream (items : List Mention) (failure : Option Raised)
  /-- A list of new instances, made on each call. -/
  | fresh (classes : List Mention)
  /-- A mapping with data written in a place, which fails while it is built if something cannot be a
      key. -/
  | mapping (entries : List (Datum × Datum)) (place : Nat)
  /-- Plain data, written in a place. -/
  | datum (value : Datum) (place : Nat)
  /-- A failure. -/
  | fail (error : Raised)
  /-- An answer with something to do first. -/
  | after (deed : Deed) (answer : Answer)
  deriving DecidableEq, Repr

/-- How many places the data in an answer take. -/
def Answer.span : Answer → Nat
  | .mapping entries _ => (Datum.Fields.ofList entries).span + 1
  | .datum value _ => value.span
  | .after _ answer => answer.span
  | _ => 0

/-- An answer with its data written in a place. -/
def Answer.writtenAt (place : Nat) : Answer → Answer
  | .mapping entries _ => .mapping entries place
  | .datum value _ => .datum value place
  | .after deed answer => .after deed (answer.writtenAt place)
  | answer => answer

/-! ## 3. Constructors -/

/-- **A written constructor.** In a class of descriptors it first hands `components`, and a name
    if there is one, to the constructor above it; then it runs its setup steps; then it may
    fail. -/
structure ConstructorCode where
  params : List Parameter := []
  components : List Mention := []
  name : Option Datum := none
  body : List SetupStep := []
  failure : Option Raised := none
  deriving DecidableEq, Repr

/-- A constructor with its parameters under the normal forms of their names. -/
def ConstructorCode.normal (code : ConstructorCode) : ConstructorCode :=
  { code with params := code.params.map Parameter.normal }

/-! ## 4. Members -/

/-- **The code of a method**: none at all, so that calling it does nothing; nothing to offer; the
    library's own; that of a primitive class, which nobody can inspect; a written answer; a written
    constructor; or a written method that makes a bare instance and does nothing else. -/
inductive MethodCode where
  | blank
  | empty
  | own
  | hidden
  | answer (a : Answer)
  | setUp (code : ConstructorCode)
  | make (params : List Parameter)
  deriving DecidableEq, Repr

/-- **A method**: the name it was written under, the name by which messages call it, its code, and
    what it says about being left open, if it says anything. Written methods have numbers, which
    tell those apart that were written at different times. -/
structure Method where
  name : String
  callee : String
  code : MethodCode
  mark : Option Bool := none
  number : Nat := 0
  deriving DecidableEq, Repr

/-- A method of a class with a qualified name. -/
def Method.within (qualname name : String) (code : MethodCode) : Method :=
  { name := name, callee := qualname ++ "." ++ name, code := code }

/-- The member by which a method says of itself that it is left open. -/
def Method.markMember : String := "__isabstractmethod__"

/-- Whether two methods are one and the same, whatever has become of it. -/
def Method.is (m m' : Method) : Bool :=
  m.number = m'.number && m.name = m'.name

/-- The parameters of a method as callers are shown them, without the receiver; `none` when it
    cannot be inspected. All those of a method of the library may be left out, so that they do not
    count. -/
def Method.parameters? (m : Method) : Option (List Parameter) :=
  match m.code with
  | .blank | .empty | .own | .answer _ => some []
  | .hidden => none
  | .setUp code => some code.params
  | .make params => some params

/-- **What a class holds under a name**: a method, something that is computed for each instance, a
    field of its instances, or a value that was written in a place. -/
inductive Member where
  | method (m : Method)
  | computed
  | field
  | value (d : Datum) (place : Nat)
  deriving DecidableEq, Repr

/-- The word for the kind of a member in messages. -/
def Member.typeWord : Member → String
  | .method _ => "function"
  | .computed => "property"
  | .field => "member_descriptor"
  | .value d _ => d.typeWord

/-- Whether a member is a method that says of itself that it is left open, as one that is declared
    without code does. -/
def Member.isOpen : Member → Bool
  | .method m => m.mark = some true
  | _ => false

/-- Whether a member is the library's own: one of its methods, or something it computes. -/
def Member.isOwn : Member → Bool
  | .method m => m.code = .own || m.code = .hidden
  | .computed | .field => true
  | .value .. => false

/-! ## 5. Classes -/

/-- Where a class comes from. Only written classes give their instances a namespace, and the
    primitive ones cannot be changed. -/
inductive Origin where
  | primitive
  | library
  | written
  deriving DecidableEq, Repr

/-- **The methods a class leaves open**, as the class holds them: their names, as they were found
    when the class was defined, or whatever was written in their place since. -/
inductive OpenNames where
  | names (methods : List String)
  | datum (d : Datum)
  | method
  deriving DecidableEq, Repr

/-- **A class.** `home` is where it is defined, `ancestors` are the classes it derives from, nearest
    first. A class in whose lineage a method was declared without code is `guarded`. A class that
    once had a method of its own for making bare instances is an `allocates` one for good. `shed`
    are those of the members that every class has for itself that were taken from it. -/
structure ClassDef where
  name : String
  qualname : String
  home : Datum
  ancestors : List ClassId := []
  origin : Origin := .written
  metadata : MetadataSlot := .absent
  members : List (String × Member) := []
  allocates : Bool := false
  guarded : Bool := false
  openNames : Option OpenNames := none
  shed : List String := []
  deriving DecidableEq, Repr

namespace ClassDef

/-- The member that says where a class is defined. -/
def homeMember : String := "__module__"

/-- The name of a class with the place it is defined in. -/
def fullName (c : ClassDef) : String :=
  c.home.plain ++ "." ++ c.qualname

/-- The description of a class. One whose place has no name, or that does not say where it is
    defined, goes by its own name alone. -/
def describe (c : ClassDef) : String :=
  "<class '" ++ (match c.home, c.shed.contains homeMember with
    | .text home, false => if home = "builtins" then c.name else home ++ "." ++ c.qualname
    | _, _ => c.name) ++ "'>"

/-! ### Members -/

/-- What a class itself holds under a name. -/
def member? (c : ClassDef) (member : String) : Option Member :=
  Keyed.get? id member c.members

/-- The members that every class has for itself, so that none of them is inherited. -/
def ownMembers : List String :=
  ["__doc__", "__module__", "__name__", "__qualname__", "__class__", "__dict__", "__bases__",
    "__base__", "__mro__", "__basicsize__", "__itemsize__", "__flags__", "__weakrefoffset__",
    "__dictoffset__", "__text_signature__", "__annotations__", "__abstractmethods__", "_abc_impl"]

/-- The member that holds the metadata of a class. -/
def metadataMember : String := "__roost_metadata__"

/-- The member that holds the names of the methods a class leaves open. -/
def openMember : String := "__abstractmethods__"

/-- The method that makes the bare instances of a class. -/
def allocatorMember : String := "__new__"

/-- The method that initializes the instances of a class. -/
def initializerMember : String := "__init__"

/-- **What a class itself says about a method**: that it is left open, or not, or nothing. -/
def marks? (c : ClassDef) (method : String) : Option Bool :=
  match c.member? method with
  | some member => some member.isOpen
  | none =>
    if ownMembers.contains method || (method = metadataMember && c.metadata != .absent) then
      some false
    else none

/-- **Writes a member of a class.** -/
def put (c : ClassDef) (member : String) (x : Member) : ClassDef :=
  { c with
    members := Keyed.put id member x c.members
    allocates := c.allocates || member = allocatorMember }

/-- **Gives a method of a class its code.** The places of the metadata, of the names of the methods
    left open and of where the class is defined are members like all others, and a method means
    nothing there. -/
def writeMethod (c : ClassDef) (method : String) (answer : Answer) (number : Nat) : ClassDef :=
  let c := { c with shed := c.shed.erase method }
  if method = metadataMember then { c with metadata := .foreign .null }
  else if method = openMember then { c with openNames := some .method }
  else if method = homeMember then { c with home := .null }
  else c.put method (.method { Method.within c.qualname method (.answer answer) with number })

/-- **Puts a value in the place of a member of a class.** -/
def writeValue (c : ClassDef) (member : String) (value : Datum) (place : Nat) : ClassDef :=
  let c := { c with shed := c.shed.erase member }
  match member, value with
  | "__name__", .text s => { c with name := s }
  | "__qualname__", .text s => { c with qualname := s }
  | "__module__", home => { c with home := home }
  | member, value =>
    if member = metadataMember then { c with metadata := .foreign value }
    else if member = openMember then { c with openNames := some (.datum value) }
    else c.put member (.value value place)

/-- The members that every class has for itself and that can be taken from it. -/
def looseMembers : List String :=
  ["__doc__", homeMember, "__weakref__"]

/-- A class without one of its members. -/
def drop (c : ClassDef) (member : String) : ClassDef :=
  if member = metadataMember then { c with metadata := .absent }
  else if member = openMember then { c with openNames := none }
  else
    { c with
      members := c.members.filter (·.1 ≠ member)
      shed := if looseMembers.contains member then c.shed.insert member else c.shed }

/-- Whether a class itself has a member that can be taken from it. -/
def has (c : ClassDef) (member : String) : Bool :=
  if member = metadataMember then c.metadata != .absent
  else if member = openMember then c.openNames.isSome
  else (c.member? member).isSome

/-! ### The classes every store starts with -/

/-- A primitive class. All but the root have a way of their own to initialize their instances. -/
def primitive (name : String) (ancestors : List ClassId) : ClassDef :=
  { name := name, qualname := name, home := .text "builtins", ancestors := ancestors,
    origin := .primitive
    members :=
      if ancestors.isEmpty then []
      else [(initializerMember, .method (.within name initializerMember .hidden))] }

/-- The root of all classes. -/
def root : ClassDef :=
  primitive "object" []

/-- Methods of one code, written in one class. -/
def methodsOf (name : String) (code : MethodCode) (methods : List String) :
    List (String × Member) :=
  methods.map fun method => (method, .method (.within name method code))

/-- The names of the hooks. -/
def hookMembers : List String :=
  Hook.all.map Hook.word

/-- **The base class of applications**, which offers nothing. -/
def application : ClassDef :=
  { name := "Application", qualname := "Application", home := .text "roost.application",
    ancestors := [ClassId.object], origin := .library,
    members := methodsOf "Application" .empty hookMembers }

/-- The methods of descriptors, besides those of applications. -/
def descriptorMethods : List String :=
  ["_absorb", "_check_not_frozen", "_instantiate", "check_constructible", "for_application",
    "for_application_class", "freeze", "provide", "register", "set_property"]

/-- The computed members of descriptors. -/
def descriptorMembers : List String :=
  ["application", "application_class", "frozen", "providers"]

/-- The fields of descriptors, in the order in which they are initialized. -/
def descriptorFields : List String :=
  ["name", "_classes", "_singletons", "_properties", "_providers", "_application",
    "_application_class", "_frozen", "_freeze_lock"]

/-- **The class of descriptors**, which offer what they hold. -/
def descriptor : ClassDef :=
  { name := "ResourceConfig", qualname := "ResourceConfig", home := .text "roost.resources",
    ancestors := [ClassId.application, ClassId.object], origin := .library,
    members := methodsOf "ResourceConfig" .own
        ([initializerMember, "__repr__"] ++ hookMembers ++ descriptorMethods)
      ++ descriptorMembers.map (·, .computed) ++ descriptorFields.map (·, .field) }

/-- The class of whole numbers. -/
def whole : ClassDef :=
  primitive "int" [ClassId.object]

/-- The class of texts. -/
def text : ClassDef :=
  primitive "str" [ClassId.object]

/-- The class of mappings. -/
def mapping : ClassDef :=
  primitive "dict" [ClassId.object]

instance : Inhabited ClassDef := ⟨root⟩

end ClassDef

end AppMount
