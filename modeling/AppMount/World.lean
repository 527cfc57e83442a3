import AppMount.Descriptor
import AppMount.Scope
import AppMount.Thing

/-!
# The store

Everything that has an identity: classes, descriptors and other objects; the names bound to them;
and the two records that running leaves behind, of the calls into application code and of the
server's log.

* `Call`, `LogEntry`: the records of a run;
* `World`: the store; `World.initial`: the one with the built-in classes only;
* `ConstructorRule`: which constructor method shows the parameters of a class;
* `Action`: a computation on the store that may end in a fault, keeping what was done before;
  `World.Adds`, `Action.discarding`: one that drops what it made when it fails and has done
  nothing else;
* objects: `World.content?`, `World.newThing`; what they are: `World.classOf?`, `World.typeName`,
  `World.value?`, `World.isTrue`;
* equality and use as a key: `World.like`, `World.keyFault?`;
* `Kept`, `World.hasNamespace`, `World.assigned?`: namespaces of things;
* members of classes: `World.member?`; the parameters a class shows: `World.parametersOf`;
* descriptors: `World.descriptor`, `World.changeDescriptor`, `World.newDescriptor` and what one
  says after another.
-/

namespace AppMount

/-! ## 1. What is stored -/

/-- **A call into application code**: the class in which the code is written, or the thing in whose
    namespace it is, and the method. -/
structure Call where
  definer : Ref
  method : String
  deriving DecidableEq, Repr

/-- **An entry of the server's log.** -/
inductive LogEntry where
  | fellBack (label : String) (name : Datum)
  | mounted (label : String) (contextRoot listener : Datum)
  deriving DecidableEq, Repr

/-- The level of a log entry. -/
def LogEntry.level : LogEntry → String
  | .fellBack .. => "WARNING"
  | .mounted .. => "DEBUG"

/-- The text of a log entry. -/
def LogEntry.message : LogEntry → String
  | .fellBack label name =>
    "Application " ++ label ++ " wants listener " ++ name.describe
      ++ ", which is not configured; mounting it on the default listener"
  | .mounted label contextRoot listener =>
    "Mounted " ++ label ++ " at " ++ contextRoot.plain ++ " on listener " ++ listener.plain

/-- **What is kept in the namespace of a thing**: another thing, metadata, or the value that the
    thing has for one of its own fields, when its class hides the place where that value belongs. -/
inductive Kept where
  | thing (r : Ref)
  | metadata (m : AppMetadata)
  | own
  deriving DecidableEq, Repr

/-- **Which constructor method shows the parameters of a class.** There are two rules: either the
    class's own methods come first, that for bare instances before the initializer, and then those
    that it inherits; or the nearest class in its lineage decides that has one which shows any. -/
inductive ConstructorRule where
  | ownFirst
  | nearest
  deriving DecidableEq, Repr

/-- **The store.** `rule` is the rule under which classes show their parameters. `assigned` are the
    members that were written into the namespaces of things that are no classes, `kinds` the classes
    that were declared kinds of a class without deriving from it, and `places` is the next place in
    which a datum may be written. -/
structure World where
  rule : ConstructorRule := .nearest
  classes : Array ClassDef
  descriptors : Array Descriptor := #[]
  things : Array Thing := #[]
  scope : Scope := {}
  assigned : List ((Ref × String) × Kept) := []
  kinds : List (ClassId × ClassId) := []
  places : Nat := 1
  calls : List Call := []
  log : List LogEntry := []
  deriving DecidableEq, Repr

namespace World

/-- The store with other records of calls and of the log. -/
def noting (w : World) (calls : List Call) (log : List LogEntry) : World :=
  { w with calls := calls, log := log }

/-- **A store with nothing but additions**: there are new descriptors, new objects and notes, and
    all else is as it was. -/
def Adds (w w' : World) : Prop :=
  w' = { w with descriptors := w'.descriptors, things := w'.things, calls := w'.calls,
                log := w'.log } ∧
    w.descriptors.toList <+: w'.descriptors.toList ∧ w.things.toList <+: w'.things.toList

instance (w w' : World) : Decidable (w.Adds w') :=
  inferInstanceAs (Decidable (_ ∧ _))

end World

/-- **A computation on the store.** A fault ends it and undoes nothing. -/
abbrev Action := EStateM Fault World

namespace Action

variable {α : Type}

/-- A pure result as a computation. -/
def ofExcept : Except Fault α → Action α
  | .ok a => pure a
  | .error fault => throw fault

/-- Runs a computation and tells how it ended, going on either way. -/
def attempt (x : Action α) : Action (Except Fault α) := fun w =>
  match EStateM.run x w with
  | .ok a w' => .ok (.ok a) w'
  | .error fault w' => .ok (.error fault) w'

/-- **Runs a computation that makes new things.** If it fails and has done nothing but that, nothing
    refers to what it made, which is dropped; that application code was called, and what was logged,
    is kept. Whatever else it has done is not undone. -/
def discarding (x : Action α) : Action α := fun w =>
  match EStateM.run x w with
  | .ok a w' => .ok a w'
  | .error fault w' => .error fault (if w.Adds w' then w.noting w'.calls w'.log else w')

theorem run_attempt (x : Action α) (w : World) :
    (attempt x).run w = match EStateM.run x w with
      | .ok a w' => .ok (.ok a) w'
      | .error fault w' => .ok (.error fault) w' := rfl

theorem run_discarding (x : Action α) (w : World) :
    (discarding x).run w = match EStateM.run x w with
      | .ok a w' => .ok a w'
      | .error fault w' => .error fault (if w.Adds w' then w.noting w'.calls w'.log else w') := rfl

@[simp] theorem ofExcept_error (fault : Fault) :
    ofExcept (.error fault) = (throw fault : Action α) := rfl

end Action

namespace World

/-- The store with the built-in classes and nothing else. -/
def initial : World :=
  { classes := #[ClassDef.root, ClassDef.application, ClassDef.descriptor, ClassDef.whole,
      ClassDef.text, ClassDef.mapping] }

/-! ## 2. Classes -/

/-- What a class is. -/
def classDef (w : World) (c : ClassId) : ClassDef :=
  w.classes[c.index]?.getD default

/-- A class and its ancestors, nearest first. -/
def lineage (w : World) (c : ClassId) : List ClassId :=
  c :: (w.classDef c).ancestors

/-- Whether instances of a class are descriptors. -/
def isDescriptorClass (w : World) (c : ClassId) : Bool :=
  (w.lineage c).contains ClassId.descriptor

/-- Adds a class. -/
def newClass (w : World) (c : ClassDef) : ClassId × World :=
  (⟨w.classes.size⟩, { w with classes := w.classes.push c })

/-- Changes a class. -/
def changeClass (w : World) (c : ClassId) (f : ClassDef → ClassDef) : World :=
  { w with classes := w.classes.modify c.index f }

/-- The nearest class in a lineage that has something, and what it has. -/
def nearest {α : Type} (w : World) (c : ClassId) (f : ClassDef → Option α) : Option (ClassId × α) :=
  (w.lineage c).findSome? fun k => (f (w.classDef k)).map (k, ·)

/-- **What a class holds under a name**, itself or by descent, and the class that holds it. -/
def member? (w : World) (c : ClassId) (member : String) : Option (ClassId × Member) :=
  w.nearest c (·.member? member)

/-- Whether a method has no code as things are now: the nearest class that says anything about it
    decides. -/
def leavesOpen (w : World) (lineage : List ClassId) (method : String) : Bool :=
  (lineage.findSome? fun k => (w.classDef k).marks? method).getD false

/-- The primitive class that a class is, or derives from. -/
def primitive? (w : World) (c : ClassId) : Option ClassId :=
  (w.lineage c).find? [ClassId.whole, ClassId.text, ClassId.mapping].contains

/-! ### Parameters -/

/-- **What a class shows of how it is called**: parameters, something that cannot be called where
    one of its constructor methods should be, or nothing. -/
inductive Shown where
  | parameters (params : List Parameter)
  | uncallable (d : Datum)
  | nothing
  deriving DecidableEq, Repr

/-- What one constructor method shows, if it shows anything. -/
def shownBy : Member → Option Shown
  | .method m => m.parameters?.map .parameters
  | .computed | .field | .value .null _ => none
  | .value d _ => some (.uncallable d)

/-- The names of constructor methods: of the one that makes bare instances, and of the other. -/
def constructors : List String :=
  [ClassDef.allocatorMember, ClassDef.initializerMember]

/-- **A constructor method of a class**, its own or an inherited one, and the class it is in. -/
structure Constructor where
  name : String
  holder : ClassId
  member : Member
  deriving DecidableEq, Repr

/-- What a constructor method shows, if it shows anything. -/
def Constructor.shown? (x : Constructor) : Option Shown :=
  shownBy x.member

/-- The constructor methods of a class, the one for bare instances first. -/
def constructorsOf (w : World) (c : ClassId) : List Constructor :=
  constructors.filterMap fun name => (w.member? c name).map fun e => ⟨name, e.1, e.2⟩

/-- **The constructor method that decides what a class shows.** -/
def deciding? (w : World) (c : ClassId) : Option Constructor :=
  match w.rule with
  | .ownFirst =>
    ((w.constructorsOf c).find? (·.holder = c)).or
      ((w.constructorsOf c).find? (·.shown?.isSome))
  | .nearest =>
    (w.lineage c).findSome? fun k =>
      (w.constructorsOf c).find? fun x => x.holder = k && x.shown?.isSome

/-- **What a class shows of how it is called.** One without constructor methods takes nothing. -/
def shown (w : World) (c : ClassId) : Shown :=
  if (w.constructorsOf c).isEmpty then .parameters []
  else ((w.deciding? c).bind Constructor.shown?).getD .nothing

/-- **The parameters that a class shows to its callers**, if it shows any. -/
def parametersOf (w : World) (c : ClassId) : Option (List Parameter) :=
  match w.shown c with
  | .parameters params => some params
  | _ => none

/-- A class itself is looked at before those that it derives from. -/
theorem member?_of_own {w : World} {c : ClassId} {member : String} {x : Member}
    (h : (w.classDef c).member? member = some x) : w.member? c member = some (c, x) := by
  unfold World.member? nearest lineage
  simp [h]

/-- What a class holds is held by a class of its lineage. -/
theorem mem_lineage_of_member? {w : World} {c k : ClassId} {member : String} {x : Member}
    (h : w.member? c member = some (k, x)) :
    k ∈ w.lineage c ∧ (w.classDef k).member? member = some x := by
  obtain ⟨k', hk, h⟩ := List.exists_of_findSome?_eq_some h
  obtain ⟨x', hx, h⟩ := Option.map_eq_some_iff.1 h
  cases h
  exact ⟨hk, hx⟩

/-- **A class's own method for making bare instances decides** which parameters it shows. -/
theorem parametersOf_of_allocator {w : World} {c : ClassId} {m : Method} {params : List Parameter}
    (h : (w.classDef c).member? ClassDef.allocatorMember = some (.method m))
    (hm : m.parameters? = some params) : w.parametersOf c = some params := by
  unfold parametersOf shown deciding? constructorsOf lineage
  cases w.rule <;>
    simp [constructors, member?_of_own h, Constructor.shown?, shownBy, hm]

/-- **Without one, its own initializer decides**, whatever it inherits. -/
theorem parametersOf_of_initializer {w : World} {c : ClassId} {m : Method}
    {params : List Parameter}
    (ha : (w.classDef c).member? ClassDef.allocatorMember = none)
    (hi : (w.classDef c).member? ClassDef.initializerMember = some (.method m))
    (hm : m.parameters? = some params) : w.parametersOf c = some params := by
  unfold parametersOf shown deciding? constructorsOf lineage
  cases hk : w.member? c ClassDef.allocatorMember with
  | none =>
    cases w.rule <;>
      simp [constructors, hk, member?_of_own hi, Constructor.shown?, shownBy, hm]
  | some e =>
    have inherited : e.1 ≠ c := by
      rintro rfl
      exact nomatch ha.symm.trans (mem_lineage_of_member? hk).2
    cases w.rule <;>
      simp [constructors, hk, member?_of_own hi, Constructor.shown?, shownBy, hm, inherited]

/-! ## 3. Descriptors -/

/-- What a descriptor holds. -/
def descriptor (w : World) (d : DescriptorId) : Descriptor :=
  w.descriptors[d.index]?.getD default

/-- Whether a descriptor is in the store. -/
def HasDescriptor (w : World) (d : DescriptorId) : Prop :=
  d.index < w.descriptors.size

/-- Changes a descriptor. -/
def changeDescriptor (w : World) (d : DescriptorId) (f : Descriptor → Descriptor) : World :=
  { w with descriptors := w.descriptors.modify d.index f }

/-- Adds a descriptor. -/
def newDescriptor (w : World) (d : Descriptor) : DescriptorId × World :=
  (⟨w.descriptors.size⟩, { w with descriptors := w.descriptors.push d })

/-- A changed descriptor holds the changed value. -/
theorem descriptor_change_self {w : World} {d : DescriptorId} (h : w.HasDescriptor d)
    (f : Descriptor → Descriptor) :
    (w.changeDescriptor d f).descriptor d = f (w.descriptor d) := by
  have h' : d.index < w.descriptors.size := h
  simp [changeDescriptor, descriptor, Array.getElem_modify, h']

/-- **A change leaves every other descriptor alone.** -/
theorem descriptor_change_of_ne {w : World} {d e : DescriptorId} (h : d ≠ e)
    (f : Descriptor → Descriptor) :
    (w.changeDescriptor d f).descriptor e = w.descriptor e := by
  have h' : d.index ≠ e.index := fun he => h (by cases d; cases e; simp_all)
  simp [changeDescriptor, descriptor, Array.getElem?_modify, h']

/-- A new descriptor leaves those in the store alone. -/
theorem descriptor_new_of_has {w : World} {e : DescriptorId} (h : w.HasDescriptor e)
    (x : Descriptor) : (w.newDescriptor x).2.descriptor e = w.descriptor e := by
  have h' : e.index < w.descriptors.size := h
  simp [newDescriptor, descriptor, Array.getElem?_push, Nat.ne_of_lt h']

/-- Additions leave the descriptors in the store alone. -/
theorem Adds.descriptor {w w' : World} {d : DescriptorId} (h : w.Adds w')
    (hd : w.HasDescriptor d) : w'.descriptor d = w.descriptor d := by
  obtain ⟨-, ⟨rest, hrest⟩, -⟩ := h
  have hd' : d.index < w.descriptors.toList.length := hd
  unfold World.descriptor
  rw [← Array.getElem?_toList, ← Array.getElem?_toList, ← hrest, List.getElem?_append_left hd']

theorem Adds.classes {w w' : World} (h : w.Adds w') : w'.classes = w.classes := by
  rw [h.1]

/-- A new descriptor holds what it was made with. -/
theorem descriptor_new_self (w : World) (x : Descriptor) :
    (w.newDescriptor x).2.descriptor (w.newDescriptor x).1 = x := by
  simp [newDescriptor, descriptor]

/-! ## 4. Objects -/

/-- An object of the store. -/
def thing? (w : World) (o : ObjectId) : Option Thing :=
  w.things[o.index]?

/-- What an object is. -/
def content? (w : World) : Ref → Option Content
  | .object o => (w.thing? o).map Thing.content
  | _ => none

/-- **The representative of a thing under equality.** -/
def like (w : World) : Ref → Ref
  | .object o => (w.thing? o).elim (.object o) (·.like)
  | .datum d _ => .datum d.key 0
  | r => r

@[simp] theorem like_cls (w : World) (c : ClassId) : w.like (.cls c) = .cls c := rfl

@[simp] theorem like_descriptor (w : World) (d : DescriptorId) :
    w.like (.descriptor d) = .descriptor d := rfl

/-- Why a thing cannot be a key, if it cannot. -/
def keyFault? (w : World) : Ref → Option Fault
  | .object o => ((w.thing? o).bind (·.keyless)).map .notKey
  | .datum d _ => if d.isKey then none else some (.notKey d.typeWord)
  | _ => none

@[simp] theorem keyFault?_cls (w : World) (c : ClassId) : w.keyFault? (.cls c) = none := rfl

/-- The first object of the store that passes a test, or else `o`. -/
def firstThing (w : World) (test : Content → Bool) (o : ObjectId) : Ref :=
  .object (((w.things.findIdx? (test ·.content)).map ObjectId.mk).getD o)

/-- **Whether two objects agree in all that makes them equal**: records and lists in their fields
    and items, sets in their elements, whatever their order. -/
def agree (w : World) : Content → Content → Bool
  | .collection (.set items _), .collection (.set others _) =>
    items.length = others.length && items.all fun r => others.any (w.like · = w.like r)
  | x, y => x.essence w.like = y.essence w.like

/-- A thing as plain data, if it is equal to some. -/
def likeDatum? (w : World) (r : Ref) : Option Datum :=
  match w.like r with
  | .none => some .null
  | .datum d _ => some d
  | _ => none

/-- The plain data that a new object is equal to, if it is equal to some: the value of an instance,
    a mapping that was handed back, and a list of plain data. -/
def equalDatum? (w : World) : Content → Option Datum
  | .made _ value => value.map Datum.key
  | .collection (.entries pairs _) => some (Datum.mapping (.ofList pairs)).key
  | .collection (.list items) =>
    (items.mapM w.likeDatum?).map fun data => .list (.ofList data)
  | _ => none

/-- Whether an object may be equal to another one of its kind. -/
def isComparable (x : Content) : Bool :=
  x.isRecord || match x with
    | .stock .equal | .member .. | .collection (.list _) | .collection (.set ..) => true
    | _ => false

/-- **What a new object is equal to**: plain data if it is equal to some, or else the first object
    that agrees with it, if it is of a kind that is compared, or else itself. -/
def representative (w : World) (o : ObjectId) (x : Content) : Ref :=
  match w.equalDatum? x with
  | some d => .datum d 0
  | none => if isComparable x then w.firstThing (w.agree x) o else .object o

/-- Why a new object cannot be a key, if it cannot: instances of mappings and collections cannot,
    nor can records that refer to something that cannot. -/
def keylessWord? (w : World) : Content → Option String
  | .made c _ => if (w.lineage c).contains ClassId.mapping then some (w.classDef c).name else none
  | .stock .equal => some Stock.equal.word
  | .collection x => x.keyless?
  | x => x.refs.findSome? fun r =>
    match w.keyFault? r with
    | some (.notKey typeName) => some typeName
    | _ => none

/-- **Adds an object.** -/
def newThing (w : World) (x : Content) : ObjectId × World :=
  let o : ObjectId := ⟨w.things.size⟩
  (o, { w with things := w.things.push ⟨x, w.representative o x, w.keylessWord? x⟩ })

/-- Changes a method wherever it is: in its class and in those that it was taken off. -/
def changeMethod (w : World) (m : Method) (f : Method → Method) : World :=
  let changed (m' : Method) : Method := if m'.is m then f m' else m'
  let changeMember : Member → Member
    | .method m' => .method (changed m')
    | x => x
  let changeContent : Content → Content
    | .member owner (.bound k m') => .member owner (.bound k (changed m'))
    | .member owner (.free k m') => .member owner (.free k (changed m'))
    | x => x
  { w with
    classes := w.classes.map fun c =>
      { c with members := c.members.map fun e => (e.1, changeMember e.2) }
    things := w.things.map fun x => { x with content := changeContent x.content } }

/-- Changes what an object is. -/
def setContent (w : World) (o : ObjectId) (x : Content) : World :=
  { w with things := w.things.modify o.index ({ · with content := x }) }

/-! ## 5. The kind of a thing -/

/-- The class of a thing, if it is a class of the store. -/
def classOf? (w : World) : Ref → Option ClassId
  | .descriptor d => some (w.descriptor d).cls
  | .object o =>
    match w.content? (.object o) with
    | some (.made c _) => some c
    | _ => none
  | .datum (.whole _) _ => some ClassId.whole
  | .datum (.text _) _ => some ClassId.text
  | .datum (.mapping _) _ => some ClassId.mapping
  | _ => none

/-- **The word for the kind of a thing in messages.** -/
def typeName (w : World) (r : Ref) : String :=
  match w.classOf? r with
  | some c => (w.classDef c).name
  | none =>
    match r with
    | .none => "NoneType"
    | .cls c => if (w.classDef c).guarded then "ABCMeta" else "type"
    | .datum d _ => d.typeWord
    | r => ((w.content? r).bind Content.typeWord?).getD "object"

/-- The qualified name of the class of a thing. -/
def typeQualname (w : World) (r : Ref) : String :=
  match w.classOf? r with
  | some c => (w.classDef c).qualname
  | none => w.typeName r

/-- The value of a datum, or of an instance of a class below a primitive one. -/
def value? (w : World) : Ref → Option Datum
  | .datum d _ => some d
  | r =>
    match w.content? r with
    | some (.made _ value) => value
    | _ => none

/-- **Whether a thing counts as true.** -/
def isTrue (w : World) (r : Ref) : Bool :=
  match w.value? r, w.content? r with
  | some value, _ => value.isTrue
  | none, some (.stock .falsy) => false
  | none, some (.executor _ falsy) => !falsy
  | none, some (.collection x) => !x.isEmpty
  | none, _ => r != .none

/-- The word for the kind of a thing that is of a built-in kind, or has a value of one. -/
def builtInKind? (w : World) (r : Ref) : Option String :=
  match r, w.content? r with
  | .none, _ | .datum .., _ => some (w.typeName r)
  | _, some (.made _ value) => value.map Datum.typeWord
  | _, some (.member _ x) => some x.typeWord
  | _, some (.collection x) => some x.typeWord
  | _, _ => none

/-- Whether a thing has a namespace of its own. -/
def hasNamespace (w : World) (r : Ref) : Bool :=
  match w.classOf? r, w.content? r with
  | some c, _ => (w.classDef c).origin = .written
  | none, some (.stock _) | none, some (.executor ..) => true
  | none, some (.member _ x) => x != .computed
  | none, _ => r.class?.isSome

/-- The thing whose namespace is looked into for a thing: for a method of an instance that was taken
    off, the method that its class holds, if that was taken off too. -/
def namespaceOf (w : World) (r : Ref) : Ref :=
  match w.content? r with
  | some (.member _ (.bound _ m)) =>
    let holds (x : Thing) : Bool :=
      match x.content with
      | .member _ (.free _ m') => m'.is m
      | _ => false
    (w.things.findIdx? holds).elim r (.object ⟨·⟩)
  | _ => r

/-- What was written into the namespace of a thing under a name. -/
def assigned? (w : World) (r : Ref) (member : String) : Option Kept :=
  Keyed.get? id (w.namespaceOf r, member) w.assigned

/-- Writes a member into the namespace of a thing. -/
def assign (w : World) (r : Ref) (member : String) (value : Kept) : World :=
  { w with assigned := Keyed.put id (r, member) value w.assigned }

/-- Removes a member from the namespace of a thing. -/
def unassign (w : World) (r : Ref) (member : String) : World :=
  { w with assigned := w.assigned.filter (·.1 ≠ (r, member)) }

/-- Gives a thing another namespace, with data written in a place. Only texts are names there, and
    those of `parts` are not in the namespace. -/
def reassign (w : World) (r : Ref) (parts : List String) (fields : List (Datum × Datum))
    (place : Nat) : World :=
  { w with
    assigned := w.assigned.filter (fun e => e.1.1 ≠ r || parts.contains e.1.2)
      ++ (fields.zip (Ref.ofValues place fields)).map fun f =>
        ((r, f.1.1.plain), .thing f.2) }

end World

end AppMount
