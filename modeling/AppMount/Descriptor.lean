import AppMount.ClassDef
import AppMount.StandIn

/-!
# Descriptors

What an application consists of: its resource classes, its shared instances, its properties and
its providers. A descriptor is filled during setup and frozen when the server mounts it. It may
stand for a live application or for an application class that is instantiated on freezing.

* `KeyCode`: the code under which a key is looked for;
* `Descriptor`: the record, with the class it is an instance of and with what stands in the place of
  its fields;
* `addClasses`, `addSingletons`, `putProperties`, `putProviders`: how the four collections grow --
  classes once each, singletons once per identity in order of arrival, properties and providers by
  key with the last value and the first place;
* `Descriptor.assigned`, `Descriptor.without`: fields that are given something from outside, or lose
  it;
* `Descriptor.adopt`, `Descriptor.standFor`: an application that there is, and one that was made for
  the descriptor, of which it keeps a record;
* `Descriptor.isPending`: whether freezing has to instantiate an application class.

Which classes and keys count as the same is given by a representative `rep`, because equality of
objects is the store's knowledge.
-/

namespace AppMount

/-! ## 1. The record -/

/-- **The code under which a key is looked for.** Things that are equal have the code of one of
    them, numbers a code of their own, and a record that of its fields, one after the other. -/
inductive KeyCode where
  | same (r : Ref)
  | number (n : Int)
  | pair (first rest : KeyCode)
  | done
  deriving DecidableEq, Repr

/-- **A descriptor.** `codes` are the codes of those of its classes and services that have another
    one than things equal to them; `standIns` are the fields that hold something foreign, or that
    have no value at all. `given` are the applications that were made for it, one after the other:
    a record that nothing reads. -/
structure Descriptor where
  cls : ClassId
  name : Datum := .null
  classes : List Ref := []
  codes : List (Ref × KeyCode) := []
  singletons : List Ref := []
  properties : List (Datum × Datum) := []
  providers : List (Ref × Ref) := []
  application : Option Ref := none
  applicationClass : Option ClassId := none
  frozen : Bool := false
  standIns : StandIns := []
  given : List Ref := []
  deriving DecidableEq, Repr

namespace Descriptor

/-- A descriptor that has just been made and that nothing has initialized yet. -/
def bare (c : ClassId) : Descriptor :=
  { cls := c, standIns := ClassDef.descriptorFields.map (·, none) }

/-- **A descriptor with a name and nothing else.** -/
def initialized (name : Datum) (d : Descriptor) : Descriptor :=
  { cls := d.cls, name := name, standIns := d.standIns }

/-- A descriptor in which a field has no value. -/
def without (field : String) (d : Descriptor) : Descriptor :=
  { d with standIns := d.standIns.drop field }

/-- **A descriptor with a field as it is at first.** -/
def cleared (field : String) (d : Descriptor) : Descriptor :=
  match field with
  | "_classes" => { d with classes := [] }
  | "_singletons" => { d with singletons := [] }
  | "_properties" => { d with properties := [] }
  | "_providers" => { d with providers := [] }
  | "_application" => { d with application := none }
  | "_application_class" => { d with applicationClass := none }
  | "_frozen" => { d with frozen := false }
  | _ => d

/-- **A descriptor in which a field is given a datum** from some place. A datum that the field can
    hold becomes its value; any other one stands in its place. A mapping in the place of the
    singletons gets new ones added to it. -/
def assigned (field : String) (value : Datum) (place : Nat) (d : Descriptor) : Descriptor :=
  let fresh := d.cleared field
  let owned := { fresh with standIns := fresh.standIns.supply field }
  match field, value with
  | "name", value => { owned with name := value }
  | "_properties", .mapping fields =>
    { owned with properties := fields.toList }
  | "_providers", .mapping fields =>
    { owned with
      providers := fields.toList.map fun f => (.ofDatum place f.1, .ofDatum place f.2) }
  | "_application", .null | "_application_class", .null => owned
  | "_application", value => { owned with application := some (.ofDatum place value) }
  | "_frozen", .truth b => { owned with frozen := b }
  | field, value => { fresh with standIns := fresh.standIns.put field (.ofDatum place value) }

instance : Inhabited Descriptor := ⟨{ cls := ClassId.descriptor }⟩

/-- The description of a descriptor, given the number of its classes and singletons and the text on
    whether it is frozen. -/
def describeWith (name : Datum) (classes singletons : Nat) (frozen : String) : String :=
  Text.headed "ResourceConfig"
    ["name=" ++ name.describe, "classes=" ++ toString classes,
      "singletons=" ++ toString singletons, "frozen=" ++ frozen]

/-- The description of a descriptor. -/
def describe (d : Descriptor) : String :=
  describeWith d.name d.classes.length d.singletons.length (Text.truthWord d.frozen)

/-! ## 2. Growth -/

/-- Adds classes, each once. -/
def addClasses (rep : Ref → Ref) (new : List Ref) (d : Descriptor) : Descriptor :=
  { d with classes := Keyed.addAll rep d.classes new }

/-- **Adds instances by identity**, in order of arrival. -/
def addSingletons (new : List Ref) (d : Descriptor) : Descriptor :=
  { d with singletons := Keyed.addAll id d.singletons new }

/-- **Writes properties**: an old name keeps its place and takes the new value. -/
def putProperties (new : List (Datum × Datum)) (d : Descriptor) : Descriptor :=
  { d with properties := Keyed.putAll Datum.key d.properties new }

/-- Writes providers by service. -/
def putProviders (rep : Ref → Ref) (new : List (Ref × Ref)) (d : Descriptor) : Descriptor :=
  { d with providers := Keyed.putAll rep d.providers new }

/-- Registers one component: a class among the classes, anything else among the singletons. -/
def addComponent (rep : Ref → Ref) (component : Ref) (d : Descriptor) : Descriptor :=
  if component.class?.isSome then d.addClasses rep [component] else d.addSingletons [component]

/-- Lets a new descriptor stand for an application that there is, so that none is made for it.
    Nothing is no application. -/
def adopt (app : Ref) (d : Descriptor) : Descriptor :=
  { d with application := if app = .none then none else some app, given := [] }

/-- **Lets a descriptor stand for an application that was made for it**, and records that. Nothing
    is no application. -/
def standFor (app : Ref) (d : Descriptor) : Descriptor :=
  let made := if app = .none then none else some app
  { d with application := made, given := d.given ++ made.toList }

theorem standFor_none {d : Descriptor} (h : d.application = none) : d.standFor .none = d := by
  cases d
  simp_all [standFor]

/-- Lets a descriptor stand for an application class. -/
def standForClass (c : ClassId) (d : Descriptor) : Descriptor :=
  { d with applicationClass := some c }

/-- Whether freezing the descriptor has to instantiate an application class. -/
def isPending (d : Descriptor) : Bool :=
  !d.frozen && d.applicationClass.isSome && d.application.isNone

end Descriptor

end AppMount
