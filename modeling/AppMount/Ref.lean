import AppMount.Datum

/-!
# References

What may be registered, provided, absorbed or mounted: classes, descriptors, other objects, plain
data, and nothing at all. Classes, descriptors and objects are known by identity; what they are is
kept by the store (`AppMount.World`). A datum of which there is more than one copy is known by the
place where it was written.

* `ClassId`, `DescriptorId`, `ObjectId`: identities;
* `ClassId.object` … `ClassId.mapping`: the classes every store starts with;
* `Ref`: a reference, equal to another one when both are the same thing;
* `Ref.ofDatum`, `Ref.ofData`, `Ref.ofKeys`, `Ref.ofValues`: a datum, and the data of a collection,
  as references; `Ref.datum?`: the datum that a reference is.
-/

namespace AppMount

/-! ## 1. Identities -/

/-- The identity of a class. -/
structure ClassId where
  index : Nat
  deriving DecidableEq, Repr

/-- The identity of a descriptor. -/
structure DescriptorId where
  index : Nat
  deriving DecidableEq, Repr

/-- The identity of an object that is neither a class nor a descriptor. -/
structure ObjectId where
  index : Nat
  deriving DecidableEq, Repr

namespace ClassId

/-- The root of all classes. -/
def object : ClassId := ⟨0⟩

/-- The base class of applications. -/
def application : ClassId := ⟨1⟩

/-- The class of descriptors, which are applications themselves. -/
def descriptor : ClassId := ⟨2⟩

/-- The class of whole numbers. -/
def whole : ClassId := ⟨3⟩

/-- The class of texts. -/
def text : ClassId := ⟨4⟩

/-- The class of mappings. -/
def mapping : ClassId := ⟨5⟩

end ClassId

/-! ## 2. References -/

/-- **A reference to anything an application can be built from.** -/
inductive Ref where
  | none
  | cls (c : ClassId)
  | descriptor (d : DescriptorId)
  | object (o : ObjectId)
  | datum (d : Datum) (place : Nat)
  deriving DecidableEq, Repr

namespace Ref

instance : Inhabited Ref := ⟨.none⟩

/-- A datum that was written in a place. Of a shared one the place does not matter, and the datum
    that is nothing is nothing. -/
def ofDatum (place : Nat) : Datum → Ref
  | .null => .none
  | d => .datum d (if d.isShared then 0 else place)

/-- **The data of a collection that was written in a place, as references**: shared data by value,
    all others by their place, one after the other. -/
def ofData (place : Nat) : List Datum → List Ref
  | [] => []
  | d :: rest => ofDatum (place + 1) d :: ofData (place + d.span) rest

/-- The keys of a mapping that was written in a place. -/
def ofKeys (place : Nat) (fields : List (Datum × Datum)) : List Ref :=
  ofData place (fields.map (·.1))

/-- The values of a mapping that was written in a place. They come after all keys. -/
def ofValues (place : Nat) (fields : List (Datum × Datum)) : List Ref :=
  ofData (fields.foldr (fun f after => f.1.span + after) place) (fields.map (·.2))

/-- A text, or nothing. -/
def ofText : Option String → Ref
  | some s => ofDatum 0 (.text s)
  | Option.none => .none

/-- The datum that a reference is, if it is one. -/
def datum? : Ref → Option Datum
  | .none => some .null
  | .datum d _ => some d
  | _ => Option.none

/-- The place where a datum was written. -/
def place : Ref → Nat
  | .datum _ place => place
  | _ => 0

/-- The class a reference is to, if it is to one. -/
def class? : Ref → Option ClassId
  | .cls c => some c
  | _ => Option.none

/-- The descriptor a reference is to, if it is to one. -/
def descriptor? : Ref → Option DescriptorId
  | .descriptor d => some d
  | _ => Option.none

@[simp] theorem class?_cls (c : ClassId) : (cls c).class? = some c := rfl

@[simp] theorem descriptor?_descriptor (d : DescriptorId) :
    (descriptor d).descriptor? = some d := rfl

end Ref

end AppMount
