import AppMount.World

/-!
# What an application offers

An application is asked for its classes, its singletons and its properties. The answer may be any
collection, a collection that breaks off while it is read, or no collection at all; this file says
how answers are read and which of them can be changed by who asked.

* `Reading`: what could be read of a collection, and the fault that ended it, if one did;
* `Offer`: an answer; `Offer.elements`, `Offer.pairs`: reading it as a collection and as a mapping;
* `Offer.entries?`: what an answer says under its own names, which only a mapping does;
* `Offer.changeFault?`: why something cannot be put into an answer;
* `Reading.upToFault`: cutting a reading off where an element brings a fault of its own.
-/

namespace AppMount

/-! ## 1. Readings -/

/-- **What is read of a collection, in order, and how the reading ends.** -/
structure Reading (α : Type) where
  items : List α := []
  ending : Option Fault := none
  deriving DecidableEq, Repr

namespace Reading

variable {α : Type}

/-- A reading with one more item in front. -/
def cons (a : α) (r : Reading α) : Reading α :=
  { r with items := a :: r.items }

/-- Cuts a reading off at the first item that has a fault of its own. -/
def upToFault (faultOf : α → Option Fault) : List α → Option Fault → Reading α
  | [], ending => ⟨[], ending⟩
  | a :: rest, ending =>
    match faultOf a with
    | some fault => ⟨[], some fault⟩
    | none => (upToFault faultOf rest ending).cons a

/-- A reading without faulty items is read to its end. -/
theorem upToFault_of_sound {faultOf : α → Option Fault} {items : List α} {ending : Option Fault}
    (h : ∀ a ∈ items, faultOf a = none) : upToFault faultOf items ending = ⟨items, ending⟩ := by
  induction items with
  | nil => rfl
  | cons a rest ih =>
    have ha := h a (List.mem_cons_self ..)
    have hrest := ih fun b hb => h b (List.mem_cons_of_mem _ hb)
    simp [upToFault, ha, hrest, cons]

end Reading

/-! ## 2. Offers -/

/-- **What a hook hands back**: a list or a set of things, things one by one, a mapping, or plain
    data. Data come with the place where they were written, and a set with the codes of those of its
    elements that have one of their own. -/
inductive Offer where
  | list (items : List Ref)
  | set (items : List Ref) (codes : List (Ref × KeyCode))
  | stream (reading : Reading Ref)
  | entries (pairs : List (Datum × Datum)) (place : Nat)
  | datum (value : Datum) (place : Nat)
  deriving DecidableEq, Repr

/-- What a thing yields when it is read one element at a time: what its value yields. -/
def World.elementsOf? (w : World) (r : Ref) : Option (List Datum) :=
  (w.value? r).bind Datum.elements?

/-- Reads elements as pairs of a key and a value, from position `index` on. -/
def World.readPairs (w : World) : Nat → List Ref → Option Fault → Reading (Datum × Datum)
  | _, [], ending => ⟨[], ending⟩
  | index, r :: rest, ending =>
    match w.elementsOf? r with
    | none => ⟨[], some (.notPair index)⟩
    | some [k, v] =>
      if k.isKey then (w.readPairs (index + 1) rest ending).cons (k, v)
      else ⟨[], some (.notKey k.typeWord)⟩
    | some elements => ⟨[], some (.pairLength index elements.length)⟩

namespace Offer

/-- The word for the kind of an offer in messages. -/
def typeWord : Offer → String
  | .list _ => "list"
  | .set .. => "set"
  | .stream _ => "generator"
  | .entries .. => "dict"
  | .datum d _ => d.typeWord

/-- The place where an offer was written that is plain data. -/
def place? : Offer → Option Nat
  | .datum _ place => some place
  | _ => none

/-- **An offer read as a collection.** A mapping yields its keys. -/
def elements : Offer → Reading Ref
  | .list items | .set items _ => ⟨items, none⟩
  | .stream reading => reading
  | .entries pairs place => ⟨Ref.ofKeys place pairs, none⟩
  | .datum d place =>
    match d.elements? with
    | some items => ⟨Ref.ofData place items, none⟩
    | none => ⟨[], some (.notIterable d.typeWord)⟩

/-- Whether an offer can be read as a collection. -/
def isCollection : Offer → Bool
  | .datum d _ => d.elements?.isSome
  | _ => true

/-- What an offer says under its own names. Only a mapping has names. -/
def entries? : Offer → Option (List (Datum × Datum))
  | .entries pairs _ => some pairs
  | .datum (.mapping fields) _ => some fields.toList
  | _ => none

/-- **An offer read as a mapping.** What is not one is read as a collection of pairs. -/
def pairs (w : World) (o : Offer) : Reading (Datum × Datum) :=
  match o.entries? with
  | some pairs => ⟨pairs, none⟩
  | none => w.readPairs 0 o.elements.items o.elements.ending

/-- An offer as plain data, as far as it is some. What is handed out one by one is not. -/
def datum? (valueOf : Ref → Datum) : Offer → Option Datum
  | .datum d _ => some d
  | .list items => some (.list (.ofList (items.map valueOf)))
  | .entries pairs _ => some (.mapping (.ofList pairs))
  | .set .. | .stream _ => none

/-! ## 3. Changing an offer -/

/-- Whether an offer is a list. -/
def isList : Offer → Bool
  | .list _ | .datum (.list _) _ => true
  | _ => false

/-- **Why something cannot be put into an offer**: one more class is added to a set, one more
    singleton appended to a list, and one more property written into a mapping. -/
def changeFault? (o : Offer) : Hook → Option Fault
  | .classes =>
    match o with
    | .set .. => none
    | o => some (.noMember o.typeWord "add")
  | .singletons => if o.isList then none else some (.noMember o.typeWord "append")
  | .properties =>
    if o.entries?.isSome then none
    else some (if o.isList then .noTextIndex o.typeWord "str" else .noKeys o.typeWord)

end Offer

/-- A datum from which everything was taken. -/
def Datum.emptied : Datum → Datum
  | .list _ => .list .nil
  | .mapping _ => .mapping .nil
  | d => d

/-- What a descriptor holds, as the answer to a hook. -/
def Descriptor.offer (x : Descriptor) : Hook → Offer
  | .classes => .set x.classes x.codes
  | .singletons => .list x.singletons
  | .properties => .entries x.properties 0

end AppMount
