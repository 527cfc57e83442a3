import AppMount.Keys

/-!
# Reading things one element at a time

What a thing yields as a collection, as a pair and as a mapping. A class may have ways of its own to
hand out elements, keys and items; reading then runs the code of an application.

* `Action.elementsOf`: a thing as a collection;
* `Action.readPairs`: elements as pairs of a key and a value;
* `Action.pairsOf`: what an application offers, as a mapping;
* `Action.item`: what a thing holds under a key;
* `Action.mappingOf`: the mapping that a call of the class of mappings makes.
-/

namespace AppMount

namespace World

/-- A thing as a datum, as far as it is one. -/
def datumOf (w : World) (r : Ref) : Datum :=
  if r = .none then .null else (w.value? r).getD (.text (w.describe r))

end World

namespace Action

/-! ## 1. Collections -/

/-- What a collection that was handed back yields. One that hands out its things one by one does so
    once. -/
def yielded (r : Ref) : Collection → Action (Reading Ref)
  | .list items | .set items _ => pure ⟨items, none⟩
  | .entries pairs place => pure ⟨Ref.ofKeys place pairs, none⟩
  | .stream items ending => do
    if let .object o := r then modify (·.setContent o (.collection (.stream [] none)))
    pure ⟨items, ending⟩

/-- What a thing yields by its own value, or as a collection. Otherwise its class may hand out items
    by their position, for which the method has to take one. -/
def ownElements (ρ : Dispatch) (r : Ref) : Action (Reading Ref) := do
  match (← get).elementsOf? r, (← get).content? r with
  | some items, _ => pure ⟨Ref.ofData r.place items, none⟩
  | none, some (.collection x) => yielded r x
  | none, _ =>
    match ← attempt (special ρ r "__getitem__" 1) with
    | .error fault => pure ⟨[], some fault⟩
    | .ok _ => throw (.notIterable ((← get).typeName r))

/-- **What a thing yields one element at a time.** A class may have a way of its own to hand out
    elements, which are handed out one by one. -/
def elementsOf (ρ : Dispatch) (r : Ref) : Action (Reading Ref) := do
  let w ← get
  if ρ.replaces && w.hasNothing r "__iter__" then throw (.notIterable (w.typeName r))
  match ← special ρ r "__iter__" 0 with
  | some (.stream reading) => pure reading
  | some offer => throw (.notIterator offer.typeWord)
  | none => ownElements ρ r

/-! ## 2. Pairs -/

/-- The elements of what should be a pair. Whatever is wrong with its kind, it is no sequence. -/
def pairElements (ρ : Dispatch) (index : Nat) (r : Ref) : Action (List Ref) := do
  let read ← attempt (elementsOf ρ r)
  match read with
  | .ok ⟨items, none⟩ => pure items
  | .ok ⟨_, some fault⟩ | .error fault =>
    throw (if fault.category = "TypeError" then .notPair index else fault)

/-- A thing read as a pair. -/
def readPair (ρ : Dispatch) (index : Nat) (r : Ref) : Action (Datum × Datum) := do
  match ← pairElements ρ index r with
  | [k, v] =>
    let _ ← codeOf ρ k
    let w ← get
    pure (w.datumOf k, w.datumOf v)
  | items => throw (.pairLength index items.length)

/-- **Reads elements as pairs of a key and a value**, from position `index` on. -/
def readPairs (ρ : Dispatch) : Nat → List Ref → Option Fault → Action (Reading (Datum × Datum))
  | _, [], ending => pure ⟨[], ending⟩
  | index, r :: rest, ending => do
    match ← attempt (readPair ρ index r) with
    | .error fault => pure ⟨[], some fault⟩
    | .ok pair => return (← readPairs ρ (index + 1) rest ending).cons pair

/-- **An offer read as a mapping.** What is not one is read as a collection of pairs. -/
def pairsOf (ρ : Dispatch) (o : Offer) : Action (Reading (Datum × Datum)) := do
  if ρ.replaces then
    match o.entries? with
    | some pairs => pure ⟨pairs, none⟩
    | none => readPairs ρ 0 o.elements.items o.elements.ending
  else return o.pairs (← get)

/-- By itself the library reads what there is. -/
theorem run_pairsOf_of_library {ρ : Dispatch} (hρ : ρ.replaces = false) (o : Offer) (w : World) :
    (pairsOf ρ o).run w = .ok (o.pairs w) w := by
  simp only [pairsOf, hρ]
  rfl

/-! ## 3. Mappings -/

/-- The character of a text at a position, which has to be a whole number of a moderate size. -/
def characterAt (s : String) (index : Datum) (typeName : String) : Except Fault Datum :=
  match World.whole? index with
  | none => .error (.conversion (.notPosition typeName))
  | some n =>
    if !isMachineWord n then .error .hugePosition
    else match (position? s.length n).bind fun i => s.toList[i]? with
      | some c => .ok (.text (String.singleton c))
      | none => .error (.noSuchPosition "string")

/-- **What a thing holds under a key.** -/
def item (ρ : Dispatch) (r key : Ref) : Action Datum := do
  match ← special ρ r "__getitem__" 1 with
  | some offer => throw (.noItems offer.typeWord)
  | none =>
    let w ← get
    match w.value? r, w.datumOf key with
    | some (.mapping fields), k =>
      match Keyed.get? Datum.key k.key fields.toList with
      | some v => pure v
      | none =>
        let _ ← special ρ r "__missing__" 1
        throw (.noSuchKey (← describe ρ key))
    | some (.text s), k => ofExcept (characterAt s k (w.typeName key))
    | _, _ => throw (.noItems (w.typeName r))

/-- The keys that a thing with a method for them hands out. -/
def keysOffered (r : Ref) (offer : Offer) : Action (List Ref) := do
  if !offer.isCollection then
    throw (.unreadableKeys ((← get).typeName r) offer.typeWord)
  match offer.elements with
  | ⟨items, none⟩ => pure items
  | ⟨_, some fault⟩ => throw fault

/-- Reads a thing key by key. -/
def readKeyed (ρ : Dispatch) (r : Ref) : List Ref → Action (List (Datum × Datum))
  | [] => pure []
  | key :: rest => do
    let v ← item ρ r key
    let k := (← get).datumOf key
    let others ← readKeyed ρ r rest
    pure ((k, v) :: others)

/-- The entries of a thing without a method for keys: its own, or the pairs that it yields. -/
def unkeyedEntries (ρ : Dispatch) (r : Ref) : Action (List (Datum × Datum)) := do
  let w ← get
  match r, w.value? r with
  | _, some (.mapping fields) =>
    readKeyed ρ r (Ref.ofKeys r.place fields.toList)
  | .cls c, _ =>
    if w.primitive? c = some ClassId.mapping then throw (.conversion .keysOfClass)
    else throw (.notIterable (w.typeName r))
  | _, _ =>
    if let some (.collection (.entries pairs _)) := w.content? r then return pairs
    let read ← elementsOf ρ r
    let pairs ← readPairs ρ 0 read.items read.ending
    match pairs.ending with
    | some fault => throw fault
    | none => pure pairs.items

/-- Whether a thing is a mapping that is read as it is, whatever its class says of keys and
    items. -/
def isPlainMapping (w : World) (r : Ref) : Bool :=
  match w.value? r, (w.classOf? r).bind (w.member? · "__iter__") with
  | some (.mapping _), none => true
  | _, _ => false

/-- **The entries of a thing as a mapping.** A thing with a method for keys is asked for them, and
    then for what it holds under each. -/
def entriesOf (ρ : Dispatch) (r : Ref) : Action (List (Datum × Datum)) := do
  let w ← get
  if w.classOf? r ≠ some ClassId.mapping then checkAccess ρ r
  match isPlainMapping w r, w.value? r with
  | true, some (.mapping fields) => pure fields.toList
  | _, value =>
    let isMapping := value.any (·.typeWord = ClassDef.mapping.name)
    match r, ← if isMapping then pure (w.find? r "keys") else member? ρ r "keys" with
    | _, none => unkeyedEntries ρ r
    | .cls _, some (.method k m) =>
      let offer ← callFree ρ k m 0 "self"
      readKeyed ρ r (← keysOffered r offer)
    | _, some (.method k m) =>
      let offer ← callCode ρ k m 0
      readKeyed ρ r (← keysOffered r offer)
    | r, some found =>
      let offer ← callWritten ρ r found 0
      readKeyed ρ r (← keysOffered r offer)

/-- A name as an entry. -/
def nameEntry (name : Option Datum) : List (Datum × Datum) :=
  (name.map fun value => (.text "name", value)).toList

/-- **The mapping that a call makes**: the entries of a thing, and the name. -/
def mappingOf (ρ : Dispatch) (args : Arguments) : Action Datum := do
  match args.positional with
  | [] => pure (.mapping (.ofList (nameEntry args.name)))
  | [r] =>
    let entries ← entriesOf ρ r
    let own := Keyed.putAll Datum.key [] entries
    pure (.mapping (.ofList (Keyed.putAll Datum.key own (nameEntry args.name))))
  | rs => throw (.conversion (.manyMappings rs.length))

@[simp] theorem run_mappingOf_nil (ρ : Dispatch) (w : World) :
    (mappingOf ρ {}).run w = .ok (.mapping .nil) w := rfl

end Action

end AppMount
