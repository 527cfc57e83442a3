import AppMount.Primitive

/-!
# Keys

Things as the elements of a set and as the keys of a mapping. A thing is looked for under a code,
and is the same as a thing that is there already if the two have one code and are equal. A class may
have ways of its own to make codes and to compare.

* `Content.parts?`: the parts of a record, which make its code and decide on its equality;
* `World.codeOf`: the code of a thing by the library; `Action.codeOf`: by its class, if that has its
  own way;
* `Action.Comparison`, `Action.comparison?`: what two things are compared by; `Action.knowsAnswer`:
  when only the first of them is asked; `Action.areEqual`: whether they are equal;
* `Action.settle`: the thing that stands for a newcomer among those that are there;
* `Action.addAllKeys`: a collection without repetitions, thing by thing;
* `run_codeOf_of_library`: the library by itself asks the store what can be a key.
-/

namespace AppMount

/-! ## 1. Codes -/

/-- **The parts of a record**, in the order of its fields; those of a list of things count one by
    one. What is no record has no parts. -/
def Content.parts? : Content → Option (List Ref)
  | .routing r => some [.ofDatum 0 r.value, .ofDatum 0 r.required]
  | .metadata path r => some [.ofDatum 0 path, r]
  | .listener x => some [.ofDatum 0 x.name, .ofDatum 0 x.host, .ofDatum 0 x.port]
  | .serverConfig host port members => some (.ofDatum 0 host :: .ofDatum 0 port :: members)
  | .registration r =>
    some [.ofDatum 0 r.contextRoot, r.config, r.executor, .ofDatum 0 r.appClassName,
      .ofDatum 0 r.routingName, .ofDatum 0 r.routingRequired]
  | .mount m =>
    some [.ofDatum 0 m.listener, .ofDatum 0 m.contextRoot, m.config, m.executor,
      .ofDatum 0 m.appClassName]
  | _ => none

/-- The greatest prime that codes of numbers go up to. -/
def codeModulus : Nat := Nat.pow 2 61 - 1

/-- The code of a number: its remainder, with its sign. Minus one is kept for failures. -/
def numberCode (n : Int) : Int :=
  let size : Int := (n.natAbs % codeModulus : Nat)
  let code := if n < 0 then -size else size
  if code = -1 then -2 else code

/-- The code that a class gives as a number: the number itself, as far as it fits. -/
def offeredCode (n : Int) : Int :=
  if isMachineWord n then if n = -1 then -2 else n else numberCode n

namespace World

/-- **The code of a thing by the library.** Equal things have one code. -/
def codeOf (w : World) (r : Ref) : KeyCode :=
  match w.like r with
  | .datum (.whole n) _ => .number (numberCode n)
  | .datum (.text s) _ => if s.isEmpty then .number 0 else .same (.datum (.text s) 0)
  | r => .same r

/-- Whether the class of a thing has nothing in the place of a method. -/
def hasNothing (w : World) (r : Ref) (method : String) : Bool :=
  match (w.classOf? r).bind (w.member? · method) with
  | some (_, .value .null _) => true
  | _ => false

/-- Whether the class of a thing derives from the class of another one without being the same. -/
def isBelow (w : World) (r above : Ref) : Bool :=
  match w.classOf? r, w.classOf? above with
  | some c, some k => c != k && (w.lineage c).contains k
  | _, _ => false

end World

namespace Action

/-- The code that a method for codes hands back. -/
def codeOffered : Offer → Action KeyCode
  | .datum d _ =>
    match World.whole? d with
    | some n => pure (.number (offeredCode n))
    | none => throw (.wrongResult .key)
  | _ => throw (.wrongResult .key)

/-- The code of a thing, by its class if that has its own way. The parts of a record have their
    codes by `inner`, if there is one. -/
def codeBy (ρ : Dispatch) (inner : Option (Ref → Action KeyCode)) (r : Ref) : Action KeyCode := do
  let w ← get
  if w.hasNothing r "__hash__" then throw (.notKey (w.typeName r))
  match ← special ρ r "__hash__" 0 with
  | some offer => codeOffered offer
  | none =>
    match inner, (w.content? r).bind Content.parts? with
    | some inner, some parts =>
      let codes ← parts.mapM inner
      pure (codes.foldr .pair .done)
    | _, _ =>
      match w.keyFault? r with
      | some fault => throw fault
      | none => pure (w.codeOf r)

/-- The code of a thing, with records inside records to the given depth. -/
def codeTo (ρ : Dispatch) : Nat → Ref → Action KeyCode
  | 0 => codeBy ρ none
  | depth + 1 => codeBy ρ (some (codeTo ρ depth))

/-- **The code of a thing**, which is refused if it cannot be a key. -/
def codeOf (ρ : Dispatch) (r : Ref) : Action KeyCode := do
  let w ← get
  if ρ.replaces then codeTo ρ w.things.size r
  else
    match w.keyFault? r with
    | some fault => throw fault
    | none => pure (w.codeOf r)

/-- By itself the library asks the store what can be a key. -/
theorem run_codeOf_of_library {ρ : Dispatch} (hρ : ρ.replaces = false) (r : Ref) (w : World) :
    (codeOf ρ r).run w =
      match w.keyFault? r with
      | some fault => .error fault w
      | none => .ok (w.codeOf r) w := by
  cases h : w.keyFault? r with
  | none => simp [codeOf, hρ, h]
  | some fault => simp only [codeOf, hρ]; simp [h]; rfl

/-! ## 2. Equality -/

/-- Compares the parts of two records, one after the other, up to the first that differ. -/
def comparePartsBy (equal : Ref → Ref → Action Bool) : List Ref → List Ref → Action Bool
  | [], [] => pure true
  | a :: as, b :: bs => do
    if a = b then comparePartsBy equal as bs
    else if ← equal a b then comparePartsBy equal as bs
    else pure false
  | _, _ => pure false

/-- Whether an object looks at the class of what it is compared with: records do, and objects that
    are equal to all of their kind. -/
def looksAtClass (x : Content) : Bool :=
  x.isRecord || x = .stock .equal

/-- Whether the values of two things are told apart without asking the class of the second: two
    numbers are, and two texts, and two mappings. -/
def knowsAnswer (w : World) (a b : Ref) : Bool :=
  match w.value? a, w.value? b with
  | some (.text _), some (.text _) | some (.mapping _), some (.mapping _) => true
  | some x, some y => (World.number? x).isSome && (World.number? y).isSome
  | _, _ => false

/-- What becomes of two things that are not both records of one kind. Values of one sort, and an
    object that is equal to all of its kind, know the answer; otherwise the class of the second
    thing may have something to say, if it did not say it yet. -/
def compareOthers (ρ : Dispatch) (a b : Ref) (asked : Bool) : Action Bool := do
  let w ← get
  if (w.content? a).any looksAtClass then checkAccess ρ b
  if w.content? a ≠ some (.stock .equal) && !knowsAnswer w a b then
    if !asked then
      let _ ← special ρ b "__eq__" 1
    if (w.content? b).any looksAtClass then checkAccess ρ a
  pure (w.like a = w.like b)

/-- **What two things are compared by**: the parts of records of one kind and the items of lists of
    one length, one after the other; the elements of sets of one size, with their codes; or, if they
    are two lists or two sets, just that they are not as long or not as large. -/
inductive Comparison where
  | inOrder (parts others : List Ref)
  | elements (items others : List Ref) (codes otherCodes : List (Ref × KeyCode))
  | unlike
  deriving DecidableEq, Repr

/-- The items of a list. -/
def listItems? (w : World) (r : Ref) : Option (List Ref) :=
  match r, w.content? r with
  | .datum (.list items) place, _ => some (Ref.ofData place items.toList)
  | _, some (.collection (.list items)) => some items
  | _, _ => none

/-- What two objects are compared by, if they are both records of one kind, or both sets. -/
def compareContents? : Content → Content → Option Comparison
  | .collection (.set items codes), .collection (.set others otherCodes) =>
    some (if items.length = others.length then .elements items others codes otherCodes else .unlike)
  | x, y =>
    match x.parts?, y.parts? with
    | some parts, some others =>
      if x.typeWord? = y.typeWord? then some (.inOrder parts others) else none
    | _, _ => none

/-- **What two things are compared by**, if they are compared by what is in them. -/
def comparison? (w : World) (a b : Ref) : Option Comparison :=
  match listItems? w a, listItems? w b with
  | some items, some others =>
    some (if items.length = others.length then .inOrder items others else .unlike)
  | _, _ => (w.content? a).bind fun x => (w.content? b).bind (compareContents? x)

/-- The code of a thing that was put somewhere. -/
def storedCode (w : World) (codes : List (Ref × KeyCode)) (r : Ref) : KeyCode :=
  (codes.lookup r).getD (w.codeOf r)

/-- **The first of these things that a newcomer of a code is the same as**: one of the same code
    that is the newcomer or equal to it. -/
def firstSame (equal : Ref → Ref → Action Bool) (codeAt : Ref → KeyCode) (r : Ref)
    (code : KeyCode) : List Ref → Action (Option Ref)
  | [] => pure none
  | e :: rest => do
    if codeAt e = code then
      if e = r then pure (some e)
      else if ← equal e r then pure (some e)
      else firstSame equal codeAt r code rest
    else firstSame equal codeAt r code rest

/-- Whether all of these things, with their codes, are among others. -/
def allAmong (equal : Ref → Ref → Action Bool) (codeAt otherCodeAt : Ref → KeyCode)
    (others : List Ref) : List Ref → Action Bool
  | [] => pure true
  | r :: rest => do
    match ← firstSame equal otherCodeAt r (codeAt r) others with
    | some _ => allAmong equal codeAt otherCodeAt others rest
    | none => pure false

/-- Whether two things are equal that are compared by what is in them. -/
def compareBy (equal : Ref → Ref → Action Bool) : Comparison → Action Bool
  | .inOrder parts others => comparePartsBy equal parts others
  | .elements items others codes otherCodes => do
    let w ← get
    allAmong equal (storedCode w codes) (storedCode w otherCodes) others items
  | .unlike => pure false

/-- Whether two things are equal. The class of the first has the first say, unless that of the
    second derives from it. What is in them is compared by `inner`, if there is one. -/
def equalBy (ρ : Dispatch) (inner : Option (Ref → Ref → Action Bool)) (a b : Ref) :
    Action Bool := do
  let w ← get
  let below := w.isBelow b a
  if below then
    let _ ← special ρ b "__eq__" 1
  let _ ← special ρ a "__eq__" 1
  match inner, comparison? w a b with
  | some inner, some compared => compareBy inner compared
  | _, _ => compareOthers ρ a b below

/-- Whether two things are equal, with things inside things to the given depth. -/
def areEqualTo (ρ : Dispatch) : Nat → Ref → Ref → Action Bool
  | 0 => equalBy ρ none
  | depth + 1 => equalBy ρ (some (areEqualTo ρ depth))

/-- **Whether two things are equal.** -/
def areEqual (ρ : Dispatch) (a b : Ref) : Action Bool := do
  let w ← get
  if ρ.replaces then areEqualTo ρ w.things.size a b else pure (w.like a = w.like b)

/-! ## 3. Newcomers -/

/-- **The thing that stands for a newcomer of a code** among those that are there: the first that it
    is the same as, or else the newcomer. -/
def settle (ρ : Dispatch) (codeAt : Ref → KeyCode) (r : Ref) (code : KeyCode)
    (items : List Ref) : Action Ref := do
  return (← firstSame (areEqual ρ) codeAt r code items).getD r

/-- The codes that were stored, and one more. That of the library is not stored. -/
def storeCode (w : World) (r : Ref) (code : KeyCode) (codes : List (Ref × KeyCode)) :
    List (Ref × KeyCode) :=
  if w.codeOf r = code then codes else Keyed.put id r code codes

/-- One thing more among those that are there, with their codes. -/
def addKey (ρ : Dispatch) (items : List Ref) (codes : List (Ref × KeyCode)) (r : Ref)
    (code : KeyCode) : Action (List Ref × List (Ref × KeyCode)) := do
  let w ← get
  let settled ← settle ρ (storedCode w codes) r code items
  pure (Keyed.add id items settled, storeCode w settled code codes)

/-- **Things without repetitions**, with their codes. -/
def addAllKeys (ρ : Dispatch) (items : List Ref) (codes : List (Ref × KeyCode)) :
    List Ref → Action (List Ref × List (Ref × KeyCode))
  | [] => pure (items, codes)
  | r :: rest => do
    let code ← codeOf ρ r
    let (items, codes) ← addKey ρ items codes r code
    addAllKeys ρ items codes rest

/-- **The set of these things**, with the codes of those that have one of their own. -/
def setOf (ρ : Dispatch) (items : List Ref) : Action (List Ref × List (Ref × KeyCode)) := do
  if ρ.replaces then addAllKeys ρ [] [] items
  else
    items.forM fun r => do
      let _ ← codeOf ρ r
    return (Keyed.addAll (← get).like [] items, [])

end Action

end AppMount
