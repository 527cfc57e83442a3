import AppMount.Text.Decomposition

/-!
# Normal form of names

Two spellings of a name are one name when their normal forms are equal. The normal form takes every
character apart into what it stands for, puts marks in the order of their classes, and puts letters
and marks together again as far as that goes.

* `entries`, `markClass`: the tables of `AppMount.Text.Decomposition` as functions;
* `decompose`, `sortMarks`, `compose`: the three passes;
* `normal`: all of them;
* `normal_of_plain`: a name of plain characters is its own normal form.
-/

namespace AppMount.Text

/-! ## 1. The tables -/

/-- The value of a hexadecimal digit. -/
def hexValue (c : Char) : Nat :=
  if c.isDigit then c.toNat - 48 else c.toNat - 87

/-- The number that a text spells in hexadecimal digits. -/
def hexNumber (s : String) : Nat :=
  s.toList.foldl (fun n c => 16 * n + hexValue c) 0

/-- **An entry of a table**: `count` characters from `first` on, and what is said about them. -/
structure Entry where
  first : Nat
  count : Nat
  values : List Nat
  deriving DecidableEq, Repr

/-- Reads an entry whose two sides stand around `sign`. -/
def Entry.read (sign entry : String) : Entry :=
  let (head, values) := match entry.splitOn sign with
    | [head, values] => (head, (values.splitOn ".").map hexNumber)
    | _ => (entry, [])
  match head.splitOn "+" with
  | [first, count] => ⟨hexNumber first, hexNumber count, values⟩
  | _ => ⟨hexNumber head, 1, values⟩

/-- The entries of a table. -/
def entries (sign : String) (rows : List String) : List Entry :=
  rows.flatMap fun row => (row.splitOn " ").map (Entry.read sign)

/-- The characters made of two. -/
def pairs : List Entry :=
  entries "=" pairRows

/-- The characters that stand for others. -/
def substitutes : List Entry :=
  entries "=" substituteRows

/-- The marks. -/
def marks : List Entry :=
  entries ":" markRows

/-- The entry on a character, if there is one. -/
def entryOn? (table : List Entry) (c : Nat) : Option Entry :=
  table.find? fun e => e.first ≤ c && c < e.first + e.count

/-- The class of a mark; what is no mark has the class zero. -/
def markClass (c : Nat) : Nat :=
  ((entryOn? marks c).bind (·.values.head?)).getD 0

/-! ## 2. Syllables -/

/-- The characters of a composed syllable: an initial, a vowel and perhaps a final. -/
def syllableParts? (c : Nat) : Option (List Nat) :=
  if 0xAC00 ≤ c ∧ c < 0xAC00 + 11172 then
    let i := c - 0xAC00
    let parts := [0x1100 + i / 588, 0x1161 + i % 588 / 28]
    some (if i % 28 = 0 then parts else parts ++ [0x11A7 + i % 28])
  else none

/-- The syllable that two characters compose, if they do. -/
def syllable? (a b : Nat) : Option Nat :=
  if 0x1100 ≤ a ∧ a < 0x1113 ∧ 0x1161 ≤ b ∧ b < 0x1176 then
    some (0xAC00 + ((a - 0x1100) * 21 + (b - 0x1161)) * 28)
  else if 0xAC00 ≤ a ∧ a < 0xAC00 + 11172 ∧ (a - 0xAC00) % 28 = 0 ∧ 0x11A7 < b ∧ b < 0x11C3 then
    some (a + (b - 0x11A7))
  else none

/-! ## 3. Taking apart -/

/-- What a character comes apart into. A part may come apart itself, but not more than a few times
    over. -/
def partsOf : Nat → Nat → List Nat
  | 0, c => [c]
  | depth + 1, c =>
    match syllableParts? c, entryOn? substitutes c, entryOn? pairs c with
    | some parts, _, _ => parts
    | none, some e, _ => if e.count = 1 then e.values else e.values.map (· + (c - e.first))
    | none, none, some e => e.values.flatMap (partsOf depth)
    | none, none, none => [c]

/-- **Takes all characters apart.** -/
def decompose (cs : List Nat) : List Nat :=
  cs.flatMap (partsOf 4)

/-! ## 4. Putting in order -/

/-- Puts a mark in front of the marks of higher classes at the end of `before`, which is given from
    its end on. -/
def insertMark (c : Nat) : List Nat → List Nat
  | [] => [c]
  | d :: before =>
    if markClass c ≠ 0 ∧ markClass c < markClass d then d :: insertMark c before
    else c :: d :: before

/-- **Puts marks in the order of their classes**; those of one class keep their order. -/
def sortMarks (cs : List Nat) : List Nat :=
  (cs.foldl (fun before c => insertMark c before) []).reverse

/-! ## 5. Putting together -/

/-- The character that two characters become, if they do. -/
def composed? (a b : Nat) : Option Nat :=
  (syllable? a b).or ((pairs.find? (·.values = [a, b])).map (·.first))

/-- Puts together what follows the letter `starter`. `unjoined` are the marks behind it that did
    not join it, from the last on; they block what is not of a higher class than the last. -/
def composeFrom (starter : Nat) (unjoined : List Nat) : List Nat → List Nat
  | [] => starter :: unjoined.reverse
  | c :: rest =>
    let k := markClass c
    let blocked := match unjoined.head? with
      | some d => decide (k ≤ markClass d)
      | none => false
    match if blocked then none else composed? starter c with
    | some s => composeFrom s unjoined rest
    | none =>
      if k = 0 then starter :: unjoined.reverse ++ composeFrom c [] rest
      else composeFrom starter (c :: unjoined) rest

/-- **Puts letters and marks together.** Marks in front of the first letter stay as they are. -/
def compose (cs : List Nat) : List Nat :=
  let lead := cs.takeWhile (markClass · ≠ 0)
  match cs.dropWhile (markClass · ≠ 0) with
  | [] => lead
  | starter :: rest => lead ++ composeFrom starter [] rest

/-! ## 6. The normal form -/

/-- Whether a character is its own normal form whatever stands beside it. -/
def isPlain (c : Char) : Bool :=
  c.toNat < 0x80

/-- **The normal form of a name.** -/
def normal (name : String) : String :=
  if name.toList.all isPlain then name
  else
    String.ofList ((compose (sortMarks (decompose (name.toList.map Char.toNat)))).map Char.ofNat)

/-- **A name of plain characters is its own normal form.** -/
theorem normal_of_plain {name : String} (h : ∀ c ∈ name.toList, isPlain c = true) :
    normal name = name := by
  have all : name.toList.all isPlain = true := List.all_eq_true.mpr h
  simp [normal, all]

end AppMount.Text
