/-!
# Spelled numbers

Which whole number a text spells. Digits may be those of any script, and the letters go on after
nine. Blanks may stand around the number, a sign before it, and an underscore between any two of its
digits. To the bases 2, 8 and 16 a mark of the base may stand before the digits.

* `zeros`, `plainDigit`, `blanks`: the characters, by Unicode 14;
* `digitsValue?`: the value of a row of digits; `magnitude?`: the same with a mark of the base;
* `wholeOf?`: all of it; `digitCount`: how many digits that takes;
* `wholeOf?_toString`: a written number reads back.
-/

namespace AppMount.Text

/-! ## 1. Characters -/

/-- **The zeros of all scripts but the plain one.** The other nine digits of a script follow its
    zero. -/
def zeros : List Nat :=
  [0x660, 0x6f0, 0x7c0, 0x966, 0x9e6, 0xa66, 0xae6, 0xb66, 0xbe6, 0xc66, 0xce6, 0xd66, 0xde6, 0xe50,
   0xed0, 0xf20, 0x1040, 0x1090, 0x17e0, 0x1810, 0x1946, 0x19d0, 0x1a80, 0x1a90, 0x1b50, 0x1bb0,
   0x1c40, 0x1c50, 0xa620, 0xa8d0, 0xa900, 0xa9d0, 0xa9f0, 0xaa50, 0xabf0, 0xff10, 0x104a0, 0x10d30,
   0x11066, 0x110f0, 0x11136, 0x111d0, 0x112f0, 0x11450, 0x114d0, 0x11650, 0x116c0, 0x11730,
   0x118e0, 0x11950, 0x11c50, 0x11d50, 0x11da0, 0x16a60, 0x16ac0, 0x16b50, 0x1d7ce, 0x1d7d8,
   0x1d7e2, 0x1d7ec, 0x1d7f6, 0x1e140, 0x1e2f0, 0x1e950, 0x1fbf0]

/-- The plain digit for a digit of any script. Anything else stays as it is. -/
def plainDigit (c : Char) : Char :=
  if c.toNat < 128 then c
  else
    match zeros.find? fun first => first ≤ c.toNat && c.toNat < first + 10 with
    | some first => Char.ofNat ('0'.toNat + (c.toNat - first))
    | none => c

/-- The characters that may stand around a number. -/
def blanks : List Char :=
  ['\t', '\n', '\x0b', '\x0c', '\r', ' ', '\u0085', '\u00a0', '\u1680', '\u2000', '\u2001',
   '\u2002', '\u2003', '\u2004', '\u2005', '\u2006', '\u2007', '\u2008', '\u2009', '\u200a',
   '\u2028', '\u2029', '\u202f', '\u205f', '\u3000']

/-- Whether a character may stand around a number. -/
def isBlank (c : Char) : Bool :=
  blanks.contains c

/-- A text without the blanks around it. -/
def trimmed (cs : List Char) : List Char :=
  ((cs.dropWhile isBlank).reverse.dropWhile isBlank).reverse

/-! ## 2. Digits -/

/-- The value of a digit; the letters go on after nine. -/
def digitValue? (c : Char) : Option Nat :=
  if c.isDigit then some (c.toNat - '0'.toNat)
  else if c.isAlpha then some (c.toLower.toNat - 'a'.toNat + 10)
  else none

/-- Reads one more character after those of value `read.1`: a digit, or an underscore if the last
    character was a digit, which `read.2` says. -/
def readDigit? (base : Nat) (read : Nat × Bool) (c : Char) : Option (Nat × Bool) :=
  if c = '_' then if read.2 then some (read.1, false) else none
  else (digitValue? c).bind fun d => if d < base then some (base * read.1 + d, true) else none

/-- **The value of a row of digits**, which starts and ends with one. -/
def digitsValue? (base : Nat) (digits : List Char) : Option Nat :=
  match digits.foldlM (readDigit? base) (0, false) with
  | some (n, true) => some n
  | _ => none

/-- The base that a mark after a zero stands for. -/
def markedBase? (mark : Char) : Option Nat :=
  match mark.toLower with
  | 'b' => some 2
  | 'o' => some 8
  | 'x' => some 16
  | _ => none

/-- **The value of digits that may have a mark of the base before them**, and an underscore after
    the mark. The base zero is the one that the mark says, and ten if there is none; then only zero
    itself starts with a zero. -/
def magnitude? (base : Nat) : List Char → Option Nat
  | '0' :: mark :: digits =>
    match markedBase? mark with
    | some marked =>
      if base = 0 ∨ base = marked then
        digitsValue? marked (if digits.head? = some '_' then digits.tail else digits)
      else digitsValue? base ('0' :: mark :: digits)
    | none =>
      if base = 0 then (digitsValue? 10 ('0' :: mark :: digits)).filter (· = 0)
      else digitsValue? base ('0' :: mark :: digits)
  | digits => digitsValue? (if base = 0 then 10 else base) digits

/-- **The whole number that a text spells** to a base. -/
def wholeOf? (base : Nat) (s : String) : Option Int :=
  match trimmed (s.toList.map plainDigit) with
  | '-' :: digits => (magnitude? base digits).map fun n => -(n : Int)
  | '+' :: digits => (magnitude? base digits).map fun n => (n : Int)
  | digits => (magnitude? base digits).map fun n => (n : Int)

/-- The digits that stand at the front of a row, if an underscore there is only ever between two of
    them. -/
def frontDigits (base : Nat) (cs : List Char) : List Char :=
  let front := cs.takeWhile fun c => c = '_' || (digitValue? c).any (· < base)
  if (digitsValue? base front).isSome then front.filter (· ≠ '_') else []

/-- Whether the digits to a base are read one by one into a number, without any arithmetic. -/
def isBinary (base : Nat) : Bool :=
  [2, 4, 8, 16, 32].contains base

/-- **How many digits have to be worked out** to know the number that a text starts with. To a base
    that is a power of two there are none. -/
def digitCount (base : Nat) (s : String) : Nat :=
  let unsigned := match trimmed (s.toList.map plainDigit) with
    | '-' :: digits | '+' :: digits | digits => digits
  if isBinary base then 0
  else
    match base, unsigned with
    | 0, '0' :: mark :: _ =>
      if (markedBase? mark).isSome then 0 else (frontDigits 10 unsigned).length
    | 0, unsigned => (frontDigits 10 unsigned).length
    | base, unsigned => (frontDigits base unsigned).length

/-! ## 3. Reading what was written -/

/-- A plain digit is no blank. -/
theorem isBlank_eq_false_of_isDigit {c : Char} (h : c.isDigit = true) : isBlank c = false := by
  have apart : blanks.all (fun b => !b.isDigit) = true := rfl
  cases hb : isBlank c with
  | false => rfl
  | true =>
    have := List.all_eq_true.mp apart c (by simpa [isBlank] using hb)
    simp_all

/-- A text without blanks has none around it. -/
theorem trimmed_of_dense {cs : List Char} (h : ∀ c ∈ cs, isBlank c = false) : trimmed cs = cs := by
  have dense : ∀ xs : List Char, (∀ c ∈ xs, isBlank c = false) → xs.dropWhile isBlank = xs := by
    intro xs hxs
    cases xs with
    | nil => rfl
    | cons x rest => simp [hxs x (by simp)]
  unfold trimmed
  rw [dense cs h, dense cs.reverse fun c hc => h c (by simpa using hc), List.reverse_reverse]

/-- Plain digits are themselves. -/
theorem map_plainDigit_of_plain {cs : List Char} (h : ∀ c ∈ cs, c.toNat < 128) :
    cs.map plainDigit = cs := by
  rw [List.map_congr_left (g := id) fun c hc => by simp [plainDigit, h c hc], List.map_id]

/-- Plain digits to base ten always have a value. -/
theorem digitsValue?_eq_ofDigitChars {digits : List Char} (hne : digits ≠ [])
    (h : ∀ c ∈ digits, c.isDigit = true) :
    digitsValue? 10 digits = some (Nat.ofDigitChars 10 digits 0) := by
  have fold : ∀ (cs : List Char) (read : Nat × Bool), (∀ c ∈ cs, c.isDigit = true) →
      cs.foldlM (readDigit? 10) read
        = some (Nat.ofDigitChars 10 cs read.1, read.2 || !cs.isEmpty) := by
    intro cs
    induction cs with
    | nil => intro read _; simp [Nat.ofDigitChars]
    | cons c rest ih =>
      intro read hcs
      have hc : c.isDigit = true := hcs c (by simp)
      have small : c.toNat - '0'.toNat < 10 := by
        simp only [Char.isDigit, Bool.and_eq_true, decide_eq_true_eq] at hc
        have := UInt32.le_iff_toNat_le.mp hc.2
        simp only [Char.toNat]
        have h9 : ('9'.val).toNat = 57 := rfl
        have h0 : ('0'.val).toNat = 48 := rfl
        omega
      have digit : c ≠ '_' := fun eq => by simp [eq] at hc
      rw [List.foldlM_cons]
      have step : readDigit? 10 read c = some (10 * read.1 + (c.toNat - '0'.toNat), true) := by
        simp only [readDigit?, digitValue?, digit, hc, if_true, if_false, Option.bind_some, small]
      rw [step]
      have tail := ih (10 * read.1 + (c.toNat - '0'.toNat), true) fun x hx => hcs x (by simp [hx])
      simpa [Nat.ofDigitChars] using tail
  have nonempty : digits.isEmpty = false := by simpa using hne
  unfold digitsValue?
  rw [fold digits (0, false) h]
  simp [nonempty]

/-- The digits of a number have the number as their value. -/
theorem digitsValue?_toDigits (n : Nat) : digitsValue? 10 (Nat.toDigits 10 n) = some n := by
  rw [digitsValue?_eq_ofDigitChars Nat.toDigits_ne_nil
    fun c hc => Nat.isDigit_of_mem_toDigits (by omega) (by omega) hc,
    Nat.ofDigitChars_toDigits (by omega) (by omega)]

/-- Ten is the base of no mark. -/
theorem magnitude?_ten (digits : List Char) : magnitude? 10 digits = digitsValue? 10 digits := by
  have unmarked : ∀ mark, markedBase? mark ≠ some 10 := by
    intro mark
    unfold markedBase?
    split <;> simp
  unfold magnitude?
  split
  · rename_i mark rest
    cases hm : markedBase? mark with
    | none => simp
    | some marked =>
      have : (10 : Nat) ≠ marked := fun eq => unmarked mark (by rw [hm, ← eq])
      simp [this]
  · simp

/-- A written natural number reads back. -/
theorem magnitude?_toDigits (n : Nat) : magnitude? 10 (Nat.toDigits 10 n) = some n := by
  rw [magnitude?_ten, digitsValue?_toDigits]

/-- **A written number reads back.** -/
theorem wholeOf?_toString (n : Int) : wholeOf? 10 (toString n) = some n := by
  have digits : ∀ m, ∀ c ∈ Nat.toDigits 10 m, c.isDigit = true := fun m c hc =>
    Nat.isDigit_of_mem_toDigits (by omega) (by omega) hc
  have plain : ∀ c : Char, c.isDigit = true → c.toNat < 128 := by
    intro c hc
    simp only [Char.isDigit, Bool.and_eq_true, decide_eq_true_eq] at hc
    have := UInt32.le_iff_toNat_le.mp hc.2
    simp only [Char.toNat]
    have h9 : ('9'.val).toNat = 57 := rfl
    omega
  rw [Int.toString_eq_repr]
  cases n with
  | ofNat m =>
    have written : (Int.repr (Int.ofNat m)).toList = Nat.toDigits 10 m := by
      simp [Int.repr]
    unfold wholeOf?
    rw [written, map_plainDigit_of_plain fun c hc => plain c (digits m c hc),
      trimmed_of_dense fun c hc => isBlank_eq_false_of_isDigit (digits m c hc)]
    have read := magnitude?_toDigits m
    have first := digits m
    generalize Nat.toDigits 10 m = row at read first
    split
    · exact absurd (first '-' (by simp)) (by decide)
    · exact absurd (first '+' (by simp)) (by decide)
    · simp [read]
  | negSucc m =>
    have written : (Int.repr (Int.negSucc m)).toList = '-' :: Nat.toDigits 10 (m + 1) := by
      simp [Int.repr]
    unfold wholeOf?
    rw [written, map_plainDigit_of_plain (by
        intro c hc
        rcases List.mem_cons.mp hc with rfl | hc
        · decide
        · exact plain c (digits _ c hc)),
      trimmed_of_dense (by
        intro c hc
        rcases List.mem_cons.mp hc with rfl | hc
        · decide
        · exact isBlank_eq_false_of_isDigit (digits _ c hc))]
    simp [magnitude?_toDigits, Int.negSucc_eq]

end AppMount.Text
