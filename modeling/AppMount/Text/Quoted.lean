import AppMount.Text.Printable

/-!
# Quoted text

The form in which names and paths stand inside messages and descriptions: a text between quotes,
with everything that does not print written as an escape.

* the quote is `'`, unless the text holds a `'` and no `"`; then it is `"`;
* the quote in use and the backslash get a backslash, and tab, line feed and carriage return are
  `\t`, `\n`, `\r`;
* any other character that does not print is its code point in hexadecimal, in the shortest of
  `\xNN`, `\uNNNN` and `\UNNNNNNNN` that holds it;
* `quoteFor_eq_double_iff` says when the double quote is used.
-/

namespace AppMount.Text

/-! ## 1. Hexadecimal digits -/

/-- The lower-case hexadecimal digit of `d < 16`. -/
def hexDigit (d : Nat) : Char :=
  if d < 10 then Char.ofNat (48 + d) else Char.ofNat (87 + d)

/-- The last `width` hexadecimal digits of `n`, the most significant first. -/
def hexDigits : Nat → Nat → List Char
  | 0, _ => []
  | width + 1, n => hexDigits width (n / 16) ++ [hexDigit (n % 16)]

@[simp] theorem length_hexDigits (width n : Nat) : (hexDigits width n).length = width := by
  induction width generalizing n with
  | zero => rfl
  | succ width ih => simp [hexDigits, ih]

/-! ## 2. One character -/

/-- A character by its code point, in the shortest escape that holds it. -/
def codePointEscape (c : Char) : List Char :=
  if c.toNat < 0x100 then '\\' :: 'x' :: hexDigits 2 c.toNat
  else if c.toNat < 0x10000 then '\\' :: 'u' :: hexDigits 4 c.toNat
  else '\\' :: 'U' :: hexDigits 8 c.toNat

/-- A character as it stands between two quotes `quote`. -/
def quotedChar (quote c : Char) : List Char :=
  if c = quote ∨ c = '\\' then ['\\', c]
  else if c = '\t' then ['\\', 't']
  else if c = '\n' then ['\\', 'n']
  else if c = '\r' then ['\\', 'r']
  else if isPrinting c then [c]
  else codePointEscape c

/-! ## 3. A whole text -/

/-- **The quote a text is put between**: the single one, unless the text holds it and not the
    double one. -/
def quoteFor (s : String) : Char :=
  if '\'' ∈ s.toList ∧ '"' ∉ s.toList then '"' else '\''

theorem quoteFor_eq_double_iff (s : String) :
    quoteFor s = '"' ↔ '\'' ∈ s.toList ∧ '"' ∉ s.toList := by
  unfold quoteFor
  split <;> simp_all

/-- A text between quotes. -/
def quoted (s : String) : String :=
  String.ofList (quoteFor s :: s.toList.flatMap (quotedChar (quoteFor s)) ++ [quoteFor s])

/-- An optional text put into a message as it is. -/
def plainOrNone : Option String → String
  | some s => s
  | none => "None"

/-- The word for a truth value. -/
def truthWord (b : Bool) : String :=
  if b then "True" else "False"

/-! ## 4. Lists of texts -/

/-- Fields in round brackets after a heading, separated by commas. -/
def headed (heading : String) (fields : List String) : String :=
  heading ++ "(" ++ ", ".intercalate fields ++ ")"

/-- A fixed list in round brackets; a list of one keeps a comma to show that it is a list. -/
def bracketed : List String → String
  | [item] => "(" ++ item ++ ",)"
  | items => "(" ++ ", ".intercalate items ++ ")"

/-- Names in prose: the last is joined by "and", with a comma before it from three names on. -/
def enumerated : List String → String
  | [] => ""
  | [a] => a
  | [a, b] => a ++ " and " ++ b
  | items => ", ".intercalate items.dropLast ++ ", and " ++ items.getLastD ""

end AppMount.Text
