/-!
# Decimal fractions in writing

The text of a decimal fraction that is given by its sign, its digits as one number, and how many of
them stand after the point.

* `shortDigits`: the digits that are written, without zeros at the end;
* `pointed`, `powered`: the two forms, with a point where it belongs, and with a power of ten;
* `fraction`: the text, in the form that its size asks for;
* `fraction_zero`: zero keeps its sign;
* `fraction_mul_ten`: a zero in one more place after the point is not written.
-/

namespace AppMount.Text

/-! ## 1. Digits -/

/-- The digits of a number, first to last, without zeros at the end. -/
def shortDigits (digits : Nat) : List Char :=
  ((Nat.toDigits 10 digits).reverse.dropWhile (· = '0')).reverse

/-- The power of ten of the first digit. -/
def firstPower (digits places : Nat) : Int :=
  (Nat.toDigits 10 digits).length - 1 - places

theorem toDigits_mul_ten {digits : Nat} (h : 0 < digits) :
    Nat.toDigits 10 (digits * 10) = Nat.toDigits 10 digits ++ ['0'] := by
  rw [Nat.toDigits_of_base_le (by decide) (by omega)]
  simp [Nat.digitChar]

/-- A zero at the end changes nothing about the digits that are written. -/
theorem shortDigits_mul_ten {digits : Nat} (h : 0 < digits) :
    shortDigits (digits * 10) = shortDigits digits := by
  simp [shortDigits, toDigits_mul_ten h]

theorem firstPower_mul_ten {digits : Nat} (h : 0 < digits) (places : Nat) :
    firstPower (digits * 10) (places + 1) = firstPower digits places := by
  simp only [firstPower, toDigits_mul_ten h, List.length_append, List.length_singleton]
  omega

/-! ## 2. The two forms -/

/-- Digits with a point after the first so many of them, and at least one digit on each side. -/
def pointed (digits : List Char) (before : Int) : String :=
  let padded := List.replicate (1 - before).toNat '0' ++ digits
  let cut := before.toNat.max 1
  let after := padded.drop cut
  String.ofList ((padded ++ List.replicate (cut - padded.length) '0').take cut) ++ "."
    ++ (if after.isEmpty then "0" else String.ofList after)

/-- Digits as one digit before the point, all others after it, and a power of ten of two digits or
    more. -/
def powered (digits : List Char) (power : Int) : String :=
  String.ofList (digits.take 1)
    ++ (if digits.length ≤ 1 then "" else "." ++ String.ofList (digits.drop 1))
    ++ (if power < 0 then "e-" else "e+") ++ (if power.natAbs < 10 then "0" else "")
    ++ toString power.natAbs

/-! ## 3. The text -/

/-- **A decimal fraction in writing.** It is written with a power of ten if it is smaller than a
    ten-thousandth, or has more than sixteen digits before the point. -/
def fraction (negative : Bool) (digits places : Nat) : String :=
  let power := firstPower digits places
  let size :=
    if digits = 0 then "0.0"
    else if -4 ≤ power ∧ power < 16 then pointed (shortDigits digits) (power + 1)
    else powered (shortDigits digits) power
  (if negative then "-" else "") ++ size

/-- **Zero keeps its sign**, however many places it has. -/
@[simp] theorem fraction_zero (negative : Bool) (places : Nat) :
    fraction negative 0 places = if negative then "-0.0" else "0.0" := by
  cases negative <;> simp [fraction]

/-- **A zero in one more place after the point is not written.** -/
theorem fraction_mul_ten (negative : Bool) (digits places : Nat) :
    fraction negative (digits * 10) (places + 1) = fraction negative digits places := by
  rcases Nat.eq_zero_or_pos digits with rfl | h
  · simp
  · have hne : digits * 10 ≠ 0 := by omega
    have hne' : digits ≠ 0 := by omega
    simp only [fraction, firstPower_mul_ten h, shortDigits_mul_ten h, hne, hne']

end AppMount.Text
