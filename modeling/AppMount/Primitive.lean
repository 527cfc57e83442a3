import AppMount.Description
import AppMount.Text.Numeral

/-!
# Calling the primitive classes

What a call of the classes of whole numbers and of texts, or of a class below one of them, converts
its arguments into.

* `Converted`: what a conversion comes to;
* `Action.wholeOf`, `Action.textOf`: the two conversions;
* `Action.truthOf`: whether a thing counts as true;
* `run_wholeOf_nil`, `run_textOf_nil`: a call without arguments.
-/

namespace AppMount

/-! ## 1. Arguments -/

/-- Refuses more than `most` arguments, and a name. -/
def Arguments.checkPositional (args : Arguments) (callee : String) (most : Nat) :
    Except Fault Unit :=
  if most < args.count then .error (.conversion (.tooMany callee most args.count))
  else if args.name.isSome then .error (.conversion (.keyword callee "name"))
  else .ok ()

/-- **What a conversion comes to**: a value, and the place where it was written, unless the value is
    a new one. -/
structure Converted where
  value : Datum
  place : Option Nat
  deriving DecidableEq, Repr

namespace World

/-! ## 2. Whole numbers -/

/-- The whole number that a number is, or is cut to. -/
def number? : Datum → Option Int
  | .whole n => some n
  | .truth b => some (if b then 1 else 0)
  | .decimal negative digits places =>
    some ((Datum.signed negative digits).tdiv (Int.pow 10 places))
  | _ => none

/-- The whole number that a datum is without being cut. -/
def whole? : Datum → Option Int
  | .whole n => some n
  | .truth b => some (if b then 1 else 0)
  | _ => none

/-! ## 3. Texts -/

/-- Refuses an argument that is no text, or that holds a null character. -/
def checkText (w : World) (callee argument : String) (r : Ref) : Except Fault Unit :=
  match w.value? r with
  | some (.text s) =>
    if s.toList.contains (Char.ofNat 0) then .error (.conversion .nullInText) else .ok ()
  | _ =>
    .error (.conversion (.notText callee argument (if r = .none then "None" else w.typeName r)))

/-- The fault of decoding a thing, as none is encoded. -/
def decodingFault (w : World) (r : Ref) : Fault :=
  match w.value? r with
  | some (.text _) => .conversion .decodedText
  | _ => .conversion (.notEncoded (w.typeName r))

/-- The fault of making a text out of encoded bytes, as none is encoded. -/
def decodedText (w : World) (r encoding : Ref) (errors : List Ref) : Except Fault Converted := do
  w.checkText "str" "encoding" encoding
  errors.forM (w.checkText "str" "errors")
  .error (w.decodingFault r)

end World

namespace Action

/-! ## 4. Numbers that classes make -/

/-- The whole number that a method for numbers hands back. One that is a whole number itself is
    handed on as it is. -/
def wholeOffered (method : String) : Offer → Action (Int × Converted)
  | .datum (.whole n) place => pure (n, ⟨.whole n, some place⟩)
  | .datum d _ =>
    match World.whole? d with
    | some n => pure (n, ⟨.whole n, none⟩)
    | none => throw (.wrongResult (.whole method d.typeWord))
  | offer => throw (.wrongResult (.whole method offer.typeWord))

/-- The first of these methods for numbers that the class of a thing has, and what it hands back. -/
def firstWhole (ρ : Dispatch) (r : Ref) : List String → Action (Option (Int × Converted))
  | [] => pure none
  | method :: rest => do
    match ← special ρ r method 0 with
    | some offer => return some (← wholeOffered method offer)
    | none => firstWhole ρ r rest

/-- The whole number that a text spells. If it spells none, the fault describes the thing that has
    the text for its value. -/
def spelled (ρ : Dispatch) (base : Int) (r : Ref) (s : String) : Action Int := do
  let digits := Text.digitCount base.toNat s
  if mostDigits < digits then throw (.conversion (.tooManyDigits digits))
  match Text.wholeOf? base.toNat s with
  | some n => pure n
  | none => throw (.conversion (.notSpelled base (← describe ρ r)))

/-- **A thing as a whole number**: by the method of its class for that, as the number that it is, by
    one of two other methods of its class, or as the number that it spells. -/
def numberOf (ρ : Dispatch) (r : Ref) : Action Converted := do
  match ← firstWhole ρ r ["__int__"], ((← get).value? r).bind World.number? with
  | some (_, made), _ => pure made
  | none, some n => pure ⟨.whole n, none⟩
  | none, none =>
    match ← firstWhole ρ r ["__index__", "__trunc__"], (← get).value? r with
    | some (_, made), _ => pure made
    | none, some (.text s) => return ⟨.whole (← spelled ρ 10 r s), none⟩
    | none, _ => throw (.conversion (.notNumber ((← get).typeName r)))

/-- A thing as the base of a number. -/
def baseOf (ρ : Dispatch) (r : Ref) : Action Int := do
  match ((← get).value? r).bind World.whole? with
  | some b => pure b
  | none =>
    match ← firstWhole ρ r ["__index__"] with
    | some (b, _) => pure b
    | none => throw (.conversion (.notBase ((← get).typeName r)))

/-- A text as a whole number to a base. -/
def numberToBase (ρ : Dispatch) (r base : Ref) : Action Int := do
  let b ← baseOf ρ base
  if b ≠ 0 ∧ b < 2 ∨ 36 < b then throw (.conversion .noSuchBase)
  else
    match (← get).value? r with
    | some (.text s) => spelled ρ b r s
    | _ => throw (.conversion .baseWithoutText)

/-- **The whole number that a call makes**: zero, a thing as a number, or a text to a base. -/
def wholeOf (ρ : Dispatch) (args : Arguments) : Action Converted := do
  ofExcept (args.checkPositional "int" 2)
  match args.positional with
  | [] => pure ⟨.whole 0, none⟩
  | [r] => numberOf ρ r
  | r :: base :: _ => return ⟨.whole (← numberToBase ρ r base), none⟩

@[simp] theorem run_wholeOf_nil (ρ : Dispatch) (w : World) :
    (wholeOf ρ {}).run w = .ok ⟨.whole 0, none⟩ w := rfl

/-! ## 5. Texts that classes make -/

/-- The text that a method for texts hands back, which is handed on as it is. -/
def convertedText (offer : Offer) : Action Converted := do
  let s ← textOffered "__str__" offer
  pure ⟨.text s, offer.place?⟩

/-- The text of a thing that is described. Those of the truth values are there already. -/
def describedText (ρ : Dispatch) (r : Ref) : Action Converted := do
  let s ← describe ρ r
  match r with
  | .datum (.truth _) _ => pure ⟨.text s, some 0⟩
  | _ => pure ⟨.text s, none⟩

/-- A thing as a text: a text is itself, and anything else is described. A class may have a way of
    its own to make texts, or to describe, which then is the way to make texts too. -/
def plainText (ρ : Dispatch) (r : Ref) : Action Converted := do
  match ← special ρ r "__str__" 0 with
  | some offer => convertedText offer
  | none =>
    if let some (.text s) := (← get).value? r then return ⟨.text s, none⟩
    match ← special ρ r "__repr__" 0 with
    | some offer => convertedText offer
    | none => describedText ρ r

/-- **The text that a call makes**: the empty one, or a thing as a text. -/
def textOf (ρ : Dispatch) (args : Arguments) : Action Converted := do
  ofExcept (args.checkPositional "str" 3)
  match args.positional with
  | [] => pure ⟨.text "", none⟩
  | [r] => plainText ρ r
  | r :: encoding :: errors => ofExcept ((← get).decodedText r encoding errors)

/-- **Whether a thing counts as true.** A class may have a way of its own to tell. -/
def truthOf (ρ : Dispatch) (r : Ref) : Action Bool := do
  match ← special ρ r "__bool__" 0 with
  | some (.datum (.truth b) _) => pure b
  | some offer => throw (.wrongResult (.truth offer.typeWord))
  | none =>
    match ← special ρ r "__len__" 0 with
    | some (.datum d _) =>
      match World.whole? d with
      | some n =>
        if n < 0 then throw (.wrongResult .length)
        else if isMachineWord n then pure (n != 0)
        else throw .hugeLength
      | none => throw (.conversion (.notBase d.typeWord))
    | some offer => throw (.conversion (.notBase offer.typeWord))
    | none => return (← get).isTrue r

@[simp] theorem run_textOf_nil (ρ : Dispatch) (w : World) :
    (textOf ρ {}).run w = .ok ⟨.text "", none⟩ w := rfl

end Action

end AppMount
