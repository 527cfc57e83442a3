import AppMount.Text.Fraction
import AppMount.Text.Quoted

/-!
# Plain data

The values a property of an application may hold: nothing, truth values, whole numbers of any size,
decimal fractions, texts, lists, and mappings. Application code may also hand one out where a
collection is expected, so this file says how a datum reads there.

* `Datum`, with its lists and its mappings as inductive types of their own, so that equality of
  data is decidable;
* `Datum.typeWord`: the word for the kind of a datum in messages;
* `Datum.isKey`: lists and mappings are no keys; `Datum.isTrue`: what counts as true;
* `Datum.isShared`: the data of which there is only one copy;
* `Datum.elements?`: what a datum yields when it is read one element at a time; `Datum.span`: how
  many things it is;
* `Datum.describe`: the text of a datum in descriptions; `Datum.plain`: its text by itself;
* `Datum.key`: the representative of a datum among all that are equal to it -- a truth value counts
  as zero or one, and a decimal fraction without a fractional part as a whole number.
-/

namespace AppMount

/-! ## 1. The type -/

mutual
/-- **A value of plain data.** A decimal is its sign, which zero has too, its digits, and the number
    of places after the point. -/
inductive Datum where
  | null
  | truth (value : Bool)
  | whole (value : Int)
  | decimal (negative : Bool) (digits places : Nat)
  | text (value : String)
  | list (items : Datum.Items)
  | mapping (fields : Datum.Fields)
  deriving DecidableEq, Repr

/-- The items of a list, first to last. -/
inductive Datum.Items where
  | nil
  | cons (item : Datum) (rest : Datum.Items)
  deriving DecidableEq, Repr

/-- The fields of a mapping, in the order they were written. -/
inductive Datum.Fields where
  | nil
  | cons (key value : Datum) (rest : Datum.Fields)
  deriving DecidableEq, Repr
end

namespace Datum

instance : Inhabited Datum := ⟨.null⟩

/-- The items as a list. -/
def Items.toList : Items → List Datum
  | .nil => []
  | .cons item rest => item :: rest.toList

/-- The items of a list of data. -/
def Items.ofList : List Datum → Items
  | [] => .nil
  | item :: rest => .cons item (ofList rest)

@[simp] theorem Items.toList_ofList (items : List Datum) : (Items.ofList items).toList = items := by
  induction items with
  | nil => rfl
  | cons item rest ih => simp [ofList, toList, ih]

/-- The fields as a list of pairs. -/
def Fields.toList : Fields → List (Datum × Datum)
  | .nil => []
  | .cons key value rest => (key, value) :: rest.toList

/-- The fields of a list of pairs. -/
def Fields.ofList : List (Datum × Datum) → Fields
  | [] => .nil
  | (key, value) :: rest => .cons key value (ofList rest)

@[simp] theorem Fields.toList_ofList (fields : List (Datum × Datum)) :
    (Fields.ofList fields).toList = fields := by
  induction fields with
  | nil => rfl
  | cons field rest ih => simp [ofList, toList, ih]

/-- A text, or nothing. -/
def ofText : Option String → Datum
  | some s => .text s
  | none => .null

/-! ## 2. Kinds -/

/-- The word for the kind of a datum. -/
def typeWord : Datum → String
  | .null => "NoneType"
  | .truth _ => "bool"
  | .whole _ => "int"
  | .decimal .. => "float"
  | .text _ => "str"
  | .list _ => "list"
  | .mapping _ => "dict"

/-- Whether a datum may be a key or an element of a set. -/
def isKey : Datum → Bool
  | .list _ | .mapping _ => false
  | _ => true

/-- **Whether there is only one copy of a datum.** Any other datum is a thing of its own wherever it
    is written. -/
def isShared : Datum → Bool
  | .null | .truth _ => true
  | .whole n => -5 ≤ n && n ≤ 256
  | .text s => match s.toList with
    | [] => true
    | [c] => c.toNat < 256
    | _ => false
  | _ => false

/-- **Whether a datum counts as true**: zero and everything empty do not. -/
def isTrue : Datum → Bool
  | .null => false
  | .truth b => b
  | .whole n => n != 0
  | .decimal _ digits _ => digits != 0
  | .text s => !s.isEmpty
  | .list items => !items.toList.isEmpty
  | .mapping fields => !fields.toList.isEmpty

/-! ## 3. Reading a datum element by element -/

/-- **What a datum yields as a collection**: the items of a list, the keys of a mapping, the
    characters of a text; nothing else is a collection. -/
def elements? : Datum → Option (List Datum)
  | .list items => some items.toList
  | .mapping fields => some (fields.toList.map (·.1))
  | .text s => some (s.toList.map fun c => .text (String.singleton c))
  | _ => none

mutual
/-- **How many places a datum takes**: one for itself and those of each thing in it. -/
def span : Datum → Nat
  | .list items => items.span + 1
  | .mapping fields => fields.span + 1
  | .text s => s.length + 1
  | _ => 1

/-- How many places items take. -/
def Items.span : Items → Nat
  | .nil => 0
  | .cons item rest => item.span + rest.span

/-- How many places fields take. -/
def Fields.span : Fields → Nat
  | .nil => 0
  | .cons key value rest => key.span + value.span + rest.span
end

/-! ## 4. Texts -/

mutual
/-- **The text of a datum in descriptions.** -/
def describe : Datum → String
  | .null => "None"
  | .truth b => Text.truthWord b
  | .whole n => toString n
  | .decimal negative digits places => Text.fraction negative digits places
  | .text s => Text.quoted s
  | .list items => "[" ++ ", ".intercalate items.describeAll ++ "]"
  | .mapping fields => "\x7b" ++ ", ".intercalate fields.describeAll ++ "\x7d"

/-- The texts of items. -/
def Items.describeAll : Items → List String
  | .nil => []
  | .cons item rest => item.describe :: rest.describeAll

/-- The texts of fields. -/
def Fields.describeAll : Fields → List String
  | .nil => []
  | .cons key value rest => (key.describe ++ ": " ++ value.describe) :: rest.describeAll
end

/-- **The text of a datum by itself**: a text is its own, and anything else is described. -/
def plain : Datum → String
  | .text s => s
  | d => d.describe

@[simp] theorem plain_text (s : String) : (text s).plain = s := rfl

/-! ## 5. Equality -/

/-- A number by its sign and its size. -/
def signed (negative : Bool) (size : Nat) : Int :=
  if negative then -size else size

/-- Drops places after the point as long as they are zero. -/
def shortDecimal (negative : Bool) : Nat → Nat → Datum
  | digits, 0 => .whole (signed negative digits)
  | digits, places + 1 =>
    if digits % 10 = 0 then shortDecimal negative (digits / 10) places
    else .decimal negative digits (places + 1)

/-- Fields in the order of the descriptions of their keys. -/
def inKeyOrder (fields : List (Datum × Datum)) : List (Datum × Datum) :=
  fields.mergeSort fun e e' => decide (e.1.describe ≤ e'.1.describe)

mutual
/-- **The representative of a datum among all that are equal to it.** Two data are equal, and are
    one key, when their representatives are the same: numbers count by their value, lists item by
    item, and mappings whatever the order of their fields. -/
def key : Datum → Datum
  | .null => .null
  | .truth b => .whole (if b then 1 else 0)
  | .whole n => .whole n
  | .decimal negative digits places => shortDecimal negative digits places
  | .text s => .text s
  | .list items => .list items.keys
  | .mapping fields => .mapping (.ofList (inKeyOrder fields.keys))

/-- The representatives of items. -/
def Items.keys : Items → Items
  | .nil => .nil
  | .cons item rest => .cons item.key rest.keys

/-- The representatives of keys and values, field by field. -/
def Fields.keys : Fields → List (Datum × Datum)
  | .nil => []
  | .cons key value rest => (key.key, value.key) :: rest.keys
end

@[simp] theorem key_null : null.key = null := by simp [key]

@[simp] theorem key_text (s : String) : (text s).key = text s := by simp [key]

@[simp] theorem key_whole (n : Int) : (whole n).key = whole n := by simp [key]

end Datum

end AppMount
