import AppMount.Keyed
import AppMount.Ref

/-!
# What stands in the place of a field

The fields of a thing hold values of their own kind. From outside anything else can be put in the
place of a field, and a field can lose its value. What is not of the field's kind is kept apart from
the values, together with the fields that have none.

* `StandIns`: the fields with something foreign, or with nothing at all;
* `StandIns.at?`: what stands in the place of a field; `StandIns.lacks`: whether it has no value;
* `StandIns.supply`, `StandIns.put`, `StandIns.drop`: how fields change;
* `at?_supply`, `at?_put`: what is found afterwards.
-/

namespace AppMount

/-- **The fields that have no value of their own kind**: each with what is in its place, if
    anything is. -/
abbrev StandIns := List (String × Option Ref)

namespace StandIns

/-- What stands in the place of a field: something, or no value at all. A field with a value of its
    own is not found. -/
def at? (s : StandIns) (field : String) : Option (Option Ref) :=
  Keyed.get? id field s

/-- Whether a field has no value at all. -/
def lacks (s : StandIns) (field : String) : Bool :=
  s.at? field = some none

/-- The fields after one of them is given a value of its own kind. -/
def supply (s : StandIns) (field : String) : StandIns :=
  s.filter (·.1 ≠ field)

/-- The fields after something foreign is put in the place of one of them. -/
def put (s : StandIns) (field : String) (r : Ref) : StandIns :=
  Keyed.put id field (some r) s

/-- The fields after one of them loses its value. -/
def drop (s : StandIns) (field : String) : StandIns :=
  Keyed.put id field none s

/-- Where nothing stands in, every field has a value of its own. -/
@[simp] theorem at?_nil (field : String) : at? [] field = none := rfl

@[simp] theorem lacks_nil (field : String) : lacks [] field = false := rfl

/-- A field that is given a value of its own has one. -/
theorem at?_supply (s : StandIns) (field : String) : (s.supply field).at? field = none := by
  induction s with
  | nil => rfl
  | cons e rest ih =>
    by_cases h : e.1 = field
    · simpa [supply, h] using ih
    · simpa [supply, h, at?, Keyed.get?] using ih

theorem at?_supply_of_ne (s : StandIns) {field other : String} (h : field ≠ other) :
    (s.supply field).at? other = s.at? other := by
  induction s with
  | nil => rfl
  | cons e rest ih =>
    obtain ⟨key, value⟩ := e
    by_cases he : key = field
    · subst he
      simpa [supply, at?, Keyed.get?, h] using ih
    · by_cases ho : key = other
      · subst ho
        simp [supply, at?, Keyed.get?, he]
      · simpa [supply, at?, Keyed.get?, he, ho] using ih

/-- What is put in the place of a field is found there. -/
theorem at?_put (s : StandIns) (field : String) (r : Ref) :
    (s.put field r).at? field = some (some r) := by
  simp [put, at?, Keyed.get?_put]

end StandIns

end AppMount
