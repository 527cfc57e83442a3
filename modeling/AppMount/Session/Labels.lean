import AppMount.Description
import AppMount.Sorting

/-!
# Labels in order

How labels are put in order. Labels are ordered by code point; nothing has no label, and no place in
that order, so that sorting breaks off at the first comparison with it.

* `Label`: a label, or nothing; `Label.before`: the order of labels;
* `World.sortedLabels`: the labels of things, in order.
-/

namespace AppMount

/-- A label, or nothing for nothing. -/
abbrev Label := Option String

namespace Label

/-- The word for the kind of a label in messages. -/
def typeWord (l : Label) : String :=
  if l.isSome then "str" else "NoneType"

/-- **Whether a label comes before another one.** -/
def before : Label → Label → Except Fault Bool
  | some a, some b => .ok (decide (a < b))
  | l, l' => .error (.notOrdered l.typeWord l'.typeWord)

end Label

/-- The labels of things, in order. -/
def World.sortedLabels (w : World) (rs : List Ref) : Except Fault (List Label) :=
  Sorting.sorted Label.before (rs.map w.label)

end AppMount
