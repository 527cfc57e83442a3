import AppMount.Fault

/-!
# Putting things in order

Sorting by a comparison that may fail, because not all things have an order among themselves. Then
it matters which two things are compared first, and that depends on how sorting goes through a list:
it takes one stretch after the other, as far as the stretch is in order by itself and at least up to
a length that depends on that of the list, puts each further element of the stretch where it
belongs, and merges the stretches in the end.

* `Datum.before`: the order of plain data, as far as they have one;
* `Sorting.leastStretch`, `Sorting.naturalRun`, `Sorting.insert`: how a stretch comes about;
* `Sorting.sorted`: a list in order, or the fault of the first comparison that fails.
-/

namespace AppMount

/-! ## 1. The order of plain data -/

namespace Datum

/-- The number that a datum is, as digits and the places after the point. -/
def number? : Datum → Option (Int × Nat)
  | .truth b => some (if b then 1 else 0, 0)
  | .whole n => some (n, 0)
  | .decimal negative digits places => some (signed negative digits, places)
  | _ => none

mutual
/-- **Whether a datum comes before another one**: numbers are ordered by their value, texts by code
    point, and lists by the first items that differ. Nothing else has an order. -/
def before : Datum → Datum → Except Fault Bool
  | .text a, .text b => .ok (decide (a < b))
  | .list items, .list others => items.before others
  | a, b =>
    match a.number?, b.number? with
    | some (m, places), some (n, places') => .ok (decide (m * 10 ^ places' < n * 10 ^ places))
    | _, _ => .error (.notOrdered a.typeWord b.typeWord)

/-- Whether items come before others. -/
def Items.before : Items → Items → Except Fault Bool
  | .nil, .nil | .cons .., .nil => .ok false
  | .nil, .cons .. => .ok true
  | .cons item rest, .cons item' rest' =>
    if item.key = item'.key then rest.before rest' else item.before item'
end

end Datum

namespace Sorting

/-! ## 2. Stretches -/

/-- Halves a length until it is below 64, rounding up if anything was lost on the way. -/
def halved : Nat → Nat → Bool → Nat
  | 0, n, lost => n + (if lost then 1 else 0)
  | fuel + 1, n, lost =>
    if n < 64 then n + (if lost then 1 else 0) else halved fuel (n / 2) (lost || n % 2 = 1)

/-- **The least length of a stretch** in a list of `n` elements. -/
def leastStretch (n : Nat) : Nat :=
  halved n n false

variable {α : Type}

/-- How many elements go on after `last` as the stretch does, which falls at every step or at
    none. -/
def runAfter (less : α → α → Except Fault Bool) (falling : Bool) : α → List α → Except Fault Nat
  | _, [] => .ok 0
  | last, x :: rest => do
    if (← less x last) = falling then return (← runAfter less falling x rest) + 1 else return 0

/-- **How far a list is in order by itself**, and whether it is so by falling. -/
def naturalRun (less : α → α → Except Fault Bool) : List α → Except Fault (Nat × Bool)
  | x :: y :: rest => do
    let falling ← less y x
    return ((← runAfter less falling y rest) + 2, falling)
  | xs => .ok (xs.length, false)

/-- Puts an element among those in order, behind all that it does not come before. It is compared
    with the one in the middle first, and at most `fuel` times. -/
def insertWithin (less : α → α → Except Fault Bool) (x : α) :
    Nat → List α → Except Fault (List α)
  | 0, xs => .ok (x :: xs)
  | fuel + 1, xs =>
    match xs.drop (xs.length / 2) with
    | [] => .ok [x]
    | middle :: above => do
      let below := xs.take (xs.length / 2)
      if ← less x middle then return (← insertWithin less x fuel below) ++ middle :: above
      else return below ++ middle :: (← insertWithin less x fuel above)

/-- **Puts an element among those in order.** -/
def insert (less : α → α → Except Fault Bool) (xs : List α) (x : α) : Except Fault (List α) :=
  insertWithin less x (xs.length + 1) xs

/-- The first stretch of a list, in order, and what comes after it. -/
def nextStretch (less : α → α → Except Fault Bool) (least : Nat) (xs : List α) :
    Except Fault (List α × List α) := do
  let (run, falling) ← naturalRun less xs
  let started := if falling then (xs.take run).reverse else xs.take run
  let further := min least xs.length - run
  let stretch ← ((xs.drop run).take further).foldlM (insert less) started
  return (stretch, xs.drop (run + further))

/-- The stretches of a list, each in order. -/
def stretches (less : α → α → Except Fault Bool) (least : Nat) :
    Nat → List α → Except Fault (List (List α))
  | 0, _ | _, [] => .ok []
  | fuel + 1, xs => do
    let (stretch, rest) ← nextStretch less least xs
    return stretch :: (← stretches less least fuel rest)

/-! ## 3. All of them -/

/-- Merges two lists that are in order, with at most `fuel` comparisons. -/
def mergeWithin (less : α → α → Except Fault Bool) :
    Nat → List α → List α → Except Fault (List α)
  | fuel + 1, x :: xs, y :: ys => do
    if ← less y x then return y :: (← mergeWithin less fuel (x :: xs) ys)
    else return x :: (← mergeWithin less fuel xs (y :: ys))
  | _, xs, ys => .ok (xs ++ ys)

/-- **Merges two lists that are in order.** -/
def merge (less : α → α → Except Fault Bool) (xs ys : List α) : Except Fault (List α) :=
  mergeWithin less (xs.length + ys.length) xs ys

/-- **A list in order**, or the fault of the first comparison that fails. -/
def sorted (less : α → α → Except Fault Bool) (xs : List α) : Except Fault (List α) := do
  let found ← stretches less (leastStretch xs.length) xs.length xs
  found.foldlM (merge less) []

end Sorting

end AppMount
