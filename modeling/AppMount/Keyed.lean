/-!
# Collections in order of arrival

Collections that remember in which order things came: a collection without repetitions and a
mapping in which a later value takes the place of an earlier one. Two entries are the same when
their representatives under `rep` are equal, so that one definition serves identity, equality of
data and equality of objects.

* `Keyed.add`: the newcomer goes to the end, unless it is there already;
* `Keyed.put`: a new key goes to the end, an old one keeps its place and its first spelling;
* `mem_map_add_iff`, `map_rep_put`, `get?_put`: what is in the collection afterwards;
  `get?_putAll_eq`: after many writes the last one counts.
-/

namespace AppMount.Keyed

variable {α κ ν ρ : Type} [DecidableEq ρ]

/-! ## 1. Without repetitions -/

/-- Adds `x` at the end, unless something with the same representative is present. -/
def add (rep : α → ρ) (xs : List α) (x : α) : List α :=
  if xs.any (rep · = rep x) then xs else xs ++ [x]

/-- Adds all of `new` in order. -/
def addAll (rep : α → ρ) (xs new : List α) : List α :=
  new.foldl (add rep) xs

theorem add_of_present {rep : α → ρ} {xs : List α} {x : α} (h : ∃ y ∈ xs, rep y = rep x) :
    add rep xs x = xs := by
  simp only [add, List.any_eq_true, decide_eq_true_eq, h, if_true]

theorem add_of_absent {rep : α → ρ} {xs : List α} {x : α} (h : ∀ y ∈ xs, rep y ≠ rep x) :
    add rep xs x = xs ++ [x] := by
  have : ¬ ∃ y ∈ xs, rep y = rep x := fun ⟨y, hy, he⟩ => h y hy he
  simp only [add, List.any_eq_true, decide_eq_true_eq, this, if_false]

/-- The representatives present after adding one element. -/
theorem mem_map_add_iff {rep : α → ρ} {xs : List α} {x : α} {r : ρ} :
    r ∈ (add rep xs x).map rep ↔ r ∈ xs.map rep ∨ r = rep x := by
  by_cases h : ∃ y ∈ xs, rep y = rep x
  · rw [add_of_present h]
    constructor
    · exact Or.inl
    · rintro (h' | rfl)
      · exact h'
      · exact List.mem_map.2 h
  · rw [add_of_absent fun y hy he => h ⟨y, hy, he⟩]
    simp

theorem mem_map_addAll_iff {rep : α → ρ} {xs new : List α} {r : ρ} :
    r ∈ (addAll rep xs new).map rep ↔ r ∈ xs.map rep ∨ r ∈ new.map rep := by
  induction new generalizing xs with
  | nil => simp [addAll]
  | cons x new ih =>
    have : addAll rep xs (x :: new) = addAll rep (add rep xs x) new := rfl
    rw [this, ih, mem_map_add_iff, List.map_cons, List.mem_cons, or_assoc]

/-- Things that stand for themselves are there as soon as they were there before or are added. -/
theorem mem_addAll_id {xs new : List ρ} {x : ρ} :
    x ∈ addAll id xs new ↔ x ∈ xs ∨ x ∈ new := by
  have present : x ∈ (addAll id xs new).map id ↔ x ∈ xs.map id ∨ x ∈ new.map id :=
    mem_map_addAll_iff
  rwa [List.map_id, List.map_id, List.map_id] at present

/-- What is in a collection was there before, or is new. -/
theorem mem_addAll {rep : α → ρ} {xs new : List α} {y : α} (h : y ∈ addAll rep xs new) :
    y ∈ xs ∨ y ∈ new := by
  induction new generalizing xs with
  | nil => exact .inl h
  | cons x new ih =>
    have step : y ∈ addAll rep (add rep xs x) new := h
    rcases ih step with hy | hy
    · unfold add at hy
      split at hy
      · exact .inl hy
      · rcases List.mem_append.1 hy with hy | hy
        · exact .inl hy
        · exact .inr (List.mem_cons.2 (.inl (List.mem_singleton.1 hy)))
    · exact .inr (List.mem_cons_of_mem _ hy)

theorem map_rep_add {rep : α → ρ} {xs : List α} {x : α} :
    (add rep xs x).map rep =
      if rep x ∈ xs.map rep then xs.map rep else xs.map rep ++ [rep x] := by
  by_cases h : ∃ y ∈ xs, rep y = rep x
  · rw [add_of_present h, if_pos (List.mem_map.2 h)]
  · rw [add_of_absent fun y hy he => h ⟨y, hy, he⟩, if_neg fun hx => h (List.mem_map.1 hx),
      List.map_append, List.map_singleton]

/-- **Nothing is ever there twice.** -/
theorem nodup_map_addAll {rep : α → ρ} {xs new : List α} (h : (xs.map rep).Nodup) :
    ((addAll rep xs new).map rep).Nodup := by
  induction new generalizing xs with
  | nil => exact h
  | cons x new ih =>
    have step : ((add rep xs x).map rep).Nodup := by
      rw [map_rep_add]
      split
      · exact h
      · rename_i absent
        refine List.nodup_append.2 ⟨h, by simp, fun r hr r' hr' he => absent ?_⟩
        obtain rfl : r' = rep x := List.mem_singleton.1 hr'
        rwa [he] at hr
    exact ih step

/-- Which things count as the same matters only for those that are there or are added. -/
theorem addAll_congr {rep rep' : α → ρ} {xs new : List α} (h : ∀ x ∈ xs, rep x = rep' x)
    (hnew : ∀ x ∈ new, rep x = rep' x) : addAll rep xs new = addAll rep' xs new := by
  induction new generalizing xs with
  | nil => rfl
  | cons x new ih =>
    have hx := hnew x List.mem_cons_self
    have same : add rep xs x = add rep' xs x := by
      unfold add
      have : xs.any (rep · = rep x) = xs.any (rep' · = rep' x) := by
        rw [Bool.eq_iff_iff]
        simp only [List.any_eq_true, decide_eq_true_eq, hx]
        exact exists_congr fun y => and_congr_right fun hy => by rw [h y hy]
      rw [this]
    have there : ∀ y ∈ add rep xs x, rep y = rep' y := by
      intro y hy
      have added : y ∈ addAll rep xs [x] := hy
      rcases mem_addAll added with hy | hy
      · exact h y hy
      · exact List.mem_singleton.1 hy ▸ hx
    show addAll rep (add rep xs x) new = addAll rep' (add rep' xs x) new
    rw [← same]
    exact ih there fun y hy => hnew y (List.mem_cons_of_mem _ hy)

/-! ## 2. Mappings -/

/-- Writes `v` under the key `k`. -/
def put (rep : κ → ρ) (k : κ) (v : ν) : List (κ × ν) → List (κ × ν)
  | [] => [(k, v)]
  | (k', v') :: rest => if rep k' = rep k then (k', v) :: rest else (k', v') :: put rep k v rest

/-- Writes all of `new` in order. -/
def putAll (rep : κ → ρ) (entries new : List (κ × ν)) : List (κ × ν) :=
  new.foldl (fun acc e => put rep e.1 e.2 acc) entries

/-- The value under the key with representative `r`. -/
def get? (rep : κ → ρ) (r : ρ) : List (κ × ν) → Option ν
  | [] => none
  | (k, v) :: rest => if rep k = r then some v else get? rep r rest

/-- The value that is written last under the key with representative `r`. -/
def last? (rep : κ → ρ) (r : ρ) (entries : List (κ × ν)) : Option ν :=
  get? rep r entries.reverse

/-- What is found under a key after a write. -/
theorem get?_put {rep : κ → ρ} {k : κ} {v : ν} {entries : List (κ × ν)} {r : ρ} :
    get? rep r (put rep k v entries) = if rep k = r then some v else get? rep r entries := by
  induction entries with
  | nil => simp [put, get?]
  | cons e rest ih =>
    by_cases h : rep e.1 = rep k
    · by_cases hr : rep k = r <;> simp [put, get?, h, hr]
    · by_cases hr : rep e.1 = r
      · have hk : rep k ≠ r := fun hk => h (hr.trans hk.symm)
        simp [put, get?, hr, hk, Ne.symm hk]
      · simp [put, get?, h, hr, ih]

/-- The keys after a write: the old ones in their places, and a new one at the end. -/
theorem map_rep_put {rep : κ → ρ} {k : κ} {v : ν} {entries : List (κ × ν)} :
    (put rep k v entries).map (rep ·.1) =
      if rep k ∈ entries.map (rep ·.1) then entries.map (rep ·.1)
      else entries.map (rep ·.1) ++ [rep k] := by
  induction entries with
  | nil => simp [put]
  | cons e rest ih =>
    by_cases h : rep e.1 = rep k
    · simp [put, h]
    · have h' : rep k ≠ rep e.1 := fun he => h he.symm
      simp only [put, h, if_false, List.map_cons, ih, List.mem_cons, h', false_or]
      split <;> simp

theorem get?_putAll_of_absent {rep : κ → ρ} {entries new : List (κ × ν)} {r : ρ}
    (h : r ∉ new.map (rep ·.1)) : get? rep r (putAll rep entries new) = get? rep r entries := by
  induction new generalizing entries with
  | nil => rfl
  | cons e new ih =>
    rw [List.map_cons, List.mem_cons, not_or] at h
    have : putAll rep entries (e :: new) = putAll rep (put rep e.1 e.2 entries) new := rfl
    rw [this, ih h.2, get?_put, if_neg (Ne.symm h.1)]

/-- **What is found under a key after many writes**, if each of them has a key of its own. -/
theorem get?_putAll {rep : κ → ρ} {entries new : List (κ × ν)} (h : (new.map (rep ·.1)).Nodup)
    {k : κ} {v : ν} (hk : (k, v) ∈ new) : get? rep (rep k) (putAll rep entries new) = some v := by
  induction new generalizing entries with
  | nil => cases hk
  | cons e new ih =>
    rw [List.map_cons, List.nodup_cons] at h
    have step : putAll rep entries (e :: new) = putAll rep (put rep e.1 e.2 entries) new := rfl
    rw [step]
    rcases List.mem_cons.1 hk with rfl | hk
    · rw [get?_putAll_of_absent h.1, get?_put, if_pos rfl]
    · exact ih h.2 hk

theorem get?_append {rep : κ → ρ} {entries others : List (κ × ν)} {r : ρ} :
    get? rep r (entries ++ others) = (get? rep r entries).or (get? rep r others) := by
  induction entries with
  | nil => rfl
  | cons e rest ih =>
    by_cases h : rep e.1 = r
    · simp [get?, h]
    · simp [get?, h, ih]

/-- **The last of many writes counts**, and where none is, what was there before. -/
theorem get?_putAll_eq {rep : κ → ρ} {entries new : List (κ × ν)} {r : ρ} :
    get? rep r (putAll rep entries new) = (last? rep r new).or (get? rep r entries) := by
  induction new generalizing entries with
  | nil => rfl
  | cons e new ih =>
    have step : putAll rep entries (e :: new) = putAll rep (put rep e.1 e.2 entries) new := rfl
    have single : get? rep r [e] = if rep e.1 = r then some e.2 else none := rfl
    rw [step, ih, get?_put]
    unfold last?
    rw [List.reverse_cons, get?_append, single, Option.or_assoc]
    split <;> rfl

/-- Where every key is written once, the last value is the only one. -/
theorem last?_of_nodup {rep : κ → ρ} {entries : List (κ × ν)} {r : ρ}
    (h : (entries.map (rep ·.1)).Nodup) : last? rep r entries = get? rep r entries := by
  induction entries with
  | nil => rfl
  | cons e rest ih =>
    rw [List.map_cons, List.nodup_cons] at h
    have single : get? rep r [e] = if rep e.1 = r then some e.2 else none := rfl
    unfold last? at ih ⊢
    rw [List.reverse_cons, get?_append, ih h.2, single]
    by_cases hr : rep e.1 = r
    · have absent : get? rep r rest = none := by
        have hput : get? rep r (putAll rep [] rest) = get? rep r [] :=
          get?_putAll_of_absent (hr ▸ h.1)
        rw [get?_putAll_eq] at hput
        unfold last? at hput
        rw [ih h.2] at hput
        exact (Option.or_eq_none_iff.1 hput).1
      rw [absent, if_pos hr]
      simp [get?, hr]
    · rw [if_neg hr, Option.or_none]
      simp [get?, hr]

/-- The keys after a write, as they are spelled: those that were there are spelled as before. -/
theorem map_fst_put {rep : κ → ρ} {k : κ} {v : ν} {entries : List (κ × ν)} :
    (put rep k v entries).map (·.1) =
      if rep k ∈ entries.map (rep ·.1) then entries.map (·.1) else entries.map (·.1) ++ [k] := by
  induction entries with
  | nil => simp [put]
  | cons e rest ih =>
    by_cases h : rep e.1 = rep k
    · simp [put, h]
    · have h' : rep k ≠ rep e.1 := fun he => h he.symm
      simp only [put, h, if_false, List.map_cons, ih, List.mem_cons, h', false_or]
      split <;> simp

/-- Every key of a mapping was there before, or is new. -/
theorem mem_keys_putAll {rep : κ → ρ} {entries new : List (κ × ν)} {k : κ}
    (h : k ∈ (putAll rep entries new).map (·.1)) :
    k ∈ entries.map (·.1) ∨ k ∈ new.map (·.1) := by
  induction new generalizing entries with
  | nil => exact .inl h
  | cons e new ih =>
    rw [List.map_cons, List.mem_cons]
    have step : k ∈ (putAll rep (put rep e.1 e.2 entries) new).map (·.1) := h
    rcases ih step with h | h
    · rw [map_fst_put] at h
      split at h
      · exact .inl h
      · exact (List.mem_append.1 h).imp id fun h => .inl (List.mem_singleton.1 h)
    · exact .inr (.inr h)

/-- Every value of a mapping was there before, or is new. -/
theorem mem_values_putAll {rep : κ → ρ} {entries new : List (κ × ν)} {v : ν}
    (h : v ∈ (putAll rep entries new).map (·.2)) :
    v ∈ entries.map (·.2) ∨ v ∈ new.map (·.2) := by
  have put_value {k : κ} {v' : ν} {entries : List (κ × ν)}
      (h : v ∈ (put rep k v' entries).map (·.2)) : v ∈ entries.map (·.2) ∨ v = v' := by
    induction entries with
    | nil => exact .inr (List.mem_singleton.1 h)
    | cons e rest ih =>
      unfold put at h
      split at h
      · rcases List.mem_cons.1 h with h | h
        · exact .inr h
        · exact .inl (List.mem_cons_of_mem _ h)
      · rcases List.mem_cons.1 h with h | h
        · exact .inl (List.mem_cons.2 (.inl h))
        · exact (ih h).imp (List.mem_cons_of_mem _) id
  induction new generalizing entries with
  | nil => exact .inl h
  | cons e new ih =>
    have step : v ∈ (putAll rep (put rep e.1 e.2 entries) new).map (·.2) := h
    rcases ih step with h | h
    · exact (put_value h).imp id fun h => List.mem_cons.2 (.inl h)
    · exact .inr (List.mem_cons_of_mem _ h)

theorem put_congr {rep rep' : κ → ρ} {entries : List (κ × ν)} {k : κ} {v : ν}
    (h : ∀ k' ∈ entries.map (·.1), rep k' = rep' k') (hk : rep k = rep' k) :
    put rep k v entries = put rep' k v entries := by
  induction entries with
  | nil => rfl
  | cons e rest ih =>
    have he := h e.1 (List.mem_map.2 ⟨e, List.mem_cons_self, rfl⟩)
    have hrest := ih fun k' hk' => h k' (List.mem_cons_of_mem _ hk')
    simp only [put, he, hk, hrest]

/-- Which keys count as the same matters only for those that are there or are written. -/
theorem putAll_congr {rep rep' : κ → ρ} {entries new : List (κ × ν)}
    (h : ∀ k ∈ entries.map (·.1), rep k = rep' k) (hnew : ∀ k ∈ new.map (·.1), rep k = rep' k) :
    putAll rep entries new = putAll rep' entries new := by
  induction new generalizing entries with
  | nil => rfl
  | cons e new ih =>
    have he := hnew e.1 (List.mem_map.2 ⟨e, List.mem_cons_self, rfl⟩)
    have there : ∀ k ∈ (put rep e.1 e.2 entries).map (·.1), rep k = rep' k := by
      intro k hk
      have written : k ∈ (putAll rep entries [e]).map (·.1) := hk
      rcases mem_keys_putAll written with hk | hk
      · exact h k hk
      · exact List.mem_singleton.1 hk ▸ he
    show putAll rep (put rep e.1 e.2 entries) new = putAll rep' (put rep' e.1 e.2 entries) new
    rw [← put_congr h he]
    exact ih there fun k hk => hnew k (List.mem_cons_of_mem _ hk)

/-- **No key is ever spelled twice.** -/
theorem nodup_keys_putAll {rep : κ → ρ} {entries new : List (κ × ν)}
    (h : (entries.map (·.1)).Nodup) : ((putAll rep entries new).map (·.1)).Nodup := by
  induction new generalizing entries with
  | nil => exact h
  | cons e new ih =>
    have step : ((put rep e.1 e.2 entries).map (·.1)).Nodup := by
      rw [map_fst_put]
      split
      · exact h
      · rename_i absent
        refine List.nodup_append.2 ⟨h, by simp, fun k hk k' hk' he => absent ?_⟩
        obtain rfl : k' = e.1 := List.mem_singleton.1 hk'
        obtain ⟨entry, hentry, rfl⟩ := List.mem_map.1 hk
        exact List.mem_map.2 ⟨entry, hentry, congrArg rep he⟩
    exact ih step

/-- A mapping whose keys stand for themselves is looked up by them. -/
theorem get?_of_fixed [DecidableEq κ] {rep : κ → κ} {entries : List (κ × ν)} {k : κ}
    (h : ∀ k' ∈ entries.map (·.1), rep k' = k') : get? id k entries = get? rep k entries := by
  induction entries with
  | nil => rfl
  | cons e rest ih =>
    have he := h e.1 (List.mem_map.2 ⟨e, List.mem_cons_self, rfl⟩)
    have hrest := ih fun k' hk' => h k' (List.mem_cons_of_mem _ hk')
    unfold get?
    rw [he, hrest]
    rfl

end AppMount.Keyed
