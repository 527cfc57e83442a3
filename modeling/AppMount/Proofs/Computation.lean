import AppMount.World

/-!
# Runs of computations

How a run of a computation falls into the runs of its parts, and what it means that a computation
stays within a relation on stores.

* `run_bind_of_ok`, `run_bind_of_error`: a run from the front; `run_bind_eq_ok_iff`,
  `run_bind_eq_error_iff`: a run that is known by its end;
* `Action.left`: the store that a run leaves, whether it fails or not; `left_discarding`: what a
  failed run is rid of are additions, and nothing that was there before is put back;
* `Action.Within`: whatever becomes of a run, the stores before and after it are related; a
  computation is within a preorder if its parts are (`Within.bind`, `Within.forM`);
* `Action.Reads`: a computation that leaves the store as it is;
* `Action.HandsBack`: what a computation hands back, whatever store it starts from.
-/

namespace AppMount.Action

variable {α β : Type} {x : Action α} {f : α → Action β} {w w' : World} {fault : Fault}

/-! ## 1. Runs -/

theorem run_bind_of_ok {a : α} {w₁ : World} (h : EStateM.run x w = .ok a w₁) :
    EStateM.run (x >>= f) w = EStateM.run (f a) w₁ := by
  rw [EStateM.run_bind, h]

theorem run_bind_of_error {w₁ : World} (h : EStateM.run x w = .error fault w₁) :
    EStateM.run (x >>= f) w = .error fault w₁ := by
  rw [EStateM.run_bind, h]

theorem run_bind_eq_ok_iff {b : β} :
    EStateM.run (x >>= f) w = .ok b w' ↔
      ∃ a w₁, EStateM.run x w = .ok a w₁ ∧ EStateM.run (f a) w₁ = .ok b w' := by
  rw [EStateM.run_bind]
  cases h : EStateM.run x w with
  | ok a w₁ =>
    constructor
    · exact fun hf => ⟨a, w₁, rfl, hf⟩
    · rintro ⟨a', w', ⟨⟩, hf⟩
      exact hf
  | error e w₁ => simp

theorem run_bind_eq_error_iff :
    EStateM.run (x >>= f) w = .error fault w' ↔
      EStateM.run x w = .error fault w' ∨
        ∃ a w₁, EStateM.run x w = .ok a w₁ ∧ EStateM.run (f a) w₁ = .error fault w' := by
  rw [EStateM.run_bind]
  cases h : EStateM.run x w with
  | ok a w₁ =>
    constructor
    · exact fun hf => .inr ⟨a, w₁, rfl, hf⟩
    · rintro (⟨⟨⟩⟩ | ⟨a', w', ⟨⟩, hf⟩)
      exact hf
  | error e w₁ => simp

/-- A computation that is not kept if it fails comes to an end as it does by itself. -/
theorem run_discarding_eq_ok_iff {a : α} :
    EStateM.run (discarding x) w = .ok a w' ↔ EStateM.run x w = .ok a w' := by
  rw [run_discarding]
  cases EStateM.run x w <;> simp

/-- The store that a run leaves, whether it fails or not. -/
def left : EStateM.Result Fault World α → World
  | .ok _ w | .error _ w => w

@[simp] theorem left_ok (a : α) (w : World) :
    left (.ok a w : EStateM.Result Fault World α) = w := rfl

@[simp] theorem left_error (fault : Fault) (w : World) :
    left (.error fault w : EStateM.Result Fault World α) = w := rfl

theorem left_discarding (x : Action α) (w : World) :
    left (EStateM.run (discarding x) w) = left (EStateM.run x w) ∨
      w.Adds (left (EStateM.run x w)) ∧ left (EStateM.run (discarding x) w) =
        w.noting (left (EStateM.run x w)).calls (left (EStateM.run x w)).log := by
  rw [run_discarding]
  cases EStateM.run x w with
  | ok a w' => exact .inl rfl
  | error fault w' =>
    dsimp only [left_error]
    split
    · rename_i adds
      exact .inr ⟨adds, rfl⟩
    · exact .inl rfl

/-- A failed computation that made additions only, and noted nothing, leaves the store alone. -/
theorem run_discarding_of_additions {w₁ : World} (h : EStateM.run x w = .error fault w₁)
    (additions : w.Adds w₁) (hcalls : w₁.calls = w.calls) (hlog : w₁.log = w.log) :
    EStateM.run (discarding x) w = .error fault w := by
  rw [run_discarding, h]
  dsimp only
  rw [if_pos additions, hcalls, hlog]
  rfl

/-- Whatever is kept of a failed computation, its notes are. -/
theorem run_discarding_eq_error (h : EStateM.run (discarding x) w = .error fault w') :
    ∃ w₁, EStateM.run x w = .error fault w₁ ∧ w'.calls = w₁.calls ∧ w'.log = w₁.log := by
  rw [run_discarding] at h
  split at h
  · cases h
  · rename_i fault' w₁ hrun
    obtain ⟨rfl, rfl⟩ := EStateM.Result.error.inj h
    refine ⟨w₁, hrun, ?_⟩
    split <;> exact ⟨rfl, rfl⟩

/-- **What a computation has done to what was there is not undone** if it fails: the classes and the
    descriptors from before are as it has left them. -/
theorem keeps_discarding (x : Action α) (w : World) :
    (left (EStateM.run (discarding x) w)).classes = (left (EStateM.run x w)).classes ∧
      ∀ d, w.HasDescriptor d →
        (left (EStateM.run (discarding x) w)).descriptor d =
          (left (EStateM.run x w)).descriptor d := by
  rcases left_discarding x w with same | ⟨additions, same⟩ <;> rw [same]
  · exact ⟨rfl, fun _ _ => rfl⟩
  · exact ⟨additions.classes.symm, fun d hd => (additions.descriptor hd).symm⟩

/-- Working out something from what a computation hands back leaves the store alone. -/
theorem left_bind_pure (x : Action α) (g : α → β) (w : World) :
    left (EStateM.run (x >>= fun a => pure (g a)) w) = left (EStateM.run x w) := by
  rw [EStateM.run_bind]
  cases EStateM.run x w <;> rfl

/-! ## 2. Computations within a relation -/

/-- **A computation within a relation**: however it ends, the stores before and after are
    related. -/
def Within (R : World → World → Prop) (x : Action α) : Prop :=
  ∀ w, R w (left (EStateM.run x w))

/-- **A computation that only reads.** -/
def Reads (x : Action α) : Prop :=
  Within Eq x

theorem Within.ok {R : World → World → Prop} (hx : Within R x) {a : α}
    (h : EStateM.run x w = .ok a w') : R w w' := by
  have := hx w
  rwa [h] at this

theorem Within.error {R : World → World → Prop} (hx : Within R x)
    (h : EStateM.run x w = .error fault w') : R w w' := by
  have := hx w
  rwa [h] at this

theorem Within.mono {R R' : World → World → Prop} (hx : Within R x)
    (h : ∀ w w', R w w' → R' w w') : Within R' x :=
  fun w => h _ _ (hx w)

theorem Reads.within {R : World → World → Prop} (refl : ∀ w, R w w) (hx : Reads x) :
    Within R x := by
  refine Within.mono hx fun w w' h => ?_
  subst h
  exact refl _

section Parts

variable {R : World → World → Prop}

theorem Within.pure (refl : ∀ w, R w w) (a : α) : Within R (pure a : Action α) :=
  fun w => refl w

theorem Within.throw (refl : ∀ w, R w w) (fault : Fault) : Within R (throw fault : Action β) :=
  fun w => refl w

theorem Within.get (refl : ∀ w, R w w) : Within R (get : Action World) :=
  fun w => refl w

theorem Within.modify {change : World → World} (h : ∀ w, R w (change w)) :
    Within R (modify change : Action PUnit) :=
  fun w => h w

theorem Within.bind (trans : ∀ {a b c}, R a b → R b c → R a c) (hx : Within R x)
    (hf : ∀ a, Within R (f a)) : Within R (x >>= f) := by
  intro w
  cases h : EStateM.run x w with
  | ok a w₁ =>
    rw [run_bind_of_ok h]
    exact trans (hx.ok h) (hf a w₁)
  | error fault w₁ =>
    rw [run_bind_of_error h]
    exact hx.error h

theorem Within.ite {c : Prop} [Decidable c] {y : Action α} (hx : Within R x) (hy : Within R y) :
    Within R (if c then x else y) := by
  split
  · exact hx
  · exact hy

theorem Within.forM {items : List β} {g : β → Action PUnit} (refl : ∀ w, R w w)
    (trans : ∀ {a b c}, R a b → R b c → R a c) (hg : ∀ b ∈ items, Within R (g b)) :
    Within R (items.forM g) := by
  induction items with
  | nil => exact Within.pure refl _
  | cons b rest ih =>
    refine Within.bind trans (hg b List.mem_cons_self) fun _ => ?_
    exact ih fun b' hb' => hg b' (List.mem_cons_of_mem _ hb')

end Parts

/-! ## 3. Computations that only read -/

namespace Reads

theorem pure (a : α) : Reads (pure a : Action α) :=
  Within.pure (fun _ => rfl) a

theorem throw (fault : Fault) : Reads (throw fault : Action α) :=
  Within.throw (fun _ => rfl) fault

theorem get : Reads (get : Action World) :=
  Within.get fun _ => rfl

theorem bind (hx : Reads x) (hf : ∀ a, Reads (f a)) : Reads (x >>= f) :=
  Within.bind (fun h h' => h.trans h') hx hf

theorem forM {items : List β} {g : β → Action PUnit} (hg : ∀ b, Reads (g b)) :
    Reads (items.forM g) :=
  Within.forM (fun _ => rfl) (fun h h' => h.trans h') fun b _ => hg b

theorem mapM {items : List β} {g : β → Action α} (hg : ∀ b, Reads (g b)) :
    Reads (items.mapM g) := by
  induction items with
  | nil => exact pure _
  | cons b rest ih =>
    rw [List.mapM_cons]
    exact (hg b).bind fun _ => ih.bind fun _ => pure _

theorem ofExcept (result : Except Fault α) : Reads (ofExcept result) := by
  cases result with
  | ok a => exact pure a
  | error fault => exact throw fault

theorem attempt (hx : Reads x) : Reads (attempt x) := by
  intro w
  have hw := hx w
  rw [run_attempt]
  cases h : EStateM.run x w with
  | ok a w' | error fault w' => rwa [h] at hw

/-- What follows a computation that only reads starts from the same store. -/
theorem left_bind {P : World → Prop} (hx : Reads x) (hw : P w)
    (hf : ∀ a, P (left (EStateM.run (f a) w))) : P (left (EStateM.run (x >>= f) w)) := by
  have same := hx w
  cases h : EStateM.run x w with
  | ok a w₁ =>
    rw [h] at same
    obtain rfl : w = w₁ := same
    rw [run_bind_of_ok h]
    exact hf a
  | error fault w₁ =>
    rw [h] at same
    obtain rfl : w = w₁ := same
    rwa [run_bind_of_error h]

theorem run_bind_eq_ok {b : β} (hx : Reads x) (h : EStateM.run (x >>= f) w = .ok b w') :
    ∃ a, EStateM.run (f a) w = .ok b w' := by
  obtain ⟨a, w₁, hrun, h⟩ := run_bind_eq_ok_iff.1 h
  obtain rfl : w = w₁ := hx.ok hrun
  exact ⟨a, h⟩

end Reads

/-! ## 4. What computations hand back -/

/-- **A computation that hands back such values only.** -/
def HandsBack (P : α → Prop) (x : Action α) : Prop :=
  ∀ w a w', EStateM.run x w = .ok a w' → P a

namespace HandsBack

variable {P : α → Prop} {Q : β → Prop}

theorem pure {a : α} (h : P a) : HandsBack P (pure a : Action α) := by
  rintro w _ w' ⟨⟩
  exact h

theorem throw (fault : Fault) : HandsBack P (throw fault : Action α) :=
  fun _ _ _ h => nomatch h

theorem bind (hx : HandsBack P x) (hf : ∀ a, P a → HandsBack Q (f a)) : HandsBack Q (x >>= f) := by
  intro w b w' h
  obtain ⟨a, w₁, hrun, h⟩ := run_bind_eq_ok_iff.1 h
  exact hf a (hx w a w₁ hrun) w₁ b w' h

/-- What is handed back may not depend on what came before. -/
theorem after (hf : ∀ a, HandsBack Q (f a)) : HandsBack Q (x >>= f) :=
  bind (P := fun _ => True) (fun _ _ _ _ => trivial) fun a _ => hf a

/-- What goes on in the same way from all that is handed back comes to the same. -/
theorem bind_congr {g : α → Action β} (hx : HandsBack P x) (h : ∀ a, P a → f a = g a) :
    x >>= f = x >>= g := by
  funext w
  show EStateM.run (x >>= f) w = EStateM.run (x >>= g) w
  cases hrun : EStateM.run x w with
  | ok a w₁ => rw [run_bind_of_ok hrun, run_bind_of_ok hrun, h a (hx w a w₁ hrun)]
  | error fault w₁ => rw [run_bind_of_error hrun, run_bind_of_error hrun]

theorem afterCheck {c : Prop} [Decidable c] {check : Action Unit} (hx : HandsBack P x) :
    HandsBack P (if c then check >>= fun _ => x else x) := by
  split
  · exact after fun _ => hx
  · exact hx

end HandsBack

end AppMount.Action
