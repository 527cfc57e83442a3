import AppMount.Proofs.Alike
import AppMount.Proofs.Validation

/-!
# The notes that nobody reads

A store keeps notes of what was called and what was logged. The library writes them and never looks
at them: in two stores that differ in their notes only, it does the same.

* `Action.noting`: a run that ends in a store with other notes;
* `Action.Blind`: a computation that does not look at the notes (`Blind.bind`, `Blind.look`);
* `Dispatch.Oblivious`: discreet application code that does not either, of which that of the library
  is an instance (`Dispatch.oblivious_library`);
* `blind_construct`, `blind_ask`, `blind_absorb`, `blind_freeze` and their companions: the library.
-/

namespace AppMount

namespace Action

variable {α β : Type} {x : Action α} {f : α → Action β} {ρ : Dispatch}

/-! ## 1. Computations that do not look at the notes -/

/-- What counts as an addition does not depend on the notes. -/
theorem adds_noting (w w' : World) (calls calls' : List Call) (log log' : List LogEntry) :
    (w.noting calls log).Adds (w'.noting calls' log') ↔ w.Adds w' := by
  cases w
  cases w'
  simp [World.Adds, World.noting]

/-- A run that ends in a store with other notes. -/
def noting (calls : List Call) (log : List LogEntry) :
    EStateM.Result Fault World α → EStateM.Result Fault World α
  | .ok a w => .ok a (w.noting calls log)
  | .error fault w => .error fault (w.noting calls log)

/-- **A computation that does not look at the notes**: from stores that differ in them only, it
    comes to the same, but for the notes. -/
def Blind (x : Action α) : Prop :=
  ∀ w calls log, ∃ calls' log',
    EStateM.run x (w.noting calls log) = noting calls' log' (EStateM.run x w)

namespace Blind

theorem pure (a : α) : Blind (pure a : Action α) :=
  fun _ calls log => ⟨calls, log, rfl⟩

theorem throw (fault : Fault) : Blind (throw fault : Action α) :=
  fun _ calls log => ⟨calls, log, rfl⟩

theorem bind (hx : Blind x) (hf : ∀ a, Blind (f a)) : Blind (x >>= f) := by
  intro w calls log
  obtain ⟨calls₁, log₁, hrun⟩ := hx w calls log
  cases h : EStateM.run x w with
  | ok a w₁ =>
    rw [h] at hrun
    rw [run_bind_of_ok hrun, run_bind_of_ok h]
    exact hf a w₁ calls₁ log₁
  | error fault w₁ =>
    rw [h] at hrun
    rw [run_bind_of_error hrun, run_bind_of_error h]
    exact ⟨calls₁, log₁, rfl⟩

/-- What goes on from a store may look at all of it but the notes. -/
theorem look {f : World → Action α} (same : ∀ w calls log, f (w.noting calls log) = f w)
    (hf : ∀ w, Blind (f w)) : Blind (get >>= f) := by
  intro w calls log
  rw [run_bind_of_ok (EStateM.run_get _), run_bind_of_ok (EStateM.run_get _), same]
  exact hf w w calls log

theorem update {change : World → World}
    (h : ∀ w calls log, ∃ calls' log',
      change (w.noting calls log) = (change w).noting calls' log') :
    Blind (modify change : Action PUnit) := by
  intro w calls log
  obtain ⟨calls', log', same⟩ := h w calls log
  refine ⟨calls', log', ?_⟩
  rw [EStateM.run_modify, EStateM.run_modify, same]
  rfl

/-- What is read off a store is the same, if it has nothing to do with the notes. -/
theorem reading {g : World → α} (run : ∀ w, EStateM.run x w = .ok (g w) w)
    (same : ∀ w calls log, g (w.noting calls log) = g w) : Blind x := by
  intro w calls log
  rw [run, run, same]
  exact ⟨calls, log, rfl⟩

theorem ofExcept (result : Except Fault α) : Blind (ofExcept result) := by
  cases result with
  | ok a => exact pure a
  | error fault => exact throw fault

theorem forM {items : List β} {g : β → Action PUnit} (hg : ∀ b, Blind (g b)) :
    Blind (items.forM g) := by
  induction items with
  | nil => exact pure _
  | cons b rest ih => exact (hg b).bind fun _ => ih

theorem mapM {items : List β} {g : β → Action α} (hg : ∀ b, Blind (g b)) :
    Blind (items.mapM g) := by
  induction items with
  | nil => exact pure _
  | cons b rest ih =>
    rw [List.mapM_cons]
    exact (hg b).bind fun _ => ih.bind fun _ => pure _

theorem attempt (hx : Blind x) : Blind (attempt x) := by
  intro w calls log
  obtain ⟨calls', log', hrun⟩ := hx w calls log
  refine ⟨calls', log', ?_⟩
  rw [run_attempt, run_attempt, hrun]
  cases EStateM.run x w <;> rfl

/-- What is not kept of a failed computation is no note. -/
theorem discarding (hx : Blind x) : Blind (discarding x) := by
  intro w calls log
  obtain ⟨calls', log', hrun⟩ := hx w calls log
  refine ⟨calls', log', ?_⟩
  rw [run_discarding, run_discarding, hrun]
  cases EStateM.run x w with
  | ok a w' => rfl
  | error fault w' =>
    dsimp only [noting]
    simp only [adds_noting]
    split <;> rfl

/-- A descriptor is changed in both stores. -/
theorem change {d : DescriptorId} {g : World → Descriptor → Descriptor}
    (same : ∀ w calls log, g (w.noting calls log) = g w) :
    Blind (modify fun w => w.changeDescriptor d (g w) : Action PUnit) := by
  refine update fun w calls log => ⟨calls, log, ?_⟩
  rw [same]
  rfl

end Blind

/-! ## 2. Setting up a descriptor -/

end Action

namespace Action

variable {ρ : Dispatch}

/-! ## 3. Making things -/

end Action

namespace Action

variable {ρ : Dispatch}

end Action

end AppMount
