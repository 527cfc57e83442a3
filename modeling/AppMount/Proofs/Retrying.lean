import AppMount.Proofs.Completeness

/-!
# Freezes that fail and are tried again

What a freeze that fails has done to its descriptor, stage by stage, and what comes of the next one.
The application is stored before any of it is absorbed, and what could be read of an answer is kept
when the rest of it could not; so a failure leaves a part of the application behind, and the next
freeze takes it for the whole.

* `Action.reading`: what one stage of absorbing reads; `reading_of_taking_ok`,
  `reading_of_taking_error`: a stage keeps it;
* `Action.Stalls`: the stage at which absorbing fails, with all that was read until then
  (`stalls_of_absorb`); `descriptor_of_stalls`: what it leaves of a descriptor;
* `Action.firstFreeze`: a freeze that makes an application;
* `freeze_error_residue`: what a failed freeze leaves, and what the next one does;
* `freeze_error_not_atomic`: one that fails half-way, and is not made good by trying again.
-/

namespace AppMount

namespace Action

variable {ρ : Dispatch} {w w' v : World} {d : DescriptorId} {app : Ref} {h : Hook} {fault : Fault}
  {α : Type}

/-! ## 1. Stages -/

/-- **What one stage of absorbing reads** of an application, and the store after it was asked. Where
    it gives no answer, there is nothing to read, and its fault is how the reading ends. -/
def reading (ρ : Dispatch) (app : Ref) (h : Hook) (read : World → Offer → Reading α) (w : World) :
    Reading α × World :=
  match EStateM.run (ask ρ app h) w with
  | .ok offer w' => (read w' offer, w')
  | .error fault w' => (⟨[], some fault⟩, w')

/-- A descriptor into which nothing is put is as it was. -/
theorem changeDescriptor_of_same (w : World) {f : Descriptor → Descriptor} (hf : ∀ x, f x = x) :
    w.changeDescriptor d f = w := by
  obtain rfl : f = id := funext hf
  unfold World.changeDescriptor
  rw [show w.descriptors.modify d.index id = w.descriptors from ?_]
  refine Array.ext (by simp) fun i _ _ => ?_
  rw [Array.getElem_modify]
  split <;> rfl

section Stages

variable {read : World → Offer → Reading α} {put : World → List α → Descriptor → Descriptor}

theorem reading_of_ask {offer : Offer} (hask : EStateM.run (ask ρ app h) w = .ok offer v) :
    reading ρ app h read w = (read v offer, v) := by
  unfold reading
  rw [hask]

theorem reading_of_ask_error (hask : EStateM.run (ask ρ app h) w = .error fault v) :
    reading ρ app h read w = (⟨[], some fault⟩, v) := by
  unfold reading
  rw [hask]

/-- **A stage that comes to an end** read an answer to its end, and kept it. -/
theorem reading_of_taking_ok (hrun : EStateM.run (taking ρ d app h read put) w = .ok ⟨⟩ w') :
    ∃ items v, reading ρ app h read w = (⟨items, none⟩, v) ∧
      w' = v.changeDescriptor d (put v items) := by
  obtain ⟨offer, v, hask, ending, rfl⟩ := run_taking_eq_ok_iff.1 hrun
  exact ⟨_, v, (reading_of_ask hask).trans (by rw [← ending]), rfl⟩

/-- **A stage that fails** kept what it read before the fault. -/
theorem reading_of_taking_error (hput : ∀ w x, put w [] x = x)
    (hrun : EStateM.run (taking ρ d app h read put) w = .error fault w') :
    ∃ items v, reading ρ app h read w = (⟨items, some fault⟩, v) ∧
      w' = v.changeDescriptor d (put v items) := by
  rcases run_taking_eq_error_iff.1 hrun with hask | ⟨offer, v, hask, ending, rfl⟩
  · exact ⟨[], w', reading_of_ask_error hask, (changeDescriptor_of_same w' (hput w')).symm⟩
  · exact ⟨_, v, (reading_of_ask hask).trans (by rw [← ending]), rfl⟩

end Stages

/-! ## 2. Where absorbing fails -/

/-- What is read of the classes of an application. -/
abbrev classesRead (ρ : Dispatch) (app : Ref) : World → Reading Ref × World :=
  reading ρ app .classes readClasses

/-- What is read of its singletons. -/
abbrev singletonsRead (ρ : Dispatch) (app : Ref) : World → Reading Ref × World :=
  reading ρ app .singletons fun _ o => o.elements

/-- What is read of its properties. -/
abbrev propertiesRead (ρ : Dispatch) (app : Ref) : World → Reading (Datum × Datum) × World :=
  reading ρ app .properties fun w o => o.pairs w

/-- **The stage at which absorbing an application fails**, with the classes, singletons and
    properties that were read until then, and how things count as the same while classes are added.
    What a stage reads before its fault counts; what comes after it is not asked for. -/
inductive Stalls (ρ : Dispatch) (d : DescriptorId) (app : Ref) (w : World) (fault : Fault) :
    (Ref → Ref) → List Ref → List Ref → List (Datum × Datum) → World → Prop where
  | classes {v : World} {cs : List Ref} (last : classesRead ρ app w = (⟨cs, some fault⟩, v)) :
    Stalls ρ d app w fault v.like cs [] [] (v.changeDescriptor d (·.addClasses v.like cs))
  | singletons {v u : World} {cs ss : List Ref} (first : classesRead ρ app w = (⟨cs, none⟩, v))
    (last : singletonsRead ρ app (v.changeDescriptor d (·.addClasses v.like cs))
      = (⟨ss, some fault⟩, u)) :
    Stalls ρ d app w fault v.like cs ss [] (u.changeDescriptor d (·.addSingletons ss))
  | properties {v u t : World} {cs ss : List Ref} {ps : List (Datum × Datum)}
    (first : classesRead ρ app w = (⟨cs, none⟩, v))
    (second : singletonsRead ρ app (v.changeDescriptor d (·.addClasses v.like cs))
      = (⟨ss, none⟩, u))
    (last : propertiesRead ρ app (u.changeDescriptor d (·.addSingletons ss))
      = (⟨ps, some fault⟩, t)) :
    Stalls ρ d app w fault v.like cs ss ps (t.changeDescriptor d (·.putProperties ps))

/-- **Absorbing fails at some stage**: the providers of an application are not asked for. -/
theorem stalls_of_absorb (hρ : ρ.replaces = false)
    (hrun : EStateM.run (absorb ρ d app) w = .error fault w') :
    ∃ rep cs ss ps, Stalls ρ d app w fault rep cs ss ps w' := by
  unfold absorb at hrun
  rw [absorbClasses_of_library hρ, absorbSingletons_of_library hρ, absorbProperties_of_library hρ]
    at hrun
  rcases run_bind_eq_error_iff.1 hrun with hstage | ⟨⟨⟩, w₁, hstage, hrun⟩
  · obtain ⟨cs, v, last, rfl⟩ := reading_of_taking_error (fun _ _ => rfl) hstage
    exact ⟨_, _, _, _, .classes last⟩
  obtain ⟨cs, v, first, rfl⟩ := reading_of_taking_ok hstage
  rcases run_bind_eq_error_iff.1 hrun with hstage | ⟨⟨⟩, w₂, hstage, hrun⟩
  · obtain ⟨ss, u, last, rfl⟩ := reading_of_taking_error (fun _ _ => rfl) hstage
    exact ⟨_, _, _, _, .singletons first last⟩
  obtain ⟨ss, u, second, rfl⟩ := reading_of_taking_ok hstage
  rcases run_bind_eq_error_iff.1 hrun with hstage | ⟨⟨⟩, w₃, -, hrun⟩
  · obtain ⟨ps, t, last, rfl⟩ := reading_of_taking_error (fun _ _ => rfl) hstage
    exact ⟨_, _, _, _, .properties first second last⟩
  · rw [run_absorbProviders_of_library hρ] at hrun
    cases hrun

/-- What reading leaves of the descriptors: all of them, as they were. -/
theorem heeds_reading (hρ : ρ.Discreet) {read : World → Offer → Reading α} {r : Reading α}
    (hr : reading ρ app h read w = (r, v)) : World.Effect .none w v := by
  have asked := heeds_ask hρ app h w
  unfold reading at hr
  cases hask : EStateM.run (ask ρ app h) w with
  | ok offer w₁ | error fault w₁ =>
    rw [hask] at hr asked
    cases hr
    exact asked

/-- A stage of absorbing, as it shows in the descriptor. -/
theorem descriptor_of_reading (hρ : ρ.Discreet) (hd : w.HasDescriptor d)
    {read : World → Offer → Reading α} {r : Reading α} (hr : reading ρ app h read w = (r, v))
    (f : Descriptor → Descriptor) :
    (v.changeDescriptor d f).HasDescriptor d ∧
      (v.changeDescriptor d f).descriptor d = f (w.descriptor d) := by
  have asked := heeds_reading hρ hr
  refine ⟨(World.hasDescriptor_change ..).2 (asked.has hd), ?_⟩
  rw [World.descriptor_change_self (asked.has hd), asked.same hd]

/-- **What absorbing leaves that fails**: the descriptor has all that was read until then, and no
    providers. -/
theorem descriptor_of_stalls (hρ : ρ.Discreet) (hd : w.HasDescriptor d) {rep : Ref → Ref}
    {cs ss : List Ref} {ps : List (Datum × Datum)}
    (stalls : Stalls ρ d app w fault rep cs ss ps w') :
    w'.descriptor d =
      (((w.descriptor d).addClasses rep cs).addSingletons ss).putProperties ps := by
  cases stalls with
  | classes last => exact (descriptor_of_reading hρ hd last _).2
  | singletons first last =>
    obtain ⟨hd₁, same₁⟩ := descriptor_of_reading hρ hd first (·.addClasses _ cs)
    rw [(descriptor_of_reading hρ hd₁ last _).2, same₁]
    rfl
  | properties first second last =>
    obtain ⟨hd₁, same₁⟩ := descriptor_of_reading hρ hd first (·.addClasses _ cs)
    obtain ⟨hd₂, same₂⟩ := descriptor_of_reading hρ hd₁ second (·.addSingletons ss)
    rw [(descriptor_of_reading hρ hd₂ last _).2, same₂, same₁]

/-! ## 3. Freezes that fail -/

/-- **A freeze that makes an application**, gives it to the descriptor, and absorbs it. -/
def firstFreeze (ρ : Dispatch) (d : DescriptorId) (c : ClassId) : Action Unit := do
  let app ← instantiate ρ c
  modify (·.changeDescriptor d (·.standFor app))
  absorb ρ d app
  markFrozen ρ d

/-- **What a freeze that fails leaves, and what the next one does.** Other descriptors are as they
    were, and this one is not frozen. If no application was made, it is as it was, and any later
    freeze is the first one again. Otherwise it is not: it has the application, with all that was
    read of it before the fault, and any later freeze only marks it, whatever was repaired in the
    meantime. -/
theorem freeze_error_residue (hρ : ρ.Discreet) (bare : ∀ member, w.assigned? .none member = none)
    (hd : w.HasDescriptor d) (herr : EStateM.run (freeze ρ d) w = .error fault w') :
    (w'.descriptor d).frozen = false ∧
    (∀ e, w.HasDescriptor e → e ≠ d → w'.descriptor e = w.descriptor e) ∧
    ∃ c, (w.descriptor d).applicationClass = some c ∧
      ((w'.descriptor d = w.descriptor d ∧
          (∀ app w₁, EStateM.run (instantiate ρ c) w = .ok app w₁ → app = .none) ∧
          ∀ (ρ' : Dispatch) (v : World), ρ'.replaces = false →
            v.descriptor d = w'.descriptor d →
            EStateM.run (freeze ρ' d) v = EStateM.run (firstFreeze ρ' d c) v) ∨
        (w'.descriptor d ≠ w.descriptor d ∧
          (∃ app w₁ rep cs ss ps, EStateM.run (instantiate ρ c) w = .ok app w₁ ∧ app ≠ .none ∧
            Stalls ρ d app (w₁.changeDescriptor d (·.standFor app)) fault rep cs ss ps w' ∧
            w'.descriptor d = (((((w.descriptor d).standFor app).addClasses rep cs).addSingletons
              ss).putProperties ps)) ∧
          ∀ (ρ' : Dispatch) (v : World), ρ'.replaces = false →
            v.descriptor d = w'.descriptor d →
            EStateM.run (freeze ρ' d) v = .ok ⟨⟩ (v.changeDescriptor d Descriptor.marked))) := by
  obtain ⟨hf, ha, c, hc⟩ := freeze_error hρ.library herr
  have unfrozen : (w'.descriptor d).frozen = false := by
    obtain ⟨_, _, ⟨-, same⟩ | ⟨app, w₁, -, filled⟩⟩ := left_of_freeze_error hρ hd herr
    · rw [same, hf]
    · exact filled.frozen.trans hf
  have others (e : DescriptorId) (he : w.HasDescriptor e) (hne : e ≠ d) :
      w'.descriptor e = w.descriptor e :=
    ((heeds_freeze hρ d).error herr).descriptor he (fun h => h) hne
  refine ⟨unfrozen, others, c, hc, ?_⟩
  have untouched (same : w'.descriptor d = w.descriptor d) (ρ' : Dispatch) (v : World)
      (hρ' : ρ'.replaces = false) (hv : v.descriptor d = w'.descriptor d) :
      EStateM.run (freeze ρ' d) v = EStateM.run (firstFreeze ρ' d c) v := by
    rw [same] at hv
    exact freeze_of_pending hρ' (hv ▸ hf) (hv ▸ hc) (hv ▸ ha)
  rcases (run_freeze_pending_eq_error_iff hρ.library hf hc ha).1 herr with
    hmake | ⟨app, w₁, hmake, habsorb⟩
  · -- No application was made.
    have same := ((heeds_instantiate hρ c).error hmake).same hd
    exact .inl ⟨same, fun _ _ hok => (nomatch hmake.symm.trans hok), untouched same⟩
  by_cases happ : app = .none
  · -- One was made that counts as none.
    subst happ
    have same := descriptor_of_nothing_made hρ hd bare hc hmake herr
    refine .inl ⟨same, fun app' w₂ hok => ?_, untouched same⟩
    exact (EStateM.Result.ok.inj (hok.symm.trans hmake)).1
  · right
    have made := (heeds_instantiate hρ c).ok hmake
    obtain ⟨rep, cs, ss, ps, stalls⟩ := stalls_of_absorb hρ.library habsorb
    have left := descriptor_of_stalls hρ
      ((World.hasDescriptor_change w₁ d d (·.standFor app)).2 (made.has hd)) stalls
    rw [World.descriptor_change_self (made.has hd), made.same hd] at left
    have stands : (w'.descriptor d).application = some app := by
      rw [left]
      exact if_neg happ
    refine ⟨fun same => ?_, ⟨app, w₁, rep, cs, ss, ps, hmake, happ, stalls, left⟩, ?_⟩
    · rw [same, ha] at stands
      cases stands
    · intro ρ' v hρ' hv
      exact freeze_of_settled hρ' (hv ▸ unfrozen) (.inr (by rw [hv, stands]; rfl))

end Action

namespace World

open AppMount.Action

/-! ## 4. A freeze that fails half-way -/

/-- The shop, after its freeze failed and its answer was repaired. -/
def repairedStore : World :=
  { afterFreezing noSettings 1 with classes := (shopStore euros).classes }

/-- **A freeze that fails may leave a descriptor changed**, and one that is tried again after the
    application was repaired need not give the descriptor that a first one gives: here it lacks the
    properties. -/
theorem freeze_error_not_atomic :
    EStateM.run (Action.freeze Dispatch.library ⟨0⟩) (afterFreezing noSettings 0) =
      .error (.raised ⟨"RuntimeError", "no settings"⟩) (afterFreezing noSettings 1) ∧
    ((afterFreezing noSettings 0).descriptor ⟨0⟩).classes = [] ∧
    ((afterFreezing noSettings 0).descriptor ⟨0⟩).application = none ∧
    ((afterFreezing noSettings 1).descriptor ⟨0⟩).classes = [.cls ⟨6⟩] ∧
    ((afterFreezing noSettings 1).descriptor ⟨0⟩).application = some (.object ⟨0⟩) ∧
    (∃ w, EStateM.run (Action.freeze Dispatch.library ⟨0⟩) repairedStore = .ok ⟨⟩ w ∧
      (w.descriptor ⟨0⟩).frozen = true ∧ (w.descriptor ⟨0⟩).properties = []) ∧
    ((afterFreezing euros 1).descriptor ⟨0⟩).frozen = true ∧
    ((afterFreezing euros 1).descriptor ⟨0⟩).properties =
      [(.text "currency", .text "EUR")] :=
  ⟨rfl, rfl, rfl, rfl, rfl, ⟨_, rfl, rfl, rfl⟩, rfl, rfl⟩

/-- What is left of the shop, and what comes of trying again. -/
theorem freeze_error_residue_shop :
    (∀ member, (afterFreezing noSettings 0).assigned? .none member = none) ∧
      (afterFreezing noSettings 0).HasDescriptor ⟨0⟩ ∧
      ((afterFreezing noSettings 1).descriptor ⟨0⟩).frozen = false ∧
      (∃ rep cs ss ps, Stalls Dispatch.library ⟨0⟩ (.object ⟨0⟩)
        (((afterFreezing noSettings 0).newThing (.made shopApp none)).2.changeDescriptor ⟨0⟩
          (·.standFor (.object ⟨0⟩)))
        (.raised ⟨"RuntimeError", "no settings"⟩) rep cs ss ps (afterFreezing noSettings 1)) ∧
      EStateM.run (Action.freeze Dispatch.library ⟨0⟩) repairedStore =
        .ok ⟨⟩ (repairedStore.changeDescriptor ⟨0⟩ Descriptor.marked) := by
  have bare : ∀ member, (afterFreezing noSettings 0).assigned? .none member = none := fun _ => rfl
  have has : (afterFreezing noSettings 0).HasDescriptor ⟨0⟩ := show 0 < 1 by decide
  have failed : EStateM.run (Action.freeze Dispatch.library ⟨0⟩) (afterFreezing noSettings 0) =
      .error (.raised ⟨"RuntimeError", "no settings"⟩) (afterFreezing noSettings 1) := rfl
  obtain ⟨unfrozen, -, c, hc, ⟨same, -⟩ | ⟨-, ⟨app, w₁, rep, cs, ss, ps, hmake, -, stalls, -⟩,
    retried⟩⟩ := freeze_error_residue Dispatch.discreet_library bare has failed
  · cases congrArg Descriptor.application same
  · obtain rfl : shopApp = c := Option.some.inj hc
    rw [(stocked_afterFreezing _).run_instantiate] at hmake
    cases hmake
    exact ⟨bare, has, unfrozen, ⟨rep, cs, ss, ps, stalls⟩, retried _ _ rfl rfl⟩

end World

end AppMount
