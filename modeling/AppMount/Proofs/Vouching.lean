import AppMount.Proofs.ApplicationCalls
import AppMount.Proofs.Constructing

/-!
# What the check of a class vouches for

The check of a descriptor and the one that freezing begins with look at the same parameters, but not
under the same conditions: freezing makes no application where there is one already, as a freeze may
have left behind that failed later. Such an application was only made because the parameters were
accepted, and so the two agree whatever happened before, as long as the parameters stay the same.

* `World.Vouches`: a descriptor for a class is given an application only where its parameters are
  accepted; `vouches_freeze`: freezing keeps to that;
* `World.Usage`: what may happen to descriptors while the parameters of a class stay as they are;
  `Usage.vouches`: all of it keeps to that;
* `descriptor_of_adapting`: what a descriptor is like that was just made for a class;
* `checkConstructible_agrees`: the check refuses a class where freezing would, for the same, and
  where it cannot be called; and it changes nothing;
* `checkConstructible_disagrees`: a class that says something else about its parameters may be
  refused though it can be called, and a class of descriptors may have a way of its own to make
  applications.
-/

namespace AppMount

open AppMount.Action
open World (Frame Lenient nobody)

/-! ## 1. Applications that are vouched for -/

namespace World

/-- **That a class is vouched for**: it shows the same parameters as before, and an application is
    given to descriptors for classes only, and to those for this one only if its parameters are
    accepted, but for what may be set up (`B`). -/
structure Vouches (c : ClassId) (B : DescriptorId → Prop) (w w' : World) : Prop where
  stores : ∀ r, w.Stores r → w'.Stores r
  shown : w'.shown c = w.shown c
  applicationClass : ∀ d, w.HasDescriptor d → ¬ B d →
    (w'.descriptor d).applicationClass = (w.descriptor d).applicationClass
  application : ∀ d, w.HasDescriptor d → ¬ B d →
    (w'.descriptor d).application = (w.descriptor d).application ∨
      ∃ k, (w.descriptor d).applicationClass = some k ∧ (k = c → w.parameterFault? c = none)

variable {c : ClassId} {B : DescriptorId → Prop} {w w' w'' : World} {d : DescriptorId}

/-- Whether parameters are accepted depends on nothing but them. -/
theorem accepted_of_shown (h : w'.shown c = w.shown c) :
    w'.parameterFault? c = none ↔ w.parameterFault? c = none := by
  rw [parameterFault?_eq_none_iff, parameterFault?_eq_none_iff, h]

/-- What leaves descriptors alone vouches for all classes that show the same. -/
theorem Vouches.elsewhere (stores : ∀ r, w.Stores r → w'.Stores r)
    (same : ∀ d, w.HasDescriptor d → w'.descriptor d = w.descriptor d)
    (shown : w'.shown c = w.shown c) : Vouches c B w w' where
  stores := stores
  shown := shown
  applicationClass d hd _ := by rw [same d hd]
  application d hd _ := .inl (by rw [same d hd])

/-- A change of a descriptor that gives it no application, unless that is vouched for. -/
theorem Vouches.change {f : Descriptor → Descriptor}
    (hf : ¬ B d → (f (w.descriptor d)).applicationClass = (w.descriptor d).applicationClass ∧
      ((f (w.descriptor d)).application = (w.descriptor d).application ∨
        ∃ k, (w.descriptor d).applicationClass = some k ∧ (k = c → w.parameterFault? c = none))) :
    Vouches c B w (w.changeDescriptor d f) := by
  refine ⟨fun r hr => ?_, rfl, fun e he hB => ?_, fun e he hB => ?_⟩
  · cases r with
    | descriptor e => exact (hasDescriptor_change ..).2 hr
    | object o => exact hr
    | none | cls | datum => trivial
  · by_cases hde : d = e
    · subst hde
      rw [descriptor_change_self he]
      exact (hf hB).1
    · rw [descriptor_change_of_ne hde]
  · by_cases hde : d = e
    · subst hde
      rw [descriptor_change_self he]
      exact (hf hB).2
    · rw [descriptor_change_of_ne hde]
      exact .inl rfl

instance : Lenient (Vouches c) where
  refl w := .elsewhere (fun _ hr => hr) (fun _ _ => rfl) rfl
  trans {B B' w w' w''} h h' hB := by
    have apart (d : DescriptorId) (hd : w.HasDescriptor d) (hn : ¬ B d) : ¬ B' d :=
      fun hd' => (hB d hd').elim hn fun hw => hw hd
    refine ⟨fun r hr => h'.stores r (h.stores r hr), h'.shown.trans h.shown, fun d hd hn => ?_,
      fun d hd hn => ?_⟩
    · exact (h'.applicationClass d (h.stores (.descriptor d) hd) (apart d hd hn)).trans
        (h.applicationClass d hd hn)
    · have hd' := h.stores (.descriptor d) hd
      rcases h.application d hd hn with first | given
      · rcases h'.application d hd' (apart d hd hn) with second | ⟨k, hk, accepted⟩
        · exact .inl (second.trans first)
        · exact .inr ⟨k, (h.applicationClass d hd hn).symm.trans hk,
            fun same => (accepted_of_shown h.shown).1 (accepted same)⟩
      · exact .inr given
  step h := by
    have keeps := h.keeps
    refine ⟨fun _ hr => keeps.stores hr, shown_of_classes keeps.rule keeps.classes _,
      fun d hd hn => ?_, fun d hd hn => .inl ?_⟩
    · rw [keeps.descriptor d hd hn fun hc => hc]
    · rw [keeps.descriptor d hd hn fun hc => hc]
  stores h := h.stores _
  notes h _ := .elsewhere (fun r hr => by cases r <;> exact hr) (fun _ _ => rfl) rfl
  change _ _ hd _ _ := .change fun hB => absurd hd hB
  elsewhere rule classes descriptors stores := by
    refine .elsewhere stores (fun d _ => ?_) (shown_of_classes rule classes _)
    unfold World.descriptor
    rw [descriptors]
  filled hf _ := .change fun _ => ⟨(hf _).applicationClass, .inl (hf _).application⟩

/-- That a descriptor for nothing stays so, even if it may be set up. -/
def StaysBare (_ : DescriptorId → Prop) (w w' : World) : Prop :=
  (∀ r, w.Stores r → w'.Stores r) ∧ ∀ d, w.HasDescriptor d →
    (w.descriptor d).applicationClass = none → (w.descriptor d).application = none →
    (w'.descriptor d).applicationClass = none ∧ (w'.descriptor d).application = none

instance : Frame StaysBare where
  refl _ := ⟨fun _ hr => hr, fun _ _ hc ha => ⟨hc, ha⟩⟩
  trans h h' _ := ⟨fun r hr => h'.1 r (h.1 r hr), fun d hd hc ha =>
    (h'.2 d (h.1 (.descriptor d) hd)) (h.2 d hd hc ha).1 (h.2 d hd hc ha).2⟩
  step {B w w'} h := by
    refine ⟨fun _ hr => h.keeps.stores hr, fun d hd hc ha => ?_⟩
    cases h with
    | called | logged | thing => exact ⟨hc, ha⟩
    | descriptor k => rw [descriptor_new_of_has hd]; exact ⟨hc, ha⟩
    | change f hd' => exact hd'.elim
    | @setUp e f _ hf =>
      by_cases he : e = d
      · subst he
        rw [descriptor_change_self hd]
        cases hf with
        | component r =>
          have filled := filled_addComponent w.like r (w.descriptor e)
          exact ⟨filled.applicationClass.trans hc, filled.application.trans ha⟩
        | initialized => exact ⟨rfl, rfl⟩
        | provider | property | frozen => exact ⟨hc, ha⟩
      · rw [descriptor_change_of_ne he]
        exact ⟨hc, ha⟩
  stores h := h.1 _
  notes _ _ := ⟨fun r hr => by cases r <;> exact hr, fun _ _ hc ha => ⟨hc, ha⟩⟩

theorem Vouches.staysBare (h : Vouches c nobody w w') : StaysBare nobody w w' := by
  refine ⟨h.stores, fun d hd hc ha => ⟨(h.applicationClass d hd id).trans hc, ?_⟩⟩
  rcases h.application d hd id with same | ⟨k, hk, -⟩
  · exact same.trans ha
  · cases hc.symm.trans hk

end World

namespace Action

variable {ρ : Dispatch} {c : ClassId} {w : World}

theorem vouches_absorb (hρ : ρ.Respects (World.Vouches c)) (d : DescriptorId) (app : Ref) :
    Stays (World.Vouches c) nobody (absorb ρ d app) :=
  within_absorb hρ.library Frame.refl (fun h h' => Frame.trans h h' fun _ => .inl)
    (fun h => stays_ask hρ app h) fun _ _ hf =>
      .change fun _ => ⟨(hf _).applicationClass, .inl (hf _).application⟩

theorem vouches_marked (d : DescriptorId) (w : World) :
    World.Vouches c nobody w (w.changeDescriptor d Descriptor.marked) :=
  .change fun _ => ⟨rfl, .inl rfl⟩

/-- **Freezing gives a descriptor an application only if the parameters of its class are
    accepted.** -/
theorem vouches_freeze (hρ : ρ.Respects (World.Vouches c)) (d : DescriptorId) :
    Stays (World.Vouches c) nobody (freeze ρ d) := by
  intro w
  rcases frozen_or_settled_or_pending (w.descriptor d) with hf | ⟨hf, hs⟩ | ⟨hf, ha, k, hk⟩
  · rw [freeze_of_frozen hρ.library hf]
    exact Frame.refl w
  · rw [freeze_of_settled hρ.library hf hs]
    exact vouches_marked d w
  · rw [freeze_of_pending hρ.library hf hk ha]
    have made := stays_instantiate hρ k w
    cases hmake : EStateM.run (instantiate ρ k) w with
    | error fault w₁ =>
      rw [hmake] at made
      rwa [run_bind_of_error hmake]
    | ok app w₁ =>
      rw [hmake, left_ok] at made
      have accepted : w.parameterFault? k = none := by
        obtain ⟨⟨⟩, w₂, hcheck, -⟩ := run_bind_eq_ok_iff.1 hmake
        exact ((run_checkParameters_eq_ok_iff hρ.library).1 hcheck).1
      have stands : World.Vouches c nobody w₁ (w₁.changeDescriptor d (·.standFor app)) := by
        have hd : w.HasDescriptor d := by
          by_contra hd
          rw [World.descriptor_of_not_has hd] at hk
          cases hk
        refine .change fun _ => ⟨rfl, .inr ⟨k, (made.applicationClass d hd id).trans hk, ?_⟩⟩
        -- If it stands for `c`, then `c` is the class whose parameters were just accepted.
        rintro rfl
        exact (World.accepted_of_shown made.shown).2 accepted
      have rest : Stays (World.Vouches c) nobody (do
          absorb ρ d app
          markFrozen ρ d) := by
        refine (vouches_absorb hρ d app).bind fun _ v => ?_
        rw [run_markFrozen_of_library hρ.library]
        exact vouches_marked d v
      rw [run_bind_of_ok hmake, run_bind_of_ok (EStateM.run_modify _ w₁)]
      exact Frame.trans made (Frame.trans stands (rest _) fun _ => .inl) fun _ => .inl

end Action

/-! ## 2. Building servers -/

section Building

variable {ρ : Dispatch} {R : (DescriptorId → Prop) → World → World → Prop} [Lenient R]

/-- Mounting goes no further than freezing does. -/
theorem lenient_mountAll (hρ : ρ.Respects R) (freezes : ∀ d, Stays R nobody (freeze ρ d))
    (b : ServerBuilder) (resolved : List (Datum × Registration)) :
    Stays R nobody (b.mountAll ρ resolved) := by
  induction resolved with
  | nil => exact .pure _
  | cons e rest ih =>
    obtain ⟨listener, r⟩ := e
    rw [ServerBuilder.mountAll]
    refine Stays.bind (fun w => lenient_callMethod hρ _ _ _ _ fun d _ => freezes d w) fun _ => ?_
    refine stays_afterCheck (reads_checkField b _) ?_
    refine (reads_labelOf hρ.library r).stays.bind fun label => (lenient_logged _).bind fun _ => ?_
    exact ih.bind fun mounts => .pure _

/-- **Building a server goes no further than freezing does.** -/
theorem lenient_build (hρ : ρ.Respects R) (freezes : ∀ d, Stays R nobody (freeze ρ d))
    (b : ServerBuilder) : Stays R nobody (b.build ρ) := by
  refine (reads_toMount b).stays.bind fun registrations => ?_
  refine (lenient_validate hρ b [] registrations).bind fun resolved => ?_
  refine (lenient_mountAll hρ freezes b resolved).bind fun mounts => ?_
  exact (reads_checkField b _).stays.bind fun _ => .pure _

end Building

/-! ## 3. Usage -/

namespace World

/-- **What may happen while the parameters of a class stay as they are**: any calls of the public
    interface in any order, whether they fail or not, by the caller and by application code that is
    called meanwhile; and anything else that leaves descriptors alone, and what the class shows of
    how it is called. -/
inductive Usage (c : ClassId) : World → World → Prop where
  | stay (w : World) : Usage c w w
  | trans {w v w' : World} (h : Usage c w v) (h' : Usage c v w') : Usage c w w'
  | elsewhere {w w' : World} (stores : ∀ r, w.Stores r → w'.Stores r)
    (same : ∀ d, w.HasDescriptor d → w'.descriptor d = w.descriptor d)
    (shown : w'.shown c = w.shown c) : Usage c w w'
  | call {w : World} (ρ : Dispatch) (x : Operation) (library : ρ.replaces = false)
    (allowed : x.Allowed (fun _ => True) w)
    (code : ∀ answer v, Usage c v (left (EStateM.run (ρ.run answer) v))) :
    Usage c w (left (EStateM.run (x.perform ρ) w))
  | freeze {w : World} (ρ : Dispatch) (d : DescriptorId) (library : ρ.replaces = false)
    (code : ∀ answer v, Usage c v (left (EStateM.run (ρ.run answer) v))) :
    Usage c w (left (EStateM.run (Action.freeze ρ d) w))
  | build {w : World} (ρ : Dispatch) (b : ServerBuilder) (library : ρ.replaces = false)
    (code : ∀ answer v, Usage c v (left (EStateM.run (ρ.run answer) v))) :
    Usage c w (left (EStateM.run (b.build ρ) w))

variable {c : ClassId} {w w' : World}

/-- **Whatever happens, the class is vouched for.** -/
theorem Usage.vouches (h : Usage c w w') : Vouches c nobody w w' := by
  induction h with
  | stay w => exact Frame.refl w
  | trans _ _ ih ih' => exact Frame.trans ih ih' fun _ => .inl
  | elsewhere stores same shown => exact .elsewhere stores same shown
  | call ρ x library allowed _ ih =>
    refine x.stays ⟨library, ih⟩ (fun d value place _ => .change fun _ => ?_) allowed
    have renamed := Descriptor.renamed_assigned value place
    exact ⟨(renamed _).applicationClass, .inl (renamed _).application⟩
  | freeze ρ d library _ ih => exact vouches_freeze ⟨library, ih⟩ d _
  | build ρ b library _ ih =>
    exact lenient_build ⟨library, ih⟩ (vouches_freeze ⟨library, ih⟩) b _

end World

/-! ## 4. The check -/

namespace Action

variable {ρ : Dispatch} {c factory : ClassId} {d : DescriptorId} {v w : World} {fault : Fault}

/-- **A descriptor that was made for a class** stands for it, and has no application yet, whatever
    application code did meanwhile. -/
theorem descriptor_of_adapting (hρ : ρ.Respects (World.Vouches c))
    (h : EStateM.run (forApplicationClass ρ factory (.cls c)) v = .ok d w) :
    w.HasDescriptor d ∧ (w.descriptor d).applicationClass = some c ∧
      (w.descriptor d).application = none := by
  unfold forApplicationClass at h
  dsimp only at h
  rw [run_discarding_eq_ok_iff, run_bind_of_ok (EStateM.run_get v)] at h
  obtain ⟨e, w₁, hnew, h⟩ := run_bind_eq_ok_iff.1 h
  rw [claim_of_library hρ.library, pure_bind, run_bind_of_ok (EStateM.run_modify _ w₁)] at h
  obtain ⟨rfl, rfl⟩ := EStateM.Result.ok.inj h
  obtain ⟨r, w₂, hmake, hnew⟩ := run_bind_eq_ok_iff.1 hnew
  have keeps : ρ.Respects World.StaysBare :=
    ⟨hρ.library, fun answer u => (hρ.run answer u).staysBare⟩
  obtain ⟨u, ⟨stored, bare⟩, since⟩ := makes_construct keeps factory rfl v r w₂ hmake
  cases r with
  | none | cls | object | datum => cases hnew
  | descriptor e' =>
    cases hnew
    obtain ⟨-, k, hk⟩ := bare e rfl
    have has : w₁.HasDescriptor e := since.1 (.descriptor e) stored
    have still := since.2 e stored (by rw [hk]) (by rw [hk])
    refine ⟨(World.hasDescriptor_change ..).2 has, ?_⟩
    rw [World.descriptor_change_self has]
    exact ⟨rfl, still.2⟩

/-- What is refused for its parameters, if it has any, is refused as a setting that is wrong. -/
theorem category_of_parameterFault? (shows : w.shown c ≠ .nothing)
    (h : w.parameterFault? c = some fault) : fault.category = "ConfigurationError" := by
  unfold World.parameterFault? at h
  cases hs : w.shown c with
  | nothing => exact absurd hs shows
  | uncallable d =>
    rw [hs] at h
    obtain rfl := Option.some.inj h
    rfl
  | parameters params =>
    rw [hs] at h
    obtain ⟨p, -, rfl⟩ := Option.map_eq_some_iff.1 h
    rfl

/-- **The check refuses a class where the one that freezing begins with would, and for the same**,
    if the descriptor has an application only where the parameters of its class are accepted. -/
theorem run_checkConstructible_eq_error_iff (hρ : ρ.replaces = false)
    (backed : (w.descriptor d).applicationClass = some c)
    (vouched : (w.descriptor d).application = none ∨ w.parameterFault? c = none) :
    EStateM.run (checkConstructible ρ d) w = .error fault w ↔
      (w.descriptor d).awaited? = some c ∧
        EStateM.run (checkParameters ρ c) w = .error fault w := by
  rw [run_checkConstructible_of_library hρ, run_checkParameters_eq_error_iff hρ,
    Descriptor.awaited?_eq_some_iff]
  cases hf : (w.descriptor d).frozen with
  | true => simp [World.constructionFault?, hf]
  | false =>
    rw [World.constructionFault?_of_backed hf backed]
    cases hp : w.parameterFault? c with
    | none => simp
    | some fault' =>
      have waits := vouched.resolve_right (by simp [hp])
      simp [backed, waits]

/-- **The check of a descriptor agrees with freezing it**, and refuses no class that can be used.
    Once a descriptor is made for a class, whatever happens while the parameters of the class stay
    as they are: the check refuses the class exactly where freezing refuses it before it calls it,
    and for the same; if the class shows anything of how it is called, that is as a setting that is
    wrong, and a call of the class without arguments fails too, unless it makes no instance of the
    class. The check changes nothing and runs no code. -/
theorem checkConstructible_agrees {ρ₀ : Dispatch} {v₀ : World} (hρ₀ : ρ₀.replaces = false)
    (code : ∀ answer (u : World), u.Usage c (left (EStateM.run (ρ₀.run answer) u)))
    (made : EStateM.run (forApplicationClass ρ₀ factory (.cls c)) v₀ = .ok d v)
    (used : v.Usage c w) (hρ : ρ.replaces = false) :
    left (EStateM.run (checkConstructible ρ d) w) = w ∧
    (∀ fault, EStateM.run (checkConstructible ρ d) w = .error fault w ↔
      (w.descriptor d).awaited? = some c ∧
        EStateM.run (checkParameters ρ c) w = .error fault w) ∧
    ∀ fault, EStateM.run (checkConstructible ρ d) w = .error fault w →
      EStateM.run (freeze ρ d) w = .error fault w ∧
      (w.shown c ≠ .nothing → fault.category = "ConfigurationError" ∧
        (c ∉ [ClassId.whole, ClassId.text, ClassId.mapping] →
          (∀ app w', EStateM.run (construct ρ c {}) w = .ok app w' → w'.classOf? app = some c) →
          ∃ fault' w', EStateM.run (construct ρ c {}) w = .error fault' w')) := by
  obtain ⟨has, backed, bare⟩ :=
    descriptor_of_adapting ⟨hρ₀, fun answer u => (code answer u).vouches⟩ made
  have vouches := used.vouches
  have backed' : (w.descriptor d).applicationClass = some c :=
    (vouches.applicationClass d has id).trans backed
  have vouched : (w.descriptor d).application = none ∨ w.parameterFault? c = none := by
    refine (vouches.application d has id).imp (·.trans bare) ?_
    rintro ⟨k, hk, accepted⟩
    exact (World.accepted_of_shown vouches.shown).2
      (accepted (Option.some.inj (hk.symm.trans backed)))
  have agree (fault : Fault) : EStateM.run (checkConstructible ρ d) w = .error fault w ↔
      (w.descriptor d).awaited? = some c ∧
        EStateM.run (checkParameters ρ c) w = .error fault w :=
    run_checkConstructible_eq_error_iff hρ backed' vouched
  refine ⟨(reads_checkConstructible hρ d w).symm, agree, fun fault h => ?_⟩
  obtain ⟨waits, hcheck⟩ := (agree fault).1 h
  obtain ⟨hf, ha, hc⟩ := Descriptor.awaited?_eq_some_iff.1 waits
  have refused := ((run_checkParameters_eq_error_iff hρ).1 hcheck).1
  refine ⟨?_, fun shows => ⟨category_of_parameterFault? shows refused, fun unprimitive own => ?_⟩⟩
  · rw [freeze_of_pending hρ hf hc ha]
    unfold instantiate
    rw [bind_assoc, run_bind_of_error hcheck]
  · cases hcall : EStateM.run (construct ρ c {}) w with
    | error fault' w' => exact ⟨fault', w', rfl⟩
    | ok app w' =>
      exact nomatch refused.symm.trans
        (accepted_of_construct hρ unprimitive shows hcall (own app w' hcall))

end Action

/-- Discreet code changes no class. -/
theorem Dispatch.Discreet.usage {ρ : Dispatch} (hρ : ρ.Discreet) (c : ClassId) (answer : Answer)
    (v : World) : v.Usage c (left (EStateM.run (ρ.run answer) v)) :=
  .elsewhere (fun _ => (hρ.run answer v).keeps.stores) (fun _ hd => (hρ.run answer v).same hd)
    (World.shown_of_classes (hρ.run answer v).keeps.rule (hρ.run answer v).keeps.classes c)

namespace World

/-- A class whose instances are initialized with an argument. -/
def strictApp : ClassDef :=
  { name := "ShopApp", qualname := "ShopApp", home := .text "shop",
    ancestors := [ClassId.application, ClassId.object],
    members :=
      [(ClassDef.initializerMember, .method (.within "ShopApp" ClassDef.initializerMember
        (.setUp { params := [⟨"zone", .ordinary, false⟩] })))] }

/-- A descriptor for that class, something registered with it, and a freeze that fails. -/
def strictCalls : Action Unit := do
  Operation.perform Dispatch.library (.register ⟨0⟩ (.cls offered))
  freeze Dispatch.library ⟨0⟩

/-- **A class that wants an argument** is refused after a freeze that failed as it would be before,
    and it cannot be called. -/
theorem checkConstructible_agrees_strict :
    ∃ v w, (EStateM.run (forApplicationClass Dispatch.library ClassId.descriptor (.cls offered))
        (offering strictApp) = .ok ⟨0⟩ v ∧ w = left (EStateM.run strictCalls v) ∧
        v.Usage offered w ∧
        EStateM.run (checkConstructible Dispatch.library ⟨0⟩) w =
          .error (.unconstructible "ShopApp" (.missing "zone")) w) ∧
      EStateM.run (freeze Dispatch.library ⟨0⟩) w =
        .error (.unconstructible "ShopApp" (.missing "zone")) w ∧
      ∃ fault' w', EStateM.run (construct Dispatch.library offered {}) w = .error fault' w' := by
  have code := Dispatch.discreet_library.usage offered
  have made : EStateM.run (forApplicationClass Dispatch.library ClassId.descriptor (.cls offered))
      (offering strictApp) = .ok ⟨0⟩ _ := rfl
  have used (v : World) : v.Usage offered _ :=
    .trans (.call Dispatch.library (.register ⟨0⟩ (.cls offered)) rfl trivial code)
      (.freeze Dispatch.library ⟨0⟩ rfl code)
  obtain ⟨-, -, refused⟩ := checkConstructible_agrees rfl code made (used _)
    Dispatch.discreet_library.library
  obtain ⟨frozen, rest⟩ := refused (.unconstructible "ShopApp" (.missing "zone")) rfl
  obtain ⟨-, fails⟩ := rest nofun
  exact ⟨_, _, ⟨made, rfl, used _, rfl⟩, frozen, fails (by decide) nofun⟩

/-- A class that says that it wraps a method. -/
def wrappedApp : ClassDef :=
  { name := "ShopApp", qualname := "ShopApp", home := .text "shop",
    ancestors := [ClassId.application, ClassId.object],
    members := [("__wrapped__",
      .method (.within "ShopApp" "__wrapped__" (.answer (.datum (.whole 1) 0))))] }

/-- A class of descriptors that has a way of its own to make applications. -/
def workshop : ClassDef :=
  { name := "Workshop", qualname := "Workshop", home := .text "shop",
    ancestors := [ClassId.descriptor, ClassId.application, ClassId.object],
    members := [("_instantiate",
      .method (.within "Workshop" "_instantiate" (.answer (.datum .null 0))))] }

/-- **Where classes say otherwise, the check is of no account.** A class that can be called is
    refused for the parameters that what it wraps shows; and a descriptor that makes applications in
    a way of its own fails for that when it is frozen, and not for the parameters of the class. -/
theorem checkConstructible_disagrees :
    (∃ d v, EStateM.run (forApplicationClass Dispatch.replaceable ClassId.descriptor (.cls offered))
        (offering wrappedApp) = .ok d v ∧
      EStateM.run (checkConstructible Dispatch.replaceable d) v =
        .error (.unconstructible "ShopApp" (.missing "self")) v ∧
      ∃ app w, EStateM.run (construct Dispatch.replaceable offered {}) v = .ok app w ∧
        w.classOf? app = some offered) ∧
    ∃ d v, EStateM.run (forApplicationClass Dispatch.replaceable ⟨7⟩ (.cls offered))
        { offering strictApp with classes := (offering strictApp).classes.push workshop } =
          .ok d v ∧
      EStateM.run (checkConstructible Dispatch.replaceable d) v =
        .error (.unconstructible "ShopApp" (.missing "zone")) v ∧
      ∃ w, EStateM.run (freeze Dispatch.replaceable d) v =
        .error (.call "Workshop._instantiate" (.surplus 1 1 2 0)) w :=
  ⟨⟨⟨0⟩, _, rfl, rfl, _, _, rfl, rfl⟩, ⟨0⟩, _, rfl, rfl, _, rfl⟩

end World

end AppMount
