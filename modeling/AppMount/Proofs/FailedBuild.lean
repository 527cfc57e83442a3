import AppMount.Proofs.Mounting

/-!
# Builds that fail

What a build that fails has done to the descriptors it was to mount. The first pass touches none of
them; the second one freezes them one after the other, and what it froze stays frozen when a later
application cannot be made or absorbed.

* `run_mountAll_eq_error`: where a second pass fails;
* `run_mountAll_of_frozen`: registrations of frozen descriptors only leave entries in the log;
* `ServerBuilder.FailsAt`: the registration a build fails at;
* `build_error_freezes`: a build that fails may freeze a descriptor;
* `build_error_untouched_iff`: exactly when it leaves all descriptors as they were, and exactly when
  it freezes none.
-/

namespace AppMount

/-! ## 1. Where the second pass fails -/

namespace World

/-- What mounting writes to the log. -/
def mountings (w : World) (resolved : List (Datum × Registration)) : List LogEntry :=
  resolved.map fun e => .mounted (e.2.label w.describe) e.2.contextRoot e.1

end World

namespace ServerBuilder

variable {ρ : Dispatch} {b : ServerBuilder} {config : ServerConfig} {members : List Ref}
  {w w' : World} {fault : Fault} {resolved : List (Datum × Registration)}

/-- **Registrations whose descriptors are frozen already** are mounted and leave nothing but entries
    in the log. -/
theorem run_mountAll_of_frozen (hρ : ρ.replaces = false) (hb : b.standIns = [])
    (rest : List (Datum × Registration))
    (h : ∀ e ∈ resolved, ∃ d, e.2.config = .descriptor d ∧ (w.descriptor d).frozen = true) :
    EStateM.run (b.mountAll ρ (resolved ++ rest)) w =
      EStateM.run (do
        let mounts ← b.mountAll ρ rest
        pure (resolved.map (fun e => mountOf b.defaultExecutor e.1 e.2) ++ mounts))
        (w.logging (w.mountings resolved)) := by
  induction resolved generalizing w with
  | nil => simp [World.mountings]
  | cons e rs ih =>
    obtain ⟨listener, r⟩ := e
    obtain ⟨d, hd, hf⟩ := h _ List.mem_cons_self
    have frozen := Action.freeze_of_frozen hρ hf
    have later := ih (w := w.logging [.mounted (r.label w.describe) r.contextRoot listener])
      fun e he => h e (List.mem_cons_of_mem _ he)
    rw [List.cons_append, mountAll_cons hρ hb hd, Action.run_bind_of_ok frozen,
      Action.run_bind_of_ok (Action.run_labelOf_of_library hρ r w),
      Action.run_bind_of_ok (Action.run_logged _ w), EStateM.run_bind, later, ← EStateM.run_bind,
      World.logging_append]
    simp only [World.mountings, World.describe_logging, List.map_cons, bind_assoc, pure_bind,
      List.nil_append, List.cons_append]

/-- **A second pass that fails** fails at the descriptor of some registration, after all before it
    were mounted. -/
theorem run_mountAll_eq_error (hρ : ρ.replaces = false) (hb : b.standIns = [])
    (h : ∀ e ∈ resolved, ∃ d, e.2.config = .descriptor d)
    (hrun : EStateM.run (b.mountAll ρ resolved) w = .error fault w') :
    ∃ before e rest d mounts w₁, resolved = before ++ e :: rest ∧ e.2.config = .descriptor d ∧
      EStateM.run (b.mountAll ρ before) w = .ok mounts w₁ ∧
      EStateM.run (Action.freeze ρ d) w₁ = .error fault w' := by
  induction resolved generalizing w with
  | nil => cases hrun
  | cons e rs ih =>
    obtain ⟨listener, r⟩ := e
    obtain ⟨d, hd⟩ := h _ List.mem_cons_self
    rw [mountAll_cons hρ hb hd] at hrun
    rcases Action.run_bind_eq_error_iff.1 hrun with hfreeze | ⟨⟨⟩, w₁, hfreeze, hrun⟩
    · exact ⟨[], (listener, r), rs, d, [], w, rfl, hd, rfl, hfreeze⟩
    · rw [Action.run_bind_of_ok (Action.run_labelOf_of_library hρ r w₁),
        Action.run_bind_of_ok (Action.run_logged _ w₁)] at hrun
      rcases Action.run_bind_eq_error_iff.1 hrun with hrest | ⟨_, _, _, hend⟩
      · obtain ⟨before, e', rest, d', mounts, w₂, rfl, hd', hmounts, hfail⟩ :=
          ih (fun e he => h e (List.mem_cons_of_mem _ he)) hrest
        refine ⟨(listener, r) :: before, e', rest, d',
          mountOf b.defaultExecutor listener r :: mounts, w₂, rfl, hd', ?_, hfail⟩
        rw [mountAll_cons hρ hb hd, Action.run_bind_of_ok hfreeze,
          Action.run_bind_of_ok (Action.run_labelOf_of_library hρ r w₁),
          Action.run_bind_of_ok (Action.run_logged _ w₁), Action.run_bind_of_ok hmounts]
        rfl
      · cases hend

end ServerBuilder

/-! ## 2. Applications that are nothing -/

namespace Action

variable {ρ : Dispatch} {w w' : World} {d : DescriptorId} {fault : Fault}

/-- Nothing is no application: it cannot be asked. -/
theorem run_ask_none (hρ : ρ.replaces = false) (h : Hook)
    (bare : w.assigned? .none h.word = none) :
    EStateM.run (ask ρ .none h) w =
      .error (w.missingMember .none (w.missingName .none h.word)) w := by
  have missing : w.find? .none h.word = none := by
    cases h <;> simp [World.find?, World.objectMember?, World.writtenIn?, bare, World.content?,
      World.classOf?, World.streamName?, World.homeFound?]
  unfold ask access
  refine run_bind_of_error ?_
  rw [checkAccess_of_library hρ, pure_bind, run_bind_of_ok (EStateM.run_get w), missing]
  rfl

/-- Nothing cannot be absorbed either. -/
theorem run_absorb_none (hρ : ρ.replaces = false) (d : DescriptorId)
    (bare : ∀ member, w.assigned? .none member = none) :
    ∃ fault, EStateM.run (absorb ρ d .none) w = .error fault w := by
  unfold absorb
  rw [absorbClasses_of_library hρ]
  have unasked := run_ask_none hρ .classes (bare Hook.classes.word)
  exact ⟨_, run_bind_of_error (run_taking_eq_error_iff.2 (.inl unasked))⟩

/-- What is in the namespaces of a store is in those of one with the same ones. -/
theorem bare_of_assigned (h : w'.assigned = w.assigned)
    (bare : ∀ member, w.assigned? .none member = none) (member : String) :
    w'.assigned? .none member = none := by
  show Keyed.get? id (Ref.none, member) w'.assigned = none
  rw [h]
  exact bare member

/-- **Where a class makes nothing, a descriptor is left as it was.** -/
theorem descriptor_of_nothing_made (hρ : ρ.Discreet) (hd : w.HasDescriptor d)
    (bare : ∀ member, w.assigned? .none member = none) {c : ClassId} {w₁ : World}
    (hc : (w.descriptor d).applicationClass = some c)
    (hmake : EStateM.run (instantiate ρ c) w = .ok .none w₁)
    (h : EStateM.run (freeze ρ d) w = .error fault w') : w'.descriptor d = w.descriptor d := by
  obtain ⟨hf, ha, -⟩ := freeze_error hρ.library h
  have made := (heeds_instantiate hρ c).ok hmake
  rcases (run_freeze_pending_eq_error_iff hρ.library hf hc ha).1 h with
    hfail | ⟨app, w₂, hmake', habsorb⟩
  · rw [hmake] at hfail
    cases hfail
  · rw [hmake] at hmake'
    cases hmake'
    have bare' (member : String) :
        (w₁.changeDescriptor d (·.standFor .none)).assigned? .none member = none :=
      bare_of_assigned (w := w) made.keeps.assigned bare member
    obtain ⟨fault', hnone⟩ := run_absorb_none hρ.library d bare'
    rw [hnone] at habsorb
    cases habsorb
    rw [World.descriptor_change_self (made.has hd), made.same hd]
    exact Descriptor.standFor_none ha

end Action

/-! ## 3. What a failed build leaves -/

namespace ServerBuilder

variable {ρ : Dispatch} {b : ServerBuilder} {config : ServerConfig} {members : List Ref}
  {w w' : World} {fault : Fault}

/-- A builder that the first pass refuses. -/
def Refused (b : ServerBuilder) (config : ServerConfig) (w : World) : Prop :=
  ∃ i fault, w.refusalAt? config b.registrations i = some fault

/-- The store in which a registration is mounted, if the descriptors of all those before it were
    frozen at the start. -/
def reached (b : ServerBuilder) (config : ServerConfig) (w : World) (before : List Registration) :
    World :=
  (w.validated config b.registrations).logging
    ((w.validated config b.registrations).mountings (before.map (resolved config)))

/-- **A build that fails at the first descriptor that it has to freeze**: all those before it were
    frozen at the start. -/
structure FailsAt (ρ : Dispatch) (b : ServerBuilder) (config : ServerConfig) (w : World)
    (fault : Fault) (w' : World) (before : List Registration) (d : DescriptorId) : Prop where
  split : ∃ r rest, b.registrations = before ++ r :: rest ∧ r.config = .descriptor d
  settled : ∀ q ∈ before, ∃ e, q.config = .descriptor e ∧ (w.descriptor e).frozen = true
  fails : EStateM.run (Action.freeze ρ d) (b.reached config w before) = .error fault w'

theorem FailsAt.has {before : List Registration} {d : DescriptorId}
    (h : b.FailsAt ρ config w fault w' before d) (hb : b.Holds config members w) :
    (b.reached config w before).HasDescriptor d := by
  obtain ⟨r, rest, hsplit, hd⟩ := h.split
  obtain ⟨e, he, hhas⟩ := hb.stored r (by simp [hsplit])
  obtain rfl : d = e := Ref.descriptor.inj (hd.symm.trans he)
  exact hhas

/-- Where the first pass refuses nothing, it is the second one that fails. -/
theorem run_mountAll_of_build_error (hρ : ρ.replaces = false) (hb : b.Holds config members w)
    (hr : ¬ b.Refused config w) (herr : EStateM.run (b.build ρ) w = .error fault w') :
    EStateM.run (b.mountAll ρ (b.registrations.map (resolved config)))
      (w.validated config b.registrations) = .error fault w' := by
  have accepted (i : Nat) : w.refusalAt? config b.registrations i = none :=
    Option.eq_none_iff_forall_ne_some.2 fun fault h => hr ⟨i, fault, h⟩
  rw [build_of_nil hb.standIns, Action.run_bind_of_ok (run_validate_of_all hρ hb accepted)] at herr
  rcases Action.run_bind_eq_error_iff.1 herr with hmount | ⟨_, _, _, hend⟩
  · exact hmount
  · cases hend

/-- **What was frozen before the failure stays frozen**, so that a build that freezes nothing fails
    at the first descriptor that it has to freeze. -/
theorem exists_failsAt (hρ : ρ.Discreet) (hb : b.Holds config members w)
    (hr : ¬ b.Refused config w) (herr : EStateM.run (b.build ρ) w = .error fault w')
    (kept : ∀ r ∈ b.registrations, ∀ d, r.config = .descriptor d →
      (w'.descriptor d).frozen = true → (w.descriptor d).frozen = true) :
    ∃ before d, b.FailsAt ρ config w fault w' before d := by
  have stored : ∀ e ∈ b.registrations.map (resolved config), ∃ d, e.2.config = .descriptor d ∧
      (w.validated config b.registrations).HasDescriptor d := by
    intro e he
    obtain ⟨r, hr, rfl⟩ := List.mem_map.1 he
    exact hb.stored r hr
  obtain ⟨_, _, _, d, mounts, w₁, hsplit, hd, hbefore, hfail⟩ :=
    run_mountAll_eq_error hρ.library hb.standIns (fun e he => (stored e he).imp fun _ h => h.1)
      (run_mountAll_of_build_error hρ.library hb hr herr)
  obtain ⟨before, tail, hregs, rfl, htail⟩ := List.map_eq_append_iff.1 hsplit
  obtain ⟨r, rest, rfl, rfl, rfl⟩ := List.map_eq_cons_iff.1 htail
  have settled : ∀ q ∈ before, ∃ e, q.config = .descriptor e ∧ (w.descriptor e).frozen = true := by
    intro q hq
    have hmem : q ∈ b.registrations := by
      rw [hregs]
      exact List.mem_append_left _ hq
    obtain ⟨e, he, hhas⟩ := hb.stored q hmem
    refine ⟨e, he, kept q hmem e he ?_⟩
    have located : ∀ p ∈ before.map (resolved config), ∃ d, p.2.config = .descriptor d ∧
        (w.validated config b.registrations).HasDescriptor d :=
      fun p hp => stored p (by rw [hsplit]; exact List.mem_append_left _ hp)
    have frozen := (run_mountAll_eq_ok hρ.respects_frame hb.standIns located hbefore).2 _
      (List.mem_map.2 ⟨q, hq, rfl⟩) e he
    have has₁ := (keepsFrozen_mountAll hρ hb.standIns
      fun p hp => (located p hp).imp fun _ h => h.1).ok hbefore |>.has e hhas
    rw [((Action.keepsFrozen_freeze hρ d).error hfail).descriptor e has₁ frozen]
    exact frozen
  have reached : w₁ = b.reached config w before := by
    have located : ∀ p ∈ before.map (resolved config), ∃ d, p.2.config = .descriptor d ∧
        ((w.validated config b.registrations).descriptor d).frozen = true := by
      intro p hp
      obtain ⟨q, hq, rfl⟩ := List.mem_map.1 hp
      exact settled q hq
    have quiet := run_mountAll_of_frozen hρ.library hb.standIns [] located
    rw [List.append_nil, hbefore] at quiet
    exact (EStateM.Result.ok.inj quiet).2
  subst reached
  exact ⟨before, d, ⟨r, rest, hregs, hd⟩, settled, hfail⟩

/-- **A build that fails at the first descriptor that it has to freeze** leaves every other one as
    it was. -/
theorem FailsAt.descriptor (hρ : ρ.Discreet) {before : List Registration} {d e : DescriptorId}
    (h : b.FailsAt ρ config w fault w' before d) (he : w.HasDescriptor e) (hne : e ≠ d) :
    w'.descriptor e = w.descriptor e :=
  ((Action.heeds_freeze hρ d).error h.fails).descriptor he (fun h => h) hne

/-- Of that one it leaves what a failed freeze leaves. -/
theorem FailsAt.left (hρ : ρ.Discreet) (hb : b.Holds config members w)
    (bare : ∀ member, w.assigned? .none member = none) {before : List Registration}
    {d : DescriptorId} (h : b.FailsAt ρ config w fault w' before d) :
    ∃ c, (w.descriptor d).applicationClass = some c ∧
      ((EStateM.run (Action.instantiate ρ c) (b.reached config w before) = .error fault w' ∧
          w'.descriptor d = w.descriptor d) ∨
        ∃ app w₁, EStateM.run (Action.instantiate ρ c) (b.reached config w before) = .ok app w₁ ∧
          (app = .none → w'.descriptor d = w.descriptor d) ∧
          ((w.descriptor d).standFor app).Filled (w'.descriptor d)) := by
  have has := h.has hb
  obtain ⟨c, hc, hmake | ⟨app, w₁, hmake, filled⟩⟩ := Action.left_of_freeze_error hρ has h.fails
  · exact ⟨c, hc, .inl hmake⟩
  · refine ⟨c, hc, .inr ⟨app, w₁, hmake, fun hnone => ?_, filled⟩⟩
    subst hnone
    have same := Action.descriptor_of_nothing_made hρ has bare hc hmake h.fails
    exact same

theorem descriptor_of_refused (hρ : ρ.replaces = false) (hb : b.Holds config members w)
    (hr : b.Refused config w) (herr : EStateM.run (b.build ρ) w = .error fault w')
    (d : DescriptorId) : w'.descriptor d = w.descriptor d := by
  rcases w.refused_first config b.registrations with hall | ⟨i, fault, hi, first⟩
  · obtain ⟨i, fault, hi⟩ := hr
    rw [hall i] at hi
    cases hi
  · rw [run_build_of_first hρ hb hi first] at herr
    obtain ⟨-, rfl⟩ := EStateM.Result.error.inj herr
    rfl

/-- **What a failed build leaves untouched.** Descriptors are as they were exactly if the first pass
    refused the builder, or if the build failed at the first descriptor that it had to freeze and
    there was no application for it yet. None of them is newly frozen exactly if the first pass
    refused the builder, or the build failed at the first descriptor that it had to freeze. -/
theorem build_error_untouched_iff (hρ : ρ.Discreet) (hb : b.Holds config members w)
    (bare : ∀ member, w.assigned? .none member = none)
    (herr : EStateM.run (b.build ρ) w = .error fault w') :
    ((∀ r ∈ b.registrations, ∀ d, r.config = .descriptor d →
        w'.descriptor d = w.descriptor d) ↔
      b.Refused config w ∨ ∃ before d, b.FailsAt ρ config w fault w' before d ∧
        ∀ c app w₁, (w.descriptor d).applicationClass = some c →
          EStateM.run (Action.instantiate ρ c) (b.reached config w before) = .ok app w₁ →
          app = .none) ∧
    ((∀ r ∈ b.registrations, ∀ d, r.config = .descriptor d →
        (w'.descriptor d).frozen = true → (w.descriptor d).frozen = true) ↔
      b.Refused config w ∨ ∃ before d, b.FailsAt ρ config w fault w' before d) := by
  by_cases hr : b.Refused config w
  · have untouched (d : DescriptorId) : w'.descriptor d = w.descriptor d :=
      descriptor_of_refused hρ.library hb hr herr d
    refine ⟨⟨fun _ => .inl hr, fun _ r _ d _ => untouched d⟩,
      ⟨fun _ => .inl hr, fun _ r _ d _ => ?_⟩⟩
    rw [untouched d]
    exact id
  · refine ⟨⟨fun untouched => ?_, ?_⟩, ⟨fun kept => .inr (exists_failsAt hρ hb hr herr kept), ?_⟩⟩
    · obtain ⟨before, d, h⟩ := exists_failsAt hρ hb hr herr fun r hmem d hd hf => by
        rwa [untouched r hmem d hd] at hf
      refine .inr ⟨before, d, h, fun c app w₁ hc hmake => ?_⟩
      obtain ⟨r, rest, hsplit, hd⟩ := h.split
      obtain ⟨-, ha, -⟩ := Action.freeze_error hρ.library h.fails
      obtain ⟨c', hc', made⟩ := h.left hρ hb bare
      obtain rfl : c = c' := Option.some.inj (hc.symm.trans hc')
      rw [hmake] at made
      rcases made with ⟨hfail, -⟩ | ⟨app', w₂, hmake', -, filled⟩
      · cases hfail
      · cases hmake'
        rw [untouched r (by simp [hsplit]) d hd] at filled
        by_contra happ
        have hstands := filled.application
        rw [show (w.descriptor d).application = none from ha] at hstands
        simp [Descriptor.standFor, happ] at hstands
    · rintro (hrefused | ⟨before, d, h, nothing⟩) r hmem e he
      · exact absurd hrefused hr
      · by_cases hed : e = d
        · subst hed
          obtain ⟨c, hc, ⟨-, same⟩ | ⟨app, w₁, hmake, same, -⟩⟩ := h.left hρ hb bare
          · exact same
          · exact same (nothing c app w₁ hc hmake)
        · obtain ⟨e', he', hhas⟩ := hb.stored r hmem
          obtain rfl : e = e' := Ref.descriptor.inj (he.symm.trans he')
          exact h.descriptor hρ hhas hed
    · rintro (hrefused | ⟨before, d, h⟩) r hmem e he
      · exact absurd hrefused hr
      · by_cases hed : e = d
        · subst hed
          obtain ⟨c, hc, ⟨-, same⟩ | ⟨app, w₁, hmake, -, filled⟩⟩ := h.left hρ hb bare
          · rw [same]
            exact id
          · rw [filled.frozen]
            exact id
        · obtain ⟨e', he', hhas⟩ := hb.stored r hmem
          obtain rfl : e = e' := Ref.descriptor.inj (he.symm.trans he')
          rw [h.descriptor hρ hhas hed]
          exact id

/-! ## 4. An application that cannot be made -/

/-- A store with a descriptor that is filled by hand and one for a class of applications whose
    constructor fails. -/
def brokenStore : World :=
  { World.initial with
    classes := World.initial.classes.push
      { name := "BrokenApp", qualname := "BrokenApp", home := .text "shop",
        ancestors := [ClassId.application, ClassId.object],
        members := [(ClassDef.initializerMember,
          .method (.within "BrokenApp" ClassDef.initializerMember
            (.setUp { failure := some ⟨"RuntimeError", "no database"⟩ })))] }
    descriptors := #[{ cls := ClassId.descriptor, name := .text "first" },
      { cls := ClassId.descriptor, applicationClass := some ⟨6⟩ }] }

/-- The registration of the descriptor that is filled by hand. -/
def firstRegistration : Registration :=
  { contextRoot := .text "/first", config := .descriptor ⟨0⟩ }

/-- The registration of the class. -/
def brokenRegistration : Registration :=
  { contextRoot := .text "/broken", config := .descriptor ⟨1⟩,
    appClassName := .text "shop.BrokenApp" }

/-- A builder of both. -/
def brokenBuilder : ServerBuilder :=
  { registrations := [firstRegistration, brokenRegistration] }

theorem holds_brokenBuilder {w : World} (h : w.descriptors.size = 2) :
    brokenBuilder.Holds {} [] w := by
  refine ⟨rfl, rfl, fun r hr => ?_⟩
  simp only [brokenBuilder, List.mem_cons, List.not_mem_nil, or_false] at hr
  rcases hr with rfl | rfl
  · exact ⟨⟨0⟩, rfl, show 0 < w.descriptors.size by omega⟩
  · exact ⟨⟨1⟩, rfl, show 1 < w.descriptors.size by omega⟩

/-- **A build that fails may have frozen a descriptor**: the constructor of the second application
    fails when the descriptor of the first one is frozen already. -/
theorem build_error_freezes :
    brokenBuilder.Holds {} [] brokenStore ∧ ∃ w',
      EStateM.run (brokenBuilder.build Dispatch.library) brokenStore =
        .error (.raised ⟨"RuntimeError", "no database"⟩) w' ∧
      (brokenStore.descriptor ⟨0⟩).frozen = false ∧ (w'.descriptor ⟨0⟩).frozen = true :=
  ⟨holds_brokenBuilder rfl, _, rfl, rfl, rfl⟩

/-- The store, after the first descriptor was frozen. -/
def settledStore : World :=
  brokenStore.changeDescriptor ⟨0⟩ Descriptor.marked

/-- Where the first descriptor is frozen from the start, the same failure leaves both untouched. -/
theorem build_error_settledStore :
    Dispatch.library.Discreet ∧ brokenBuilder.Holds {} [] settledStore ∧
      (∀ member, settledStore.assigned? .none member = none) ∧ ∃ fault w',
        EStateM.run (brokenBuilder.build Dispatch.library) settledStore = .error fault w' ∧
        ∀ r ∈ brokenBuilder.registrations, ∀ d, r.config = .descriptor d →
          w'.descriptor d = settledStore.descriptor d := by
  have holds : brokenBuilder.Holds {} [] settledStore := holds_brokenBuilder rfl
  have bare : ∀ member, settledStore.assigned? .none member = none := fun _ => rfl
  refine ⟨Dispatch.discreet_library, holds, bare, _, _, rfl, ?_⟩
  refine (build_error_untouched_iff Dispatch.discreet_library holds bare rfl).1.2 (.inr ?_)
  refine ⟨[firstRegistration], ⟨1⟩, ⟨⟨brokenRegistration, [], rfl, rfl⟩, ?_, rfl⟩, ?_⟩
  · rintro q hq
    obtain rfl := List.mem_singleton.1 hq
    exact ⟨⟨0⟩, rfl, rfl⟩
  · intro c app w₁ hc hmake
    obtain rfl : ⟨6⟩ = c := Option.some.inj hc
    exact nomatch (show EStateM.Result.error _ _ = .ok app w₁ from hmake)

end ServerBuilder

end AppMount
