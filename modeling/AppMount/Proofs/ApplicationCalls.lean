import AppMount.Proofs.Courses

/-!
# Calls of application code

When the library constructs applications and asks them. A descriptor for a class of applications
waits for one until it is frozen; the application that it is given then it keeps, so that no later
freeze makes another one. Building a server calls the code of those applications only that its
descriptors wait for, each once and in order.

* `Descriptor.awaited?`: the class that a descriptor waits for;
* `constructed`: what a freeze constructs; `given_of_freeze`: exactly that is recorded;
  `Course.given`, `Course.once`: in a course of calls, application code included, a descriptor is
  made an application once at most;
* `AppCall`, `World.Calls`: application code that is run, with nothing else in between;
* `calls_freeze`, `calls_mountAll`: what the code of applications is run for;
* `Course.application_code_runs_once`: both together;
* `application_code_runs_again`: a class that makes nothing is constructed again and again, a
  descriptor that describes itself does so while it is mounted, and an application that freezes
  another descriptor has it asked too early.
-/

namespace AppMount

open AppMount.Action
open World (Spares Frame nobody Course)

/-! ## 1. Descriptors that wait -/

namespace Descriptor

/-- **The class that a descriptor waits for an application of**: freezing makes one. -/
def awaited? (x : Descriptor) : Option ClassId :=
  if x.isPending then x.applicationClass else none

variable {x y : Descriptor} {c : ClassId}

theorem awaited?_eq_some_iff :
    x.awaited? = some c ↔
      x.frozen = false ∧ x.application = none ∧ x.applicationClass = some c := by
  unfold awaited? isPending
  cases x.frozen <;> cases x.application <;> cases x.applicationClass <;> simp

theorem isSome_awaited? (x : Descriptor) : x.awaited?.isSome = x.isPending := by
  unfold awaited? isPending
  cases x.frozen <;> cases x.application <;> cases x.applicationClass <;> rfl

theorem awaited?_of_not_isPending (h : x.isPending = false) : x.awaited? = none := by
  simp [awaited?, h]

theorem awaited?_of_frozen (h : x.frozen = true) : x.awaited? = none :=
  awaited?_of_not_isPending (by simp [isPending, h])

/-- A locked descriptor waits for what it waited for. -/
theorem Spared.awaited? {named locked : Prop} (h : x.Spared named locked y) (hl : locked) :
    y.awaited? = x.awaited? := by
  unfold Descriptor.awaited? isPending
  rw [(h.locked hl).1, (h.locked hl).2, h.applicationClass]

end Descriptor

/-! ## 2. Once at most -/

section Once

variable {ρ : Dispatch} {N L : DescriptorId → Prop} {w w' : World} {d : DescriptorId}

/-- **What a freeze constructs**: the application that the descriptor waits for, if its class hands
    one back. Nothing is no application. -/
def constructed (ρ : Dispatch) (d : DescriptorId) (w : World) : List Ref :=
  (((w.descriptor d).awaited?.bind fun c =>
    result? (EStateM.run (instantiate ρ c) w)).toList).filter (· ≠ .none)

theorem constructed_of_not_awaited (h : (w.descriptor d).awaited? = none) :
    constructed ρ d w = [] := by
  simp [constructed, h]

/-- That a descriptor keeps the application that it has, if any, and that none is made for it. -/
def KeepsGiven (d : DescriptorId) (w w' : World) : Prop :=
  w.HasDescriptor d → w'.HasDescriptor d ∧ (w'.descriptor d).given = (w.descriptor d).given ∧
    (w'.descriptor d).application = (w.descriptor d).application

theorem keepsGiven_refl (w : World) : KeepsGiven d w w :=
  fun hd => ⟨hd, rfl, rfl⟩

theorem keepsGiven_trans {w'' : World} (h : KeepsGiven d w w') (h' : KeepsGiven d w' w'') :
    KeepsGiven d w w'' := by
  intro hd
  obtain ⟨hd', given, application⟩ := h hd
  obtain ⟨hd'', given', application'⟩ := h' hd'
  exact ⟨hd'', given'.trans given, application'.trans application⟩

/-- A locked descriptor is made no application. -/
theorem keepsGiven_of_locked (h : Spares N (fun e => L e ∨ e = d) nobody w w') :
    KeepsGiven d w w' := by
  intro hd
  have spared := h.descriptor d hd id
  obtain ⟨-, application⟩ := spared.locked (.inr rfl)
  refine ⟨h.has hd, ?_, application⟩
  rw [spared.given, application]
  cases (w.descriptor d).application <;> simp

theorem keepsGiven_change {f : Descriptor → Descriptor} (given : ∀ x, (f x).given = x.given)
    (application : ∀ x, (f x).application = x.application) :
    KeepsGiven d w (w.changeDescriptor d f) := by
  intro hd
  rw [World.descriptor_change_self hd]
  exact ⟨(World.hasDescriptor_change ..).2 hd, given _, application _⟩

theorem keepsGiven_absorb_marked (hρ : ρ.Respects (Spares N fun e => L e ∨ e = d)) (app : Ref) :
    Within (KeepsGiven d) (absorb ρ d app >>= fun _ => markFrozen ρ d) := by
  refine Within.bind keepsGiven_trans ?_ fun _ w => ?_
  · exact within_absorb hρ.library keepsGiven_refl keepsGiven_trans
      (fun h w => keepsGiven_of_locked (stays_ask hρ app h w))
      fun _ _ hf => keepsGiven_change (fun x => (hf x).given) fun x => (hf x).application
  · rw [run_markFrozen_of_library hρ.library]
    exact keepsGiven_change (fun _ => rfl) fun _ => rfl

/-- **What a freeze constructs is recorded**, whether or not the freeze fails afterwards, and
    nothing else is. -/
theorem given_of_freeze (hρ : ρ.Respects (Spares N fun e => L e ∨ e = d))
    (hd : w.HasDescriptor d) :
    ((left (EStateM.run (freeze ρ d) w)).descriptor d).given =
      (w.descriptor d).given ++ constructed ρ d w := by
  rcases frozen_or_settled_or_pending (w.descriptor d) with hf | ⟨hf, hs⟩ | ⟨hf, ha, c, hc⟩
  · rw [freeze_of_frozen hρ.library hf,
      constructed_of_not_awaited (Descriptor.awaited?_of_frozen hf), List.append_nil]
    rfl
  · have settled : (w.descriptor d).awaited? = none := by
      refine Descriptor.awaited?_of_not_isPending ?_
      rcases hs with hs | hs <;> simp [Descriptor.isPending, hs]
    rw [freeze_of_settled hρ.library hf hs, constructed_of_not_awaited settled, List.append_nil,
      left_ok, World.descriptor_change_self hd]
    rfl
  · have awaited := Descriptor.awaited?_eq_some_iff.2 ⟨hf, ha, hc⟩
    have made := keepsGiven_of_locked (stays_instantiate hρ c w) hd
    unfold constructed
    rw [freeze_of_pending hρ.library hf hc ha, awaited, Option.bind_some]
    cases hmake : EStateM.run (instantiate ρ c) w with
    | error fault w₁ =>
      rw [hmake] at made
      rw [run_bind_of_error hmake]
      simpa [result?] using made.2.1
    | ok app w₁ =>
      rw [hmake, left_ok] at made
      obtain ⟨hd₁, given, -⟩ := made
      have standing := World.descriptor_change_self hd₁ (·.standFor app)
      obtain ⟨-, given', -⟩ := keepsGiven_absorb_marked hρ app
        (w₁.changeDescriptor d (·.standFor app)) ((World.hasDescriptor_change ..).2 hd₁)
      rw [run_bind_of_ok hmake, run_bind_of_ok (EStateM.run_modify _ w₁), given', standing]
      show (w₁.descriptor d).given ++ (if app = .none then none else some app).toList = _
      rw [given]
      by_cases happ : app = .none <;> simp [result?, happ]

namespace World.Course

/-- **An application is never replaced by another one.** -/
theorem application (h : Course N L w w') (hd : w.HasDescriptor d) {app : Ref}
    (ha : (w.descriptor d).application = some app) : (w'.descriptor d).application = some app :=
  (h.spares.descriptor d hd id).application app ha

/-- **A descriptor without an application is made the one that it has afterwards**, and no other
    one. -/
theorem given (h : Course N L w w') (hd : w.HasDescriptor d) :
    (w'.descriptor d).given = (w.descriptor d).given ++
      if (w.descriptor d).application.isSome then [] else (w'.descriptor d).application.toList :=
  (h.spares.descriptor d hd id).given

/-- **No descriptor is made two applications**, whether it was there before or not. -/
theorem once (h : Course N L w w') (hd : (w.descriptor d).Once) : (w'.descriptor d).Once :=
  h.spares.once d hd

end World.Course

end Once

/-! ## 3. Runs of application code -/

/-- **A call of application code**: the construction of an instance of a class, with what was handed
    back, or a question to an application. -/
inductive AppCall where
  | construct (c : ClassId) (made : Ref)
  | ask (app : Ref) (h : Hook)
  deriving DecidableEq, Repr

namespace World

/-- **That no application code was run**: nothing but descriptors and the log may have changed. -/
def Quiet (w w' : World) : Prop :=
  w' = { w with descriptors := w'.descriptors, log := w'.log }

/-- **Runs of application code**, one after the other, with nothing else in between than changes of
    descriptors and entries in the log. Each comes to an end. -/
inductive Calls (ρ : Dispatch) : World → List AppCall → World → Prop where
  | nil {w w' : World} (h : w.Quiet w') : Calls ρ w [] w'
  | construct {w v v' w' : World} {c : ClassId} {made : Ref} {xs : List AppCall} (h : w.Quiet v)
    (run : EStateM.run (Action.construct ρ c {}) v = .ok made v') (rest : Calls ρ v' xs w') :
    Calls ρ w (.construct c made :: xs) w'
  | ask {w v v' w' : World} {app : Ref} {hook : Hook} {offer : Offer} {xs : List AppCall}
    (h : w.Quiet v) (run : EStateM.run (Action.ask ρ app hook) v = .ok offer v')
    (rest : Calls ρ v' xs w') : Calls ρ w (.ask app hook :: xs) w'

variable {ρ : Dispatch} {w v w' : World} {xs ys : List AppCall}

theorem Quiet.refl (w : World) : w.Quiet w :=
  rfl

theorem Quiet.trans (h : w.Quiet v) (h' : v.Quiet w') : w.Quiet w' := by
  unfold Quiet at *
  rw [h', h]

theorem Quiet.change (w : World) (d : DescriptorId) (f : Descriptor → Descriptor) :
    w.Quiet (w.changeDescriptor d f) :=
  rfl

theorem Quiet.logging (w : World) (entries : List LogEntry) : w.Quiet (w.logging entries) :=
  rfl

theorem Quiet.calls (h : w.Quiet v) (h' : Calls ρ v xs w') : Calls ρ w xs w' := by
  cases h' with
  | nil hq => exact .nil (h.trans hq)
  | construct hq run rest => exact .construct (h.trans hq) run rest
  | ask hq run rest => exact .ask (h.trans hq) run rest

theorem Calls.append (h : Calls ρ w xs v) (h' : Calls ρ v ys w') : Calls ρ w (xs ++ ys) w' := by
  induction h with
  | nil hq => exact hq.calls h'
  | construct hq run _ ih => exact .construct hq run (ih h')
  | ask hq run _ ih => exact .ask hq run (ih h')

end World

open World (Calls Quiet)

/-- **What application code is run for a descriptor** when it is frozen: the application that it
    waits for is constructed and asked once for each thing. -/
def Descriptor.due (x : Descriptor) (app : Ref) : List AppCall :=
  match x.awaited? with
  | some c =>
    [.construct c app, .ask app .classes, .ask app .singletons, .ask app .properties]
  | none => []

section Freezing

variable {ρ : Dispatch} {w w' : World} {d : DescriptorId} {app : Ref}

/-- A stage of absorbing asks once. -/
theorem calls_taking {α : Type} {h : Hook} {read : World → Offer → Reading α}
    {put : World → List α → Descriptor → Descriptor}
    (hrun : EStateM.run (taking ρ d app h read put) w = .ok ⟨⟩ w') :
    Calls ρ w [.ask app h] w' := by
  obtain ⟨offer, w₁, hask, -, rfl⟩ := run_taking_eq_ok_iff.1 hrun
  exact .ask (.refl w) hask (.nil (.change ..))

theorem calls_absorb (hρ : ρ.replaces = false)
    (hrun : EStateM.run (absorb ρ d app) w = .ok ⟨⟩ w') :
    Calls ρ w [.ask app .classes, .ask app .singletons, .ask app .properties] w' := by
  unfold absorb at hrun
  rw [absorbClasses_of_library hρ, absorbSingletons_of_library hρ, absorbProperties_of_library hρ]
    at hrun
  obtain ⟨⟨⟩, w₁, hclasses, hrun⟩ := run_bind_eq_ok_iff.1 hrun
  obtain ⟨⟨⟩, w₂, hsingletons, hrun⟩ := run_bind_eq_ok_iff.1 hrun
  obtain ⟨⟨⟩, w₃, hproperties, hrun⟩ := run_bind_eq_ok_iff.1 hrun
  rw [run_absorbProviders_of_library hρ] at hrun
  have provided : Calls ρ w₃ [] w' := by
    cases happ : app.descriptor? with
    | none =>
      rw [happ] at hrun
      cases hrun
      exact .nil (.refl _)
    | some e =>
      rw [happ] at hrun
      cases hrun
      exact .nil (.change ..)
  exact (calls_taking hclasses).append
    ((calls_taking hsingletons).append ((calls_taking hproperties).append provided))

/-- **What application code freezing runs**: that of the application which the descriptor waits
    for. -/
theorem calls_freeze (hρ : ρ.replaces = false)
    (hrun : EStateM.run (freeze ρ d) w = .ok ⟨⟩ w') :
    ∃ app, Calls ρ w ((w.descriptor d).due app) w' := by
  unfold Descriptor.due
  rcases frozen_or_settled_or_pending (w.descriptor d) with hf | ⟨hf, hs⟩ | ⟨hf, ha, c, hc⟩
  · rw [freeze_of_frozen hρ hf] at hrun
    cases hrun
    rw [Descriptor.awaited?_of_frozen hf]
    exact ⟨.none, .nil (.refl w)⟩
  · have settled : (w.descriptor d).awaited? = none := by
      refine Descriptor.awaited?_of_not_isPending ?_
      rcases hs with hs | hs <;> simp [Descriptor.isPending, hs]
    rw [freeze_of_settled hρ hf hs] at hrun
    cases hrun
    rw [settled]
    exact ⟨.none, .nil (.change ..)⟩
  · obtain ⟨app, w₁, w₂, hmake, habsorb, rfl⟩ := (run_freeze_pending_eq_ok_iff hρ hf hc ha).1 hrun
    obtain ⟨⟨⟩, hconstruct⟩ := (reads_checkParameters hρ c).run_bind_eq_ok hmake
    rw [Descriptor.awaited?_eq_some_iff.2 ⟨hf, ha, hc⟩]
    have asked := ((calls_absorb hρ habsorb).append (.nil (.change w₂ d Descriptor.marked)))
    exact ⟨app, .construct (.refl w) hconstruct ((Quiet.change ..).calls asked)⟩

end Freezing

/-! ## 4. Building servers -/

/-- Descriptors that wait for an application, each once, in the order in which they are listed
    first. -/
def World.waiting (w : World) (ds : List DescriptorId) : List DescriptorId :=
  (ds.filter fun d => (w.descriptor d).isPending).eraseDups

/-- **The application code to be run for descriptors**, given the application of each. -/
def World.dues (w : World) (ds : List DescriptorId) (app : DescriptorId → Ref) : List AppCall :=
  (w.waiting ds).flatMap fun d => (w.descriptor d).due (app d)

theorem World.mem_waiting {w : World} {ds : List DescriptorId} {d : DescriptorId} :
    d ∈ w.waiting ds ↔ d ∈ ds ∧ (w.descriptor d).isPending = true := by
  unfold World.waiting
  rw [List.mem_eraseDups, List.mem_filter]

section Mounting

variable {ρ : Dispatch} {N M : DescriptorId → Prop} {b : ServerBuilder} {w w' : World}
  {d : DescriptorId} {ds : List DescriptorId}

/-- After a descriptor is frozen, it waits no longer, and the others wait for what they waited
    for. -/
theorem awaited?_of_freeze (hρ : ρ.Respects (Spares N M)) (hd : w.HasDescriptor d) (hM : M d)
    (hrun : EStateM.run (freeze ρ d) w = .ok ⟨⟩ w') {e : DescriptorId} (he : w.HasDescriptor e)
    (hMe : M e) :
    (w'.descriptor e).awaited? = if e = d then none else (w.descriptor e).awaited? := by
  split
  · subst e
    exact Descriptor.awaited?_of_frozen (frozen_of_freeze hρ hd hrun)
  · rename_i hne
    have locked : ρ.Respects (Spares N fun k => (M k ∧ k ≠ d) ∨ k = d) := hρ.unlock fun k hk => by
      rcases hk with ⟨hk, -⟩ | rfl
      · exact hk
      · exact hM
    have spares := spares_freeze locked (fun h => h.2 rfl) hd
    rw [hrun] at spares
    exact (spares.descriptor e he id).awaited? ⟨hMe, hne⟩

/-- Where all but one of the descriptors that waited still wait, that one is the first of them. -/
theorem waiting_cons (h : ∀ e ∈ d :: ds, (w'.descriptor e).isPending =
      ((w.descriptor e).isPending && !(e == d))) :
    w.waiting (d :: ds) =
      if (w.descriptor d).isPending then d :: w'.waiting ds else w'.waiting ds := by
  have others : ds.filter (fun e => (w'.descriptor e).isPending) =
      (ds.filter fun e => (w.descriptor e).isPending).filter fun e => !(e == d) := by
    rw [List.filter_filter, List.filter_congr fun e he => h e (List.mem_cons_of_mem _ he)]
    simp only [Bool.and_comm]
  unfold World.waiting
  rw [others, List.filter_cons]
  cases hp : (w.descriptor d).isPending with
  | true => rw [if_pos rfl, if_pos rfl, List.eraseDups_cons]
  | false =>
    rw [if_neg Bool.false_ne_true, if_neg Bool.false_ne_true]
    congr 1
    refine (List.filter_eq_self.2 fun e he => ?_).symm
    have hne : e ≠ d := by
      rintro rfl
      simp [hp] at he
    simp [hne]

/-- **What is due before a descriptor is frozen** is due for it, if it waits, and then for the
    others. -/
theorem dues_cons {app : DescriptorId → Ref} {made : Ref}
    (h : ∀ e ∈ d :: ds, (w'.descriptor e).awaited? =
      if e = d then none else (w.descriptor e).awaited?) :
    w.dues (d :: ds) (fun e => if e = d then made else app e) =
      (w.descriptor d).due made ++ w'.dues ds app := by
  have pending : ∀ e ∈ d :: ds, (w'.descriptor e).isPending =
      ((w.descriptor e).isPending && !(e == d)) := by
    intro e he
    rw [← Descriptor.isSome_awaited?, ← Descriptor.isSome_awaited?, h e he]
    by_cases hed : e = d <;> simp [hed]
  have later : (w'.waiting ds).flatMap
        (fun e => (w.descriptor e).due (if e = d then made else app e)) = w'.dues ds app := by
    refine List.flatMap_congr fun e he => ?_
    obtain ⟨hmem, hp⟩ := World.mem_waiting.1 he
    have hne : e ≠ d := by
      rintro rfl
      simp [pending e (List.mem_cons_of_mem _ hmem)] at hp
    unfold Descriptor.due
    rw [h e (List.mem_cons_of_mem _ hmem), if_neg hne, if_neg hne]
  unfold World.dues at *
  rw [waiting_cons pending]
  cases hp : (w.descriptor d).isPending with
  | true =>
    rw [if_pos rfl, List.flatMap_cons, later]
    dsimp only
    rw [if_pos rfl]
  | false =>
    rw [if_neg Bool.false_ne_true, later, Descriptor.due,
      Descriptor.awaited?_of_not_isPending hp, List.nil_append]

/-- **The second pass calls application code for the descriptors that wait**, in order. -/
theorem calls_mountAll (hρ : ρ.Respects (Spares N M)) (hb : b.standIns = [])
    {resolved : List (Datum × Registration)} {mounts : List Mount}
    (h : ∀ e ∈ resolved, ∃ d, e.2.config = .descriptor d ∧ M d ∧ w.HasDescriptor d)
    (hrun : EStateM.run (b.mountAll ρ resolved) w = .ok mounts w') :
    ∃ app, Calls ρ w (w.dues (resolved.filterMap (·.2.config.descriptor?)) app) w' := by
  induction resolved generalizing w mounts with
  | nil =>
    cases hrun
    exact ⟨fun _ => .none, .nil (.refl _)⟩
  | cons e rest ih =>
    obtain ⟨listener, r⟩ := e
    obtain ⟨d, hd, hM, hhas⟩ := h _ List.mem_cons_self
    rw [ServerBuilder.mountAll_cons hρ.library hb hd] at hrun
    obtain ⟨⟨⟩, w₁, hfreeze, hrun⟩ := run_bind_eq_ok_iff.1 hrun
    rw [run_bind_of_ok (run_labelOf_of_library hρ.library r w₁),
      run_bind_of_ok (run_logged _ w₁)] at hrun
    obtain ⟨others, w₂, hrest, hend⟩ := run_bind_eq_ok_iff.1 hrun
    cases hend
    have stored : ∀ e ∈ rest, ∃ d, e.2.config = .descriptor d ∧ M d ∧ w.HasDescriptor d :=
      fun e he => h e (List.mem_cons_of_mem _ he)
    have spares := spares_freeze (L := nobody) (hρ.unlock fun k hk => by
      obtain rfl := hk.resolve_left id
      exact hM) id hhas
    rw [hfreeze] at spares
    obtain ⟨made, code⟩ := calls_freeze hρ.library hfreeze
    obtain ⟨app, later⟩ := ih (w := w₁.logging _) (fun e he => by
      obtain ⟨d', hd', hM', hhas'⟩ := stored e he
      exact ⟨d', hd', hM', spares.has hhas'⟩) hrest
    refine ⟨fun e => if e = d then made else app e, ?_⟩
    have listed : ((listener, r) :: rest).filterMap (·.2.config.descriptor?) =
        d :: rest.filterMap (·.2.config.descriptor?) :=
      List.filterMap_cons_some (congrArg Ref.descriptor? hd)
    rw [listed, dues_cons fun k hk => ?_]
    · exact code.append ((Quiet.logging w₁ _).calls later)
    · obtain ⟨hMk, hhask⟩ := Ref.of_mem_descriptors h (listed ▸ hk)
      exact awaited?_of_freeze hρ hhas hM hfreeze hhask hMk

/-- **Building a server calls application code for the descriptors that wait**, in the order in
    which they were registered first. -/
theorem calls_build (hρ : ρ.Respects (Spares N b.Mounts)) {config : ServerConfig}
    {members : List Ref} (hb : b.Holds config members w) {server : Server}
    (hrun : EStateM.run (b.build ρ) w = .ok server w') :
    ∃ app, Calls ρ w (w.dues b.descriptors app) w' := by
  obtain ⟨-, hmount, -⟩ := ServerBuilder.run_build_eq_ok hρ.library hb hrun
  obtain ⟨app, code⟩ := calls_mountAll hρ hb.standIns (fun e he => by
    obtain ⟨r, hr, rfl⟩ := List.mem_map.1 he
    obtain ⟨d, hd, hhas⟩ := hb.stored r hr
    exact ⟨d, hd, List.mem_filterMap.2 ⟨r, hr, by rw [hd]; rfl⟩, hhas⟩) hmount
  rw [List.filterMap_map] at code
  exact ⟨app, (Quiet.logging w _).calls code⟩

end Mounting

/-! ## 5. When application code runs -/

namespace World

/-- **Application code runs when it should.** In a course of calls, with all that application code
    does in them, a descriptor is made an application once at most, and keeps it: what freezing has
    constructed for it is on its record, and no descriptor has two. Building servers belongs to such
    courses; and where it comes to an end, it has called the code of those applications that its
    descriptors waited for, each once and in the order in which they were registered first. -/
theorem Course.application_code_runs_once {N : DescriptorId → Prop} {w w' : World}
    (h : Course N nobody w w') :
    (∀ d, (w.descriptor d).Once → (w'.descriptor d).Once) ∧
      (∀ d, w.HasDescriptor d → (w'.descriptor d).given = (w.descriptor d).given ++
        if (w.descriptor d).application.isSome then [] else (w'.descriptor d).application.toList) ∧
      (∀ d app, w.HasDescriptor d → (w.descriptor d).application = some app →
        (w'.descriptor d).application = some app) ∧
      (∀ (ρ : Dispatch) (d : DescriptorId), ρ.Civil N (· = d) → w'.HasDescriptor d →
        Course N nobody w (left (EStateM.run (Action.freeze ρ d) w')) ∧
        ((left (EStateM.run (Action.freeze ρ d) w')).descriptor d).given =
          (w'.descriptor d).given ++ constructed ρ d w') ∧
      ∀ (ρ : Dispatch) (b : ServerBuilder), ρ.Civil N b.Mounts →
        (∀ d, b.Mounts d → w'.HasDescriptor d) →
        Course N nobody w (left (EStateM.run (b.build ρ) w')) ∧
        ∀ config members server w'', b.Holds config members w' →
          EStateM.run (b.build ρ) w' = .ok server w'' →
          ∃ app, Calls ρ w' (w'.dues b.descriptors app) w'' := by
  refine ⟨fun d => h.once, fun d => h.given, fun d _ hd => h.application hd, fun ρ d hρ hd => ?_,
    fun ρ b hρ has => ⟨?_, ?_⟩⟩
  · have locked : ρ.Civil N fun e => nobody e ∨ e = d := hρ.unlock fun e he => he.resolve_left id
    exact ⟨h.trans (locked.freeze hd id), given_of_freeze locked.respects hd⟩
  · have civil : ρ.Civil N fun e => nobody e ∨ b.Mounts e :=
      hρ.unlock fun e he => he.resolve_left id
    exact h.trans (follows_build civil (fun _ _ => id) w' has)
  · exact fun config members server w'' hb hrun => calls_build hρ.respects hb hrun

/-- The class is registered with the descriptor that waits for its application, and then both
    descriptors are mounted. -/
theorem application_code_runs_once_board :
    Dispatch.library.Civil nobody boardBuilder.Mounts ∧
      ∃ (w' w'' : World) (server : Server) (app : Ref),
        Course nobody nobody boardStore w' ∧ boardBuilder.Holds {} [] w' ∧
        EStateM.run (boardBuilder.build Dispatch.library) w' = .ok server w'' ∧
        Calls Dispatch.library w'
          [.construct ⟨6⟩ app, .ask app .classes, .ask app .singletons, .ask app .properties] w'' ∧
        Course nobody nobody boardStore w'' ∧
        (boardStore.descriptor ⟨1⟩).given = [] ∧ (w''.descriptor ⟨1⟩).given = [.object ⟨1⟩] ∧
        (w''.descriptor ⟨1⟩).Once := by
  have civil {L : DescriptorId → Prop} : Dispatch.library.Civil nobody L :=
    Dispatch.discreet_library.civil
  have registered : Course nobody nobody boardStore _ :=
    civil.call (.register ⟨1⟩ (.cls ⟨6⟩)) trivial
  have holds : boardBuilder.Holds {} [] (left (EStateM.run
      (Operation.perform Dispatch.library (.register ⟨1⟩ (.cls ⟨6⟩))) boardStore)) :=
    holds_boardBuilder (by decide)
  obtain ⟨-, -, -, -, builds⟩ := registered.application_code_runs_once
  obtain ⟨course, code⟩ := builds Dispatch.library boardBuilder civil fun _ => holds.has
  obtain ⟨app, calls⟩ := code {} [] _ _ holds rfl
  obtain ⟨once, -⟩ := course.application_code_runs_once
  exact ⟨civil, _, _, _, app ⟨1⟩, registered, holds, rfl, calls, course, rfl, rfl,
    once ⟨1⟩ (.inl rfl)⟩

/-- A store with a descriptor for a class that makes nothing, and one of a class that describes its
    instances by a method of its own. -/
def stubbornStore : World :=
  { World.initial with
    classes := World.initial.classes ++
      #[{ name := "ShopApp", qualname := "ShopApp", home := .text "shop",
          ancestors := [ClassId.application, ClassId.object],
          members := [(ClassDef.allocatorMember,
            .method (.within "ShopApp" ClassDef.allocatorMember (.answer (.datum .null 0))))] },
        { name := "Board", qualname := "Board", home := .text "shop",
          ancestors := [ClassId.descriptor, ClassId.application, ClassId.object],
          members := [("__repr__",
            .method (.within "Board" "__repr__" (.answer (.datum (.text "board") 0))))] }]
    descriptors := #[{ cls := ClassId.descriptor, applicationClass := some ⟨6⟩ }, { cls := ⟨7⟩ }] }

/-- The store after the first descriptor was to be frozen. -/
def triedStore : World :=
  left (EStateM.run (Action.freeze Dispatch.library ⟨0⟩) stubbornStore)

/-- A builder of the second descriptor. -/
def stubbornBuilder : ServerBuilder :=
  { registrations := [{ contextRoot := .text "/", config := .descriptor ⟨1⟩ }] }

/-- A store with two descriptors that wait for applications. That of the first one freezes the
    second one when it is asked for classes. -/
def meddledStore : World :=
  { World.initial with
    classes := World.initial.classes ++
      #[{ name := "ShopApp", qualname := "ShopApp", home := .text "shop",
          ancestors := [ClassId.application, ClassId.object],
          members := [("classes", .method (.within "ShopApp" "classes"
              (.answer (.after (.use (some "mail") .freeze) (.list []))))),
            ("properties", .method (.within "ShopApp" "properties" (.answer (.list []))))] },
        { name := "MailApp", qualname := "MailApp", home := .text "shop",
          ancestors := [ClassId.application, ClassId.object],
          members := [("classes", .method (.within "MailApp" "classes" (.answer (.list []))))] }]
    descriptors :=
      #[{ cls := ClassId.descriptor, applicationClass := some ⟨6⟩ },
        { cls := ClassId.descriptor, applicationClass := some ⟨7⟩ }]
    scope := ⟨[("mail", .descriptor ⟨1⟩)]⟩ }

/-- **A class that makes nothing is constructed again**: each of two freezes completes a
    construction and fails then. Where calls look at the class of a descriptor first, one that has
    nothing to wait for describes itself while it is mounted, once for the first pass and once for
    the log. And where an application freezes another descriptor that is to be mounted, the
    questions to the other application come between those to itself. -/
theorem application_code_runs_again :
    (Course nobody nobody stubbornStore triedStore ∧
      Course nobody nobody triedStore
        (left (EStateM.run (Action.freeze Dispatch.library ⟨0⟩) triedStore)) ∧
      (stubbornStore.descriptor ⟨0⟩).awaited? = some ⟨6⟩ ∧
      (triedStore.descriptor ⟨0⟩).awaited? = some ⟨6⟩ ∧
      result? (EStateM.run (instantiate Dispatch.library ⟨6⟩) stubbornStore) = some .none ∧
      result? (EStateM.run (instantiate Dispatch.library ⟨6⟩) triedStore) = some .none) ∧
    ((stubbornStore.descriptor ⟨1⟩).isPending = false ∧
      (result? (EStateM.run (stubbornBuilder.build Dispatch.replaceable) stubbornStore)).isSome ∧
      (left (EStateM.run (stubbornBuilder.build Dispatch.replaceable) stubbornStore)).calls =
        [⟨.cls ⟨7⟩, "__repr__"⟩, ⟨.cls ⟨7⟩, "__repr__"⟩]) ∧
    meddledStore.waiting boardBuilder.descriptors = [⟨0⟩, ⟨1⟩] ∧
    (result? (EStateM.run (boardBuilder.build (Dispatch.acting false [])) meddledStore)).isSome ∧
    (left (EStateM.run (boardBuilder.build (Dispatch.acting false [])) meddledStore)).calls =
      [⟨.cls ⟨6⟩, "classes"⟩, ⟨.cls ⟨7⟩, "classes"⟩, ⟨.cls ⟨6⟩, "properties"⟩] := by
  have civil {L : DescriptorId → Prop} : Dispatch.library.Civil nobody L :=
    Dispatch.discreet_library.civil
  have has {w : World} (h : w.descriptors.size = 2) : w.HasDescriptor ⟨0⟩ :=
    show 0 < w.descriptors.size by omega
  have first : Course nobody nobody stubbornStore triedStore := civil.freeze (has rfl) id
  have second : Course nobody nobody triedStore _ := civil.freeze (d := ⟨0⟩) (has rfl) id
  refine ⟨⟨first, second, rfl, rfl, rfl, rfl⟩, ⟨rfl, ?_, ?_⟩, rfl, ?_, ?_⟩ <;> decide +kernel

end World

end AppMount
