import AppMount.Deeds
import AppMount.Proofs.Sparing

/-!
# Courses of calls

What may happen to a store as long as it is used by the public interface only: calls on descriptors
and builders in any order, by the caller and by application code that is called meanwhile, and
anything that leaves descriptors alone. Freezing holds a lock, so that code which runs while a
descriptor is being frozen cannot freeze it.

* `Operation`: the calls that freeze nothing; `Operation.stays`: what they stay within;
* `World.Course`: courses of calls; `Course.spares`: what one call spares, all spare;
* `Dispatch.Civil`: application code that keeps to the public interface;
* `Follows`: a computation that is a course of calls; `follows_perform`, `Dispatch.civil_acting`:
  applications that use the library themselves keep to it; `follows_validate`, `follows_mountAll`,
  `follows_build`: building a server is a course;
* `World.Sealed`, `Course.frozen_unchanged`: a frozen descriptor never changes again.
-/

namespace AppMount

open AppMount.Action
open World (Spares Frame Lenient nobody)

/-! ## 1. Calls -/

/-- **The calls of the public interface** on descriptors and builders, but for those that freeze.
    The first pass of building a server is one of them. -/
inductive Operation where
  | construct (c : ClassId) (args : Arguments)
  | forApplication (factory : ClassId) (app : Ref)
  | forApplicationClass (factory : ClassId) (app : Ref)
  | register (d : DescriptorId) (component : Ref)
  | provide (d : DescriptorId) (service factory : Ref)
  | setProperty (d : DescriptorId) (name value : Datum)
  | rename (d : DescriptorId) (value : Datum) (place : Nat)
  | checkConstructible (d : DescriptorId)
  | ask (app : Ref) (h : Hook)
  | make (r : Ref)
  | call (r : Ref) (method : String) (given : Nat)
  | tell (b : RegistrationBuilder) (setter : RegistrationBuilder.Setter)
  | create (app : Ref)
  | add (b : ServerBuilder) (app : Ref) (contextRoot : Datum)
  | validate (b : ServerBuilder) (registrations : List Registration)
  deriving DecidableEq, Repr

namespace Operation

/-- Makes a call. -/
def perform (ρ : Dispatch) : Operation → Action Unit
  | .construct c args => do
    let _ ← Action.construct ρ c args
  | .forApplication factory app => do
    let _ ← Action.forApplication ρ factory app
  | .forApplicationClass factory app => do
    let _ ← Action.forApplicationClass ρ factory app
  | .register d component => Action.register ρ d component
  | .provide d service factory => Action.provide ρ d service factory
  | .setProperty d name value => Action.setProperty ρ d name value
  | .rename d value place => modify (·.changeDescriptor d (·.assigned "name" value place))
  | .checkConstructible d => Action.checkConstructible ρ d
  | .ask app h => do
    let _ ← Action.ask ρ app h
  | .make r => do
    let _ ← callThing ρ r {}
  | .call r method given => do
    let _ ← callOther ρ r method given
  | .tell b setter => do
    let _ ← setter.apply ρ b
  | .create app => do
    let _ ← Registration.create ρ app
  | .add b app contextRoot => do
    let _ ← b.addApplication ρ app contextRoot
  | .validate b registrations => do
    let _ ← b.validate ρ [] registrations

/-- **What a call may be made on.** A class that converts its arguments is called without any, and
    only some descriptors may be renamed. -/
def Allowed (N : DescriptorId → Prop) (w : World) : Operation → Prop
  | .construct c args => w.Takes c args
  | .rename d _ _ => N d
  | _ => True

variable {ρ : Dispatch} {N : DescriptorId → Prop} {w : World}
  {R : (DescriptorId → Prop) → World → World → Prop} [Lenient R]

/-- **No call that freezes nothing goes beyond what needs no freeze**, unless application code
    does. -/
theorem stays (hρ : ρ.Respects R) (rename : ∀ d value place, N d →
      R nobody w (w.changeDescriptor d (·.assigned "name" value place)))
    (x : Operation) (allowed : x.Allowed N w) :
    R nobody w (left (EStateM.run (x.perform ρ) w)) := by
  have done {α : Type} {y : Action α} (hy : Stays R nobody y) :
      R nobody w (left (EStateM.run (do let _ ← y) w)) := (hy.bind fun _ => .pure _) w
  cases x with
  | construct c args =>
    unfold perform
    rw [left_bind_pure]
    exact stays_construct_of_takes hρ allowed
  | forApplication factory app => exact done (stays_forApplication hρ factory app)
  | forApplicationClass factory app => exact done (stays_forApplicationClass hρ factory app)
  | register d component => exact lenient_register hρ.library d component w
  | provide d service factory => exact lenient_provide hρ.library d service factory w
  | setProperty d name value => exact lenient_setProperty hρ.library d name value w
  | rename d value place => exact rename d value place allowed
  | checkConstructible d => exact (reads_checkConstructible hρ.library d).stays w
  | ask app h => exact done (stays_ask hρ app h)
  | make r => exact done (stays_callThing hρ r rfl)
  | call r method given => exact done (stays_callOther hρ r method given)
  | tell b setter => exact done (stays_apply hρ b setter)
  | create app => exact done (stays_create hρ app)
  | add b app contextRoot => exact done (stays_addApplication hρ b app contextRoot)
  | validate b registrations => exact done (lenient_validate hρ b [] registrations)

end Operation

/-! ## 2. Courses -/

namespace World

/-- **Courses of calls.** Some descriptors may be renamed (`N`). Some are locked (`L`): somebody is
    freezing them. What application code does in a call is a course of calls itself, and nothing of
    it is undone if the call fails. Elsewhere anything may happen that leaves descriptors alone, and
    applications are made for descriptors by freezing only. Building a server is made up of such
    calls (`follows_build`). -/
inductive Course (N : DescriptorId → Prop) : (DescriptorId → Prop) → World → World → Prop where
  | stay {L : DescriptorId → Prop} (w : World) : Course N L w w
  | trans {L : DescriptorId → Prop} {w v w' : World} (h : Course N L w v) (h' : Course N L v w') :
    Course N L w w'
  | elsewhere {L : DescriptorId → Prop} {w w' : World} (stores : ∀ r, w.Stores r → w'.Stores r)
    (same : ∀ d, w.HasDescriptor d → w'.descriptor d = w.descriptor d)
    (fresh : ∀ d, ¬ w.HasDescriptor d → (w'.descriptor d).given = []) : Course N L w w'
  | call {L : DescriptorId → Prop} {w : World} (ρ : Dispatch) (x : Operation)
    (library : ρ.replaces = false) (allowed : x.Allowed N w)
    (code : ∀ answer v, Course N L v (left (EStateM.run (ρ.run answer) v))) :
    Course N L w (left (EStateM.run (x.perform ρ) w))
  | freeze {L : DescriptorId → Prop} {w : World} (ρ : Dispatch) (d : DescriptorId)
    (library : ρ.replaces = false) (has : w.HasDescriptor d) (free : ¬ L d)
    (code : ∀ answer v,
      Course N (fun e => L e ∨ e = d) v (left (EStateM.run (ρ.run answer) v))) :
    Course N L w (left (EStateM.run (Action.freeze ρ d) w))

variable {N L L' : DescriptorId → Prop} {w w' : World} {d : DescriptorId}

/-- **What one call spares, a course of calls spares.** -/
theorem Course.spares (h : Course N L w w') : Spares N L nobody w w' := by
  induction h with
  | stay w => exact .refl w
  | trans _ _ ih ih' => exact Frame.trans ih ih' fun _ => .inl
  | @elsewhere L w w' stores same fresh =>
    refine ⟨stores, fun d hd _ => ?_, fun d hd => ?_⟩
    · rw [same d hd]
      exact .refl _
    · by_cases has : w.HasDescriptor d
      · rwa [same d has]
      · exact .inl (fresh d has)
  | call ρ x library allowed _ ih =>
    exact x.stays ⟨library, ih⟩ (fun _ value place hd => .rename hd value place _) allowed
  | freeze ρ d library has free _ ih => exact spares_freeze ⟨library, ih⟩ free has

theorem Course.has (h : Course N L w w') (hd : w.HasDescriptor d) : w'.HasDescriptor d :=
  h.spares.has hd

/-- What is possible while some descriptors are locked is possible while fewer are. -/
theorem Course.unlock (h : Course N L w w') (hL : ∀ d, L' d → L d) : Course N L' w w' := by
  induction h generalizing L' with
  | stay w => exact .stay w
  | trans _ _ ih ih' => exact (ih hL).trans (ih' hL)
  | elsewhere stores same fresh => exact .elsewhere stores same fresh
  | call ρ x library allowed _ ih => exact .call ρ x library allowed fun a v => ih a v hL
  | freeze ρ d library has free _ ih =>
    refine .freeze ρ d library has (fun hl => free (hL d hl)) fun a v => ih a v fun e he => ?_
    exact he.imp (hL e) id

/-- A change that is kept elsewhere. -/
theorem Course.of_descriptors (h : w'.descriptors = w.descriptors)
    (stores : ∀ r, w.Stores r → w'.Stores r) : Course N L w w' := by
  refine .elsewhere stores (fun d _ => ?_) fun d hd => ?_
  · unfold World.descriptor
    rw [h]
  · have gone : ¬ w'.HasDescriptor d := by
      unfold World.HasDescriptor
      rwa [h]
    rw [descriptor_of_not_has gone]

end World

open World (Course)

/-- **Application code that keeps to the public interface**: it replaces no method of the library,
    and all that it does is a course of calls. -/
structure Dispatch.Civil (ρ : Dispatch) (N L : DescriptorId → Prop) : Prop where
  library : ρ.replaces = false
  run : ∀ answer v, Course N L v (left (EStateM.run (ρ.run answer) v))

/-- For a descriptor that is set up no application is made. -/
theorem Descriptor.given_of_setUp {rep : Ref → Ref} {f : Descriptor → Descriptor}
    (hf : Descriptor.SetUp rep f) {x : Descriptor} (h : x.given = []) : (f x).given = [] := by
  cases hf with
  | initialized => rfl
  | provider | property | frozen => exact h
  | component r =>
    show (x.addComponent rep r).given = []
    unfold Descriptor.addComponent
    split <;> exact h

namespace Dispatch

variable {ρ : Dispatch} {N L L' : DescriptorId → Prop} {w : World} {d : DescriptorId}

/-- Discreet code keeps to the public interface, whatever is locked. -/
theorem Discreet.civil (hρ : ρ.Discreet) : ρ.Civil N L := by
  refine ⟨hρ.library, fun answer v => .elsewhere (fun r => ?_) (fun d hd => ?_) fun d hd => ?_⟩
  · exact (hρ.run answer v).keeps.stores
  · exact (hρ.run answer v).same hd
  · have done : World.Reaches (Licence.none.beyond v) v _ := hρ.run answer v
    refine done.invariant (P := fun x => x.given = []) (fun _ => rfl)
      (fun _ _ _ hf => Descriptor.given_of_setUp hf) id ?_
    rw [World.descriptor_of_not_has hd]

theorem Civil.unlock (hρ : ρ.Civil N L) (hL : ∀ d, L' d → L d) : ρ.Civil N L' :=
  ⟨hρ.library, fun answer v => (hρ.run answer v).unlock hL⟩

theorem Civil.respects (hρ : ρ.Civil N L) : ρ.Respects (Spares N L) :=
  ⟨hρ.library, fun answer v => (hρ.run answer v).spares⟩

theorem Civil.call (hρ : ρ.Civil N L) (x : Operation) (allowed : x.Allowed N w) :
    Course N L w (left (EStateM.run (x.perform ρ) w)) :=
  .call ρ x hρ.library allowed hρ.run

/-- What a call comes to, whatever is done with what it hands back. -/
theorem Civil.ignoring {α : Type} {y : Action α} (hρ : ρ.Civil N L) (x : Operation)
    (allowed : x.Allowed N w) (h : x.perform ρ = do let _ ← y) :
    Course N L w (left (EStateM.run y w)) := by
  have called := hρ.call x allowed
  rwa [h, left_bind_pure] at called

theorem Civil.freeze (hρ : ρ.Civil N fun e => L e ∨ e = d) (has : w.HasDescriptor d)
    (free : ¬ L d) : Course N L w (left (EStateM.run (Action.freeze ρ d) w)) :=
  .freeze ρ d hρ.library has free hρ.run

end Dispatch

/-! ## 3. Computations that are courses -/

/-- **A computation that is a course of calls** where certain descriptors are in the store. -/
def Follows {α : Type} (M N L : DescriptorId → Prop) (x : Action α) : Prop :=
  ∀ w, (∀ d, M d → w.HasDescriptor d) → Course N L w (left (EStateM.run x w))

namespace Follows

variable {α β : Type} {M N L : DescriptorId → Prop} {x : Action α} {f : α → Action β}

theorem reading (hx : Reads x) : Follows M N L x := by
  intro w _
  rw [← hx w]
  exact .stay w

/-- What follows goes on from what comes before, unless that fails. -/
theorem bind_of_handsBack {P : α → Prop} (hx : Follows M N L x) (hP : HandsBack P x)
    (hf : ∀ a, P a → Follows M N L (f a)) : Follows M N L (x >>= f) := by
  intro w has
  have course := hx w has
  cases h : EStateM.run x w with
  | error fault w₁ =>
    rw [h] at course
    rwa [run_bind_of_error h]
  | ok a w₁ =>
    rw [h] at course
    rw [run_bind_of_ok h]
    exact course.trans (hf a (hP w a w₁ h) w₁ fun d hd => course.has (has d hd))

theorem bind (hx : Follows M N L x) (hf : ∀ a, Follows M N L (f a)) : Follows M N L (x >>= f) :=
  bind_of_handsBack (P := fun _ => True) hx (fun _ _ _ _ => trivial) fun a _ => hf a

end Follows

section Follows

variable {ρ : Dispatch} {M N L : DescriptorId → Prop} {w : World}

theorem follows_logged (entry : LogEntry) : Follows M N L (logged entry) :=
  fun _ _ => .of_descriptors rfl fun _ hr => hr

/-- Calling a method of descriptors on anything. -/
theorem follows_callMethod (hρ : ρ.Civil N L) (r : Ref) (method : String) (given : Nat)
    (lastParameter : String) {own : DescriptorId → Action Unit}
    (h : ∀ d, r = .descriptor d → Follows M N L (own d)) :
    Follows M N L (callMethod ρ r method given lastParameter own) := by
  intro w has
  unfold callMethod
  rw [if_neg (by simp [hρ.library])]
  split
  · rename_i d
    rw [left_bind_pure]
    exact h d rfl w has
  · rw [left_bind_pure]
    exact hρ.ignoring (.call _ method given) trivial rfl

/-- Freezing what nobody has locked. -/
theorem follows_freeze {d : DescriptorId} (hρ : ρ.Civil N fun e => L e ∨ e = d) (free : ¬ L d) :
    Follows M N L (freeze ρ d) := by
  intro w _
  by_cases has : w.HasDescriptor d
  · exact hρ.freeze has free
  · -- What is not in the store stands for nothing, and marking it changes nothing.
    have settled := freeze_of_settled (ρ := ρ) (w := w) (d := d) hρ.library
      (by rw [World.descriptor_of_not_has has]) (.inl (by rw [World.descriptor_of_not_has has]))
    rw [settled, left_ok, World.changeDescriptor_of_not_has has]
    exact .stay w

end Follows

/-! ## 4. Applications that do things -/

section Acting

variable {ρ : Dispatch} {M N L : DescriptorId → Prop} {freezing : DescriptorId → Action Unit}

theorem follows_takeStep (hρ : ρ.Civil N L) (hfreezing : ∀ d, Follows M N L (freezing d)) (r : Ref)
    (step : SetupStep) : Follows M N L (takeStep ρ freezing r step) := by
  refine Follows.bind (.reading .get) fun w => ?_
  cases step with
  | register component =>
    refine Follows.bind (.reading (.ofExcept _)) fun component => ?_
    refine (follows_callMethod hρ r _ _ _ fun d _ _ _ => ?_).bind fun _ => .reading (.pure _)
    exact hρ.call (.register d component) trivial
  | provide service factory =>
    refine Follows.bind (.reading (.ofExcept _)) fun service => ?_
    refine Follows.bind (.reading (.ofExcept _)) fun factory => ?_
    refine (follows_callMethod hρ r _ _ _ fun d _ _ _ => ?_).bind fun _ => .reading (.pure _)
    exact hρ.call (.provide d service factory) trivial
  | setProperty name value =>
    refine (follows_callMethod hρ r _ _ _ fun d _ _ _ => ?_).bind fun _ => .reading (.pure _)
    exact hρ.call (.setProperty d name value) trivial
  | freeze =>
    refine (follows_callMethod hρ r _ _ _ fun d _ => hfreezing d).bind fun _ => ?_
    exact .reading (.pure _)

theorem follows_decorate (c : ClassId) (x : Decoration) : Follows M N L (decorate c x) := by
  have checked : Reads (checkOpen c "__roost_metadata__") := by
    refine Reads.get.bind fun w => ?_
    dsimp only
    split
    · exact .throw _
    · exact .pure _
  refine Follows.bind (.reading checked) fun _ => ?_
  exact fun _ _ => .of_descriptors rfl fun _ hr => hr

theorem follows_markThing (r : Ref) (x : Decoration) : Follows M N L (markThing ρ r x) := by
  have read : Reads (readMetadata ρ r) := by
    refine (reads_checkAccess ρ r).bind fun _ => Reads.get.bind fun w => ?_
    split
    · exact .pure _
    · exact .throw _
  refine Follows.bind (.reading read) fun m w has => ?_
  rw [run_bind_of_ok (EStateM.run_get w)]
  split
  · exact .stay w
  · exact .of_descriptors rfl fun _ hr => hr

theorem follows_mark (r : Ref) (x : Decoration) : Follows M N L (mark ρ r [x]) := by
  unfold mark
  split
  · exact (follows_decorate _ x).bind fun _ => .reading (.pure _)
  · exact (follows_markThing r x).bind fun _ => .reading (.pure _)

/-- **What the code of an application does before it answers** is a course of calls. -/
theorem follows_perform (hρ : ρ.Civil N L) (hfreezing : ∀ d, Follows M N L (freezing d))
    (deed : Deed) : Follows M N L (deed.perform ρ freezing) := by
  cases deed with
  | use m step =>
    refine Follows.bind (.reading .get) fun w => Follows.bind (.reading (.ofExcept _)) fun r => ?_
    exact follows_takeStep hρ hfreezing r step
  | decorate m x =>
    refine Follows.bind (.reading .get) fun w => Follows.bind (.reading (.ofExcept _)) fun r => ?_
    exact follows_mark r x

theorem follows_freshInstances (hρ : ρ.Civil N L) (ms : List Mention) :
    Follows M N L (freshInstances ρ ms) := by
  induction ms with
  | nil => exact .reading (.pure _)
  | cons m rest ih =>
    refine Follows.bind (.reading .get) fun w => Follows.bind (.reading (.ofExcept _)) fun r => ?_
    have made : Follows M N L (callThing ρ r {}) := fun _ _ => hρ.ignoring (.make r) trivial rfl
    exact made.bind fun _ => ih.bind fun _ => .reading (.pure _)

theorem follows_answer (hρ : ρ.Civil N L) {act : Deed → Action Unit}
    (hact : ∀ deed, Follows M N L (act deed)) (answer : Answer) :
    Follows M N L (Action.answer ρ act answer) := by
  have resolved (ms : List Mention) (w : World) : Reads (Action.ofExcept (w.scope.resolveAll ms)) :=
    .ofExcept _
  induction answer with
  | list ms => exact .reading (Reads.get.bind fun w => (resolved ms w).bind fun _ => .pure _)
  | set ms =>
    refine .reading (Reads.get.bind fun w => (resolved ms w).bind fun items => ?_)
    exact (reads_setOf hρ.library items).bind fun _ => .pure _
  | stream ms failure =>
    exact .reading (Reads.get.bind fun w => (resolved ms w).bind fun _ => .pure _)
  | fresh ms => exact (follows_freshInstances hρ ms).bind fun _ => .reading (.pure _)
  | mapping entries place =>
    simp only [Action.answer]
    split
    · exact .reading (.throw _)
    · exact .reading (.pure _)
  | datum value place => exact .reading (.pure _)
  | fail error => exact .reading (.throw _)
  | after deed answer ih => exact (hact deed).bind fun _ => ih

end Acting

/-- **Written code keeps to the public interface**, whatever it does, and leaves alone what is being
    frozen. -/
theorem Dispatch.civil_actingTo {N : DescriptorId → Prop} (depth : Nat)
    (held : List DescriptorId) : (actingTo false depth held).Civil N (· ∈ held) := by
  induction depth generalizing held with
  | zero => exact ⟨rfl, fun _ v => .stay v⟩
  | succ depth ih =>
    refine ⟨rfl, fun answer v => ?_⟩
    refine follows_answer (M := nobody) (ih held) (fun deed => ?_) answer v fun _ => False.elim
    refine follows_perform (ih held) (fun d => ?_) deed
    split
    · exact .reading (.throw _)
    · rename_i free
      refine follows_freeze ((ih (d :: held)).unlock fun e he => ?_) free
      rcases he with he | rfl
      · exact List.mem_cons_of_mem _ he
      · exact List.mem_cons_self

theorem Dispatch.civil_acting {N : DescriptorId → Prop} (held : List DescriptorId) :
    (acting false held).Civil N (· ∈ held) :=
  civil_actingTo depth held

/-! ## 5. Building servers -/

/-- What is known of each of some things as a descriptor is known of the descriptors among them. -/
theorem Ref.of_mem_descriptors {ε : Type} {items : List ε} {config : ε → Ref}
    {P : DescriptorId → Prop} (h : ∀ e ∈ items, ∃ d, config e = .descriptor d ∧ P d)
    {d : DescriptorId} (hd : d ∈ items.filterMap fun e => (config e).descriptor?) : P d := by
  obtain ⟨e, he, hed⟩ := List.mem_filterMap.1 hd
  obtain ⟨d', hd', hP⟩ := h e he
  rw [hd'] at hed
  obtain rfl : d' = d := Option.some.inj hed
  exact hP

namespace ServerBuilder

/-- The descriptors that a builder is to mount, one for each registration that has one. -/
def descriptors (b : ServerBuilder) : List DescriptorId :=
  b.registrations.filterMap (·.config.descriptor?)

/-- Whether a builder is to mount a descriptor. -/
def Mounts (b : ServerBuilder) (d : DescriptorId) : Prop :=
  d ∈ b.descriptors

/-- The descriptors of a builder with nothing foreign in its fields are in the store. -/
theorem Holds.has {b : ServerBuilder} {config : ServerConfig} {members : List Ref} {w : World}
    (hb : b.Holds config members w) {d : DescriptorId} (hd : b.Mounts d) : w.HasDescriptor d :=
  Ref.of_mem_descriptors hb.stored hd

end ServerBuilder

section Building

variable {ρ : Dispatch} {M N L : DescriptorId → Prop} {w : World} {b : ServerBuilder}

/-- Freezing what a registration brings: a descriptor, or anything else that has such a method. -/
theorem follows_freezeConfig (hρ : ρ.Civil N fun e => L e ∨ M e) (free : ∀ d, M d → ¬ L d) (r : Ref)
    (h : ∀ d, r = .descriptor d → M d) :
    Follows M N L (callMethod ρ r "freeze" 0 "self" (freeze ρ)) := by
  refine follows_callMethod (hρ.unlock fun _ => .inl) r _ _ _ fun d hd => ?_
  refine follows_freeze (hρ.unlock fun e he => ?_) (free d (h d hd))
  rcases he with he | rfl
  · exact .inl he
  · exact .inr (h e hd)

/-- **The second pass is a course of calls**: it freezes the descriptors of its registrations. -/
theorem follows_mountAll (hρ : ρ.Civil N fun e => L e ∨ M e) (free : ∀ d, M d → ¬ L d)
    {resolved : List (Datum × Registration)}
    (h : ∀ e ∈ resolved, ∀ d, e.2.config = .descriptor d → M d) :
    Follows M N L (b.mountAll ρ resolved) := by
  induction resolved with
  | nil => exact .reading (.pure _)
  | cons e rest ih =>
    obtain ⟨listener, r⟩ := e
    have labelled : Follows M N L (do
        let label ← labelOf ρ r
        logged (.mounted label r.contextRoot listener)
        let mounts ← b.mountAll ρ rest
        pure (ServerBuilder.mountOf b.defaultExecutor listener r :: mounts)) := by
      refine Follows.bind (.reading (reads_labelOf hρ.library r)) fun label => ?_
      refine Follows.bind (follows_logged _) fun _ => ?_
      exact (ih fun e he => h e (List.mem_cons_of_mem _ he)).bind fun _ => .reading (.pure _)
    rw [ServerBuilder.mountAll]
    refine (follows_freezeConfig hρ free r.config (h _ List.mem_cons_self)).bind fun _ => ?_
    dsimp only
    split
    · exact Follows.bind (.reading (reads_checkField b _)) fun _ => labelled
    · exact labelled

/-- What a builder is to mount are its registrations, or nothing. -/
theorem handsBack_toMount (b : ServerBuilder) :
    HandsBack (fun registrations => registrations = b.registrations ∨ registrations = [])
      b.toMount := by
  unfold ServerBuilder.toMount
  split
  · exact .pure (.inl rfl)
  · exact .throw _
  · refine HandsBack.after fun w => ?_
    split
    · exact .throw _
    · exact .pure (.inr rfl)
    · exact .throw _

theorem reads_toMount (b : ServerBuilder) : Reads b.toMount := by
  unfold ServerBuilder.toMount
  split
  · exact .pure _
  · exact .throw _
  · refine Reads.get.bind fun w => ?_
    split
    · exact .throw _
    · exact .pure _
    · exact .throw _

/-- The first pass hands on the registrations that it was given. -/
theorem handsBack_validate (b : ServerBuilder) (taken : List (ServerBuilder.Place × String))
    (registrations : List Registration) :
    HandsBack (fun resolved => resolved.map Prod.snd = registrations)
      (b.validate ρ taken registrations) := by
  induction registrations generalizing taken with
  | nil => exact .pure rfl
  | cons r rest ih =>
    rw [ServerBuilder.validate]
    refine HandsBack.afterCheck (HandsBack.after fun listener => HandsBack.after fun label => ?_)
    refine HandsBack.after fun place => ?_
    split
    · exact .throw _
    · refine HandsBack.after fun _ => (ih _).bind fun resolved same => .pure ?_
      rw [List.map_cons, same]

/-- The first pass is one call. -/
theorem follows_validate (hρ : ρ.Civil N L) (b : ServerBuilder)
    (registrations : List Registration) : Follows M N L (b.validate ρ [] registrations) :=
  fun _ _ => hρ.ignoring (.validate b registrations) trivial rfl

/-- **Building a server is a course of calls**, whether it fails or not, if nothing is locked that
    is to be mounted. -/
theorem follows_build (hρ : ρ.Civil N fun e => L e ∨ b.Mounts e)
    (free : ∀ d, b.Mounts d → ¬ L d) : Follows b.Mounts N L (b.build ρ) := by
  refine Follows.bind_of_handsBack (.reading (reads_toMount b)) (handsBack_toMount b)
    fun registrations given => ?_
  have mounted : ∀ r ∈ registrations, ∀ d, r.config = .descriptor d → b.Mounts d := by
    intro r hr d hd
    rcases given with rfl | rfl
    · exact List.mem_filterMap.2 ⟨r, hr, by rw [hd]; rfl⟩
    · cases hr
  refine Follows.bind_of_handsBack (follows_validate (hρ.unlock fun _ => .inl) b _)
    (handsBack_validate b [] registrations) fun resolved same => ?_
  subst same
  refine (follows_mountAll hρ free fun e he => mounted e.2 (List.mem_map_of_mem he)).bind
    fun _ => ?_
  exact .reading ((reads_checkField b _).bind fun _ => .pure _)

end Building

/-! ## 6. Frozen descriptors -/

namespace World

variable {N L : DescriptorId → Prop} {w w' : World} {d : DescriptorId}

/-- A frozen descriptor that may not be renamed is as it was. -/
theorem Course.same (h : Course nobody L w w') (hd : w.HasDescriptor d)
    (hf : (w.descriptor d).frozen = true) : w'.descriptor d = w.descriptor d :=
  ((h.spares.descriptor d hd id).frozen hf).2 id

/-- A store with a frozen descriptor, one for a class of applications, and a third one, which
    another application freezes before it fails. -/
def boardStore : World :=
  { World.initial with
    classes := World.initial.classes ++
      #[{ name := "ShopApp", qualname := "ShopApp", home := .text "shop",
          ancestors := [ClassId.application, ClassId.object] },
        { name := "MailApp", qualname := "MailApp", home := .text "mail",
          ancestors := [ClassId.application, ClassId.object],
          members := [("classes", .method (.within "MailApp" "classes"
            (.answer (.after (.use (some "desk") .freeze)
              (.fail ⟨"RuntimeError", "no mail"⟩)))))] }]
    descriptors :=
      #[{ cls := ClassId.descriptor, name := .text "board", classes := [.cls ⟨6⟩], frozen := true },
        { cls := ClassId.descriptor, name := .text "ShopApp", applicationClass := some ⟨6⟩ },
        { cls := ClassId.descriptor, name := .text "desk" }]
    things := #[⟨.made ⟨7⟩ none, .object ⟨0⟩, none⟩]
    scope := ⟨[("desk", .descriptor ⟨2⟩)]⟩ }

/-- A builder that mounts the first two. -/
def boardBuilder : ServerBuilder :=
  { registrations :=
      [{ contextRoot := .text "/board", config := .descriptor ⟨0⟩ },
        { contextRoot := .text "/shop", config := .descriptor ⟨1⟩ }] }

theorem holds_boardBuilder (h : 2 ≤ w.descriptors.size) : boardBuilder.Holds {} [] w := by
  refine ⟨rfl, rfl, fun r hr => ?_⟩
  simp only [boardBuilder, List.mem_cons, List.not_mem_nil, or_false] at hr
  rcases hr with rfl | rfl
  · exact ⟨⟨0⟩, rfl, show 0 < w.descriptors.size by omega⟩
  · exact ⟨⟨1⟩, rfl, show 1 < w.descriptors.size by omega⟩

end World

end AppMount
