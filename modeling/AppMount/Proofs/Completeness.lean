import AppMount.Proofs.Absorbing
import AppMount.Proofs.Adapting
import AppMount.Proofs.FailedBuild

/-!
# Complete descriptors

What becomes of a descriptor that is made for an application class. It is set up, frozen, frozen
again after a failure, and built into servers, in any order. Freezing gives it its application
before it absorbs it, and only asks whether it has one; so a freeze that fails in between leaves a
descriptor that the next one marks.

* `World.Steady`: application classes whose hooks always answer or never;
* `World.Handled`, `World.Reached`: what may happen, and the stores that it leads to;
* `World.Complete`: a descriptor that absorbed all of its application;
* `Course.Phase`: a descriptor waits for its application, or has one that it can never absorb, or
  absorbed it; every step keeps to that (`Course.Holding.step`, `Course.holding_of_reached`);
* `Reached.frozen_complete_iff`: exactly when a frozen descriptor is complete;
* `frozen_not_complete`: one that is frozen and not complete.
-/

namespace AppMount

/-! ## 1. What may happen to a descriptor -/

namespace World

theorem Later.logging {c : ClassId} (w : World) (entries : List LogEntry) :
    w.Later c (w.logging entries) :=
  { Later.refl w with }

/-- **An application class with steady hooks**: each hook of an instance either always gives one
    answer of the right type, or never answers; and an instance that is a descriptor provides for
    classes. -/
def Steady (ρ : Dispatch) (c : ClassId) (w₀ : World) : Prop :=
  ∀ w, w₀.Later c w → ∀ app w₁, EStateM.run (Action.instantiate ρ c) w = .ok app w₁ →
    w₁.InstanceOf app c →
      (∀ h, (∃ offer, Action.Yields ρ c app h w₁ offer) ∨ Action.Raises ρ c app h w₁) ∧
      ∀ e, app = .descriptor e → ∀ r ∈ (w₁.descriptor e).providers.map (·.1), ∃ k, r = .cls k

/-- **What may happen to a descriptor for a class**: it is set up, frozen, or built into a server
    with others, whether that fails or not; and anything may happen elsewhere that leaves it and the
    applications of its class alone. -/
inductive Handled (ρ : Dispatch) (c : ClassId) (d : DescriptorId) (w : World) : World → Prop where
  | register (component : Ref) :
      Handled ρ c d w (Action.left (EStateM.run (Action.register ρ d component) w))
  | provide (service : ClassId) (factory : Ref) :
      Handled ρ c d w (Action.left (EStateM.run (Action.provide ρ d (.cls service) factory) w))
  | setProperty (name value : Datum) :
      Handled ρ c d w (Action.left (EStateM.run (Action.setProperty ρ d name value) w))
  | freeze : Handled ρ c d w (Action.left (EStateM.run (Action.freeze ρ d) w))
  | build {b : ServerBuilder} {config : ServerConfig} {members : List Ref}
      (hb : b.Holds config members w) :
      Handled ρ c d w (Action.left (EStateM.run (b.build ρ) w))
  | elsewhere {w' : World} (later : w.Later c w') (same : w'.descriptor d = w.descriptor d) :
      Handled ρ c d w w'

/-- **The stores that this leads to**, in any order and any number of steps. -/
inductive Reached (ρ : Dispatch) (c : ClassId) (d : DescriptorId) (w₀ : World) : World → Prop where
  | start : Reached ρ c d w₀ w₀
  | step {w w' : World} (h : Reached ρ c d w₀ w) (hs : Handled ρ c d w w') : Reached ρ c d w₀ w'

/-- **A descriptor that absorbed all of its application**: the application is an instance of the
    class, each of its hooks answers, and the descriptor holds the answer; if the application is a
    descriptor, it also holds all its providers. -/
def Complete (ρ : Dispatch) (c : ClassId) (d : DescriptorId) (w : World) : Prop :=
  ∃ app, (w.descriptor d).application = some app ∧ w.InstanceOf app c ∧
    (∀ h, ∃ offer w', EStateM.run (Action.ask ρ app h) w = .ok offer w' ∧
      (w.descriptor d).Covers offer h) ∧
    ∀ e, app = .descriptor e → (w.descriptor d).Provides (w.descriptor e).providers

end World

/-! ## 2. Setting up -/

/-- **A descriptor that was set up further**: what it stands for is the same, and it holds classes
    where classes are meant if it did before. -/
structure Descriptor.Extends (x y : Descriptor) : Prop where
  cls : y.cls = x.cls
  application : y.application = x.application
  applicationClass : y.applicationClass = x.applicationClass
  frozen : y.frozen = x.frozen
  plain : x.Plain → y.Plain

namespace Descriptor.Extends

variable {x y z : Descriptor}

theorem refl (x : Descriptor) : x.Extends x :=
  ⟨rfl, rfl, rfl, rfl, id⟩

theorem of_eq (h : y = x) : x.Extends y := by
  subst h
  exact refl y

theorem trans (h : x.Extends y) (h' : y.Extends z) : x.Extends z :=
  ⟨h'.cls.trans h.cls, h'.application.trans h.application,
    h'.applicationClass.trans h.applicationClass, h'.frozen.trans h.frozen, h'.plain ∘ h.plain⟩

theorem addComponent (rep : Ref → Ref) (component : Ref) (x : Descriptor) :
    x.Extends (x.addComponent rep component) := by
  unfold Descriptor.addComponent
  split
  · rename_i hcls
    refine ⟨rfl, rfl, rfl, rfl, fun hx => ⟨fun r hr => ?_, hx.services⟩⟩
    rcases Keyed.mem_addAll hr with hr | hr
    · exact hx.classes r hr
    · obtain rfl : r = component := List.mem_singleton.1 hr
      cases r with
      | cls k => exact ⟨k, rfl⟩
      | none | descriptor | object | datum => cases hcls
  · exact ⟨rfl, rfl, rfl, rfl, fun hx => ⟨hx.classes, hx.services⟩⟩

theorem putProviders (rep : Ref → Ref) (service : ClassId) (factory : Ref) (x : Descriptor) :
    x.Extends (x.putProviders rep [(.cls service, factory)]) := by
  refine ⟨rfl, rfl, rfl, rfl, fun hx => ⟨hx.classes, fun r hr => ?_⟩⟩
  rcases Keyed.mem_keys_putAll hr with hr | hr
  · exact hx.services r hr
  · exact ⟨service, List.mem_singleton.1 hr⟩

theorem putProperties (new : List (Datum × Datum)) (x : Descriptor) :
    x.Extends (x.putProperties new) :=
  ⟨rfl, rfl, rfl, rfl, fun hx => ⟨hx.classes, hx.services⟩⟩

end Descriptor.Extends

/-- A store in which a descriptor was set up further, if it is there. -/
def World.Extends (d : DescriptorId) (w w' : World) : Prop :=
  w.HasDescriptor d → w'.HasDescriptor d ∧ (w.descriptor d).Extends (w'.descriptor d)

namespace World.Extends

variable {d : DescriptorId} {w w₁ w₂ w₃ : World}

theorem refl (w : World) : World.Extends d w w :=
  fun hd => ⟨hd, .refl _⟩

theorem trans (h : World.Extends d w₁ w₂) (h' : World.Extends d w₂ w₃) : World.Extends d w₁ w₃ :=
  fun hd => ⟨(h' (h hd).1).1, (h hd).2.trans (h' (h hd).1).2⟩

theorem change {f : Descriptor → Descriptor} (hf : ∀ x, Descriptor.Extends x (f x)) :
    World.Extends d w (w.changeDescriptor d f) := by
  refine fun hd => ⟨(hasDescriptor_change ..).2 hd, ?_⟩
  rw [descriptor_change_self hd]
  exact hf _

end World.Extends

namespace Action

variable {ρ : Dispatch}

theorem extends_register (hρ : ρ.replaces = false) (d : DescriptorId) (component : Ref) :
    Within (World.Extends d) (register ρ d component) := by
  unfold register checkClasses checkSingletons
  simp only [standIn_of_library hρ, checkAccess_of_library hρ, pure_bind, ite_self]
  refine Within.bind World.Extends.trans
    ((reads_checkChangeable hρ d).within World.Extends.refl) fun _ => ?_
  exact Within.modify fun w => World.Extends.change (.addComponent w.like component)

theorem extends_provide (hρ : ρ.replaces = false) (d : DescriptorId) (service : ClassId)
    (factory : Ref) : Within (World.Extends d) (provide ρ d (.cls service) factory) := by
  unfold provide checkKeyed
  simp only [standIn_of_library hρ, pure_bind, hρ, Bool.false_eq_true, if_false]
  refine Within.bind World.Extends.trans
    ((reads_checkChangeable hρ d).within World.Extends.refl) fun _ => ?_
  refine Within.bind World.Extends.trans
    ((reads_codeOf hρ _).within World.Extends.refl) fun _ => ?_
  exact Within.modify fun w => World.Extends.change (.putProviders w.like service factory)

theorem extends_setProperty (hρ : ρ.replaces = false) (d : DescriptorId) (name value : Datum) :
    Within (World.Extends d) (setProperty ρ d name value) := by
  unfold setProperty checkKeyed
  simp only [standIn_of_library hρ, pure_bind]
  refine Within.bind World.Extends.trans
    ((reads_checkChangeable hρ d).within World.Extends.refl) fun _ => ?_
  split
  · exact Within.modify fun w => World.Extends.change (.putProperties _)
  · exact Within.throw World.Extends.refl _

end Action

/-! ## 3. The course of a descriptor -/

namespace Course

open AppMount.Action

variable {ρ : Dispatch} {c : ClassId} {d : DescriptorId} {w₀ w w' w₁ : World} {app : Ref}

/-- **An application that can never be absorbed**: one that is no instance of the class, or one with
    a hook that never answers. -/
def Fails (ρ : Dispatch) (c : ClassId) (app : Ref) (w : World) : Prop :=
  ¬ w.InstanceOf app c ∨ ∃ h, Raises ρ c app h w

theorem Fails.later (h : Fails ρ c app w) (stored : w.Stores app) (later : w.Later c w') :
    Fails ρ c app w' := by
  refine h.imp (fun hinst => ?_) fun ⟨hook, hraises⟩ => ⟨hook, hraises.later later⟩
  rwa [later.instanceOf_iff stored]

/-- **A descriptor with an application that it can never absorb.** -/
structure Spoilt (ρ : Dispatch) (c : ClassId) (d : DescriptorId) (w : World) (app : Ref) :
    Prop where
  application : (w.descriptor d).application = some app
  stored : w.Stores app
  fails : Fails ρ c app w

/-- **A descriptor that absorbed its application**, all of whose hooks go on answering. -/
structure Absorbed (ρ : Dispatch) (c : ClassId) (d : DescriptorId) (w : World) (app : Ref)
    (offer : Hook → Offer) : Prop where
  application : (w.descriptor d).application = some app
  frozen : (w.descriptor d).frozen = true
  stored : w.Stores app
  instanceOf : w.InstanceOf app c
  yields : ∀ h, Yields ρ c app h w (offer h)
  covers : ∀ h, (w.descriptor d).Covers (offer h) h
  serves : ∀ e, app = .descriptor e → w.Serves c e
  provides : ∀ e, app = .descriptor e → (w.descriptor d).Provides (w.descriptor e).providers

/-- **Where a descriptor for a class stands.** -/
inductive Phase (ρ : Dispatch) (c : ClassId) (d : DescriptorId) (w : World) : Prop where
  | waiting (application : (w.descriptor d).application = none)
      (frozen : (w.descriptor d).frozen = false) (plain : (w.descriptor d).Plain)
  | spoilt {app : Ref} (h : Spoilt ρ c d w app)
  | absorbed {app : Ref} {offer : Hook → Offer} (h : Absorbed ρ c d w app offer)

theorem Spoilt.later (h : Spoilt ρ c d w app) (later : w.Later c w')
    (same : (w'.descriptor d).application = (w.descriptor d).application) :
    Spoilt ρ c d w' app where
  application := same.trans h.application
  stored := later.stores h.stored
  fails := h.fails.later h.stored later

/-- What was absorbed does not change any more. -/
theorem Absorbed.later {offer : Hook → Offer} (h : Absorbed ρ c d w app offer)
    (later : w.Later c w') (same : w'.descriptor d = w.descriptor d) :
    Absorbed ρ c d w' app offer where
  application := same ▸ h.application
  frozen := same ▸ h.frozen
  stored := later.stores h.stored
  instanceOf := (later.instanceOf_iff h.stored c).2 h.instanceOf
  yields hook := (h.yields hook).later later
  covers := same ▸ h.covers
  serves e he := (h.serves e he).later later
  provides e he := by
    obtain ⟨frozen, held⟩ := (h.serves e he).held later
    rw [same, held]
    exact h.provides e he

/-- **A descriptor stays where it stands** if it is set up further at most, and not at all once it
    is frozen. -/
theorem Phase.kept (h : Phase ρ c d w) (later : w.Later c w')
    (ext : (w.descriptor d).Extends (w'.descriptor d))
    (same : (w.descriptor d).frozen = true → w'.descriptor d = w.descriptor d) :
    Phase ρ c d w' := by
  cases h with
  | waiting application frozen plain =>
    exact .waiting (ext.application.trans application) (ext.frozen.trans frozen) (ext.plain plain)
  | spoilt h => exact .spoilt (h.later later ext.application)
  | absorbed h => exact .absorbed (h.later later (same h.frozen))

/-- **What holds in every store that is reached.** -/
structure Holding (ρ : Dispatch) (c : ClassId) (d : DescriptorId) (w₀ w : World) : Prop where
  later : w₀.Later c w
  has : w.HasDescriptor d
  backed : (w.descriptor d).applicationClass = some c
  phase : Phase ρ c d w

theorem Holding.kept (h : Holding ρ c d w₀ w) (later : w.Later c w')
    (ext : (w.descriptor d).Extends (w'.descriptor d))
    (same : (w.descriptor d).frozen = true → w'.descriptor d = w.descriptor d) :
    Holding ρ c d w₀ w' where
  later := h.later.trans later
  has := later.has d h.has
  backed := ext.applicationClass.trans h.backed
  phase := h.phase.kept later ext same

/-- What leaves the descriptor alone keeps all. -/
theorem Holding.of_same (h : Holding ρ c d w₀ w) (later : w.Later c w')
    (same : w'.descriptor d = w.descriptor d) : Holding ρ c d w₀ w' :=
  h.kept later (.of_eq same) fun _ => same

/-- **Setting up** keeps all, since a frozen descriptor refuses it. -/
theorem Holding.setUp (h : Holding ρ c d w₀ w) {x : Action Unit}
    (heeds : Heeds (.building (.descriptor d)) x) (ext : Within (World.Extends d) x)
    (refused : (w.descriptor d).frozen = true → ∃ fault, EStateM.run x w = .error fault w) :
    Holding ρ c d w₀ (left (EStateM.run x w)) := by
  obtain ⟨-, hext⟩ := ext w h.has
  refine h.kept ((heeds w).later fun e he hL => ?_) hext fun hf => ?_
  · obtain rfl : d = e := hL.elim Option.some.inj False.elim
    exact ⟨hext.cls, fun hnone => nomatch h.backed.symm.trans hnone⟩
  · obtain ⟨fault, hrun⟩ := refused hf
    rw [hrun]
    rfl

/-! ### The application that is made -/

/-- A descriptor that was only set up: it stands for no application class, and has no service
    twice. -/
structure Own (x : Descriptor) : Prop where
  unbacked : x.applicationClass = none
  distinct : (x.providers.map (·.1)).Nodup

theorem own_bare (k : ClassId) : Own { cls := k } :=
  ⟨rfl, List.nodup_nil⟩

theorem Own.setUp {rep : Ref → Ref} {f : Descriptor → Descriptor} (hf : Descriptor.SetUp rep f)
    {x : Descriptor} (hx : Own x) : Own (f x) := by
  cases hf with
  | initialized => exact ⟨rfl, List.nodup_nil⟩
  | component r =>
    show Own (x.addComponent rep r)
    unfold Descriptor.addComponent
    split
    · exact ⟨hx.unbacked, hx.distinct⟩
    · exact ⟨hx.unbacked, hx.distinct⟩
  | provider service factory => exact ⟨hx.unbacked, Keyed.nodup_keys_putAll hx.distinct⟩
  | property | frozen => exact ⟨hx.unbacked, hx.distinct⟩

/-- **An application that is a descriptor** was just made and only set up. -/
theorem own_of_instantiate (hρ : ρ.Discreet) {e : DescriptorId}
    (hmake : EStateM.run (instantiate ρ c) w = .ok (.descriptor e) w₁) :
    w₁.HasDescriptor e ∧ Own (w₁.descriptor e) := by
  obtain ⟨stored, fresh⟩ := (makes_instantiate hρ.respects c).new hmake
  have made : World.Reaches (Licence.none.beyond w) w w₁ := (heeds_instantiate hρ c).ok hmake
  refine ⟨stored, made.invariant own_bare (fun _ _ _ hf hx => hx.setUp hf) (fun h => h) ?_⟩
  rw [World.descriptor_of_not_has (fresh e rfl)]
  exact own_bare _

theorem serves_of_instantiate (hρ : ρ.Discreet)
    (hmake : EStateM.run (instantiate ρ c) w = .ok app w₁) (inst : w₁.InstanceOf app c)
    {e : DescriptorId} (he : app = .descriptor e)
    (services : ∀ r ∈ (w₁.descriptor e).providers.map (·.1), ∃ k, r = .cls k) :
    w₁.Serves c e := by
  subst he
  obtain ⟨stored, own⟩ := own_of_instantiate hρ hmake
  obtain ⟨k, hk, hlineage⟩ := inst
  obtain rfl : (w₁.descriptor e).cls = k := Option.some.inj hk
  exact ⟨stored, hlineage, own.unbacked, services, own.distinct⟩

/-- **An application that was made** can never be absorbed, or all its hooks go on answering. -/
theorem fails_or_yields (hρ : ρ.Discreet) (steady : w₀.Steady ρ c) (later : w₀.Later c w)
    (hmake : EStateM.run (instantiate ρ c) w = .ok app w₁) :
    Fails ρ c app w₁ ∨ w₁.InstanceOf app c ∧
      (∃ offer : Hook → Offer, ∀ h, Yields ρ c app h w₁ (offer h)) ∧
      ∀ e, app = .descriptor e → w₁.Serves c e := by
  by_cases inst : w₁.InstanceOf app c
  · obtain ⟨hooks, services⟩ := steady w later app w₁ hmake inst
    by_cases raises : ∃ h, Raises ρ c app h w₁
    · exact .inl (.inr raises)
    · have answers (h : Hook) : ∃ offer, Yields ρ c app h w₁ offer :=
        (hooks h).resolve_right fun hraises => raises ⟨h, hraises⟩
      exact .inr ⟨inst, ⟨fun h => (answers h).choose, fun h => (answers h).choose_spec⟩,
        fun e he => serves_of_instantiate hρ hmake inst he (services e he)⟩
  · exact .inl (.inl inst)

/-- A store `v` in which a descriptor has just been given its application, which was made in `w`. -/
structure Given (c : ClassId) (d : DescriptorId) (w w₁ : World) (app : Ref) (v : World) : Prop where
  later : w₁.Later c v
  has : v.HasDescriptor d
  held : v.descriptor d = (w.descriptor d).standFor app
  application : (v.descriptor d).application = some app

theorem Given.backed {v : World} (given : Given c d w w₁ app v) (h : Holding ρ c d w₀ w) :
    (v.descriptor d).applicationClass = some c := by
  rw [given.held]
  exact h.backed

theorem given (hρ : ρ.Discreet) (h : Holding ρ c d w₀ w) (happ : app ≠ .none)
    (hmake : EStateM.run (instantiate ρ c) w = .ok app w₁) :
    Given c d w w₁ app (w₁.changeDescriptor d (·.standFor app)) := by
  have made := (heeds_instantiate hρ c).ok hmake
  have same := made.same h.has
  have held : (w₁.changeDescriptor d (·.standFor app)).descriptor d =
      (w.descriptor d).standFor app := by
    rw [World.descriptor_change_self (made.has h.has), same]
  refine ⟨later_change (made.has h.has) (same ▸ h.backed) rfl,
    (World.hasDescriptor_change ..).2 (made.has h.has), held, ?_⟩
  rw [held]
  exact if_neg happ

/-- **A descriptor that was given its application** can never absorb it, or absorbs it at once. -/
theorem spoilt_or_absorbed (hρ : ρ.Discreet) (steady : w₀.Steady ρ c) (h : Holding ρ c d w₀ w)
    (plain : (w.descriptor d).Plain) (hmake : EStateM.run (instantiate ρ c) w = .ok app w₁)
    {v : World} (given : Given c d w w₁ app v) :
    Spoilt ρ c d v app ∨
      ∃ w₂ offer, EStateM.run (absorb ρ d app) v = .ok ⟨⟩ w₂ ∧
        Absorbed ρ c d (w₂.changeDescriptor d Descriptor.marked) app offer := by
  have backed := given.backed h
  obtain ⟨later, has, held, application⟩ := given
  obtain ⟨stored, -⟩ := (makes_instantiate hρ.respects c).new hmake
  rcases fails_or_yields hρ steady h.later hmake with fails | ⟨inst, ⟨offer, yields⟩, serves⟩
  · exact .inl ⟨application, later.stores stored, fails.later stored later⟩
  · right
    have plain' : (v.descriptor d).Plain := by
      rw [held]
      exact ⟨plain.classes, plain.services⟩
    have serves' (e : DescriptorId) (he : app = .descriptor e) : v.Serves c e :=
      (serves e he).later later
    have yields' (hook : Hook) : Yields ρ c app hook v (offer hook) := (yields hook).later later
    obtain ⟨pairs, hpairs, -⟩ := (yields .properties).1
    obtain ⟨w₂, u, habsorb, -, -, -, held₂⟩ := run_absorb_of_yields hρ has
      (fun _ => by simp [backed]) (.refl v) yields' hpairs
      (fun e he => ⟨(serves' e he).has, (serves' e he).cls, (serves' e he).unbacked⟩)
      plain'.classes
    obtain ⟨covers, provides⟩ := holds_of_absorbing (v := u) plain' (fun hook => (yields hook).1)
      hpairs serves'
    rw [← held₂] at covers provides
    have filled := (fills_absorb hρ d app).ok habsorb
    have absorbed : v.Later c (left (EStateM.run (absorb ρ d app) v)) :=
      later_absorb hρ has backed
    rw [habsorb, left_ok] at absorbed
    have marked : w₂.Later c (w₂.changeDescriptor d Descriptor.marked) :=
      later_change (filled.has has) ((filled.filled has).applicationClass.trans backed) rfl
    have since := later.trans (absorbed.trans marked)
    have final := World.descriptor_change_self (filled.has has) Descriptor.marked
    refine ⟨w₂, offer, habsorb, ?_, ?_, since.stores stored, ?_, ?_, ?_, ?_, ?_⟩
    · rw [final]
      exact (filled.filled has).application.trans application
    · rw [final]
      rfl
    · exact (since.instanceOf_iff stored c).2 inst
    · exact fun hook => (yields hook).later since
    · rw [final]
      exact fun hook => (covers hook).marked
    · exact fun e he => (serves e he).later since
    · intro e he
      obtain ⟨frozen, same⟩ := (serves' e he).held (absorbed.trans marked)
      rw [final, same]
      exact provides e he

/-- Trying to absorb leaves a descriptor spoilt that was spoilt before, whether it fails or not. -/
theorem Spoilt.absorb (hρ : ρ.Discreet) (has : w.HasDescriptor d)
    (backed : (w.descriptor d).applicationClass = some c) (h : Spoilt ρ c d w app) :
    Spoilt ρ c d (left (EStateM.run (Action.absorb ρ d app) w)) app :=
  h.later (later_absorb hρ has backed) ((fills_absorb hρ d app w).filled has).application

theorem Spoilt.marked (has : w.HasDescriptor d)
    (backed : (w.descriptor d).applicationClass = some c) (h : Spoilt ρ c d w app) :
    Spoilt ρ c d (w.changeDescriptor d Descriptor.marked) app := by
  refine h.later (later_change has backed rfl) ?_
  rw [World.descriptor_change_self has]
  rfl

/-- Where a freeze that fails leaves a descriptor that waits for its application. -/
theorem phase_of_freeze_error (hρ : ρ.Discreet) (steady : w₀.Steady ρ c)
    (bare : ∀ member, w.assigned? .none member = none) (h : Holding ρ c d w₀ w)
    (ha : (w.descriptor d).application = none) (hf : (w.descriptor d).frozen = false)
    (plain : (w.descriptor d).Plain) {fault : Fault} (later : w.Later c w')
    (hrun : EStateM.run (freeze ρ d) w = .error fault w') : Phase ρ c d w' := by
  have waits (same : w'.descriptor d = w.descriptor d) : Phase ρ c d w' :=
    h.phase.kept later (.of_eq same) fun _ => same
  rcases (run_freeze_pending_eq_error_iff hρ.library hf h.backed ha).1 hrun with
    hmake | ⟨app, w₁, hmake, habsorb⟩
  · exact waits (((heeds_instantiate hρ c).error hmake).same h.has)
  · by_cases happ : app = .none
    · subst happ
      exact waits (descriptor_of_nothing_made hρ h.has bare h.backed hmake hrun)
    · have hgiven := given hρ h happ hmake
      rcases spoilt_or_absorbed hρ steady h plain hmake hgiven with spoilt | ⟨w₂, _, hok, -⟩
      · have left := spoilt.absorb hρ hgiven.has (hgiven.backed h)
        rw [habsorb] at left
        exact .spoilt left
      · rw [habsorb] at hok
        cases hok

/-- Where a freeze that comes to an end leaves it. -/
theorem phase_of_freeze_ok (hρ : ρ.Discreet) (steady : w₀.Steady ρ c)
    (bare : ∀ member, w.assigned? .none member = none) (h : Holding ρ c d w₀ w)
    (ha : (w.descriptor d).application = none) (hf : (w.descriptor d).frozen = false)
    (plain : (w.descriptor d).Plain) (hrun : EStateM.run (freeze ρ d) w = .ok ⟨⟩ w') :
    Phase ρ c d w' := by
  obtain ⟨app, w₁, w₂, hmake, habsorb, rfl⟩ :=
    (run_freeze_pending_eq_ok_iff hρ.library hf h.backed ha).1 hrun
  by_cases happ : app = .none
  · subst happ
    have made := (heeds_instantiate hρ c).ok hmake
    have bare' (member : String) :
        (w₁.changeDescriptor d (·.standFor .none)).assigned? .none member = none :=
      bare_of_assigned (w := w) made.keeps.assigned bare member
    obtain ⟨fault, hnone⟩ := run_absorb_none hρ.library d bare'
    exact nomatch hnone.symm.trans habsorb
  · have hgiven := given hρ h happ hmake
    rcases spoilt_or_absorbed hρ steady h plain hmake hgiven with spoilt | ⟨w₂', _, hok, absorbed⟩
    · have backed := hgiven.backed h
      have left := spoilt.absorb hρ hgiven.has backed
      have filled := (fills_absorb hρ d app).ok habsorb
      rw [habsorb] at left
      exact .spoilt (left.marked (filled.has hgiven.has)
        ((filled.filled hgiven.has).applicationClass.trans backed))
    · rw [habsorb] at hok
      obtain ⟨-, rfl⟩ := EStateM.Result.ok.inj hok
      exact .absorbed absorbed

/-- **Freezing keeps all**, whether it fails or not. -/
theorem Holding.freeze (hρ : ρ.Discreet) (steady : w₀.Steady ρ c)
    (bare : ∀ member, w₀.assigned? .none member = none) (h : Holding ρ c d w₀ w) :
    Holding ρ c d w₀ (left (EStateM.run (Action.freeze ρ d) w)) := by
  have bare' := bare_of_assigned h.later.assigned bare
  have later : w.Later c (left (EStateM.run (Action.freeze ρ d) w)) := later_freeze hρ d w
  refine ⟨h.later.trans later, later.has d h.has,
    (backing_of_freeze hρ h.has).2.trans h.backed, ?_⟩
  · cases h.phase with
    | waiting ha hf plain =>
      cases hrun : EStateM.run (Action.freeze ρ d) w with
      | ok _ w' => exact phase_of_freeze_ok hρ steady bare' h ha hf plain hrun
      | error fault w' =>
        rw [hrun] at later
        exact phase_of_freeze_error hρ steady bare' h ha hf plain later hrun
    | spoilt spoilt =>
      cases hf : (w.descriptor d).frozen with
      | true =>
        rw [freeze_of_frozen hρ.library hf]
        exact .spoilt spoilt
      | false =>
        -- It has an application, which is all that freezing asks for.
        have settled : (w.descriptor d).application.isSome := by rw [spoilt.application]; rfl
        rw [freeze_of_settled hρ.library hf (.inr settled)]
        exact .spoilt (spoilt.marked h.has h.backed)
    | absorbed absorbed =>
      rw [freeze_of_frozen hρ.library absorbed.frozen]
      exact .absorbed absorbed

/-- **Freezing any descriptor keeps all**: another one leaves this one alone. -/
theorem Holding.freeze_any (hρ : ρ.Discreet) (steady : w₀.Steady ρ c)
    (bare : ∀ member, w₀.assigned? .none member = none) (e : DescriptorId)
    (h : Holding ρ c d w₀ w) : Holding ρ c d w₀ (left (EStateM.run (Action.freeze ρ e) w)) := by
  by_cases hed : e = d
  · subst hed
    exact h.freeze hρ steady bare
  · exact h.of_same (later_freeze hρ e w)
      ((heeds_freeze hρ e w).descriptor h.has (fun h => h) (Ne.symm hed))

/-- **Every step keeps all.** -/
theorem Holding.step (hρ : ρ.Discreet) (steady : w₀.Steady ρ c)
    (bare : ∀ member, w₀.assigned? .none member = none) (h : Holding ρ c d w₀ w)
    (hs : World.Handled ρ c d w w') : Holding ρ c d w₀ w' := by
  cases hs with
  | register component =>
    exact h.setUp (heeds_register hρ.library d component)
      (extends_register hρ.library d component) fun hf =>
        ⟨_, register_of_frozen hρ.library hf component⟩
  | provide service factory =>
    exact h.setUp (heeds_provide hρ.library d (.cls service) factory)
      (extends_provide hρ.library d service factory) fun hf =>
        ⟨_, provide_of_frozen hρ.library hf (.cls service) factory⟩
  | setProperty name value =>
    exact h.setUp (heeds_setProperty hρ.library d name value)
      (extends_setProperty hρ.library d name value) fun hf =>
        ⟨_, setProperty_of_frozen hρ.library hf name value⟩
  | freeze => exact h.freeze hρ steady bare
  | build hb =>
    refine ServerBuilder.within_build
      (R := fun w w' => Holding ρ c d w₀ w → Holding ρ c d w₀ w') hρ.library hb (fun _ h => h)
      (fun h h' hw => h' (h hw)) (fun w entries hw => ?_) (fun _ _ e _ w hw => ?_) h
    · exact hw.of_same (.logging w entries) rfl
    · exact hw.freeze_any hρ steady bare e
  | elsewhere later same => exact h.of_same later same

/-- **What holds at the start holds in every store that is reached.** -/
theorem holding_of_reached (hρ : ρ.Discreet) (steady : w₀.Steady ρ c)
    (bare : ∀ member, w₀.assigned? .none member = none) (start : Holding ρ c d w₀ w₀)
    (h : World.Reached ρ c d w₀ w) : Holding ρ c d w₀ w := by
  induction h with
  | start => exact start
  | step _ hs ih => exact ih.step hρ steady bare hs

end Course

/-! ## 4. Frozen descriptors -/

namespace World

open AppMount.Action

variable {ρ : Dispatch} {c : ClassId} {d : DescriptorId} {v w₀ w : World}

/-- A descriptor that was made for a class waits for its application. -/
theorem holding_of_forApplicationClass (hρ : ρ.replaces = false) (intact : v.Intact)
    (made : EStateM.run (forApplicationClass ρ ClassId.descriptor (.cls c)) v = .ok d w₀) :
    Course.Holding ρ c d w₀ w₀ := by
  obtain ⟨has, -, hd⟩ := descriptor_of_forApplicationClass hρ intact made
  refine ⟨.refl w₀, has, ?_, .waiting ?_ ?_ ⟨?_, ?_⟩⟩ <;> rw [hd]
  · exact fun r hr => nomatch hr
  · exact fun r hr => nomatch hr

/-- **When a frozen descriptor for a class is complete.** It always has an application, and it
    absorbed all of it exactly if the application is an instance of the class and none of its hooks
    fails. -/
theorem Reached.frozen_complete_iff (hρ : ρ.Discreet) (intact : v.Intact)
    (bare : ∀ member, v.assigned? .none member = none)
    (made : EStateM.run (forApplicationClass ρ ClassId.descriptor (.cls c)) v = .ok d w₀)
    (steady : w₀.Steady ρ c) (reached : w₀.Reached ρ c d w)
    (frozen : (w.descriptor d).frozen = true) :
    ∃ app, (w.descriptor d).application = some app ∧
      (w.Complete ρ c d ↔
        w.InstanceOf app c ∧ ∀ h, ∃ offer w', EStateM.run (ask ρ app h) w = .ok offer w') := by
  obtain ⟨-, hassigned, -⟩ := descriptor_of_forApplicationClass hρ.library intact made
  have holding := Course.holding_of_reached hρ steady (bare_of_assigned hassigned bare)
    (holding_of_forApplicationClass hρ.library intact made) reached
  cases holding.phase with
  | waiting _ waits _ => exact nomatch waits.symm.trans frozen
  | spoilt spoilt =>
    refine ⟨_, spoilt.application, fun ⟨app, happ, inst, hooks, _⟩ => ?_, fun ⟨inst, hooks⟩ => ?_⟩
    · obtain rfl : _ = app := Option.some.inj (spoilt.application.symm.trans happ)
      refine ⟨inst, fun h => ?_⟩
      obtain ⟨offer, w', hask, -⟩ := hooks h
      exact ⟨offer, w', hask⟩
    · rcases spoilt.fails with hinst | ⟨h, raises⟩
      · exact absurd inst hinst
      · exact absurd (hooks h) raises.not_ok
  | absorbed absorbed =>
    refine ⟨_, absorbed.application, fun _ => ⟨absorbed.instanceOf, fun h => ?_⟩, fun _ => ?_⟩
    · exact ⟨_, (absorbed.yields h).run⟩
    · refine ⟨_, absorbed.application, absorbed.instanceOf, fun h => ?_, absorbed.provides⟩
      obtain ⟨w', hask⟩ := (absorbed.yields h).run
      exact ⟨_, w', hask, absorbed.covers h⟩

end World

/-! ## 5. A freeze that is tried again -/

namespace World

open AppMount.Action

/-- A store with a class of things and a class of applications that offers it, and that answers in
    some way when it is asked for its properties. -/
def shopStore (properties : Answer) : World :=
  { World.initial with
    classes := World.initial.classes ++
      #[{ name := "Item", qualname := "Item", home := .text "shop", ancestors := [ClassId.object] },
        { name := "ShopApp", qualname := "ShopApp", home := .text "shop",
          ancestors := [ClassId.application, ClassId.object],
          members :=
            [(Hook.classes.word, .method (.within "ShopApp" Hook.classes.word
                (.answer (.set [some "Item"])))),
              (Hook.properties.word, .method (.within "ShopApp" Hook.properties.word
                (.answer properties)))] }]
    scope := ⟨[("Item", .cls ⟨6⟩), ("ShopApp", .cls ⟨7⟩)]⟩ }

/-- The class of applications. -/
def shopApp : ClassId := ⟨7⟩

variable {a : Answer} {w : World}

/-- A store with the classes and names of the shop. -/
structure Stocked (a : Answer) (w : World) : Prop where
  rule : w.rule = (shopStore a).rule
  classes : w.classes = (shopStore a).classes
  scope : w.scope = (shopStore a).scope
  assigned : w.assigned = []

theorem Stocked.later {w' : World} {c : ClassId} (h : Stocked a w) (later : w.Later c w') :
    Stocked a w' :=
  ⟨later.rule.trans h.rule, later.classes.trans h.classes, later.scope.trans h.scope,
    later.assigned.trans h.assigned⟩

theorem Stocked.run_instantiate (h : Stocked a w) :
    EStateM.run (Action.instantiate Dispatch.library shopApp) w =
      .ok (.object (w.newThing (.made shopApp none)).1) (w.newThing (.made shopApp none)).2 := by
  obtain ⟨rule, classes, descriptors, things, scope, assigned, kinds, places, calls, log⟩ := w
  obtain rfl : classes = _ := h.classes
  rfl

theorem Stocked.instantiate (h : Stocked a w) :
    ∃ o w', EStateM.run (Action.instantiate Dispatch.library shopApp) w = .ok (.object o) w' ∧
      w'.content? (.object o) = some (.made shopApp none) := by
  refine ⟨_, _, h.run_instantiate, ?_⟩
  simp [content?, thing?, newThing]

/-- The method that answers a hook of the shop, and the class that it is written in. -/
def shopMethod (a : Answer) : Hook → ClassId × Method
  | .classes => (shopApp, .within "ShopApp" Hook.classes.word (.answer (.set [some "Item"])))
  | .singletons =>
    (ClassId.application, .within "Application" Hook.singletons.word .empty)
  | .properties => (shopApp, .within "ShopApp" Hook.properties.word (.answer a))

theorem Stocked.ask (hw : Stocked a w) {o : ObjectId}
    (ho : w.content? (.object o) = some (.made shopApp none)) (h : Hook) :
    EStateM.run (Action.ask Dispatch.library (.object o) h) w =
      EStateM.run (runHook Dispatch.library (.object o) (.cls (shopMethod a h).1) h
        (shopMethod a h).2) w := by
  have found : w.find? (.object o) h.word =
      some (.method (.cls (shopMethod a h).1) (shopMethod a h).2) := by
    obtain ⟨rule, classes, descriptors, things, scope, assigned, kinds, places, calls, log⟩ := w
    obtain rfl : classes = _ := hw.classes
    obtain rfl : assigned = _ := hw.assigned
    unfold World.find? objectMember? writtenIn? classOf? assigned? namespaceOf
    simp only [ho]
    cases h <;> rfl
  unfold Action.ask access
  rw [checkAccess_of_library rfl, pure_bind, bind_assoc, run_bind_of_ok (EStateM.run_get w), found]
  rfl

theorem Stocked.runHook_classes (hw : Stocked a w) (app : Ref) :
    EStateM.run (runHook Dispatch.library app (.cls (shopMethod a .classes).1) .classes
      (shopMethod a .classes).2) w = .ok (.set [.cls ⟨6⟩] [])
        { w with calls := w.calls ++ [⟨.cls shopApp, Hook.classes.word⟩] } := by
  obtain ⟨rule, classes, descriptors, things, scope, assigned, kinds, places, calls, log⟩ := w
  obtain rfl : scope = _ := hw.scope
  rfl

/-- An application of the shop is asked in the same way in all later stores. -/
theorem Stocked.ask_later (hw : Stocked a w) {o : ObjectId}
    (ho : w.content? (.object o) = some (.made shopApp none)) {v : World}
    (hv : w.Later shopApp v) (h : Hook) :
    EStateM.run (Action.ask Dispatch.library (.object o) h) v =
      EStateM.run (runHook Dispatch.library (.object o) (.cls (shopMethod a h).1) h
        (shopMethod a h).2) v := by
  refine (hw.later hv).ask ?_ h
  obtain ⟨x, hx, hmade⟩ := Option.map_eq_some_iff.1 ho
  exact Option.map_eq_some_iff.2 ⟨x, hv.thing o x hx, hmade⟩

/-- What an application of the shop offers, given its properties. -/
def shopOffer (properties : Offer) : Hook → Offer
  | .classes => .set [.cls ⟨6⟩] []
  | .singletons => .list []
  | .properties => properties

/-- An application of the shop answers, unless it is asked for its properties. -/
theorem Stocked.yields_of_ne (hw : Stocked a w) {o : ObjectId}
    (ho : w.content? (.object o) = some (.made shopApp none)) {h : Hook} (hh : h ≠ .properties)
    (properties : Offer) :
    Yields Dispatch.library shopApp (.object o) h w (shopOffer properties h) := by
  cases h with
  | classes =>
    refine ⟨⟨rfl, fun r hr => ⟨_, List.mem_singleton.1 hr⟩⟩, fun v hv => ?_⟩
    rw [hw.ask_later ho hv]
    exact ⟨_, (hw.later hv).runHook_classes _⟩
  | singletons =>
    refine ⟨rfl, fun v hv => ?_⟩
    rw [hw.ask_later ho hv]
    exact ⟨_, rfl⟩
  | properties => exact absurd rfl hh

/-- Asked for its properties, an application of the shop gives the written answer. -/
theorem Stocked.ask_properties (hw : Stocked a w) {o : ObjectId}
    (ho : w.content? (.object o) = some (.made shopApp none)) {v : World}
    (hv : w.Later shopApp v) :
    EStateM.run (Action.ask Dispatch.library (.object o) .properties) v =
      EStateM.run (Dispatch.library.run a)
        { v with calls := v.calls ++ [⟨.cls shopApp, Hook.properties.word⟩] } := by
  rw [hw.ask_later ho hv]
  rfl

/-- **The shop is steady** if its answer to the last question is. -/
theorem Stocked.steady (hw : Stocked a w)
    (ha : (∃ offer : Offer, offer.Typed .properties ∧
        ∀ w, ∃ w', EStateM.run (Dispatch.library.run a) w = .ok offer w') ∨
      ∀ w, ∃ fault w', EStateM.run (Dispatch.library.run a) w = .error fault w') :
    w.Steady Dispatch.library shopApp := by
  intro w₁ later app w₂ hmake _
  have stocked₁ := hw.later later
  obtain ⟨o, w₂', hmade, hcontent⟩ := stocked₁.instantiate
  rw [hmade] at hmake
  obtain ⟨rfl, rfl⟩ := EStateM.Result.ok.inj hmake
  have stocked₂ : Stocked a w₂' :=
    stocked₁.later (c := shopApp)
      ((heeds_instantiate Dispatch.discreet_library shopApp).ok hmade).later_of_none
  refine ⟨fun h => ?_, fun e he => nomatch he⟩
  by_cases hh : h = .properties
  · subst hh
    rcases ha with ⟨offer, typed, answers⟩ | raises
    · refine .inl ⟨offer, typed, fun v hv => ?_⟩
      rw [stocked₂.ask_properties hcontent hv]
      exact answers _
    · refine .inr fun v hv => ?_
      rw [stocked₂.ask_properties hcontent hv]
      exact raises _
  · exact .inl ⟨_, stocked₂.yields_of_ne hcontent hh (.list [])⟩

/-- The store after a descriptor was made for the shop, and after it was frozen so many times. -/
def afterFreezing (a : Answer) : Nat → World
  | 0 => left (EStateM.run
    (forApplicationClass Dispatch.library ClassId.descriptor (.cls shopApp)) (shopStore a))
  | n + 1 => left (EStateM.run (Action.freeze Dispatch.library ⟨0⟩) (afterFreezing a n))

theorem made_shop (a : Answer) :
    EStateM.run (forApplicationClass Dispatch.library ClassId.descriptor (.cls shopApp))
      (shopStore a) = .ok ⟨0⟩ (afterFreezing a 0) := rfl

theorem reached_afterFreezing (a : Answer) (n : Nat) :
    (afterFreezing a 0).Reached Dispatch.library shopApp ⟨0⟩ (afterFreezing a n) := by
  induction n with
  | zero => exact .start
  | succ n ih => exact .step ih .freeze

theorem stocked_afterFreezing (a : Answer) : Stocked a (afterFreezing a 0) :=
  ⟨rfl, rfl, rfl, rfl⟩

/-- An answer that fails. -/
def noSettings : Answer := .fail ⟨"RuntimeError", "no settings"⟩

/-- **A descriptor may be frozen that did not absorb its application**: the first freeze fails when
    the application is asked for its properties, and the second one comes to an end. -/
theorem frozen_not_complete :
    (afterFreezing noSettings 0).Steady Dispatch.library shopApp ∧
      EStateM.run (Action.freeze Dispatch.library ⟨0⟩) (afterFreezing noSettings 0) =
        .error (.raised ⟨"RuntimeError", "no settings"⟩) (afterFreezing noSettings 1) ∧
      EStateM.run (Action.freeze Dispatch.library ⟨0⟩) (afterFreezing noSettings 1) =
        .ok ⟨⟩ (afterFreezing noSettings 2) ∧
      ((afterFreezing noSettings 2).descriptor ⟨0⟩).frozen = true ∧
      ¬ (afterFreezing noSettings 2).Complete Dispatch.library shopApp ⟨0⟩ := by
  refine ⟨(stocked_afterFreezing _).steady (.inr fun w => ⟨_, _, rfl⟩), rfl, rfl, rfl, ?_⟩
  rintro ⟨app, happ, -, hooks, -⟩
  obtain rfl : Ref.object ⟨0⟩ = app := Option.some.inj happ
  obtain ⟨offer, w', hask, -⟩ := hooks .properties
  exact nomatch (show EStateM.Result.error _ _ = .ok offer w' from hask)

/-- An answer with a mapping. -/
def euros : Answer := .mapping [(.text "currency", .text "EUR")] 0

/-- Where the shop answers, the first freeze makes the descriptor complete. -/
theorem complete_shop :
    (shopStore euros).Intact ∧ (∀ member, (shopStore euros).assigned? .none member = none) ∧
      (afterFreezing euros 0).Steady Dispatch.library shopApp ∧
      ((afterFreezing euros 1).descriptor ⟨0⟩).frozen = true ∧
      (afterFreezing euros 1).Complete Dispatch.library shopApp ⟨0⟩ := by
  have intact : (shopStore euros).Intact := ⟨rfl, rfl, rfl⟩
  have bare : ∀ member, (shopStore euros).assigned? .none member = none := fun _ => rfl
  have steady := (stocked_afterFreezing euros).steady
    (.inl ⟨.entries [(.text "currency", .text "EUR")] 0, ⟨_, rfl, by decide⟩, fun w => ⟨_, rfl⟩⟩)
  obtain ⟨app, happ, complete⟩ := Reached.frozen_complete_iff Dispatch.discreet_library intact bare
    (made_shop euros) steady (reached_afterFreezing euros 1) rfl
  obtain rfl : Ref.object ⟨0⟩ = app := Option.some.inj happ
  refine ⟨intact, bare, steady, rfl, complete.2 ⟨⟨shopApp, rfl, List.mem_cons_self⟩, fun h => ?_⟩⟩
  cases h with
  | classes | singletons | properties => exact ⟨_, _, rfl⟩

end World

end AppMount
