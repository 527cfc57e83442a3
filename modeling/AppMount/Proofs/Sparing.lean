import AppMount.Proofs.Mounting
import AppMount.Proofs.Telling

/-!
# What descriptors are spared

A descriptor that is frozen may be renamed and is spared everything else; one that has an
application keeps it; and one that is being frozen by somebody is locked, so that nobody else
freezes it or gives it an application. No call of the library does otherwise, unless application
code does.

* `Descriptor.Renamed`, `Descriptor.Spared`, `World.Spares`: what is spared; `World.Lenient`:
  relations that allow what needs no freeze;
* `lenient_register`, `lenient_provide`, `lenient_setProperty`: filling by hand;
* `spares_freeze`: freezing a descriptor that is not locked;
* `stays_newNamed`, `stays_forApplication`, `stays_forApplicationClass`: new descriptors;
* `stays_apply`, `stays_create`, `stays_addApplication`: registrations;
* `lenient_validate`: the first pass of building a server.
-/

namespace AppMount

/-! ## 1. Descriptors -/

namespace Descriptor

/-- **A descriptor under another name**, with the same in all other fields. -/
structure Renamed (x y : Descriptor) : Prop where
  fields : y = { x with name := y.name, standIns := y.standIns }
  standIns : ∀ field, field ≠ "name" → y.standIns.at? field = x.standIns.at? field

theorem Renamed.refl (x : Descriptor) : x.Renamed x :=
  ⟨rfl, fun _ _ => rfl⟩

theorem Renamed.trans {x y z : Descriptor} (h : x.Renamed y) (h' : y.Renamed z) : x.Renamed z := by
  refine ⟨?_, fun field hf => (h'.standIns field hf).trans (h.standIns field hf)⟩
  rw [h'.fields, h.fields]

theorem Renamed.frozen {x y : Descriptor} (h : x.Renamed y) : y.frozen = x.frozen := by
  rw [h.fields]

theorem Renamed.application {x y : Descriptor} (h : x.Renamed y) :
    y.application = x.application := by
  rw [h.fields]

theorem Renamed.applicationClass {x y : Descriptor} (h : x.Renamed y) :
    y.applicationClass = x.applicationClass := by
  rw [h.fields]

theorem Renamed.given {x y : Descriptor} (h : x.Renamed y) : y.given = x.given := by
  rw [h.fields]

/-- **Assigning the name changes only the name.** -/
theorem renamed_assigned (value : Datum) (place : Nat) (x : Descriptor) :
    x.Renamed (x.assigned "name" value place) := by
  refine ⟨rfl, fun field hf => ?_⟩
  exact StandIns.at?_supply_of_ne x.standIns (Ne.symm hf)

/-- **What becomes of a descriptor that is spared**: a frozen one stays as it is, unless it may be
    renamed; one that has an application keeps it, and any other one is made one at most; every one
    keeps its application class; and a locked one neither freezes nor gets an application. -/
structure Spared (named locked : Prop) (x y : Descriptor) : Prop where
  frozen : x.frozen = true → x.Renamed y ∧ (¬ named → y = x)
  application : ∀ app, x.application = some app → y.application = some app
  given : y.given = x.given ++ if x.application.isSome then [] else y.application.toList
  applicationClass : y.applicationClass = x.applicationClass
  locked : locked → y.frozen = x.frozen ∧ y.application = x.application

variable {named locked : Prop} {x y z : Descriptor}

/-- Where the application is the same and none was made, none is recorded. -/
theorem given_of_same (given : y.given = x.given) (application : y.application = x.application) :
    y.given = x.given ++ if x.application.isSome then [] else y.application.toList := by
  rw [given, application]
  cases x.application <;> simp

theorem Spared.refl (x : Descriptor) : x.Spared named locked x :=
  ⟨fun _ => ⟨.refl x, fun _ => rfl⟩, fun _ ha => ha, given_of_same rfl rfl, rfl,
    fun _ => ⟨rfl, rfl⟩⟩

theorem Renamed.spared (h : x.Renamed y) (hn : named) : x.Spared named locked y where
  frozen _ := ⟨h, fun h => absurd hn h⟩
  application _ ha := h.application.trans ha
  given := given_of_same h.given h.application
  applicationClass := h.applicationClass
  locked _ := ⟨h.frozen, h.application⟩

theorem Filled.spared (h : x.Filled y) (hx : x.frozen = false) : x.Spared named locked y where
  frozen hf := by simp [hx] at hf
  application _ ha := h.application.trans ha
  given := given_of_same h.given h.application
  applicationClass := h.applicationClass
  locked _ := ⟨h.frozen, h.application⟩

theorem Spared.trans (h : x.Spared named locked y) (h' : y.Spared named locked z) :
    x.Spared named locked z where
  frozen hf := by
    obtain ⟨renamed, same⟩ := h.frozen hf
    obtain ⟨renamed', same'⟩ := h'.frozen (renamed.frozen.trans hf)
    exact ⟨renamed.trans renamed', fun hn => (same' hn).trans (same hn)⟩
  application app ha := h'.application app (h.application app ha)
  given := by
    cases hx : x.application with
    | some app => simp [h'.given, h.given, hx, h.application app hx]
    | none =>
      cases hy : y.application with
      | none => simp [h'.given, h.given, hx, hy]
      | some app => simp [h'.given, h.given, hx, hy, h'.application app hy]
  applicationClass := h'.applicationClass.trans h.applicationClass
  locked hl := ⟨(h'.locked hl).1.trans (h.locked hl).1, (h'.locked hl).2.trans (h.locked hl).2⟩

/-- What has no application was made none, so that it may be made one. -/
theorem Once.standFor {app : Ref} (h : x.Once) (ha : x.application = none) :
    (x.standFor app).Once := by
  have none : x.given = [] := by
    refine h.resolve_right ?_
    rintro ⟨app', -, happ'⟩
    cases ha.symm.trans happ'
  by_cases happ : app = .none
  · exact .inl (by simp [Descriptor.standFor, none, happ])
  · exact .inr ⟨app, by simp [Descriptor.standFor, none, happ]⟩

end Descriptor

/-! ## 2. Stores -/

namespace World

variable {N L B : DescriptorId → Prop} {w w' w'' : World} {d : DescriptorId}

/-- **What is spared in a store**, where some descriptors may be renamed (`N`) and some are locked
    (`L`), but for those that may be set up (`B`). A new descriptor is made an application once at
    most, as well. -/
structure Spares (N L B : DescriptorId → Prop) (w w' : World) : Prop where
  stores : ∀ r, w.Stores r → w'.Stores r
  descriptor : ∀ d, w.HasDescriptor d → ¬ B d →
    (w.descriptor d).Spared (N d) (L d) (w'.descriptor d)
  once : ∀ d, (w.descriptor d).Once → (w'.descriptor d).Once

theorem Spares.refl (w : World) : Spares N L B w w :=
  ⟨fun _ hr => hr, fun _ _ _ => .refl _, fun _ h => h⟩

theorem Spares.has (h : Spares N L B w w') (hd : w.HasDescriptor d) : w'.HasDescriptor d :=
  h.stores (.descriptor d) hd

/-- Descriptors are spared by what happens elsewhere. -/
theorem Spares.elsewhere (h : w'.descriptors = w.descriptors)
    (hs : ∀ r, w.Stores r → w'.Stores r) : Spares N L B w w' := by
  have same (d : DescriptorId) : w'.descriptor d = w.descriptor d := by
    unfold World.descriptor
    rw [h]
  refine ⟨hs, fun d _ _ => ?_, fun d hd => ?_⟩
  · rw [same]
    exact .refl _
  · rwa [same]

/-- A change of a descriptor that spares it. -/
theorem Spares.change {f : Descriptor → Descriptor}
    (hf : ¬ B d → (w.descriptor d).Spared (N d) (L d) (f (w.descriptor d)))
    (once : (w.descriptor d).Once → (f (w.descriptor d)).Once) :
    Spares N L B w (w.changeDescriptor d f) := by
  refine ⟨fun r hr => ?_, fun e he hB => ?_, fun e he => ?_⟩
  · cases r with
    | descriptor e => exact (hasDescriptor_change ..).2 hr
    | object o => exact hr
    | none | cls | datum => trivial
  · by_cases hed : d = e
    · subst hed
      rw [descriptor_change_self he]
      exact hf hB
    · rw [descriptor_change_of_ne hed]
      exact .refl _
  · by_cases hed : d = e
    · subst hed
      by_cases hd : w.HasDescriptor d
      · rw [descriptor_change_self hd]
        exact once he
      · have gone : ¬ (w.changeDescriptor d f).HasDescriptor d := by rwa [hasDescriptor_change]
        rw [descriptor_of_not_has gone]
        exact .inl rfl
    · rwa [descriptor_change_of_ne hed]

/-- A descriptor that is set up is made no application. -/
theorem once_of_setUp {rep : Ref → Ref} {f : Descriptor → Descriptor}
    (hf : Descriptor.SetUp rep f) {x : Descriptor} (h : x.Once) : (f x).Once := by
  cases hf with
  | initialized => exact .inl rfl
  | provider | property | frozen => exact h.congr rfl rfl
  | component r =>
    show (x.addComponent rep r).Once
    unfold Descriptor.addComponent
    split <;> exact h.congr rfl rfl

instance : Malleable (Spares N L) where
  refl := Spares.refl
  trans h h' hB := by
    refine ⟨fun r hr => h'.stores r (h.stores r hr), fun d hd hn => ?_,
      fun d hd => h'.once d (h.once d hd)⟩
    refine (h.descriptor d hd hn).trans (h'.descriptor d (h.has hd) fun hd' => ?_)
    exact (hB d hd').elim hn fun hw => hw hd
  step h := by
    refine ⟨fun r => h.keeps.stores, fun d hd hn => ?_, fun d hd => ?_⟩
    · rw [h.keeps.descriptor d hd hn fun hc => hc]
      exact .refl _
    · exact h.reaches.invariant (P := Descriptor.Once) (fun _ => .inl rfl)
        (fun _ _ _ hf hx => once_of_setUp hf hx) id hd
  stores h := h.stores _
  notes _ _ := .elsewhere rfl fun _ hr => hr
  change _ _ hd _ once := .change (fun hB => absurd hd hB) (once _)

/-- **A relation that also allows any descriptor to be filled** as long as it is not frozen, and
    whatever leaves classes and descriptors alone. -/
class Lenient (R : (DescriptorId → Prop) → World → World → Prop) : Prop extends Malleable R where
  elsewhere {B : DescriptorId → Prop} {w w' : World} (rule : w'.rule = w.rule)
    (classes : w'.classes = w.classes) (descriptors : w'.descriptors = w.descriptors)
    (stores : ∀ r, w.Stores r → w'.Stores r) : R B w w'
  filled {B : DescriptorId → Prop} {d : DescriptorId} {w : World} {f : Descriptor → Descriptor}
    (hf : ∀ x, Descriptor.Filled x (f x)) (hd : (w.descriptor d).frozen = false) :
    R B w (w.changeDescriptor d f)

instance : Lenient (Spares N L) where
  elsewhere _ _ h hs := .elsewhere h hs
  filled hf hd := .change (fun _ => (hf _).spared hd) fun h =>
    h.congr (hf _).given (hf _).application

/-- A descriptor that may be renamed is. -/
theorem Spares.rename (hd : N d) (value : Datum) (place : Nat) (w : World) :
    Spares N L B w (w.changeDescriptor d (·.assigned "name" value place)) :=
  .change (fun _ => (Descriptor.renamed_assigned value place _).spared hd) fun h =>
    h.congr rfl rfl

/-- Where more is locked, more is spared. -/
theorem Spares.unlock {L' : DescriptorId → Prop} (h : Spares N L B w w') (hL : ∀ d, L' d → L d) :
    Spares N L' B w w' := by
  refine ⟨h.stores, fun d hd hB => ?_, h.once⟩
  have spared := h.descriptor d hd hB
  exact ⟨spared.frozen, spared.application, spared.given, spared.applicationClass,
    fun hl => spared.locked (hL d hl)⟩

end World

theorem Dispatch.Respects.unlock {ρ : Dispatch} {L L' : DescriptorId → Prop}
    (h : ρ.Respects (World.Spares N L)) (hL : ∀ d, L' d → L d) : ρ.Respects (World.Spares N L') :=
  ⟨h.library, fun answer w => (h.run answer w).unlock hL⟩

namespace Action

open World (Spares nobody Frame Malleable Lenient)

variable {ρ : Dispatch} {N L B : DescriptorId → Prop} {w w' w'' : World} {d : DescriptorId}

/-! ## 3. Filling by hand -/

theorem filled_addComponent (rep : Ref → Ref) (component : Ref) (x : Descriptor) :
    x.Filled (x.addComponent rep component) := by
  unfold Descriptor.addComponent
  split <;> exact ⟨_, _, _, _, rfl⟩

section Filling

variable {R : (DescriptorId → Prop) → World → World → Prop} [Lenient R]

/-- What comes after the check is only done to a descriptor that is not frozen. -/
theorem lenient_changeable (hρ : ρ.replaces = false) {x : Action Unit}
    (hx : ∀ w, (w.descriptor d).frozen = false → R B w (left (EStateM.run x w))) :
    Stays R B (checkChangeable ρ d >>= fun _ => x) := by
  intro w
  cases hf : (w.descriptor d).frozen with
  | true =>
    rw [run_bind_of_error (checkChangeable_of_frozen hρ hf)]
    exact Frame.refl w
  | false =>
    rw [run_bind_of_ok (checkChangeable_of_not_frozen hρ hf)]
    exact hx w hf

theorem lenient_register (hρ : ρ.replaces = false) (d : DescriptorId) (component : Ref) :
    Stays R B (register ρ d component) := by
  unfold register checkClasses checkSingletons
  simp only [standIn_of_library hρ, checkAccess_of_library hρ, pure_bind, ite_self]
  exact lenient_changeable hρ fun w => Lenient.filled (filled_addComponent w.like component)

theorem lenient_provide (hρ : ρ.replaces = false) (d : DescriptorId) (service factory : Ref) :
    Stays R B (provide ρ d service factory) := by
  unfold provide checkKeyed
  simp only [standIn_of_library hρ, pure_bind, hρ, Bool.false_eq_true, if_false]
  refine lenient_changeable hρ fun w hd => ?_
  refine (reads_codeOf hρ service).left_bind (P := R B w) (Frame.refl w) fun _ => ?_
  exact Lenient.filled (fun _ => ⟨_, _, _, _, rfl⟩) hd

theorem lenient_setProperty (hρ : ρ.replaces = false) (d : DescriptorId) (name value : Datum) :
    Stays R B (setProperty ρ d name value) := by
  unfold setProperty checkKeyed
  simp only [standIn_of_library hρ, pure_bind]
  refine lenient_changeable hρ fun w hd => ?_
  split
  · exact Lenient.filled (fun _ => ⟨_, _, _, _, rfl⟩) hd
  · exact Frame.refl w

end Filling

/-! ## 4. Freezing -/

/-- **What happens while a descriptor is being frozen**: as long as it is not, all are spared, and
    it is not frozen afterwards. -/
def WhileFreezing (N L : DescriptorId → Prop) (d : DescriptorId) (w w' : World) : Prop :=
  w.HasDescriptor d → (w.descriptor d).frozen = false →
    Spares N L nobody w w' ∧ (w'.descriptor d).frozen = false

theorem whileFreezing_refl (w : World) : WhileFreezing N L d w w :=
  fun _ hf => ⟨.refl w, hf⟩

theorem whileFreezing_trans (h : WhileFreezing N L d w w') (h' : WhileFreezing N L d w' w'') :
    WhileFreezing N L d w w'' := by
  intro hd hf
  obtain ⟨spares, hf'⟩ := h hd hf
  obtain ⟨spares', hf''⟩ := h' (spares.has hd) hf'
  exact ⟨Frame.trans spares spares' fun _ => .inl, hf''⟩

/-- The descriptor is locked for the code that runs meanwhile. -/
theorem whileFreezing_of_locked (h : Spares N (fun e => L e ∨ e = d) nobody w w') :
    WhileFreezing N L d w w' :=
  fun hd hf => ⟨h.unlock fun _ => .inl, ((h.descriptor d hd id).locked (.inr rfl)).1.trans hf⟩

theorem whileFreezing_filled {f : Descriptor → Descriptor} (hf : ∀ x, Descriptor.Filled x (f x)) :
    WhileFreezing N L d w (w.changeDescriptor d f) := by
  intro hd hfr
  refine ⟨Lenient.filled hf hfr, ?_⟩
  rw [World.descriptor_change_self hd, (hf _).frozen, hfr]

theorem whileFreezing_absorb (hρ : ρ.Respects (Spares N fun e => L e ∨ e = d)) (app : Ref) :
    Within (WhileFreezing N L d) (absorb ρ d app) :=
  within_absorb hρ.library whileFreezing_refl whileFreezing_trans
    (fun h w => whileFreezing_of_locked (stays_ask hρ app h w)) fun _ _ => whileFreezing_filled

/-- Marking a descriptor spares all that are locked, if it is not one of them. -/
theorem spares_marked (hL : ¬ L d) (hf : (w.descriptor d).frozen = false) :
    Spares N L nobody w (w.changeDescriptor d Descriptor.marked) :=
  .change (fun _ =>
    { frozen := fun h => by simp [hf] at h
      application := fun _ h => h
      given := Descriptor.given_of_same rfl rfl
      applicationClass := rfl
      locked := fun h => absurd h hL }) fun h => h.congr rfl rfl

/-- What comes once a descriptor has its application spares all: absorbing that, and marking. -/
theorem spares_absorb_marked (hρ : ρ.Respects (Spares N fun e => L e ∨ e = d)) (hL : ¬ L d)
    (app : Ref) (hd : w.HasDescriptor d) (hf : (w.descriptor d).frozen = false) :
    Spares N L nobody w
      (left (EStateM.run (absorb ρ d app >>= fun _ => markFrozen ρ d) w)) := by
  have absorbed : WhileFreezing N L d w _ := whileFreezing_absorb hρ app w
  obtain ⟨spares, hf'⟩ := absorbed hd hf
  cases habsorb : EStateM.run (absorb ρ d app) w with
  | error fault w' =>
    rw [habsorb] at spares
    rwa [run_bind_of_error habsorb]
  | ok _ w' =>
    rw [habsorb] at spares hf'
    rw [run_bind_of_ok habsorb, run_markFrozen_of_library hρ.library]
    exact Frame.trans spares (spares_marked hL hf') fun _ => .inl

/-- **Freezing a descriptor that nobody has locked** spares all. -/
theorem spares_freeze (hρ : ρ.Respects (Spares N fun e => L e ∨ e = d)) (hL : ¬ L d)
    (hd : w.HasDescriptor d) : Spares N L nobody w (left (EStateM.run (freeze ρ d) w)) := by
  rcases frozen_or_settled_or_pending (w.descriptor d) with hf | ⟨hf, hs⟩ | ⟨hf, ha, c, hc⟩
  · rw [freeze_of_frozen hρ.library hf]
    exact .refl w
  · rw [freeze_of_settled hρ.library hf hs]
    exact spares_marked hL hf
  · rw [freeze_of_pending hρ.library hf hc ha]
    have made := stays_instantiate hρ c w
    cases hmake : EStateM.run (instantiate ρ c) w with
    | error fault w₁ =>
      rw [hmake] at made
      rw [run_bind_of_error hmake]
      exact made.unlock fun _ => .inl
    | ok app w₁ =>
      rw [hmake, left_ok] at made
      have hd₁ : w₁.HasDescriptor d := made.has hd
      obtain ⟨same, none⟩ := (made.descriptor d hd id).locked (.inr rfl)
      -- Nobody else can have given it an application, so that it takes this one.
      have stands : Spares N L nobody w₁ (w₁.changeDescriptor d (·.standFor app)) :=
        .change (fun _ =>
          { frozen := fun h => by simp [same, hf] at h
            application := fun _ h => by simp [none, ha] at h
            given := by simp [none, ha, Descriptor.standFor]
            applicationClass := rfl
            locked := fun h => absurd h hL }) fun h => h.standFor (none.trans ha)
      have rest := spares_absorb_marked hρ hL app (stands.has hd₁) (by
        rw [World.descriptor_change_self hd₁]
        exact same.trans hf)
      rw [run_bind_of_ok hmake, run_bind_of_ok (EStateM.run_modify _ w₁)]
      exact Frame.trans (Frame.trans (made.unlock fun _ => .inl) stands fun _ => .inl) rest
        fun _ => .inl

/-! ## 5. New descriptors -/

section New

variable {R : (DescriptorId → Prop) → World → World → Prop}

section

variable [Frame R]

theorem stays_newNamed (hρ : ρ.Respects R) (factory : ClassId) (name : Datum) (field : String) :
    Stays R nobody (newNamed ρ factory name field) := by
  refine (stays_construct hρ factory rfl).bind fun made => ?_
  split
  · exact .pure _
  · exact Reads.get.stays.bind fun _ => .throw _

/-- **A descriptor that is made with a name is new.** -/
theorem fresh_of_newNamed (hρ : ρ.Respects R) {factory : ClassId} {name : Datum} {field : String}
    (h : EStateM.run (newNamed ρ factory name field) w = .ok d w') : ¬ w.HasDescriptor d := by
  obtain ⟨r, w₁, hmake, h⟩ := run_bind_eq_ok_iff.1 h
  obtain ⟨-, fresh⟩ := (makes_construct hρ factory rfl).new hmake
  split at h
  · cases h
    exact fresh d rfl
  · cases h

/-- What is done to a descriptor that was made with a name touches no other one. -/
theorem stays_newNamed_bind {α : Type} (hρ : ρ.Respects R) {factory : ClassId}
    {name : Datum} {field : String} {f : DescriptorId → Action α}
    (hf : ∀ d, Stays R (· = d) (f d)) : Stays R nobody (newNamed ρ factory name field >>= f) := by
  intro w
  have made := stays_newNamed hρ factory name field w
  cases h : EStateM.run (newNamed ρ factory name field) w with
  | error fault w₁ =>
    rw [h] at made
    rwa [run_bind_of_error h]
  | ok d w₁ =>
    rw [h] at made
    rw [run_bind_of_ok h]
    refine Frame.trans made (hf d w₁) fun e he => .inr ?_
    rw [he]
    exact fresh_of_newNamed hρ h

theorem stays_adaptBy (hρ : ρ.replaces = false) (factory : ClassId) (method : String)
    {own : Action DescriptorId} (h : Stays R nobody own) :
    Stays R nobody (adaptBy ρ factory method own) := by
  unfold adaptBy
  rw [if_neg (by simp [hρ])]
  exact h.bind fun _ => .pure _

end

variable [Malleable R]

theorem stays_change (d : DescriptorId) {f : Descriptor → Descriptor}
    (hf : ∀ x, (f x).cls = x.cls) (once : ∀ x, x.Once → (f x).Once) :
    Stays R (· = d) (modify (·.changeDescriptor d f)) :=
  Within.modify fun w => Malleable.change w rfl hf once

theorem stays_absorb (hρ : ρ.Respects R) (d : DescriptorId) (app : Ref) :
    Stays R (· = d) (absorb ρ d app) :=
  within_absorb hρ.library Frame.refl (fun h h' => Frame.trans h h' fun _ => .inl)
    (fun h => (stays_ask hρ app h).of_nobody) fun w _ hf =>
      stays_change d (fun x => (hf x).cls) (fun x h => h.congr (hf x).given (hf x).application) w

theorem stays_forApplication (hρ : ρ.Respects R) (factory : ClassId) (app : Ref) :
    Stays R nobody (forApplication ρ factory app) := by
  refine fun w => Stays.left_discarding ?_
  rw [run_bind_of_ok (EStateM.run_get w)]
  refine stays_newNamed_bind hρ (fun d => ?_) w
  unfold absorbInto
  rw [claim_of_library hρ.library, pure_bind, orReplaced_of_library hρ.library]
  have stands : Stays R (· = d) (modify (·.changeDescriptor d (·.adopt app))) :=
    stays_change d (fun _ => rfl) fun _ _ => .inl rfl
  refine stands.bind fun _ => ?_
  simp only [bind_assoc, pure_bind]
  exact (stays_absorb hρ d app).bind fun _ => .pure _

theorem stays_forApplicationClass (hρ : ρ.Respects R) (factory : ClassId) (app : Ref) :
    Stays R nobody (forApplicationClass ρ factory app) := by
  have stands (name : Datum) {f : Descriptor → Descriptor} (hf : ∀ x, (f x).cls = x.cls)
      (once : ∀ x, x.Once → (f x).Once) :
      Stays R nobody (do
        let d ← newNamed ρ factory name "_application_class"
        claim ρ d "_application_class"
        modify (·.changeDescriptor d f)
        pure d) := by
    refine stays_newNamed_bind hρ fun d => ?_
    rw [claim_of_library hρ.library, pure_bind]
    have stands : Stays R (· = d) (modify (·.changeDescriptor d f)) := stays_change d hf once
    exact stands.bind fun _ => .pure _
  refine fun w => Stays.left_discarding ?_
  split
  · refine Reads.get.stays.bind (fun w => ?_) w
    exact stands _ (fun _ => rfl) fun _ h => h.congr rfl rfl
  · refine (reads_qualnameOf ρ _).stays.bind (fun name => ?_) w
    exact stands name (fun _ => rfl) fun _ h => h.congr rfl rfl

end New

end Action

/-! ## 6. Registrations -/

section Registrations

open AppMount.Action
open World (nobody Malleable)

variable {ρ : Dispatch} {R : (DescriptorId → Prop) → World → World → Prop} [Malleable R]

theorem stays_application (hρ : ρ.Respects R) (b : RegistrationBuilder) (app : Ref) :
    Stays R nobody (b.application ρ app) := by
  unfold RegistrationBuilder.application
  split
  · exact Reads.get.stays.bind fun _ => .pure _
  · refine (reads_checkAccess ρ _).stays.bind fun _ => ?_
    refine (stays_adaptBy hρ.library _ _ (stays_forApplication hρ _ _)).bind fun _ => ?_
    exact Reads.get.stays.bind fun _ => .pure _

theorem stays_applicationClass (hρ : ρ.Respects R) (b : RegistrationBuilder)
    (app : Ref) : Stays R nobody (b.applicationClass ρ app) := by
  unfold RegistrationBuilder.applicationClass
  refine (stays_adaptBy hρ.library _ _ (stays_forApplicationClass hρ _ _)).bind fun _ => ?_
  refine (RegistrationBuilder.reads_speakerOf ρ app).attempt.stays.bind fun spoken => ?_
  split <;> exact .pure _

theorem stays_apply (hρ : ρ.Respects R) (b : RegistrationBuilder)
    (setter : RegistrationBuilder.Setter) : Stays R nobody (setter.apply ρ b) := by
  cases setter with
  | contextRoot | routingName | config | executor => exact .pure _
  | application app => exact stays_application hρ b app
  | applicationClass app => exact stays_applicationClass hρ b app

theorem stays_supply (hρ : ρ.Respects R) (b : RegistrationBuilder) (app : Ref) :
    Stays R nobody (b.supply ρ app) := by
  unfold RegistrationBuilder.supply
  split
  · exact stays_applicationClass hρ b app
  · exact stays_application hρ b app

theorem reads_finished (b : RegistrationBuilder × Option Fault) : Reads (finished b) := by
  obtain ⟨b, fault⟩ := b
  cases fault with
  | none => exact .pure _
  | some fault => exact .throw _

/-- What is supplied by an application is completed in some way that needs no store. -/
theorem stays_supplied (hρ : ρ.Respects R) (app : Ref)
    (complete : RegistrationBuilder → Except Fault Registration) :
    Stays R nobody (do
      checkAccess ρ app
      let b ← finished (← RegistrationBuilder.supply ρ {} app)
      Action.ofExcept (complete b)) := by
  refine (reads_checkAccess ρ _).stays.bind fun _ => ?_
  refine (stays_supply hρ _ app).bind fun supplied => ?_
  exact (reads_finished supplied).stays.bind fun _ => (Reads.ofExcept _).stays

theorem stays_create (hρ : ρ.Respects R) (app : Ref) :
    Stays R nobody (Registration.create ρ app) :=
  stays_supplied hρ app (·.build)

theorem stays_ofAdded (hρ : ρ.Respects R) (app : Ref) (contextRoot : Datum) :
    Stays R nobody (Registration.ofAdded ρ app contextRoot) :=
  stays_supplied hρ app fun b =>
    (if contextRoot = .null then b else b.withContextRoot contextRoot).build

theorem stays_addApplication (hρ : ρ.Respects R) (b : ServerBuilder) (app : Ref)
    (contextRoot : Datum) : Stays R nobody (b.addApplication ρ app contextRoot) := by
  rw [ServerBuilder.addApplication_eq]
  refine (stays_ofAdded hρ app contextRoot).bind fun r => Reads.get.stays.bind fun w => ?_
  split
  · exact .throw _
  · exact .pure _

end Registrations

/-! ## 7. Validation -/

section Validating

open AppMount.Action
open World (nobody Frame Lenient)

variable {ρ : Dispatch} {w : World} {R : (DescriptorId → Prop) → World → World → Prop}
  [Lenient R]

theorem stores_setContent (w : World) (o : ObjectId) (x : Content) {r : Ref} (hr : w.Stores r) :
    (w.setContent o x).Stores r := by
  cases r with
  | none | cls | datum => trivial
  | descriptor d => exact hr
  | object o' =>
    obtain ⟨t, ht⟩ := hr
    have found : w.things[o'.index]? = some t := ht
    simp only [World.Stores, World.thing?, World.setContent, Array.getElem?_modify, found]
    split <;> exact ⟨_, rfl⟩

/-- A thing that hands out its elements one by one has none left afterwards. -/
theorem lenient_yielded (r : Ref) (x : Collection) : Stays R nobody (yielded r x) := by
  unfold yielded
  split
  · exact .pure _
  · exact .pure _
  · exact .pure _
  · split
    · refine Stays.bind (Within.modify fun w => ?_) fun _ => .pure _
      exact Lenient.elsewhere rfl rfl rfl fun _ => stores_setContent w _ _
    · exact .pure _

theorem lenient_elementsOf (hρ : ρ.replaces = false) (r : Ref) :
    Stays R nobody (elementsOf ρ r) := by
  unfold elementsOf ownElements
  simp only [special_of_library hρ, hρ, Bool.false_and, Bool.false_eq_true, if_false, pure_bind]
  refine Reads.get.stays.bind fun _ => Reads.get.stays.bind fun _ =>
    Reads.get.stays.bind fun _ => ?_
  split
  · exact .pure _
  · exact lenient_yielded _ _
  · refine (Reads.pure _).attempt.stays.bind fun read => ?_
    split
    · exact .pure _
    · exact Reads.get.stays.bind fun _ => .throw _

theorem reads_finish {α : Type} (read : Reading α) : Reads (finish read) := by
  intro w
  rw [run_finish]
  split <;> rfl

theorem reads_orderedDatum (r : Ref) : Reads (orderedDatum r) := by
  unfold orderedDatum
  split
  · exact .pure _
  · exact Reads.get.bind fun _ => .throw _

theorem lenient_foreignNames (hρ : ρ.replaces = false) (r : Ref) :
    Stays R nobody (foreignNames ρ r) := by
  refine (reads_access ρ r _).stays.bind fun found => ?_
  split
  · refine (lenient_elementsOf hρ _).bind fun read => ?_
    refine (reads_finish read).stays.bind fun _ => ?_
    exact (Reads.mapM reads_orderedDatum).stays.bind fun _ => (Reads.ofExcept _).stays
  · exact Reads.get.stays.bind fun _ => .throw _

theorem lenient_listenerNames (hρ : ρ.replaces = false) (setting : Setting) :
    Stays R nobody (listenerNames ρ setting) := by
  unfold listenerNames
  split
  · exact .pure _
  · refine Reads.get.stays.bind fun w => ?_
    split
    · exact Reads.get.stays.bind fun _ => (Reads.ofExcept _).stays
    · exact (lenient_foreignNames hρ _).bind fun _ => (Reads.ofExcept _).stays

theorem lenient_route (hρ : ρ.Respects R) (setting : Setting) (name : Datum)
    (required : Bool) : Stays R nobody (route ρ setting name required) := by
  have has (r : Ref) : Stays R nobody (hasListener ρ r name) := by
    refine Reads.get.stays.bind fun w => ?_
    split
    · exact (Reads.ofExcept _).stays.bind fun _ => .pure _
    · refine (stays_callOther hρ _ _ _).bind fun offer => ?_
      split <;> exact .pure _
  unfold route routeUnder
  split
  · exact .pure _
  · split
    · exact .pure _
    · exact (has _).bind fun _ => .pure _

theorem reads_labelOf (hρ : ρ.replaces = false) (r : Registration) : Reads (labelOf ρ r) :=
  ServerBuilder.within_labelOf hρ (fun _ => rfl) r

theorem lenient_logged (entry : LogEntry) : Stays R nobody (logged entry) :=
  Within.modify fun _ => Lenient.elsewhere rfl rfl rfl fun _ hr => hr

theorem lenient_resolveListener (hρ : ρ.Respects R) (setting : Setting)
    (r : Registration) : Stays R nobody (resolveListener ρ setting r) := by
  refine (lenient_route hρ setting _ _).bind fun routing => ?_
  split
  · exact .pure _
  · refine (reads_labelOf hρ.library r).stays.bind fun _ => ?_
    exact (lenient_logged _).bind fun _ => .pure _
  · refine (reads_labelOf hρ.library r).stays.bind fun _ => ?_
    exact (lenient_listenerNames hρ.library setting).bind fun _ => .throw _

theorem reads_checkField (b : ServerBuilder) (field : String) : Reads (b.checkField field) := by
  unfold ServerBuilder.checkField
  split
  · exact .throw _
  · exact .pure _

theorem reads_placeOf (listener : Datum) (r : Registration) :
    Reads (ServerBuilder.placeOf listener r) := by
  unfold ServerBuilder.placeOf
  split
  · exact .throw _
  · exact .pure _

/-- A call of a method of descriptors runs application code at most, unless it is on one. -/
theorem lenient_callMethod (hρ : ρ.Respects R) (r : Ref) (method : String) (given : Nat)
    (lastParameter : String) {own : DescriptorId → Action Unit}
    (h : ∀ d, r = .descriptor d → R nobody w (left (EStateM.run (own d) w))) :
    R nobody w
      (left (EStateM.run (callMethod ρ r method given lastParameter own) w)) := by
  unfold callMethod
  rw [if_neg (by simp [hρ.library])]
  split
  · rename_i d
    rw [left_bind_pure]
    exact h d rfl
  · exact ((stays_callOther hρ _ _ _).bind fun _ => .pure _) w

theorem reads_checkConstructible (hρ : ρ.replaces = false) (d : DescriptorId) :
    Reads (checkConstructible ρ d) := by
  intro w
  rw [run_checkConstructible_of_library hρ]
  split <;> rfl

/-- What comes after a check that is made in some cases. -/
theorem stays_afterCheck {α : Type} {R : (DescriptorId → Prop) → World → World → Prop} [Frame R]
    {B : DescriptorId → Prop} {c : Prop} [Decidable c] {check : Action Unit} {x : Action α}
    (hcheck : Reads check) (hx : Stays R B x) :
    Stays R B (if c then check >>= fun _ => x else x) :=
  Within.ite (hcheck.stays.bind fun _ => hx) hx

/-- **The first pass does nothing to descriptors.** -/
theorem lenient_validate (hρ : ρ.Respects R) (b : ServerBuilder)
    (taken : List (ServerBuilder.Place × String)) (registrations : List Registration) :
    Stays R nobody (b.validate ρ taken registrations) := by
  induction registrations generalizing taken with
  | nil => exact .pure _
  | cons r rest ih =>
    rw [ServerBuilder.validate]
    refine stays_afterCheck (reads_checkField b _) ?_
    refine (lenient_resolveListener hρ b.setting r).bind fun listener => ?_
    refine (reads_labelOf hρ.library r).stays.bind fun label => ?_
    refine (reads_placeOf listener r).stays.bind fun place => ?_
    split
    · exact .throw _
    · refine Stays.bind (fun w => lenient_callMethod hρ _ _ _ _ fun d _ => ?_) fun _ => ?_
      · exact (reads_checkConstructible hρ.library d).stays w
      · exact (ih _).bind fun _ => .pure _

end Validating

end AppMount
