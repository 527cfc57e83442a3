import AppMount.Proofs.ApplicationCode

/-!
# Freezing

What freezing a descriptor comes to when the library is by itself. A frozen descriptor is left as it
is; one that has nothing to wait for is only marked; one that waits for the application of its class
is given the application, absorbs it, and is marked then. What fails on the way leaves the
descriptor with all that it was given before.

* `World.parameterFault?`, `World.constructionFault?`: what the checks before construction refuse
  (`run_checkParameters_of_library`, `run_checkConstructible_of_library`);
* `Descriptor.marked`; `freeze_of_settled`, `freeze_of_pending`: the two ways to freeze;
* `Action.taking`: one stage of absorbing (`absorbClasses_of_library` and its companions);
  `run_taking_eq_ok_iff`, `run_taking_eq_error_iff`: how a stage ends;
* `Descriptor.Filled`, `within_absorb`: what asking and filling keep, absorbing keeps;
  `fills_absorb`: it changes nothing else of a descriptor;
* `heeds_freeze`: freezing changes one descriptor; `frozen_of_freeze`: it ends with a frozen one;
* `freeze_error`, `left_of_freeze_error`: a freeze that fails was to make an application; what it
  leaves; `left_of_freeze_ok`: what one leaves that made an application; `backing_of_freeze`: what
  none changes.
-/

namespace AppMount

/-! ## 1. The checks before construction -/

namespace World

/-- **What the parameters of an application class are refused for**, if they are. -/
def parameterFault? (w : World) (c : ClassId) : Option Fault :=
  match w.shown c with
  | .nothing => some (.noSignature ("type " ++ (w.classDef c).describe))
  | .uncallable d => some (.unconstructible (w.classDef c).qualname (.uncallable d.describe))
  | .parameters params =>
    (firstRequired? params).map fun p => .unconstructible (w.classDef c).qualname (.missing p.name)

/-- Under one rule, stores with the same classes show the same. -/
theorem shown_of_classes {w w' : World} (rule : w'.rule = w.rule) (h : w'.classes = w.classes)
    (c : ClassId) : w'.shown c = w.shown c := by
  unfold shown deciding? constructorsOf member? nearest lineage classDef
  rw [rule, h]

/-- Under one rule, stores with the same classes refuse the same. -/
theorem parameterFault?_of_classes {w w' : World} (rule : w'.rule = w.rule)
    (h : w'.classes = w.classes) (c : ClassId) : w'.parameterFault? c = w.parameterFault? c := by
  unfold parameterFault?
  rw [shown_of_classes rule h, classDef, classDef, h]

/-- **What a descriptor is refused for before it is frozen**, if it is. -/
def constructionFault? (w : World) (d : DescriptorId) : Option Fault :=
  if (w.descriptor d).frozen then none
  else (w.descriptor d).applicationClass.bind w.parameterFault?

theorem constructionFault?_of_backed {w : World} {d : DescriptorId} {c : ClassId}
    (unfrozen : (w.descriptor d).frozen = false)
    (backed : (w.descriptor d).applicationClass = some c) :
    w.constructionFault? d = w.parameterFault? c := by
  unfold constructionFault?
  rw [unfrozen, backed, if_neg Bool.false_ne_true, Option.bind_some]

end World

namespace Action

variable {ρ : Dispatch} {w w' : World} {c : ClassId} {d : DescriptorId} {fault : Fault}

theorem run_checkParameters_of_library (hρ : ρ.replaces = false) (c : ClassId) (w : World) :
    EStateM.run (checkParameters ρ c) w =
      match w.parameterFault? c with
      | some fault => .error fault w
      | none => .ok ⟨⟩ w := by
  unfold checkParameters World.parameterFault?
  rw [if_neg (by simp [hρ]), pure_bind, run_bind_of_ok (EStateM.run_get w)]
  dsimp only
  cases w.shown c with
  | nothing => rfl
  | uncallable d => rfl
  | parameters params =>
    dsimp only [checkExpected]
    cases firstRequired? params with
    | some p => rfl
    | none => rfl

theorem run_checkParameters_eq_ok_iff (hρ : ρ.replaces = false) :
    EStateM.run (checkParameters ρ c) w = .ok ⟨⟩ w' ↔ w.parameterFault? c = none ∧ w = w' := by
  rw [run_checkParameters_of_library hρ]
  cases w.parameterFault? c <;> simp

theorem run_checkParameters_eq_error_iff (hρ : ρ.replaces = false) :
    EStateM.run (checkParameters ρ c) w = .error fault w' ↔
      w.parameterFault? c = some fault ∧ w = w' := by
  rw [run_checkParameters_of_library hρ]
  cases w.parameterFault? c <;> simp

theorem reads_checkParameters (hρ : ρ.replaces = false) (c : ClassId) :
    Reads (checkParameters ρ c) := by
  intro w
  rw [run_checkParameters_of_library hρ]
  split <;> rfl

/-- **The check of a descriptor** refuses what it is refused for, and changes nothing. -/
theorem run_checkConstructible_of_library (hρ : ρ.replaces = false) (d : DescriptorId)
    (w : World) :
    EStateM.run (checkConstructible ρ d) w =
      match w.constructionFault? d with
      | some fault => .error fault w
      | none => .ok ⟨⟩ w := by
  unfold checkConstructible World.constructionFault?
  rw [run_bind_of_ok (run_isFrozen_of_library hρ d w)]
  cases (w.descriptor d).frozen with
  | true => rfl
  | false =>
    rw [if_neg Bool.false_ne_true, run_bind_of_ok (run_applicationClassOf_of_library hρ d w),
      if_neg Bool.false_ne_true]
    cases (w.descriptor d).applicationClass with
    | none => rfl
    | some c => exact run_checkParameters_of_library hρ c w

theorem stays_instantiate {R : (DescriptorId → Prop) → World → World → Prop} [World.Frame R]
    (hρ : ρ.Respects R) (c : ClassId) : Stays R World.nobody (instantiate ρ c) :=
  (reads_checkParameters hρ.library c).stays.bind fun _ => stays_construct hρ c rfl

theorem heeds_instantiate (hρ : ρ.Discreet) (c : ClassId) : Heeds .none (instantiate ρ c) :=
  stays_instantiate hρ.respects c

theorem makes_instantiate {R : (DescriptorId → Prop) → World → World → Prop} [World.Frame R]
    (hρ : ρ.Respects R) (c : ClassId) : Makes R (instantiate ρ c) :=
  Makes.reading (reads_checkParameters hρ.library c) fun _ => makes_construct hρ c rfl

end Action

/-! ## 2. The two ways to freeze -/

/-- A descriptor that is marked as frozen. -/
def Descriptor.marked (x : Descriptor) : Descriptor :=
  { x with frozen := true }

namespace Action

variable {ρ : Dispatch} {w w' : World} {d : DescriptorId} {fault : Fault}

theorem run_markFrozen_of_library (hρ : ρ.replaces = false) (d : DescriptorId) (w : World) :
    EStateM.run (markFrozen ρ d) w = .ok ⟨⟩ (w.changeDescriptor d Descriptor.marked) := by
  unfold markFrozen
  rw [claim_of_library hρ, pure_bind]
  rfl

/-- Giving a descriptor the application of its class, which it then absorbs. -/
theorem fulfil_of_library (hρ : ρ.replaces = false) (d : DescriptorId) (c : ClassId) :
    fulfil ρ d (.thing (.cls c)) = (do
      let app ← instantiate ρ c
      modify (·.changeDescriptor d (·.standFor app))
      absorb ρ d app) := by
  unfold fulfil makeApplication absorbInto instantiateFound
  simp only [named_of_library hρ, claim_of_library hρ, orReplaced_of_library hρ, pure_bind,
    bind_assoc, bind_pure_unit]

/-- **A descriptor that has nothing to wait for is only marked.** -/
theorem freeze_of_settled (hρ : ρ.replaces = false) (hf : (w.descriptor d).frozen = false)
    (h : (w.descriptor d).applicationClass = none ∨ (w.descriptor d).application.isSome) :
    EStateM.run (freeze ρ d) w = .ok ⟨⟩ (w.changeDescriptor d Descriptor.marked) := by
  unfold freeze checkHeld
  rw [run_bind_of_ok (run_isFrozen_of_library hρ d w), hf, if_neg Bool.false_ne_true,
    standIn_of_library hρ]
  simp only [pure_bind]
  rw [run_bind_of_ok (run_applicationClassOf_of_library hρ d w)]
  cases hc : (w.descriptor d).applicationClass with
  | none =>
    simp only [Option.elim_none, ne_eq, not_true_eq_false, if_false]
    exact run_markFrozen_of_library hρ d w
  | some c =>
    have ha : (w.descriptor d).application.isSome = true := h.resolve_left (by simp [hc])
    rw [if_pos (by simp), run_bind_of_ok (run_hasApplication_of_library hρ d w), ha]
    exact run_markFrozen_of_library hρ d w

/-- **A descriptor that waits for the application of its class gets it first.** -/
theorem freeze_of_pending (hρ : ρ.replaces = false) {c : ClassId}
    (hf : (w.descriptor d).frozen = false) (hc : (w.descriptor d).applicationClass = some c)
    (ha : (w.descriptor d).application = none) :
    EStateM.run (freeze ρ d) w = EStateM.run (do
      let app ← instantiate ρ c
      modify (·.changeDescriptor d (·.standFor app))
      absorb ρ d app
      markFrozen ρ d) w := by
  unfold freeze checkHeld
  rw [run_bind_of_ok (run_isFrozen_of_library hρ d w), hf, if_neg Bool.false_ne_true,
    standIn_of_library hρ]
  simp only [pure_bind]
  rw [run_bind_of_ok (run_applicationClassOf_of_library hρ d w), hc]
  rw [if_pos (by simp), run_bind_of_ok (run_hasApplication_of_library hρ d w), ha,
    Option.elim_some, fulfil_of_library hρ]
  simp only [Option.isSome_none, Bool.not_false, if_true, bind_assoc]

end Action

/-! ## 3. Absorbing -/

/-- A descriptor with other things in its four collections, and the same in all other fields. -/
def Descriptor.Filled (x y : Descriptor) : Prop :=
  ∃ classes singletons properties providers,
    y = { x with
      classes := classes, singletons := singletons, properties := properties,
      providers := providers }

theorem Descriptor.Filled.refl (x : Descriptor) : x.Filled x :=
  ⟨_, _, _, _, rfl⟩

theorem Descriptor.Filled.trans {x y z : Descriptor} (h : x.Filled y) (h' : y.Filled z) :
    x.Filled z := by
  obtain ⟨_, _, _, _, rfl⟩ := h
  obtain ⟨_, _, _, _, rfl⟩ := h'
  exact ⟨_, _, _, _, rfl⟩

theorem Descriptor.Filled.application {x y : Descriptor} (h : x.Filled y) :
    y.application = x.application := by
  obtain ⟨_, _, _, _, rfl⟩ := h
  rfl

theorem Descriptor.Filled.cls {x y : Descriptor} (h : x.Filled y) : y.cls = x.cls := by
  obtain ⟨_, _, _, _, rfl⟩ := h
  rfl

theorem Descriptor.Filled.applicationClass {x y : Descriptor} (h : x.Filled y) :
    y.applicationClass = x.applicationClass := by
  obtain ⟨_, _, _, _, rfl⟩ := h
  rfl

theorem Descriptor.Filled.frozen {x y : Descriptor} (h : x.Filled y) : y.frozen = x.frozen := by
  obtain ⟨_, _, _, _, rfl⟩ := h
  rfl

theorem Descriptor.Filled.given {x y : Descriptor} (h : x.Filled y) : y.given = x.given := by
  obtain ⟨_, _, _, _, rfl⟩ := h
  rfl

namespace Action

variable {ρ : Dispatch} {w w' : World} {d : DescriptorId} {fault : Fault}

section Absorbing

variable {α : Type}

/-- **One stage of absorbing**: an application is asked, what it offers is read, all that could be
    read is put into the descriptor, and then the fault is raised that ended the reading. -/
def taking (ρ : Dispatch) (d : DescriptorId) (app : Ref) (h : Hook)
    (read : World → Offer → Reading α) (put : World → List α → Descriptor → Descriptor) :
    Action Unit := do
  let offer ← ask ρ app h
  let w ← get
  modify (·.changeDescriptor d (put w (read w offer).items))
  finish (read w offer)

/-- What can be read of an offer as classes. -/
def readClasses (w : World) (o : Offer) : Reading Ref :=
  Reading.upToFault w.keyFault? o.elements.items o.elements.ending

theorem absorbClasses_of_library (hρ : ρ.replaces = false) (d : DescriptorId) (app : Ref) :
    absorbClasses ρ d app =
      taking ρ d app .classes readClasses fun w items x => x.addClasses w.like items := by
  unfold absorbClasses taking
  rw [if_neg (by simp [hρ])]
  refine bind_congr fun offer => funext fun w => ?_
  show EStateM.run _ w = EStateM.run _ w
  dsimp only
  rw [run_bind_of_ok (EStateM.run_get w), run_bind_of_ok (EStateM.run_get w),
    run_bind_of_ok (EStateM.run_modify _ w), run_bind_of_ok (EStateM.run_modify _ w)]
  rfl

theorem absorbSingletons_of_library (hρ : ρ.replaces = false) (d : DescriptorId) (app : Ref) :
    absorbSingletons ρ d app =
      taking ρ d app .singletons (fun _ o => o.elements) fun _ items x =>
        x.addSingletons items := by
  unfold absorbSingletons checkSingletons
  simp only [standIn_of_library hρ, pure_bind, ite_self]
  rfl

theorem absorbProperties_of_library (hρ : ρ.replaces = false) (d : DescriptorId) (app : Ref) :
    absorbProperties ρ d app =
      taking ρ d app .properties (fun w o => o.pairs w) fun _ items x =>
        x.putProperties items := by
  unfold absorbProperties checkMapping pairsOf
  simp only [standIn_of_library hρ, pure_bind, hρ, Bool.false_eq_true, if_false, bind_assoc]
  rfl

variable {app : Ref} {h : Hook} {read : World → Offer → Reading α}
  {put : World → List α → Descriptor → Descriptor}

theorem run_finish (r : Reading α) (w : World) :
    EStateM.run (finish r) w =
      match r.ending with
      | some fault => .error fault w
      | none => .ok ⟨⟩ w := by
  unfold finish
  cases r.ending <;> rfl

/-- **A stage that comes to an end** has put all that was offered into the descriptor. -/
theorem run_taking_eq_ok_iff :
    EStateM.run (taking ρ d app h read put) w = .ok ⟨⟩ w' ↔
      ∃ offer w₁, EStateM.run (ask ρ app h) w = .ok offer w₁ ∧ (read w₁ offer).ending = none ∧
        w' = w₁.changeDescriptor d (put w₁ (read w₁ offer).items) := by
  unfold taking
  rw [run_bind_eq_ok_iff]
  refine exists_congr fun offer => exists_congr fun w₁ => and_congr_right fun _ => ?_
  rw [run_bind_of_ok (EStateM.run_get w₁), run_bind_of_ok (EStateM.run_modify _ w₁), run_finish]
  cases (read w₁ offer).ending with
  | some fault => simp
  | none => simp [eq_comm]

/-- **A stage that fails** was given no answer, or one that could be read in part only. -/
theorem run_taking_eq_error_iff :
    EStateM.run (taking ρ d app h read put) w = .error fault w' ↔
      EStateM.run (ask ρ app h) w = .error fault w' ∨
        ∃ offer w₁, EStateM.run (ask ρ app h) w = .ok offer w₁ ∧
          (read w₁ offer).ending = some fault ∧
          w' = w₁.changeDescriptor d (put w₁ (read w₁ offer).items) := by
  unfold taking
  rw [run_bind_eq_error_iff]
  refine or_congr_right ?_
  refine exists_congr fun offer => exists_congr fun w₁ => and_congr_right fun _ => ?_
  rw [run_bind_of_ok (EStateM.run_get w₁), run_bind_of_ok (EStateM.run_modify _ w₁), run_finish]
  cases (read w₁ offer).ending with
  | some fault => simp [eq_comm]
  | none => simp

/-- What asking and filling keep, a stage keeps. -/
theorem within_taking {R : World → World → Prop} (refl : ∀ w, R w w)
    (trans : ∀ {w₁ w₂ w₃}, R w₁ w₂ → R w₂ w₃ → R w₁ w₃) (asked : Within R (ask ρ app h))
    (filled : ∀ w f, (∀ x : Descriptor, x.Filled (f x)) → R w (w.changeDescriptor d f))
    (hput : ∀ w items x, Descriptor.Filled x (put w items x)) :
    Within R (taking ρ d app h read put) := by
  refine Within.bind trans asked fun offer => Within.bind trans (Within.get refl) fun w => ?_
  refine Within.bind trans (Within.modify fun v => filled v _ (hput w _)) fun _ v => ?_
  rw [run_finish]
  split <;> exact refl v

/-- The providers of an application are those of a descriptor; no other application has any. -/
theorem run_absorbProviders_of_library (hρ : ρ.replaces = false) (d : DescriptorId) (app : Ref)
    (w : World) :
    EStateM.run (absorbProviders ρ d app) w = .ok ⟨⟩
      (match app.descriptor? with
      | some e => w.changeDescriptor d (·.putProviders w.like (w.descriptor e).providers)
      | none => w) := by
  unfold absorbProviders
  cases app with
  | descriptor e =>
    simp only [hρ, Bool.false_eq_true, if_false]
    rfl
  | none | cls | object | datum =>
    simp only [checkAccess_of_library hρ]
    rfl

/-- **What asking and filling keep, absorbing keeps**, whether it fails or not. -/
theorem within_absorb (hρ : ρ.replaces = false) {R : World → World → Prop} (refl : ∀ w, R w w)
    (trans : ∀ {w₁ w₂ w₃}, R w₁ w₂ → R w₂ w₃ → R w₁ w₃) (asked : ∀ h, Within R (ask ρ app h))
    (filled : ∀ w f, (∀ x : Descriptor, x.Filled (f x)) → R w (w.changeDescriptor d f)) :
    Within R (absorb ρ d app) := by
  unfold absorb
  rw [absorbClasses_of_library hρ, absorbSingletons_of_library hρ, absorbProperties_of_library hρ]
  have stage {α : Type} {read : World → Offer → Reading α}
      {put : World → List α → Descriptor → Descriptor} (h : Hook)
      (hput : ∀ w items x, Descriptor.Filled x (put w items x)) :
      Within R (taking ρ d app h read put) := within_taking refl trans (asked h) filled hput
  refine Within.bind trans (stage .classes fun _ _ _ => ⟨_, _, _, _, rfl⟩) fun _ => ?_
  refine Within.bind trans (stage .singletons fun _ _ _ => ⟨_, _, _, _, rfl⟩) fun _ => ?_
  refine Within.bind trans (stage .properties fun _ _ _ => ⟨_, _, _, _, rfl⟩) fun _ w => ?_
  rw [run_absorbProviders_of_library hρ]
  cases app.descriptor? with
  | none => exact refl w
  | some e => exact filled w _ fun _ => ⟨_, _, _, _, rfl⟩

theorem heeds_changing (d : DescriptorId) (change : World → Descriptor → Descriptor) :
    Heeds (.changing (· = d)) (modify fun w => w.changeDescriptor d (change w)) :=
  Heeds.modify fun w => .change w _ rfl

theorem heeds_absorb (hρ : ρ.Discreet) (d : DescriptorId) (app : Ref) :
    Heeds (.changing (· = d)) (absorb ρ d app) :=
  within_absorb hρ.library World.Effect.refl World.Effect.trans
    (fun h => (heeds_ask hρ app h).of_none) fun w f _ => (World.Step.change w f rfl).effect

end Absorbing

end Action

/-! ## 4. What absorbing leaves alone -/

namespace World

variable {w w₁ w₂ w₃ : World} {d : DescriptorId}

/-- Nothing is taken from a store, and a descriptor of it is filled at most. -/
structure Fills (d : DescriptorId) (w w' : World) : Prop where
  has : w.HasDescriptor d → w'.HasDescriptor d
  filled : w.HasDescriptor d → (w.descriptor d).Filled (w'.descriptor d)

theorem Fills.refl (w : World) : Fills d w w :=
  ⟨fun h => h, fun _ => .refl _⟩

theorem Fills.trans (h : Fills d w₁ w₂) (h' : Fills d w₂ w₃) :
    Fills d w₁ w₃ :=
  ⟨fun hd => h'.has (h.has hd), fun hd => (h.filled hd).trans (h'.filled (h.has hd))⟩

theorem Fills.change (w : World) {f : Descriptor → Descriptor}
    (hf : (w.descriptor d).Filled (f (w.descriptor d))) : Fills d w (w.changeDescriptor d f) := by
  refine ⟨fun hd => (hasDescriptor_change w d d f).2 hd, fun hd => ?_⟩
  rw [descriptor_change_self hd]
  exact hf

end World

namespace Action

variable {ρ : Dispatch} {w w' : World} {d : DescriptorId} {fault : Fault}

/-- What makes new things only fills nothing. -/
theorem Heeds.fills {α : Type} {x : Action α} (hx : Heeds .none x) : Within (World.Fills d) x := by
  intro w
  refine ⟨fun hd => (hx w).has hd, fun hd => ?_⟩
  rw [(hx w).same hd]
  exact .refl _

/-- **Absorbing fills a descriptor and changes nothing else of it**, whether it fails or not. -/
theorem fills_absorb (hρ : ρ.Discreet) (d : DescriptorId) (app : Ref) :
    Within (World.Fills d) (absorb ρ d app) :=
  within_absorb hρ.library World.Fills.refl World.Fills.trans (fun h => (heeds_ask hρ app h).fills)
    fun w _ hf => World.Fills.change w (hf _)

/-! ## 5. Freezing -/

/-- What a descriptor may be before it is frozen: frozen already, settled, or waiting for the
    application of its class. -/
theorem frozen_or_settled_or_pending (x : Descriptor) :
    x.frozen = true ∨
      (x.frozen = false ∧ (x.applicationClass = none ∨ x.application.isSome)) ∨
      (x.frozen = false ∧ x.application = none ∧ ∃ c, x.applicationClass = some c) := by
  cases x.frozen with
  | true => exact .inl rfl
  | false =>
    cases x.applicationClass with
    | none => exact .inr (.inl ⟨rfl, .inl rfl⟩)
    | some c =>
      cases x.application with
      | none => exact .inr (.inr ⟨rfl, rfl, c, rfl⟩)
      | some app => exact .inr (.inl ⟨rfl, .inr rfl⟩)

/-- **Freezing changes one descriptor**, and makes new things. -/
theorem heeds_freeze (hρ : ρ.Discreet) (d : DescriptorId) :
    Heeds (.changing (· = d)) (freeze ρ d) := by
  intro w
  have marked (w : World) :
      World.Effect (.changing (· = d)) w (w.changeDescriptor d Descriptor.marked) :=
    (World.Step.change w _ rfl).effect
  rcases frozen_or_settled_or_pending (w.descriptor d) with hf | ⟨hf, hs⟩ | ⟨hf, ha, c, hc⟩
  · rw [freeze_of_frozen hρ.library hf]
    exact World.Effect.refl w
  · rw [freeze_of_settled hρ.library hf hs]
    exact marked w
  · rw [freeze_of_pending hρ.library hf hc ha]
    have fulfilled : Heeds (.changing (· = d)) (do
        let app ← instantiate ρ c
        modify (·.changeDescriptor d (·.standFor app))
        absorb ρ d app
        markFrozen ρ d) := by
      refine (heeds_instantiate hρ c).of_none.bind fun app => ?_
      refine (heeds_changing d fun _ => (·.standFor app)).bind fun _ => ?_
      refine (heeds_absorb hρ d app).bind fun _ w => ?_
      rw [run_markFrozen_of_library hρ.library]
      exact marked w
    exact fulfilled w

/-- **How a descriptor is frozen that waited for its application**: the class was instantiated, and
    the descriptor absorbed the application. -/
theorem run_freeze_pending_eq_ok_iff (hρ : ρ.replaces = false) {c : ClassId}
    (hf : (w.descriptor d).frozen = false) (hc : (w.descriptor d).applicationClass = some c)
    (ha : (w.descriptor d).application = none) :
    EStateM.run (freeze ρ d) w = .ok ⟨⟩ w' ↔
      ∃ app w₁ w₂, EStateM.run (instantiate ρ c) w = .ok app w₁ ∧
        EStateM.run (absorb ρ d app) (w₁.changeDescriptor d (·.standFor app)) = .ok ⟨⟩ w₂ ∧
        w' = w₂.changeDescriptor d Descriptor.marked := by
  rw [freeze_of_pending hρ hf hc ha, run_bind_eq_ok_iff]
  refine exists_congr fun app => exists_congr fun w₁ => ?_
  rw [run_bind_of_ok (EStateM.run_modify _ w₁), run_bind_eq_ok_iff]
  simp only [run_markFrozen_of_library hρ]
  constructor
  · rintro ⟨hmade, _, w₂, habsorbed, ⟨⟩⟩
    exact ⟨w₂, hmade, habsorbed, rfl⟩
  · rintro ⟨w₂, hmade, habsorbed, rfl⟩
    exact ⟨hmade, ⟨⟩, w₂, habsorbed, rfl⟩

/-- **How such a freeze fails**: the class was not instantiated, or the descriptor did not absorb
    the application that it was given. -/
theorem run_freeze_pending_eq_error_iff (hρ : ρ.replaces = false) {c : ClassId}
    (hf : (w.descriptor d).frozen = false) (hc : (w.descriptor d).applicationClass = some c)
    (ha : (w.descriptor d).application = none) :
    EStateM.run (freeze ρ d) w = .error fault w' ↔
      EStateM.run (instantiate ρ c) w = .error fault w' ∨
        ∃ app w₁, EStateM.run (instantiate ρ c) w = .ok app w₁ ∧
          EStateM.run (absorb ρ d app) (w₁.changeDescriptor d (·.standFor app))
            = .error fault w' := by
  rw [freeze_of_pending hρ hf hc ha, run_bind_eq_error_iff]
  refine or_congr_right ?_
  refine exists_congr fun app => exists_congr fun w₁ => and_congr_right fun _ => ?_
  rw [run_bind_of_ok (EStateM.run_modify _ w₁), run_bind_eq_error_iff]
  simp [run_markFrozen_of_library hρ]

/-- Absorbing takes no descriptor from the store. -/
theorem has_absorb {R : (DescriptorId → Prop) → World → World → Prop} [World.Frame R]
    (hρ : ρ.Respects R) (d e : DescriptorId) (app : Ref) :
    Within (fun w w' => w.HasDescriptor e → w'.HasDescriptor e) (absorb ρ d app) :=
  within_absorb hρ.library (fun _ => id) (fun h h' => h' ∘ h)
    (fun h w => World.Frame.has (stays_ask hρ app h w)) fun w f _ =>
      (World.hasDescriptor_change w d e f).2

/-- **A freeze that comes to an end leaves a frozen descriptor.** -/
theorem frozen_of_freeze {R : (DescriptorId → Prop) → World → World → Prop} [World.Frame R]
    (hρ : ρ.Respects R) (hd : w.HasDescriptor d)
    (h : EStateM.run (freeze ρ d) w = .ok ⟨⟩ w') : (w'.descriptor d).frozen = true := by
  have marked {v : World} (hv : v.HasDescriptor d) :
      ((v.changeDescriptor d Descriptor.marked).descriptor d).frozen = true := by
    rw [World.descriptor_change_self hv]
    rfl
  rcases frozen_or_settled_or_pending (w.descriptor d) with hf | ⟨hf, hs⟩ | ⟨hf, ha, c, hc⟩
  · rw [freeze_of_frozen hρ.library hf] at h
    cases h
    exact hf
  · rw [freeze_of_settled hρ.library hf hs] at h
    cases h
    exact marked hd
  · obtain ⟨app, w₁, w₂, hmade, habsorbed, rfl⟩ :=
      (run_freeze_pending_eq_ok_iff hρ.library hf hc ha).1 h
    have h₁ : w₁.HasDescriptor d := World.Frame.has ((stays_instantiate hρ c).ok hmade) hd
    have h₂ := (World.hasDescriptor_change w₁ d d (·.standFor app)).2 h₁
    exact marked ((has_absorb hρ d d app).ok habsorbed h₂)

/-- **A freeze that fails was to make an application.** -/
theorem freeze_error (hρ : ρ.replaces = false)
    (h : EStateM.run (freeze ρ d) w = .error fault w') :
    (w.descriptor d).frozen = false ∧ (w.descriptor d).application = none ∧
      ∃ c, (w.descriptor d).applicationClass = some c := by
  rcases frozen_or_settled_or_pending (w.descriptor d) with hf | ⟨hf, hs⟩ | hp
  · rw [freeze_of_frozen hρ hf] at h
    cases h
  · rw [freeze_of_settled hρ hf hs] at h
    cases h
  · exact hp

/-- **What a freeze that fails leaves**: a descriptor as it was, if no application was made, or else
    one that has the application and perhaps a part of what it offers. It is not frozen. -/
theorem left_of_freeze_error (hρ : ρ.Discreet) (hd : w.HasDescriptor d)
    (h : EStateM.run (freeze ρ d) w = .error fault w') :
    ∃ c, (w.descriptor d).applicationClass = some c ∧
      ((EStateM.run (instantiate ρ c) w = .error fault w' ∧
          w'.descriptor d = w.descriptor d) ∨
        ∃ app w₁, EStateM.run (instantiate ρ c) w = .ok app w₁ ∧
          ((w.descriptor d).standFor app).Filled (w'.descriptor d)) := by
  obtain ⟨hf, ha, c, hc⟩ := freeze_error hρ.library h
  refine ⟨c, hc, ?_⟩
  rcases (run_freeze_pending_eq_error_iff hρ.library hf hc ha).1 h with
    hmake | ⟨app, w₁, hmake, habsorb⟩
  · have same := ((heeds_instantiate hρ c).error hmake).same hd
    exact .inl ⟨hmake, same⟩
  · right
    refine ⟨app, w₁, hmake, ?_⟩
    have made := (heeds_instantiate hρ c).ok hmake
    have filled := ((fills_absorb hρ d app).error habsorb).filled
      ((World.hasDescriptor_change ..).2 (made.has hd))
    rwa [World.descriptor_change_self (made.has hd),
      made.same hd] at filled

/-- **What a freeze leaves that made an application**: a descriptor that has the application and all
    that it took of it, and is marked. -/
theorem left_of_freeze_ok (hρ : ρ.Discreet) (hd : w.HasDescriptor d) {c : ClassId}
    (hf : (w.descriptor d).frozen = false) (hc : (w.descriptor d).applicationClass = some c)
    (ha : (w.descriptor d).application = none)
    (h : EStateM.run (freeze ρ d) w = .ok ⟨⟩ w') :
    ∃ app x, ((w.descriptor d).standFor app).Filled x ∧ w'.descriptor d = x.marked := by
  obtain ⟨app, w₁, w₂, hmake, habsorb, rfl⟩ :=
    (run_freeze_pending_eq_ok_iff hρ.library hf hc ha).1 h
  have made := (heeds_instantiate hρ c).ok hmake
  have has := (World.hasDescriptor_change w₁ d d (·.standFor app)).2 (made.has hd)
  have fills := (fills_absorb hρ d app).ok habsorb
  have filled := fills.filled has
  rw [World.descriptor_change_self (made.has hd), made.same hd] at filled
  exact ⟨app, _, filled, World.descriptor_change_self (fills.has has) _⟩

/-- **What no freeze changes**, whether it fails or not: of which class a descriptor is, and for
    which class it stands. -/
theorem backing_of_freeze (hρ : ρ.Discreet) (hd : w.HasDescriptor d) :
    ((left (EStateM.run (freeze ρ d) w)).descriptor d).cls = (w.descriptor d).cls ∧
      ((left (EStateM.run (freeze ρ d) w)).descriptor d).applicationClass
        = (w.descriptor d).applicationClass := by
  rcases frozen_or_settled_or_pending (w.descriptor d) with hf | ⟨hf, hs⟩ | ⟨hf, ha, c, hc⟩
  · rw [freeze_of_frozen hρ.library hf]
    exact ⟨rfl, rfl⟩
  · rw [freeze_of_settled hρ.library hf hs, left_ok, World.descriptor_change_self hd]
    exact ⟨rfl, rfl⟩
  · cases hrun : EStateM.run (freeze ρ d) w with
    | ok _ w' =>
      obtain ⟨app, x, filled, hx⟩ := left_of_freeze_ok hρ hd hf hc ha hrun
      rw [left_ok, hx]
      exact ⟨filled.cls, filled.applicationClass⟩
    | error fault w' =>
      rw [left_error]
      obtain ⟨-, -, ⟨-, same⟩ | ⟨app, -, -, filled⟩⟩ := left_of_freeze_error hρ hd hrun
      · rw [same]
        exact ⟨rfl, rfl⟩
      · exact ⟨filled.cls, filled.applicationClass⟩

end Action

end AppMount
