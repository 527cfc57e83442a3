import AppMount.Proofs.ApplicationCalls
import AppMount.Proofs.Constructing

/-!
# What the check of a class overlooks

The check of a descriptor looks at the parameters that one constructor method of its application
class shows. The call of the class has to fit the other one as well, and is refused for methods that
the class leaves open. So an accepted class may still be one that cannot be called.

* `World.Overlooked`: what the check does not look at; `overlooked_of_obstacle`: whatever is in the
  way of an accepted class is that;
* `checkConstructible_overlooks`: what an accepted class may still fail for, and that freezing then
  fails for it, whenever it is tried;
* `unbuildable_accepted`: classes that are accepted and cannot be called.
-/

namespace AppMount

open AppMount.Action

/-! ## 1. What is overlooked -/

namespace World

/-- **A fault that the check of a class does not look at**: methods that the class leaves open, or
    the constructor method whose parameters it does not show. -/
def Overlooked (w : World) (c : ClassId) (fault : Fault) : Prop :=
  w.openFault? c = some fault ∨
    ∃ member ∈ constructors, w.reported? c ≠ some member ∧ w.constructorFault? c member = some fault

/-- Whatever is in the way of the call of an accepted class was overlooked. -/
theorem overlooked_of_obstacle {w : World} {c : ClassId} {fault : Fault}
    (accepted : w.parameterFault? c = none) (h : w.obstacle? c = some fault) :
    w.Overlooked c fault := by
  have unreported {member : String} (hm : member ∈ constructors)
      (h : w.constructorFault? c member = some fault) : w.Overlooked c fault := by
    refine .inr ⟨member, hm, fun reported => ?_, h⟩
    exact nomatch (constructorFault?_of_reported accepted reported).symm.trans h
  unfold obstacle? at h
  rcases Option.or_eq_some_iff.1 h with h | ⟨-, h⟩
  · exact unreported (by simp [constructors]) h
  · split at h
    · rcases Option.or_eq_some_iff.1 h with h | ⟨-, h⟩
      · exact .inl h
      · exact unreported (by simp [constructors]) h
    · cases h

end World

namespace Action

variable {ρ : Dispatch} {w w' v v' : World} {c : ClassId} {d : DescriptorId} {fault : Fault}

theorem accepted_of_checkConstructible (hρ : ρ.replaces = false)
    (unfrozen : (w.descriptor d).frozen = false)
    (backed : (w.descriptor d).applicationClass = some c)
    (h : EStateM.run (checkConstructible ρ d) w = .ok ⟨⟩ w') : w.parameterFault? c = none := by
  rw [run_checkConstructible_of_library hρ, World.constructionFault?_of_backed unfrozen backed] at h
  cases haccepted : w.parameterFault? c with
  | none => rfl
  | some fault =>
    rw [haccepted] at h
    cases h

/-- A freeze that fails though the class is accepted fails for the call of the class, or after
    it. -/
theorem construct_of_freeze_error (hρ : ρ.replaces = false)
    (backed : (v.descriptor d).applicationClass = some c) (accepted : v.parameterFault? c = none)
    (h : EStateM.run (freeze ρ d) v = .error fault v') :
    EStateM.run (construct ρ c {}) v = .error fault v' ∨
      ∃ app v₁, EStateM.run (construct ρ c {}) v = .ok app v₁ ∧
        EStateM.run (absorb ρ d app) (v₁.changeDescriptor d (·.standFor app)) =
          .error fault v' := by
  obtain ⟨hf, ha, -⟩ := freeze_error hρ h
  rw [← run_instantiate_of_accepted hρ accepted]
  exact (run_freeze_pending_eq_error_iff hρ hf backed ha).1 h

/-- Freezing a descriptor fails for the obstacle of the class that it waits for. -/
theorem run_freeze_of_obstacle (hρ : ρ.replaces = false)
    (waits : (v.descriptor d).awaited? = some c) (accepted : v.parameterFault? c = none)
    (h : v.obstacle? c = some fault) : EStateM.run (freeze ρ d) v = .error fault v := by
  obtain ⟨hf, ha, hc⟩ := Descriptor.awaited?_eq_some_iff.1 waits
  refine (run_freeze_pending_eq_error_iff hρ hf hc ha).2 (.inl ?_)
  rw [run_instantiate_of_accepted hρ accepted, run_construct_of_obstacle hρ h]

/-- **What the check of a descriptor overlooks.** Where it accepts the application class, and a call
    without arguments can be bound to that, the call fails inside the constructors of the class
    only, and freezing fails there or when the application that was made is absorbed. Where no such
    call can be bound, that is for methods left open, or for the constructor method that the class
    does not show; then the call fails for it, and so does freezing. This stays so as long as the
    classes stay as they are. -/
theorem checkConstructible_overlooks (hρ : ρ.Respects World.Recalls)
    (unfrozen : (w.descriptor d).frozen = false)
    (backed : (w.descriptor d).applicationClass = some c)
    (accepted : EStateM.run (checkConstructible ρ d) w = .ok ⟨⟩ w') :
    (w.Binds c → ∀ v, v.rule = w.rule → v.classes = w.classes →
      (∀ fault v', EStateM.run (construct ρ c {}) v = .error fault v' → v.Entered c v') ∧
      ((v.descriptor d).applicationClass = some c →
        ∀ fault v', EStateM.run (freeze ρ d) v = .error fault v' →
          v.Entered c v' ∨ ∃ app v₁, EStateM.run (construct ρ c {}) v = .ok app v₁ ∧
            EStateM.run (absorb ρ d app) (v₁.changeDescriptor d (·.standFor app)) =
              .error fault v')) ∧
    (¬ w.Binds c → ∃ fault, w.Overlooked c fault ∧
      ∀ v, v.rule = w.rule → v.classes = w.classes →
      EStateM.run (construct ρ c {}) v = .error fault v ∧
      ((v.descriptor d).awaited? = some c →
        EStateM.run (freeze ρ d) v = .error fault v)) := by
  have shown := accepted_of_checkConstructible hρ.library unfrozen backed accepted
  have shown' (v : World) (rule : v.rule = w.rule) (hv : v.classes = w.classes) :
      v.parameterFault? c = none :=
    (World.parameterFault?_of_classes rule hv c).trans shown
  refine ⟨fun binds v rule hv => ?_, fun unbound => ?_⟩
  · have binds' : v.Binds c := by
      rw [← World.obstacle?_eq_none_iff, World.obstacle?_of_classes hv]
      exact World.obstacle?_eq_none_iff.2 binds
    have entered (fault : Fault) (v' : World)
        (h : EStateM.run (construct ρ c {}) v = .error fault v') : v.Entered c v' :=
      entered_of_construct hρ binds' h
    refine ⟨entered, fun backed' fault v' h => ?_⟩
    exact (construct_of_freeze_error hρ.library backed' (shown' v rule hv) h).imp_left
      (entered fault v')
  · cases hobstacle : w.obstacle? c with
    | none => exact absurd (World.obstacle?_eq_none_iff.1 hobstacle) unbound
    | some fault =>
      refine ⟨fault, World.overlooked_of_obstacle shown hobstacle, fun v rule hv => ?_⟩
      have obstacle : v.obstacle? c = some fault :=
        (World.obstacle?_of_classes hv c).trans hobstacle
      exact ⟨run_construct_of_obstacle hρ.library obstacle, fun waits =>
        run_freeze_of_obstacle hρ.library waits (shown' v rule hv) obstacle⟩

end Action

namespace World

/-- A class whose bare instances are made without arguments, and initialized with one. -/
def zonedApp : ClassDef :=
  { name := "ShopApp", qualname := "ShopApp", home := .text "shop",
    ancestors := [ClassId.application, ClassId.object], allocates := true,
    members :=
      [(ClassDef.allocatorMember, .method (.within "ShopApp" ClassDef.allocatorMember (.make []))),
        (ClassDef.initializerMember, .method (.within "ShopApp" ClassDef.initializerMember
          (.setUp { params := [⟨"zone", .ordinary, false⟩] })))] }

/-- A class that leaves a method open. -/
def draftApp : ClassDef :=
  { name := "DraftApp", qualname := "DraftApp", home := .text "shop",
    ancestors := [ClassId.application, ClassId.object], guarded := true,
    openNames := some (.names ["run"]) }

/-- A store with such a class and a descriptor for it. -/
def described (x : ClassDef) : World :=
  { offering x with
    descriptors :=
      #[{ cls := ClassId.descriptor, name := .text x.qualname, applicationClass := some offered }] }

/-- **The check overlooks the initializer** of a class with a method of its own for bare instances:
    whatever happens later, it cannot be frozen. -/
theorem checkConstructible_overlooks_zone :
    (EStateM.run (checkConstructible Dispatch.library ⟨0⟩) (described zonedApp) =
      .ok ⟨⟩ (described zonedApp) ∧ ¬ (described zonedApp).Binds offered) ∧
    ∃ fault, (described zonedApp).Overlooked offered fault ∧
      ∀ v, v.rule = (described zonedApp).rule → v.classes = (described zonedApp).classes →
        EStateM.run (construct Dispatch.library offered {}) v = .error fault v ∧
        ((v.descriptor ⟨0⟩).awaited? = some offered →
          EStateM.run (freeze Dispatch.library ⟨0⟩) v = .error fault v) := by
  have accepted : EStateM.run (checkConstructible Dispatch.library ⟨0⟩) (described zonedApp) =
      .ok ⟨⟩ (described zonedApp) := rfl
  have unbound : ¬ (described zonedApp).Binds offered := fun binds =>
    nomatch World.obstacle?_eq_none_iff.2 binds
  exact ⟨⟨accepted, unbound⟩,
    (checkConstructible_overlooks Dispatch.discreet_library.respects_frame rfl rfl accepted).2
      unbound⟩

/-- **Classes that are accepted and cannot be called.** A descriptor is made for each and accepted;
    but no instance can be made of the one, which has an initializer that takes an argument, nor of
    the other, which leaves a method open. -/
theorem unbuildable_accepted :
    (∃ d w, EStateM.run (forApplicationClass Dispatch.library ClassId.descriptor (.cls offered))
        (offering zonedApp) = .ok d w ∧
      EStateM.run (checkConstructible Dispatch.library d) w = .ok ⟨⟩ w ∧
      EStateM.run (construct Dispatch.library offered {}) w =
        .error (.call "ShopApp.__init__" (.missing false ["zone"])) w ∧
      EStateM.run (freeze Dispatch.library d) w =
        .error (.call "ShopApp.__init__" (.missing false ["zone"])) w) ∧
    ∃ d w, EStateM.run (forApplicationClass Dispatch.library ClassId.descriptor (.cls offered))
        (offering draftApp) = .ok d w ∧
      EStateM.run (checkConstructible Dispatch.library d) w = .ok ⟨⟩ w ∧
      EStateM.run (construct Dispatch.library offered {}) w =
        .error (.openMethods "DraftApp" ["run"]) w ∧
      EStateM.run (freeze Dispatch.library d) w = .error (.openMethods "DraftApp" ["run"]) w := by
  have opens : openMethodsOf (.names ["run"]) = .ok ["run"] := by simp [openMethodsOf]
  have obstacle : (described draftApp).obstacle? offered =
      some (.openMethods "DraftApp" ["run"]) := by
    have opens' : (described draftApp).openFault? offered =
        some (.openMethods "DraftApp" ["run"]) := by
      have names : ((described draftApp).classDef offered).openNames = some (.names ["run"]) := rfl
      have plain : (described draftApp).primitive? offered = none := rfl
      unfold World.openFault?
      rw [names, Option.bind_some, plain, opens]
      rfl
    show (none : Option Fault).or
      (((described draftApp).openFault? offered).or _) = _
    rw [opens', Option.none_or, Option.some_or]
  exact ⟨⟨⟨0⟩, _, rfl, rfl, rfl, rfl⟩, ⟨0⟩, described draftApp, rfl, rfl,
    run_construct_of_obstacle rfl obstacle, run_freeze_of_obstacle rfl rfl rfl obstacle⟩

end World

end AppMount
