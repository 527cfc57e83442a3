import Mathlib.Logic.Relation
import AppMount.Proofs.Courses
import AppMount.Proofs.Completeness

/-!
# Many threads that freeze one descriptor

Freezing looks at the flag of the descriptor, takes the lock if it is not set, looks at the flag
again, makes the application, absorbs it, sets the flag and gives the lock back. Here any number of
threads do this with one descriptor, in any order of their steps.

* `Stage`: where a thread is; `Stage.work?`: what it does next, the lock apart;
* `Race`, `Race.next?`, `Race.Run`: threads that share a store and a lock, one step of one of them,
  and runs with a list of their steps;
* `Race.Guarded`: who is inside has the lock (`guarded_of_run`), so that there is always a thread
  that can go on (`Guarded.exists_next?`); `steps_add_rank_le`: each is done after seven steps;
* `Race.run_alone`: one thread on its own does what freezing does;
* `Race.Moment`: how far the descriptor is (`moment_of_run`), if making and absorbing raise nothing;
* `Race.Run.freezes_once`: the threads keep each other out, and make the application once.
-/

namespace AppMount

open AppMount.Action

/-! ## 1. The machine -/

/-- **Where a thread is that freezes a descriptor.** A fault that it has met, it raises once it has
    given back the lock. -/
inductive Stage where
  /-- It is to look at the flag. -/
  | starting
  /-- The flag was not set: it is to take the lock. -/
  | waiting
  /-- It has the lock: it is to look at the flag again. -/
  | looking
  /-- It is to make the application of what stands for the class. -/
  | making (found : Found)
  /-- It is to absorb the application. -/
  | absorbing (app : Ref)
  /-- It is to set the flag. -/
  | marking
  /-- It is to give back the lock. -/
  | leaving (fault : Option Fault)
  /-- It has returned, or raised a fault. -/
  | ended (fault : Option Fault)
  deriving DecidableEq, Repr

namespace Stage

/-- Whether a thread is between taking the lock and giving it back. -/
def isInside : Stage → Bool
  | .looking | .making _ | .absorbing _ | .marking | .leaving _ => true
  | .starting | .waiting | .ended _ => false

/-- Whether a thread is to make an application. -/
def isMaking : Stage → Bool
  | .making _ => true
  | _ => false

/-- Whether a thread is done. -/
def isEnded : Stage → Bool
  | .ended _ => true
  | _ => false

/-- Where a fault takes a thread. -/
def failing (fault : Fault) : Stage → Stage
  | .starting => .ended (some fault)
  | _ => .leaving (some fault)

/-- **What a thread does in one step**, unless it is to take the lock or to give it back, and where
    this takes it. -/
def work? (ρ : Dispatch) (d : DescriptorId) : Stage → Option (Action Stage)
  | .starting => some do return if ← isFrozen ρ d then .ended none else .waiting
  | .looking => some do
    if ← isFrozen ρ d then return .leaving none
    let found ← applicationClassOf ρ d
    if found = .thing .none then return .marking
    return if ← hasApplication ρ d then .marking else .making found
  | .making found => some do
    let app ← makeApplication ρ d found
    claim ρ d "_application"
    modify (·.changeDescriptor d (·.standFor app))
    return .absorbing app
  | .absorbing app => some do
    absorbInto ρ d app
    return .marking
  | .marking => some do
    markFrozen ρ d
    return .leaving none
  | .waiting | .leaving _ | .ended _ => none

/-- How many steps a thread has before it at most. -/
def rank : Stage → Nat
  | .starting => 7
  | .waiting => 6
  | .looking => 5
  | .making _ => 4
  | .absorbing _ => 3
  | .marking => 2
  | .leaving _ => 1
  | .ended _ => 0

variable {ρ : Dispatch} {d : DescriptorId} {stage : Stage} {work : Action Stage}

/-- **Work takes a thread further**, and neither past the taking of the lock nor past its giving
    back. -/
theorem handsBack_work (h : stage.work? ρ d = some work) :
    HandsBack (fun next => next.isInside = stage.isInside ∧ next.rank < stage.rank) work := by
  cases stage with
  | waiting | leaving | ended => exact nomatch h
  | starting =>
    cases h
    refine .after fun frozen => ?_
    cases frozen <;> exact .pure (by decide)
  | looking =>
    cases h
    refine .after fun frozen => ?_
    cases frozen with
    | true => exact .pure (by decide)
    | false =>
      refine .after fun found => ?_
      by_cases hfound : found = .thing .none
      · rw [if_pos hfound]
        exact .pure (by decide)
      · rw [if_neg hfound]
        refine .after fun has => ?_
        cases has <;> exact .pure ⟨rfl, by simp [rank]⟩
  | making found =>
    cases h
    exact .after fun app => .after fun _ => .after fun _ => .pure ⟨rfl, Nat.lt_succ_self 3⟩
  | absorbing app =>
    cases h
    exact .after fun _ => .pure ⟨rfl, Nat.lt_succ_self 2⟩
  | marking =>
    cases h
    exact .after fun _ => .pure ⟨rfl, Nat.lt_succ_self 1⟩

/-- A fault that work meets takes a thread further as well. -/
theorem failing_of_work (h : stage.work? ρ d = some work) (fault : Fault) :
    (stage.failing fault).isInside = stage.isInside ∧
      (stage.failing fault).rank < stage.rank := by
  cases stage with
  | waiting | leaving | ended => exact nomatch h
  | starting | looking | making | absorbing | marking => exact ⟨rfl, by simp [failing, rank]⟩

end Stage

/-- **Threads that freeze one descriptor**: the store that they share, which of them has the lock,
    and where each of them is. -/
structure Race (ι : Type) where
  world : World
  holder : Option ι
  stage : ι → Stage

namespace Race

variable {ι : Type} [DecidableEq ι]

/-- All threads are about to start. -/
def start (w : World) : Race ι :=
  { world := w, holder := none, stage := fun _ => .starting }

/-- A thread goes elsewhere. -/
def moved (s : Race ι) (i : ι) (stage : Stage) : Race ι :=
  { s with stage := Function.update s.stage i stage }

/-- What a step that touches the store comes to. -/
def worked (s : Race ι) (i : ι) : EStateM.Result Fault World Stage → Race ι
  | .ok stage w => { s.moved i stage with world := w }
  | .error fault w => { s.moved i ((s.stage i).failing fault) with world := w }

/-- **One step of a thread**, unless it is done, or is to take a lock that another one has. -/
def next? (ρ : Dispatch) (d : DescriptorId) (s : Race ι) (i : ι) : Option (Race ι) :=
  match (s.stage i).work? ρ d, s.stage i with
  | some work, _ => some (s.worked i (EStateM.run work s.world))
  | none, .waiting =>
    if s.holder = none then some { s.moved i .looking with holder := some i } else none
  | none, .leaving fault => some { s.moved i (.ended fault) with holder := none }
  | none, _ => none

/-- **Runs**, each with its steps: which thread took one, and where it was. -/
inductive Run (ρ : Dispatch) (d : DescriptorId) (s : Race ι) :
    List (ι × Stage) → Race ι → Prop where
  | nil : Run ρ d s [] s
  | snoc {steps : List (ι × Stage)} {t u : Race ι} {i : ι} (h : Run ρ d s steps t)
      (hi : t.next? ρ d i = some u) : Run ρ d s (steps ++ [(i, t.stage i)]) u

/-- How often an application was to be made. -/
def constructions (steps : List (ι × Stage)) : Nat :=
  steps.countP (·.2.isMaking)

/-! ## 2. Steps -/

section Steps

variable {ρ : Dispatch} {d : DescriptorId} {s t : Race ι} {i j : ι}

@[simp] theorem stage_moved (s : Race ι) (i : ι) (stage : Stage) :
    (s.moved i stage).stage = Function.update s.stage i stage := rfl

@[simp] theorem world_moved (s : Race ι) (i : ι) (stage : Stage) :
    (s.moved i stage).world = s.world := rfl

@[simp] theorem holder_moved (s : Race ι) (i : ι) (stage : Stage) :
    (s.moved i stage).holder = s.holder := rfl

theorem next?_of_work {work : Action Stage} (h : (s.stage i).work? ρ d = some work) :
    s.next? ρ d i = some (s.worked i (EStateM.run work s.world)) := by
  unfold next?
  rw [h]

theorem next?_of_waiting (h : s.stage i = .waiting) (free : s.holder = none) :
    s.next? ρ d i = some { s.moved i .looking with holder := some i } := by
  unfold next?
  rw [h]
  exact if_pos free

theorem next?_of_leaving {fault : Option Fault} (h : s.stage i = .leaving fault) :
    s.next? ρ d i = some { s.moved i (.ended fault) with holder := none } := by
  unfold next?
  rw [h]
  rfl

/-- **What a step is**: a thread does its work, takes the lock, or gives it back. -/
theorem next?_eq_some_cases (h : s.next? ρ d i = some t) :
    (∃ work, (s.stage i).work? ρ d = some work ∧ t = s.worked i (EStateM.run work s.world)) ∨
      (s.stage i = .waiting ∧ s.holder = none ∧
        t = { s.moved i .looking with holder := some i }) ∨
      ∃ fault, s.stage i = .leaving fault ∧
        t = { s.moved i (.ended fault) with holder := none } := by
  cases hwork : (s.stage i).work? ρ d with
  | some work =>
    rw [next?_of_work hwork] at h
    exact .inl ⟨work, rfl, (Option.some.inj h).symm⟩
  | none =>
    right
    cases hstage : s.stage i with
    | waiting =>
      unfold next? at h
      rw [hstage] at h
      by_cases free : s.holder = none
      · exact .inl ⟨rfl, free, (Option.some.inj ((if_pos free).symm.trans h)).symm⟩
      · exact nomatch (if_neg free).symm.trans h
    | leaving fault =>
      rw [next?_of_leaving hstage] at h
      exact .inr ⟨fault, rfl, (Option.some.inj h).symm⟩
    | ended fault =>
      unfold next? at h
      rw [hstage] at h
      exact nomatch h
    | starting | looking | making | absorbing | marking =>
      rw [hstage] at hwork
      exact nomatch hwork

end Steps

/-! ## 3. The lock -/

section Lock

variable {ρ : Dispatch} {d : DescriptorId} {s t : Race ι} {w : World} {i j : ι}
  {steps : List (ι × Stage)}

/-- **Who is inside has the lock**, and nobody else. -/
def Guarded (s : Race ι) : Prop :=
  ∀ i, (s.stage i).isInside = true ↔ s.holder = some i

/-- What a step does to the lock and to how far the thread is. -/
theorem next?_stage (h : s.next? ρ d i = some t) :
    ∃ stage, t.stage = Function.update s.stage i stage ∧ stage.rank < (s.stage i).rank ∧
      ((t.holder = s.holder ∧ stage.isInside = (s.stage i).isInside) ∨
        (s.holder = none ∧ t.holder = some i ∧ stage.isInside = true) ∨
        ((s.stage i).isInside = true ∧ t.holder = none ∧ stage.isInside = false)) := by
  rcases next?_eq_some_cases h with ⟨work, hwork, rfl⟩ | ⟨hstage, free, rfl⟩ | ⟨fault, hstage, rfl⟩
  · cases hrun : EStateM.run work s.world with
    | ok stage w =>
      obtain ⟨inside, less⟩ := Stage.handsBack_work hwork _ _ _ hrun
      exact ⟨stage, rfl, less, .inl ⟨rfl, inside⟩⟩
    | error fault w =>
      obtain ⟨inside, less⟩ := Stage.failing_of_work hwork fault
      exact ⟨_, rfl, less, .inl ⟨rfl, inside⟩⟩
  · refine ⟨.looking, rfl, ?_, .inr (.inl ⟨free, rfl, rfl⟩)⟩
    rw [hstage]
    decide
  · refine ⟨.ended fault, rfl, ?_, .inr (.inr ⟨?_, rfl, rfl⟩)⟩ <;> rw [hstage]
    · exact Nat.zero_lt_one
    · rfl

omit [DecidableEq ι] in
theorem guarded_start (w : World) : (start w : Race ι).Guarded :=
  fun _ => ⟨fun h => (nomatch h), fun h => (nomatch h)⟩

/-- A thread that takes the lock is inside, one that gives it back is not, and nobody else is
    touched. -/
theorem Guarded.next (hs : s.Guarded) (h : s.next? ρ d i = some t) : t.Guarded := by
  obtain ⟨stage, hstage, -, lock⟩ := next?_stage h
  intro j
  rw [hstage]
  by_cases hj : j = i
  · subst hj
    rw [Function.update_self]
    rcases lock with ⟨holder, inside⟩ | ⟨-, holder, inside⟩ | ⟨-, holder, inside⟩
    · rw [holder, inside]
      exact hs j
    · simp [holder, inside]
    · simp [holder, inside]
  · rw [Function.update_of_ne hj]
    rcases lock with ⟨holder, -⟩ | ⟨free, holder, -⟩ | ⟨inside, holder, -⟩
    · rw [holder]
      exact hs j
    · rw [hs j, free, holder]
      simp [Ne.symm hj]
    · rw [hs j, (hs i).1 inside, holder]
      simp [Ne.symm hj]

/-- **In every run, who is inside has the lock.** -/
theorem guarded_of_run (h : Run ρ d (start w) steps s) : s.Guarded := by
  induction h with
  | nil => exact guarded_start w
  | snoc _ hi ih => exact ih.next hi

/-- **As long as a thread is not done, some thread can go on**: the one that has the lock, if there
    is one, and else this one. -/
theorem Guarded.exists_next? (hs : s.Guarded) (hi : (s.stage i).isEnded = false) :
    ∃ j t, s.next? ρ d j = some t := by
  have going {j : ι} (hj : (s.stage j).isEnded = false)
      (free : s.stage j = .waiting → s.holder = none) : ∃ t, s.next? ρ d j = some t := by
    cases hstage : s.stage j with
    | starting | looking | making | absorbing | marking =>
      exact ⟨_, next?_of_work (by rw [hstage]; rfl)⟩
    | waiting => exact ⟨_, next?_of_waiting hstage (free hstage)⟩
    | leaving => exact ⟨_, next?_of_leaving hstage⟩
    | ended =>
      rw [hstage] at hj
      exact nomatch hj
  cases hh : s.holder with
  | none => exact ⟨i, going hi fun _ => hh⟩
  | some j =>
    have inside := (hs j).2 hh
    refine ⟨j, going ?_ fun hw => ?_⟩
    · cases hstage : s.stage j with
      | ended =>
        rw [hstage] at inside
        exact nomatch inside
      | starting | waiting | looking | making | absorbing | marking | leaving => rfl
    · rw [hw] at inside
      exact nomatch inside

/-- **A thread takes seven steps at most**, and fewer the further it has got. -/
theorem steps_add_rank_le (h : Run ρ d (start w) steps s) (i : ι) :
    steps.countP (·.1 = i) + (s.stage i).rank ≤ 7 := by
  induction h with
  | nil => exact Nat.le_refl 7
  | @snoc steps t u j _ hj ih =>
    obtain ⟨stage, hstage, less, -⟩ := next?_stage hj
    rw [List.countP_append, hstage]
    by_cases hji : j = i
    · subst hji
      rw [Function.update_self]
      simp only [List.countP_cons, List.countP_nil]
      simp
      omega
    · rw [Function.update_of_ne (Ne.symm hji)]
      simpa [hji] using ih

end Lock

/-! ## 4. The work of a thread -/

section Work

variable {ρ : Dispatch} {d : DescriptorId} {c : ClassId} {app : Ref} {s t : Race ι}
  {w w₁ w₂ : World} {i : ι}

theorem next?_of_ok {stage : Stage} {work : Action Stage} (h : (s.stage i).work? ρ d = some work)
    (hrun : EStateM.run work s.world = .ok stage w) :
    s.next? ρ d i = some { s.moved i stage with world := w } := by
  rw [next?_of_work h, hrun]
  rfl

/-- A thread that finds the flag set before it has taken the lock is done. -/
theorem next?_starting (hρ : ρ.replaces = false) (h : s.stage i = .starting) :
    s.next? ρ d i =
      some (s.moved i (if (s.world.descriptor d).frozen then .ended none else .waiting)) := by
  refine next?_of_ok (by rw [h]; rfl) ?_
  rw [run_bind_of_ok (run_isFrozen_of_library hρ d s.world)]
  rfl

/-- A thread that finds the flag set once it has taken the lock gives it back. -/
theorem next?_looking_of_frozen (hρ : ρ.replaces = false) (h : s.stage i = .looking)
    (hf : (s.world.descriptor d).frozen = true) :
    s.next? ρ d i = some (s.moved i (.leaving none)) := by
  refine next?_of_ok (by rw [h]; rfl) ?_
  rw [run_bind_of_ok (run_isFrozen_of_library hρ d s.world), hf]
  rfl

/-- One that finds neither the flag set nor an application to wait for is to set the flag. -/
theorem next?_looking_of_settled (hρ : ρ.replaces = false) (h : s.stage i = .looking)
    (hf : (s.world.descriptor d).frozen = false)
    (hs : (s.world.descriptor d).applicationClass = none ∨
      (s.world.descriptor d).application.isSome) :
    s.next? ρ d i = some (s.moved i .marking) := by
  refine next?_of_ok (by rw [h]; rfl) ?_
  rw [run_bind_of_ok (run_isFrozen_of_library hρ d s.world), hf, if_neg Bool.false_ne_true,
    run_bind_of_ok (run_applicationClassOf_of_library hρ d s.world)]
  cases hc : (s.world.descriptor d).applicationClass with
  | none => rfl
  | some c =>
    have ha := hs.resolve_left (by simp [hc])
    rw [if_neg (by simp), run_bind_of_ok (run_hasApplication_of_library hρ d s.world), ha]
    rfl

/-- One that finds the descriptor waiting is to make its application. -/
theorem next?_looking_of_pending (hρ : ρ.replaces = false) (h : s.stage i = .looking)
    (hf : (s.world.descriptor d).frozen = false)
    (hc : (s.world.descriptor d).applicationClass = some c)
    (ha : (s.world.descriptor d).application = none) :
    s.next? ρ d i = some (s.moved i (.making (.thing (.cls c)))) := by
  refine next?_of_ok (by rw [h]; rfl) ?_
  rw [run_bind_of_ok (run_isFrozen_of_library hρ d s.world), hf, if_neg Bool.false_ne_true,
    run_bind_of_ok (run_applicationClassOf_of_library hρ d s.world), hc, Option.elim_some,
    if_neg (by simp), run_bind_of_ok (run_hasApplication_of_library hρ d s.world), ha]
  rfl

/-- What a thread does that makes an application. -/
theorem work?_making (hρ : ρ.replaces = false) (d : DescriptorId) (c : ClassId) :
    (Stage.making (.thing (.cls c))).work? ρ d = some (do
      let app ← instantiate ρ c
      modify (·.changeDescriptor d (·.standFor app))
      return .absorbing app) := by
  unfold Stage.work? makeApplication instantiateFound
  simp only [named_of_library hρ, claim_of_library hρ, pure_bind]

theorem next?_making (hρ : ρ.replaces = false) (h : s.stage i = .making (.thing (.cls c)))
    (hmake : EStateM.run (instantiate ρ c) s.world = .ok app w₁) :
    s.next? ρ d i =
      some { s.moved i (.absorbing app) with
        world := w₁.changeDescriptor d (·.standFor app) } := by
  refine next?_of_ok (by rw [h]; exact work?_making hρ d c) ?_
  rw [run_bind_of_ok hmake, run_bind_of_ok (EStateM.run_modify _ w₁)]
  rfl

/-- What a thread does that absorbs an application. -/
theorem work?_absorbing (hρ : ρ.replaces = false) (d : DescriptorId) (app : Ref) :
    (Stage.absorbing app).work? ρ d = some (do
      absorb ρ d app
      return .marking) := by
  unfold Stage.work? absorbInto
  simp only [orReplaced_of_library hρ, pure_bind, bind_assoc]

theorem next?_absorbing (hρ : ρ.replaces = false) (h : s.stage i = .absorbing app)
    (habsorb : EStateM.run (absorb ρ d app) s.world = .ok ⟨⟩ w₂) :
    s.next? ρ d i = some { s.moved i .marking with world := w₂ } := by
  refine next?_of_ok (by rw [h]; exact work?_absorbing hρ d app) ?_
  rw [run_bind_of_ok habsorb]
  rfl

theorem next?_marking (hρ : ρ.replaces = false) (h : s.stage i = .marking) :
    s.next? ρ d i =
      some { s.moved i (.leaving none) with
        world := s.world.changeDescriptor d Descriptor.marked } := by
  refine next?_of_ok (by rw [h]; rfl) ?_
  rw [run_bind_of_ok (run_markFrozen_of_library hρ d s.world)]
  rfl

/-- A fault that a thread meets inside it takes out with it. -/
theorem next?_of_error {work : Action Stage} {fault : Fault}
    (h : (s.stage i).work? ρ d = some work)
    (hrun : EStateM.run work s.world = .error fault w) :
    s.next? ρ d i = some { s.moved i ((s.stage i).failing fault) with world := w } := by
  rw [next?_of_work h, hrun]
  rfl

end Work

/-! ## 5. One thread on its own -/

section Alone

variable {ρ : Dispatch} {d : DescriptorId} {w w' : World} {i : ι} {stage stage' : Stage}

/-- One thread has the lock, and the others are about to start. -/
def alone (w : World) (i : ι) (stage : Stage) : Race ι :=
  { (start w).moved i stage with holder := some i }

@[simp] theorem stage_alone (w : World) (i : ι) (stage : Stage) :
    (alone w i stage).stage i = stage :=
  Function.update_self ..

theorem moved_alone (w : World) (i : ι) (stage stage' : Stage) :
    (alone w i stage).moved i stage' = alone w i stage' := by
  unfold alone moved
  simp

/-- Where a thread is that has frozen a descriptor, or failed to. -/
def outcome : EStateM.Result Fault World PUnit → Stage
  | .ok _ _ => .ended none
  | .error fault _ => .ended (some fault)

/-- The steps of one thread. -/
abbrev Alone (ρ : Dispatch) (d : DescriptorId) (i : ι) : Race ι → Race ι → Prop :=
  Relation.ReflTransGen fun s t => s.next? ρ d i = some t

/-- A thread gets in. -/
theorem alone_enters (hρ : ρ.replaces = false) (hf : (w.descriptor d).frozen = false) (i : ι) :
    Alone ρ d i (start w) (alone w i .looking) := by
  have starts : (start w).next? ρ d i = some ((start w).moved i .waiting) := by
    rw [next?_starting hρ rfl]
    simp [start, hf]
  have enters : ((start w).moved i .waiting).next? ρ d i = some (alone w i .looking) := by
    rw [next?_of_waiting (by simp) rfl]
    simp [alone, moved]
  exact Relation.ReflTransGen.head starts (Relation.ReflTransGen.single enters)

/-- A thread gets out, with the fault that it has met. -/
theorem alone_leaves (w : World) (i : ι) (fault : Option Fault) :
    Alone ρ d i (alone w i (.leaving fault)) ((start w).moved i (.ended fault)) := by
  refine Relation.ReflTransGen.single ?_
  rw [next?_of_leaving (stage_alone ..), moved_alone]
  rfl

/-- A thread sets the flag and gets out. -/
theorem alone_marks (hρ : ρ.replaces = false) (w : World) (i : ι) :
    Alone ρ d i (alone w i .marking)
      ((start (w.changeDescriptor d Descriptor.marked)).moved i (.ended none)) := by
  refine Relation.ReflTransGen.head ?_ (alone_leaves _ i none)
  rw [next?_marking hρ (stage_alone ..), moved_alone]
  rfl

/-- **One thread on its own freezes the descriptor**, or fails as freezing does. -/
theorem run_alone (hρ : ρ.replaces = false) (d : DescriptorId) (w : World) (i : ι) :
    Alone ρ d i (start w) ((start (left (EStateM.run (freeze ρ d) w))).moved i
      (outcome (EStateM.run (freeze ρ d) w))) := by
  rcases frozen_or_settled_or_pending (w.descriptor d) with hf | ⟨hf, hs⟩ | ⟨hf, ha, c, hc⟩
  · rw [freeze_of_frozen hρ hf]
    refine Relation.ReflTransGen.single ?_
    rw [next?_starting hρ rfl]
    simp [start, hf, outcome]
  · rw [freeze_of_settled hρ hf hs]
    refine ((alone_enters hρ hf i).tail ?_).trans (alone_marks hρ w i)
    rw [next?_looking_of_settled hρ (stage_alone ..) hf hs, moved_alone]
  · have looks : Alone ρ d i (start w) (alone w i (.making (.thing (.cls c)))) := by
      refine (alone_enters hρ hf i).tail ?_
      rw [next?_looking_of_pending hρ (stage_alone ..) hf hc ha, moved_alone]
    rw [freeze_of_pending hρ hf hc ha]
    cases hmake : EStateM.run (instantiate ρ c) w with
    | error fault w₁ =>
      rw [run_bind_of_error hmake]
      refine (looks.tail ?_).trans (alone_leaves w₁ i (some fault))
      rw [next?_of_error ((congrArg _ (stage_alone ..)).trans (work?_making hρ d c))
        (run_bind_of_error hmake), moved_alone, stage_alone]
      rfl
    | ok app w₁ =>
      have makes : Alone ρ d i (start w)
          (alone (w₁.changeDescriptor d (·.standFor app)) i (.absorbing app)) := by
        refine looks.tail ?_
        rw [next?_making hρ (stage_alone ..) hmake, moved_alone]
        rfl
      rw [run_bind_of_ok hmake, run_bind_of_ok (EStateM.run_modify _ w₁)]
      generalize w₁.changeDescriptor d (·.standFor app) = v at makes ⊢
      cases habsorb : EStateM.run (absorb ρ d app) v with
      | error fault w₂ =>
        rw [run_bind_of_error habsorb]
        refine (makes.tail ?_).trans (alone_leaves w₂ i (some fault))
        rw [next?_of_error ((congrArg _ (stage_alone ..)).trans (work?_absorbing hρ d app))
          (run_bind_of_error habsorb), moved_alone, stage_alone]
        rfl
      | ok _ w₂ =>
        rw [run_bind_of_ok habsorb, run_markFrozen_of_library hρ]
        refine (makes.tail ?_).trans (alone_marks hρ w₂ i)
        rw [next?_absorbing hρ (stage_alone ..) habsorb, moved_alone]
        rfl

end Alone

/-! ## 6. Making the application once -/

section Once

variable {ρ : Dispatch} {N : DescriptorId → Prop} {d : DescriptorId} {c : ClassId} {app : Ref}
  {s t : Race ι} {w w₁ w₂ : World} {i k : ι} {n : Nat} {steps : List (ι × Stage)}

/-- **A descriptor that waits for its application and can get it**: making that leads from `w` to
    `w₁`, absorbing it on to `w₂`, and nothing sets the flag on the way. -/
structure Fulfils (ρ : Dispatch) (d : DescriptorId) (c : ClassId) (app : Ref) (w w₁ w₂ : World) :
    Prop where
  unmarked : (w.descriptor d).frozen = false
  waits : (w.descriptor d).applicationClass = some c
  lacks : (w.descriptor d).application = none
  makes : EStateM.run (instantiate ρ c) w = .ok app w₁
  unmarked₁ : ((w₁.changeDescriptor d (·.standFor app)).descriptor d).frozen = false
  absorbs : EStateM.run (absorb ρ d app) (w₁.changeDescriptor d (·.standFor app)) = .ok ⟨⟩ w₂
  unmarked₂ : (w₂.descriptor d).frozen = false
  marked : ((w₂.changeDescriptor d Descriptor.marked).descriptor d).frozen = true

/-- Code that keeps to the public interface does not set the flag of a descriptor that is locked. -/
theorem fulfils_of_civil (hρ : ρ.Civil N (· = d)) (has : w.HasDescriptor d)
    (hf : (w.descriptor d).frozen = false) (hc : (w.descriptor d).applicationClass = some c)
    (ha : (w.descriptor d).application = none)
    (hmake : EStateM.run (instantiate ρ c) w = .ok app w₁)
    (habsorb : EStateM.run (absorb ρ d app) (w₁.changeDescriptor d (·.standFor app)) = .ok ⟨⟩ w₂) :
    Fulfils ρ d c app w w₁ w₂ := by
  have made := (stays_instantiate hρ.respects c).ok hmake
  have has₁ : w₁.HasDescriptor d := made.has has
  have hf₁ : ((w₁.changeDescriptor d (·.standFor app)).descriptor d).frozen = false := by
    rw [World.descriptor_change_self has₁]
    exact ((made.descriptor d has id).locked rfl).1.trans hf
  have locked : ρ.Respects (World.Spares N fun e => World.nobody e ∨ e = d) :=
    hρ.respects.unlock fun e he => he.resolve_left id
  have absorbed := (whileFreezing_absorb locked app).ok habsorb
  obtain ⟨spares, hf₂⟩ := absorbed ((World.hasDescriptor_change ..).2 has₁) hf₁
  have has₂ : w₂.HasDescriptor d := spares.has ((World.hasDescriptor_change ..).2 has₁)
  refine ⟨hf, hc, ha, hmake, hf₁, habsorb, hf₂, ?_⟩
  rw [World.descriptor_change_self has₂]
  rfl

/-- **How far a descriptor is**, and how often an application was to be made for it. While one is
    absorbed, all other threads are outside; and none is done before the flag is set. -/
inductive Moment (d : DescriptorId) (c : ClassId) (app : Ref) (w w₁ w₂ : World) (s : Race ι) :
    Nat → Prop where
  | waiting (world : s.world = w)
    (stages : ∀ j, s.stage j ∈
      [Stage.starting, .waiting, .looking, .making (.thing (.cls c))]) : Moment d c app w w₁ w₂ s 0
  | made (k : ι) (world : s.world = w₁.changeDescriptor d (·.standFor app))
    (inside : s.stage k = .absorbing app)
    (others : ∀ j, j ≠ k → s.stage j ∈ [Stage.starting, .waiting]) : Moment d c app w w₁ w₂ s 1
  | absorbed (k : ι) (world : s.world = w₂) (inside : s.stage k = .marking)
    (others : ∀ j, j ≠ k → s.stage j ∈ [Stage.starting, .waiting]) : Moment d c app w w₁ w₂ s 1
  | marked (world : s.world = w₂.changeDescriptor d Descriptor.marked)
    (stages : ∀ j, s.stage j ∈
      [Stage.starting, .waiting, .looking, .leaving none, .ended none]) : Moment d c app w w₁ w₂ s 1

/-- A thread that takes the lock found it free. -/
theorem next?_waiting (hstage : s.stage i = .waiting) (h : s.next? ρ d i = some t) :
    s.holder = none ∧ t = { s.moved i .looking with holder := some i } := by
  rcases next?_eq_some_cases h with ⟨work, hwork, -⟩ | ⟨-, free, rfl⟩ | ⟨fault, hleaves, -⟩
  · rw [hstage] at hwork
    exact nomatch hwork
  · exact ⟨free, rfl⟩
  · exact nomatch hstage.symm.trans hleaves

/-- While a thread is inside and the flag is not set, another one can only come to wait. -/
theorem Guarded.next?_outside (hs : s.Guarded) (hρ : ρ.replaces = false)
    (hf : (s.world.descriptor d).frozen = false) (hk : (s.stage k).isInside = true)
    (hi : s.stage i ∈ [Stage.starting, .waiting]) (h : s.next? ρ d i = some t) :
    s.stage i = .starting ∧ t = s.moved i .waiting := by
  simp only [List.mem_cons, List.not_mem_nil, or_false] at hi
  rcases hi with hi | hi
  · rw [next?_starting hρ hi, hf] at h
    exact ⟨hi, (Option.some.inj h).symm⟩
  · have free := (next?_waiting hi h).1
    exact nomatch ((hs k).1 hk).symm.trans free

/-- A thread that goes on leaves the others where they are. -/
theorem forall_moved {P : Stage → Prop} {stage : Stage} (hstage : P stage)
    (others : ∀ j, j ≠ i → P (s.stage j)) (j : ι) : P ((s.moved i stage).stage j) :=
  (Function.forall_update_iff s.stage fun _ => P).2 ⟨hstage, others⟩ j

theorem others_moved (others : ∀ j, j ≠ k → s.stage j ∈ [Stage.starting, .waiting]) (j : ι)
    (hj : j ≠ k) : (s.moved i .waiting).stage j ∈ [Stage.starting, .waiting] := by
  by_cases hji : j = i
  · subst hji
    simp
  · rw [stage_moved, Function.update_of_ne hji]
    exact others j hj

/-- **Every step keeps to the moments**, and counts the making of an application. -/
theorem Moment.next (hρ : ρ.replaces = false) (hw : Fulfils ρ d c app w w₁ w₂) (hs : s.Guarded)
    (m : Moment d c app w w₁ w₂ s n) (h : s.next? ρ d i = some t) :
    Moment d c app w w₁ w₂ t (n + if (s.stage i).isMaking then 1 else 0) := by
  cases m with
  | waiting world stages =>
    have hi := stages i
    simp only [List.mem_cons, List.not_mem_nil, or_false] at hi
    rcases hi with hi | hi | hi | hi
    · rw [next?_starting hρ hi, world, hw.unmarked] at h
      obtain rfl := Option.some.inj h
      rw [hi]
      exact .waiting world (forall_moved (by simp) fun j _ => stages j)
    · obtain ⟨-, rfl⟩ := next?_waiting hi h
      rw [hi]
      exact .waiting world (forall_moved (by simp) fun j _ => stages j)
    · rw [next?_looking_of_pending hρ hi (world ▸ hw.unmarked) (world ▸ hw.waits)
        (world ▸ hw.lacks)] at h
      obtain rfl := Option.some.inj h
      rw [hi]
      exact .waiting world (forall_moved (by simp) fun j _ => stages j)
    · rw [next?_making hρ hi (world ▸ hw.makes)] at h
      obtain rfl := Option.some.inj h
      have holder : s.holder = some i := (hs i).1 (by rw [hi]; rfl)
      rw [hi]
      refine .made i rfl (Function.update_self ..) fun j hj => ?_
      -- Nobody else is inside, so that all others are about to start or wait for the lock.
      have outside : (s.stage j).isInside ≠ true := fun inside =>
        hj (Option.some.inj (((hs j).1 inside).symm.trans holder))
      have hj' := stages j
      simp only [List.mem_cons, List.not_mem_nil, or_false] at hj'
      show Function.update s.stage i _ j ∈ _
      rw [Function.update_of_ne hj]
      rcases hj' with hj' | hj' | hj' | hj'
      · simp [hj']
      · simp [hj']
      · exact absurd (by rw [hj']; rfl) outside
      · exact absurd (by rw [hj']; rfl) outside
  | made k world inside others =>
    by_cases hk : i = k
    · subst hk
      rw [next?_absorbing hρ inside (world ▸ hw.absorbs)] at h
      obtain rfl := Option.some.inj h
      rw [inside]
      refine .absorbed i rfl (Function.update_self ..) fun j hj => ?_
      show Function.update s.stage i _ j ∈ _
      rw [Function.update_of_ne hj]
      exact others j hj
    · obtain ⟨hi, rfl⟩ := hs.next?_outside hρ (world ▸ hw.unmarked₁) (by rw [inside]; rfl)
        (others i hk) h
      rw [hi]
      exact .made k world ((Function.update_of_ne (Ne.symm hk) ..).trans inside)
        (others_moved others)
  | absorbed k world inside others =>
    by_cases hk : i = k
    · subst hk
      rw [next?_marking hρ inside, world] at h
      obtain rfl := Option.some.inj h
      rw [inside]
      refine .marked rfl (forall_moved (by simp) fun j hj => ?_)
      exact List.mem_append_left [Stage.looking, .leaving none, .ended none] (others j hj)
    · obtain ⟨hi, rfl⟩ := hs.next?_outside hρ (world ▸ hw.unmarked₂) (by rw [inside]; rfl)
        (others i hk) h
      rw [hi]
      exact .absorbed k world ((Function.update_of_ne (Ne.symm hk) ..).trans inside)
        (others_moved others)
  | marked world stages =>
    have hi := stages i
    simp only [List.mem_cons, List.not_mem_nil, or_false] at hi
    rcases hi with hi | hi | hi | hi | hi
    · rw [next?_starting hρ hi, world, hw.marked] at h
      obtain rfl := Option.some.inj h
      rw [hi]
      exact .marked world (forall_moved (by simp) fun j _ => stages j)
    · obtain ⟨-, rfl⟩ := next?_waiting hi h
      rw [hi]
      exact .marked world (forall_moved (by simp) fun j _ => stages j)
    · rw [next?_looking_of_frozen hρ hi (world ▸ hw.marked)] at h
      obtain rfl := Option.some.inj h
      rw [hi]
      exact .marked world (forall_moved (by simp) fun j _ => stages j)
    · rw [next?_of_leaving hi] at h
      obtain rfl := Option.some.inj h
      rw [hi]
      exact .marked world (forall_moved (by simp) fun j _ => stages j)
    · rcases next?_eq_some_cases h with ⟨work, hwork, -⟩ | ⟨hstage, -⟩ | ⟨fault, hstage, -⟩
      · rw [hi] at hwork
        exact nomatch hwork
      · exact nomatch hi.symm.trans hstage
      · exact nomatch hi.symm.trans hstage

/-- **In every run, the descriptor is at some moment.** -/
theorem moment_of_run (hρ : ρ.replaces = false) (hw : Fulfils ρ d c app w w₁ w₂)
    (h : Run ρ d (start w) steps s) : Moment d c app w w₁ w₂ s (constructions steps) := by
  induction h with
  | nil => exact .waiting rfl fun _ => by simp [start]
  | @snoc steps t u i run hi ih =>
    have next := ih.next hρ hw (guarded_of_run run) hi
    have counted : constructions (steps ++ [(i, t.stage i)]) =
        constructions steps + if (t.stage i).isMaking then 1 else 0 := by
      simp [constructions, List.countP_cons]
    rwa [counted]

omit [DecidableEq ι] in
theorem Moment.constructions_le (m : Moment d c app w w₁ w₂ s n) : n ≤ 1 := by
  cases m <;> omega

/-- Who is done found the flag set, and the application absorbed before. -/
theorem Moment.of_ended {fault : Option Fault} (m : Moment d c app w w₁ w₂ s n)
    (h : s.stage i = .ended fault) :
    fault = none ∧ n = 1 ∧ s.world = w₂.changeDescriptor d Descriptor.marked := by
  have outside (k : ι) (inside : (s.stage k).isInside = true)
      (others : ∀ j, j ≠ k → s.stage j ∈ [Stage.starting, .waiting]) : False := by
    by_cases hk : i = k
    · subst hk
      rw [h] at inside
      exact nomatch inside
    · have := others i hk
      simp [h] at this
  cases m with
  | waiting world stages =>
    have := stages i
    simp [h] at this
  | made k world inside others => exact (outside k (by rw [inside]; rfl) others).elim
  | absorbed k world inside others => exact (outside k (by rw [inside]; rfl) others).elim
  | marked world stages =>
    have := stages i
    simp only [h, List.mem_cons, List.not_mem_nil, or_false, reduceCtorEq, false_or,
      Stage.ended.injEq] at this
    exact ⟨this, rfl, world⟩

/-- A thread that meets a fault inside gives back the lock before it raises it. -/
theorem gives_back {work : Action Stage} {fault : Fault}
    (hi : (s.stage i).isInside = true) (hwork : (s.stage i).work? ρ d = some work)
    (hrun : EStateM.run work s.world = .error fault w) :
    ∃ t u, s.next? ρ d i = some t ∧ t.next? ρ d i = some u ∧ u.stage i = .ended (some fault) ∧
      u.holder = none ∧ u.world = w := by
  have fails : (s.stage i).failing fault = .leaving (some fault) := by
    cases hstage : s.stage i with
    | looking | making | absorbing | marking | leaving => rfl
    | starting | waiting | ended =>
      rw [hstage] at hi
      exact nomatch hi
  refine ⟨_, _, next?_of_error hwork hrun, next?_of_leaving ?_,
    Function.update_self .., rfl, rfl⟩
  exact (Function.update_self ..).trans fails

/-- **Threads that freeze one descriptor keep each other out**, in any order of their steps. If the
    application can be made and absorbed, it is made once, and who is done leaves what a single
    freeze leaves. If not, who meets the fault gives back the lock. There is always a thread that
    can go on, and each is done after seven steps. -/
theorem Run.freezes_once (has : w.HasDescriptor d) (hf : (w.descriptor d).frozen = false)
    (hc : (w.descriptor d).applicationClass = some c)
    (ha : (w.descriptor d).application = none) (run : Run ρ d (start w) steps s) :
    (∀ i j, (s.stage i).isInside = true → (s.stage j).isInside = true → i = j) ∧
      (∀ N app w₁ w₂, ρ.Civil N (· = d) → EStateM.run (instantiate ρ c) w = .ok app w₁ →
        EStateM.run (absorb ρ d app) (w₁.changeDescriptor d (·.standFor app)) = .ok ⟨⟩ w₂ →
        constructions steps ≤ 1 ∧
          ∀ i fault, s.stage i = .ended fault →
            fault = none ∧ constructions steps = 1 ∧ (s.world.descriptor d).frozen = true ∧
              s.world = w₂.changeDescriptor d Descriptor.marked ∧
              EStateM.run (freeze ρ d) w = .ok ⟨⟩ s.world) ∧
      (∀ i work fault v, (s.stage i).isInside = true → (s.stage i).work? ρ d = some work →
        EStateM.run work s.world = .error fault v →
        ∃ t u, s.next? ρ d i = some t ∧ t.next? ρ d i = some u ∧
          u.stage i = .ended (some fault) ∧ u.holder = none ∧ u.world = v) ∧
      (∀ i fault, s.stage i = .ended fault → s.holder ≠ some i) ∧
      (∀ i, (s.stage i).isEnded = false → ∃ j t, s.next? ρ d j = some t) ∧
      ∀ i, steps.countP (·.1 = i) ≤ 7 := by
  have guarded := guarded_of_run run
  refine ⟨fun i j hi hj => ?_, fun N app w₁ w₂ hρ hmake habsorb => ?_,
    fun i work fault v hi hwork hrun => ?_, fun i fault hi holder => ?_,
    fun i hi => guarded.exists_next? hi, fun i => ?_⟩
  · exact Option.some.inj (((guarded i).1 hi).symm.trans ((guarded j).1 hj))
  · have fulfils := fulfils_of_civil hρ has hf hc ha hmake habsorb
    have moment := moment_of_run hρ.library fulfils run
    refine ⟨moment.constructions_le, fun i fault hi => ?_⟩
    obtain ⟨hfault, once, world⟩ := moment.of_ended hi
    refine ⟨hfault, once, world ▸ fulfils.marked, world, ?_⟩
    exact (run_freeze_pending_eq_ok_iff hρ.library hf hc ha).2
      ⟨app, w₁, w₂, hmake, habsorb, world⟩
  · exact gives_back hi hwork hrun
  · have inside := (guarded i).2 holder
    rw [hi] at inside
    exact nomatch inside
  · exact Nat.le_of_add_right_le (steps_add_rank_le run i)

open World (shopStore afterFreezing euros) in
/-- Two threads freeze a descriptor for the shop: both find the flag not set, and the second one
    gets in when the first one is out. -/
theorem two_threads_freeze :
    ∃ (steps : List (Bool × Stage)) (s : Race Bool),
      Run Dispatch.library ⟨0⟩ (start (afterFreezing euros 0)) steps s ∧
        s.stage true = .ended none ∧ s.stage false = .ended none ∧ constructions steps = 1 ∧
        EStateM.run (freeze Dispatch.library ⟨0⟩) (afterFreezing euros 0) = .ok ⟨⟩ s.world := by
  have nobody : Run Dispatch.library ⟨0⟩ (start (afterFreezing euros 0) : Race Bool) [] _ := .nil
  have both := (nobody.snoc (i := true) rfl).snoc (i := false) rfl
  have inside := ((both.snoc (i := true) rfl).snoc (i := true) rfl).snoc (i := true) rfl
  have first := ((inside.snoc (i := true) rfl).snoc (i := true) rfl).snoc (i := true) rfl
  have run := ((first.snoc (i := false) rfl).snoc (i := false) rfl).snoc (i := false) rfl
  have has : (afterFreezing euros 0).HasDescriptor ⟨0⟩ := Nat.zero_lt_one
  obtain ⟨-, once, -⟩ := Run.freezes_once (c := World.shopApp) has rfl rfl rfl run
  obtain ⟨-, ended⟩ := once (fun _ => False) _ _ _ Dispatch.discreet_library.civil rfl rfl
  obtain ⟨-, made, -, -, same⟩ := ended true none rfl
  exact ⟨_, _, run, rfl, rfl, made, same⟩

end Once

end Race

end AppMount
