import AppMount.Proofs.Adapting
import AppMount.Proofs.Signatures

/-!
# Classes that are called without arguments

What a call of a class without arguments comes to. It fails for what is in its way, and nothing is
run then; or else it fails inside the constructors of the class only. And no class is refused for
its parameters of which the call makes an instance.

* `World.Entered`: that a call got as far as the body of a constructor method;
* `run_construct_of_obstacle`: a call fails for its obstacle; `entered_of_construct`: without one it
  fails inside a constructor only;
* `accepted_of_construct`: no class is refused that makes an instance of itself;
  `run_instantiate_of_accepted`: the check before the call changes nothing.
-/

namespace AppMount

open AppMount.Action
open World (Frame nobody)

/-! ## 1. Inside a constructor -/

namespace World

/-- That nothing is taken from a store, and that what was noted stays. -/
def Recalls (_ : DescriptorId → Prop) (w w' : World) : Prop :=
  (∀ r, w.Stores r → w'.Stores r) ∧ w.calls <+: w'.calls

instance : Frame Recalls where
  refl w := ⟨fun _ hr => hr, List.prefix_rfl⟩
  trans h h' _ := ⟨fun r hr => h'.1 r (h.1 r hr), h.2.trans h'.2⟩
  step h := ⟨fun _ hr => h.keeps.stores hr, h.keeps.calls⟩
  stores h _ hr := h.1 _ hr
  notes {_ w w'} h _ := by
    refine ⟨fun r hr => ?_, h.2⟩
    cases r <;> exact hr

/-- **That a call of a class got as far as the body of one of its constructor methods.** That is
    noted, except where the body makes a bare instance of a class below a primitive one, which it
    must not. -/
inductive Entered (w : World) (c : ClassId) (w' : World) : Prop where
  | noted {member : String} {k : ClassId} {x : Member} (constructor : member ∈ constructors)
    (found : w.member? c member = some (k, x)) (calls : w.calls ++ [⟨.cls k, member⟩] <+: w'.calls)
  | plain {k : ClassId} {m : Method} {params : List Parameter}
    (found : w.member? c ClassDef.allocatorMember = some (k, .method m))
    (code : m.code = .make params) (primitive : (w.primitive? c).isSome = true)

/-- Getting that far is a matter of what was noted. -/
theorem Entered.congr {w w' w'' : World} {c : ClassId} (h : w.Entered c w')
    (hcalls : w''.calls = w'.calls) : w.Entered c w'' := by
  cases h with
  | noted constructor found calls => exact .noted constructor found (hcalls ▸ calls)
  | plain found code primitive => exact .plain found code primitive

/-- The nearest initializer in a lineage. -/
def initializerIn (w : World) (ks : List ClassId) : Option (ClassId × Member) :=
  ks.findSome? fun k => ((w.classDef k).member? ClassDef.initializerMember).map (k, ·)

theorem initializerIn_cons (w : World) (k : ClassId) (ks : List ClassId) :
    w.initializerIn (k :: ks) =
      (((w.classDef k).member? ClassDef.initializerMember).map (k, ·)).or (w.initializerIn ks) := by
  unfold initializerIn
  rw [List.findSome?_cons]
  cases (w.classDef k).member? ClassDef.initializerMember <;> rfl

/-- Stores with the same classes have the same initializers. -/
theorem initializerIn_lineage {w w' : World} (h : w'.classes = w.classes) (c : ClassId) :
    w'.initializerIn (w'.lineage c) = w.member? c ClassDef.initializerMember := by
  unfold initializerIn lineage member? nearest lineage classDef
  rw [h]

end World

/-! ## 2. Initializers -/

namespace Action

variable {ρ : Dispatch} {w w' : World} {c : ClassId} {self : Ref} {fault : Fault}

theorem run_fit_empty (m : Method) (params : List Parameter) (w : World) :
    EStateM.run (fit m params {}) w =
      match callFault? params 0 [] with
      | some fault => .error (.call m.callee fault) w
      | none => .ok ⟨⟩ w := by
  show EStateM.run (fitCall m.callee params 0 []) w = _
  unfold fitCall
  cases callFault? params 0 [] <;> rfl

/-- Parameters that a method is bound as let a call without arguments through, or not. -/
theorem run_fit_boundAs {m : Method} {member : String} {params : List Parameter}
    (h : m.boundAs member = params) (w : World) :
    EStateM.run (fit m params {}) w =
      match (Member.method m).bindingFault? member with
      | some fault => .error fault w
      | none => .ok ⟨⟩ w := by
  subst h
  rw [run_fit_empty, Member.bindingFault?_method]
  cases callFault? (m.boundAs member) 0 [] <;> rfl

theorem run_checkNoOpenMethods (c : ClassId) (w : World) :
    EStateM.run (checkNoOpenMethods c) w =
      match w.openFault? c with
      | some fault => .error fault w
      | none => .ok ⟨⟩ w := by
  unfold checkNoOpenMethods World.openFault?
  rw [run_bind_of_ok (EStateM.run_get w)]
  dsimp only
  cases (w.classDef c).openNames with
  | none => rfl
  | some names =>
    dsimp only [Option.bind_some]
    split
    · rfl
    · cases openMethodsOf names with
      | error fault => rfl
      | ok methods => cases methods <;> rfl

/-- **A call that does not fit the nearest initializer** fails for that. -/
theorem run_runInitializers_of_fault {outermost : Bool} {ks : List ClassId} {k : ClassId}
    {x : Member} (hx : w.initializerIn ks = some (k, x))
    (hfault : x.bindingFault? ClassDef.initializerMember = some fault) :
    EStateM.run (runInitializers ρ self outermost ks {}) w = .error fault w := by
  induction ks with
  | nil => cases hx
  | cons k' ks ih =>
    rw [World.initializerIn_cons] at hx
    unfold runInitializers
    rw [run_bind_of_ok (EStateM.run_get w)]
    cases hown : (w.classDef k').member? ClassDef.initializerMember with
    | none =>
      rw [hown] at hx
      exact ih hx
    | some x' =>
      rw [hown] at hx
      obtain ⟨rfl, rfl⟩ := Prod.mk.inj (Option.some.inj hx)
      cases x' with
      | computed | field | value =>
        obtain rfl := Option.some.inj hfault
        rfl
      | method m =>
        dsimp only
        have fit_eq {params : List Parameter}
            (hparams : m.boundAs ClassDef.initializerMember = params) :
            EStateM.run (fit m params {}) w = .error fault w := by
          rw [run_fit_boundAs hparams, hfault]
        cases hcode : m.code with
        | hidden | own =>
          have none : (Member.method m).bindingFault? ClassDef.initializerMember = none := by
            simp only [Member.bindingFault?, Method.boundAs, hcode]
            rfl
          cases none.symm.trans hfault
        | blank | empty => exact fit_eq (by simp [Method.boundAs, hcode])
        | make params => exact fit_eq (by simp [Method.boundAs, hcode])
        | answer a => exact run_bind_of_error (fit_eq (by simp [Method.boundAs, hcode]))
        | setUp code => exact run_bind_of_error (fit_eq (by simp [Method.boundAs, hcode]))

/-- **Initializers that take a call without arguments fail only once one of them was entered.** -/
theorem noted_of_runInitializers (hρ : ρ.Respects World.Recalls) {outermost : Bool}
    {ks : List ClassId}
    (binds : ∀ k x, w.initializerIn ks = some (k, x) →
      x.bindingFault? ClassDef.initializerMember = none)
    (h : EStateM.run (runInitializers ρ self outermost ks {}) w = .error fault w') :
    ∃ k x, w.initializerIn ks = some (k, x) ∧
      w.calls ++ [⟨.cls k, ClassDef.initializerMember⟩] <+: w'.calls := by
  -- The induction is on the lineage: the first class with an initializer is the one entered, and
  -- all that its body calls can only note more.
  induction ks with
  | nil => cases h
  | cons k' ks ih =>
    simp only [World.initializerIn_cons] at binds ⊢
    unfold runInitializers at h
    rw [run_bind_of_ok (EStateM.run_get w)] at h
    cases hown : (w.classDef k').member? ClassDef.initializerMember with
    | none =>
      rw [hown] at h binds
      exact ih binds h
    | some x' =>
      rw [hown] at h binds
      have binds' := binds k' x' rfl
      refine ⟨k', x', rfl, ?_⟩
      have noted {x : Action Unit} (hx : Stays World.Recalls self.only x)
          (h : EStateM.run (note (.cls k') ClassDef.initializerMember >>= fun _ => x) w =
            .error fault w') :
          w.calls ++ [⟨.cls k', ClassDef.initializerMember⟩] <+: w'.calls := by
        unfold note at h
        rw [run_bind_of_ok (EStateM.run_modify _ w)] at h
        exact (hx.error h).2
      cases x' with
      | computed | field | value => cases binds'
      | method m =>
        dsimp only at h
        have fits {params : List Parameter}
            (hparams : m.boundAs ClassDef.initializerMember = params) :
            EStateM.run (fit m params {}) w = .ok ⟨⟩ w := by
          rw [run_fit_boundAs hparams, binds']
        cases hcode : m.code with
        | hidden =>
          rw [hcode] at h
          cases h
        | blank | empty =>
          rw [hcode] at h
          cases (fits (by simp [Method.boundAs, hcode])).symm.trans h
        | make params =>
          rw [hcode] at h
          cases (fits (by simp [Method.boundAs, hcode])).symm.trans h
        | own =>
          rw [hcode] at h
          cases self with
          | descriptor d =>
            cases (run_fillDescriptor_of_library hρ.library d rfl w).symm.trans h
          | none | cls | object | datum => cases h
        | answer a =>
          rw [hcode] at h
          rw [run_bind_of_ok (fits (by simp [Method.boundAs, hcode]))] at h
          exact noted (stays_runAnswered hρ outermost a).of_nobody h
        | setUp code =>
          rw [hcode] at h
          rw [run_bind_of_ok (fits (by simp [Method.boundAs, hcode]))] at h
          exact noted (stays_setUpBody hρ self code (stays_runInitializers hρ self false ks)) h

/-! ## 3. The bare instance -/

theorem run_convert_empty (ρ : Dispatch) (c p : ClassId) (w : World) :
    ∃ made, EStateM.run (convert ρ c p {}) w = .ok made w := by
  unfold convert
  rw [run_bind_of_ok (EStateM.run_get w)]
  split
  · exact ⟨_, rfl⟩
  · split
    · exact ⟨_, rfl⟩
    · split
      · split <;> exact ⟨_, rfl⟩
      · exact ⟨_, rfl⟩

/-- **A bare instance is always made**, and nothing is noted then. -/
theorem run_allocate_empty (hρ : ρ.replaces = false) (c : ClassId) (w : World) :
    ∃ self w', EStateM.run (allocate ρ c {}) w = .ok self w' ∧ w.Adds w' ∧
      w'.calls = w.calls ∧ w'.log = w.log := by
  unfold allocate
  rw [run_bind_of_ok (EStateM.run_get w)]
  cases w.primitive? c with
  | none =>
    dsimp only
    split
    · rw [hρ, if_neg Bool.false_ne_true]
      exact ⟨_, _, rfl, .newDescriptor w _, rfl, rfl⟩
    · exact ⟨_, _, rfl, .newThing w _, rfl, rfl⟩
  | some p =>
    obtain ⟨made, hmade⟩ := run_convert_empty ρ c p w
    dsimp only
    unfold allocateValue
    rw [run_bind_of_ok hmade]
    show ∃ self w', EStateM.run (allocateValue.keepValue c p made) w = .ok self w' ∧ _
    unfold allocateValue.keepValue
    split
    · exact ⟨_, _, rfl, .refl w, rfl, rfl⟩
    · exact ⟨_, _, rfl, .newThing w _, rfl, rfl⟩

/-! ## 4. The whole call -/

theorem member?_of_constructorFault? {member : String}
    (h : w.constructorFault? c member = some fault) :
    ∃ k x, w.member? c member = some (k, x) ∧ x.bindingFault? member = some fault := by
  obtain ⟨⟨k, x⟩, hx, hfault⟩ := Option.bind_eq_some_iff.1 h
  exact ⟨k, x, hx, hfault⟩

theorem bindingFault?_of_constructorFault? {member : String} {k : ClassId} {x : Member}
    (h : w.constructorFault? c member = none) (hx : w.member? c member = some (k, x)) :
    x.bindingFault? member = none := by
  unfold World.constructorFault? at h
  rwa [hx] at h

/-- A class of which an instance is made makes it in the ordinary way, once it takes the call. -/
theorem run_construct_of_makesInstances (ρ : Dispatch) (makes : w.makesInstances c = true)
    (binds : w.constructorFault? c ClassDef.allocatorMember = none) :
    EStateM.run (construct ρ c {}) w = EStateM.run (discarding (makeInstance ρ c {})) w := by
  unfold construct
  rw [run_discarding, run_discarding, run_bind_of_ok (EStateM.run_get w)]
  unfold World.makesInstances at makes
  cases halloc : w.member? c ClassDef.allocatorMember with
  | none =>
    have bare : EStateM.run (fitBare c {}) w = .ok ⟨⟩ w := rfl
    dsimp only
    rw [run_bind_of_ok bare]
  | some e =>
    obtain ⟨k, x⟩ := e
    rw [halloc] at makes
    cases x with
    | computed | field | value => cases makes
    | method m =>
      have binds' := bindingFault?_of_constructorFault? binds halloc
      dsimp only at makes ⊢
      unfold makeBy
      cases hcode : m.code with
      | blank | empty | own | hidden | answer | setUp =>
        rw [hcode] at makes
        cases makes
      | make params =>
        rw [hcode] at makes
        have bound : m.boundAs ClassDef.allocatorMember = params := by
          simp [Method.boundAs, hcode]
        have fits : EStateM.run (fit m params {}) w = .ok ⟨⟩ w := by
          rw [run_fit_boundAs bound, binds']
        have checked : EStateM.run (checkPlain c) w = .ok ⟨⟩ w := by
          unfold checkPlain
          rw [run_bind_of_ok (EStateM.run_get w), Option.isNone_iff_eq_none.1 makes]
          rfl
        dsimp only
        rw [run_bind_of_ok fits, run_bind_of_ok checked]

/-- A method for bare instances that does not take the call is not run. -/
theorem run_makeBy_of_fault {k : ClassId} {m : Method}
    (h : (Member.method m).bindingFault? ClassDef.allocatorMember = some fault) :
    EStateM.run (makeBy ρ c k m {}) w = .error fault w := by
  have unfit {params : List Parameter} {next : PUnit → Action Ref}
      (hparams : m.boundAs ClassDef.allocatorMember = params) :
      EStateM.run (fit m params {} >>= next) w = .error fault w := by
    refine run_bind_of_error ?_
    rw [run_fit_boundAs hparams, h]
  unfold makeBy
  cases hcode : m.code with
  | blank | empty | own | hidden | answer | make => exact unfit (by simp [Method.boundAs, hcode])
  | setUp =>
    exact unfit (by
      simp [Method.boundAs, hcode, ClassDef.allocatorMember, ClassDef.initializerMember])

/-- **A class that leaves methods open, or whose initializer does not take the call**, makes no
    instance, and nothing is noted. -/
theorem run_makeInstance_of_fault (hρ : ρ.replaces = false)
    (h : (w.openFault? c).or (w.constructorFault? c ClassDef.initializerMember) = some fault) :
    ∃ w', EStateM.run (makeInstance ρ c {}) w = .error fault w' ∧ w.Adds w' ∧
      w'.calls = w.calls ∧ w'.log = w.log := by
  have checked := run_checkNoOpenMethods c w
  unfold makeInstance
  cases hopen : w.openFault? c with
  | some fault' =>
    rw [hopen] at h checked
    obtain rfl : fault' = fault := Option.some.inj h
    exact ⟨w, run_bind_of_error checked, .refl w, rfl, rfl⟩
  | none =>
    rw [hopen] at h checked
    obtain ⟨k, x, hx, hfault⟩ := member?_of_constructorFault? h
    obtain ⟨self, w₁, halloc, additions, hcalls, hlog⟩ := run_allocate_empty hρ c w
    have refused : EStateM.run (runInitializers ρ self true (w₁.lineage c) {}) w₁ =
        .error fault w₁ :=
      run_runInitializers_of_fault
        ((World.initializerIn_lineage additions.classes c).trans hx) hfault
    -- The bare instance was made by then, so that the store is not the same.
    refine ⟨w₁, ?_, additions, hcalls, hlog⟩
    rw [run_bind_of_ok checked, run_bind_of_ok halloc, run_bind_of_ok (EStateM.run_get w₁),
      run_bind_of_error refused]

/-- **A class that cannot be called without arguments fails for its obstacle**, and nothing else
    happens. -/
theorem run_construct_of_obstacle (hρ : ρ.replaces = false) (h : w.obstacle? c = some fault) :
    EStateM.run (construct ρ c {}) w = .error fault w := by
  unfold World.obstacle? at h
  cases binds : w.constructorFault? c ClassDef.allocatorMember with
  | some fault' =>
    rw [binds] at h
    obtain rfl : fault' = fault := Option.some.inj h
    obtain ⟨k, x, halloc, hfault⟩ := member?_of_constructorFault? binds
    unfold construct
    refine run_discarding_of_additions ?_ (.refl w) rfl rfl
    rw [run_bind_of_ok (EStateM.run_get w), halloc]
    cases x with
    | computed | field | value =>
      obtain rfl := Option.some.inj hfault
      rfl
    | method m => exact run_makeBy_of_fault hfault
  | none =>
    rw [binds, Option.none_or] at h
    split at h
    · rename_i makes
      obtain ⟨w₁, hrun, additions, hcalls, hlog⟩ := run_makeInstance_of_fault hρ h
      rw [run_construct_of_makesInstances ρ makes binds]
      exact run_discarding_of_additions hrun additions hcalls hlog
    · cases h

/-- **A class that a call can be bound to makes its instances in its own code**, or fails there. -/
theorem entered_of_makeInstance (hρ : ρ.Respects World.Recalls) (closed : w.openFault? c = none)
    (binds : w.constructorFault? c ClassDef.initializerMember = none)
    (h : EStateM.run (makeInstance ρ c {}) w = .error fault w') : w.Entered c w' := by
  have checked := run_checkNoOpenMethods c w
  rw [closed] at checked
  obtain ⟨self, w₁, halloc, additions, hcalls, -⟩ := run_allocate_empty hρ.library c w
  unfold makeInstance at h
  rw [run_bind_of_ok checked, run_bind_of_ok halloc, run_bind_of_ok (EStateM.run_get w₁)] at h
  have same := World.initializerIn_lineage additions.classes c
  rcases run_bind_eq_error_iff.1 h with h | ⟨⟨⟩, w₂, -, h⟩
  · obtain ⟨k, x, hx, hnoted⟩ := noted_of_runInitializers hρ (fun k x hx =>
      bindingFault?_of_constructorFault? binds (same.symm.trans hx)) h
    rw [hcalls] at hnoted
    exact .noted (by simp [World.constructors]) (same.symm.trans hx) hnoted
  · cases h

/-- A method for bare instances that takes the call fails in its own code, unless it goes on to make
    an instance. -/
theorem entered_of_makeBy (hρ : ρ.Respects World.Recalls) {k : ClassId} {m : Method}
    (halloc : w.member? c ClassDef.allocatorMember = some (k, .method m))
    (fits : (Member.method m).bindingFault? ClassDef.allocatorMember = none)
    (makes : w.makesInstances c = false)
    (h : EStateM.run (makeBy ρ c k m {}) w = .error fault w') : w.Entered c w' := by
  have fit_ok {params : List Parameter}
      (hparams : m.boundAs ClassDef.allocatorMember = params) :
      EStateM.run (fit m params {}) w = .ok ⟨⟩ w := by
    rw [run_fit_boundAs hparams, fits]
  unfold World.makesInstances at makes
  rw [halloc] at makes
  unfold makeBy at h
  cases hcode : m.code with
  | blank | empty | own | hidden | setUp =>
    rw [hcode] at h
    rw [run_bind_of_ok (fit_ok (by simp [Method.boundAs, hcode, ClassDef.allocatorMember,
      ClassDef.initializerMember]))] at h
    cases h
  | make params =>
    simp only [hcode] at makes
    exact .plain halloc hcode (by simpa using makes)
  | answer a =>
    rw [hcode] at h
    rw [run_bind_of_ok (fit_ok (by simp [Method.boundAs, hcode]))] at h
    unfold note at h
    rw [run_bind_of_ok (EStateM.run_modify _ w)] at h
    have answered : Stays World.Recalls nobody (ρ.run a >>= keepOffer) :=
      (hρ.run a).bind fun offer => stays_keepOffer offer
    exact .noted (by simp [World.constructors]) halloc (answered.error h).2

/-- **A class that a call can be bound to fails inside its own code only.** -/
theorem entered_of_construct (hρ : ρ.Respects World.Recalls) (binds : w.Binds c)
    (h : EStateM.run (construct ρ c {}) w = .error fault w') : w.Entered c w' := by
  cases makes : w.makesInstances c with
  | true =>
    rw [run_construct_of_makesInstances ρ makes binds.allocator] at h
    obtain ⟨w₁, hrun, hcalls, -⟩ := run_discarding_eq_error h
    exact (entered_of_makeInstance hρ (binds.closed makes) (binds.initializer makes) hrun).congr
      hcalls
  | false =>
    unfold construct at h
    obtain ⟨w₁, hrun, hcalls, -⟩ := run_discarding_eq_error h
    rw [run_bind_of_ok (EStateM.run_get w)] at hrun
    cases halloc : w.member? c ClassDef.allocatorMember with
    | none =>
      have instances : w.makesInstances c = true := by
        unfold World.makesInstances
        rw [halloc]
      exact nomatch instances.symm.trans makes
    | some e =>
      obtain ⟨k, x⟩ := e
      have fits := bindingFault?_of_constructorFault? binds.allocator halloc
      rw [halloc] at hrun
      cases x with
      | computed | field | value => cases fits
      | method m => exact (entered_of_makeBy hρ halloc fits makes hrun).congr hcalls

end Action

/-! ## 5. Classes that make instances of themselves -/

namespace Action

variable {ρ : Dispatch} {w w' : World} {c : ClassId} {app : Ref}

/-- What was handed back and is kept has no class of the store, unless it is a primitive one. -/
theorem isPrimitive_of_keepOffer {offer : Offer}
    (h : EStateM.run (keepOffer offer) w = .ok app w') (happ : w'.classOf? app = some c) :
    c ∈ [ClassId.whole, ClassId.text, ClassId.mapping] := by
  have of_collection {x : Collection}
      (h : EStateM.run (newThing (.collection x)) w = .ok app w') : False := by
    have unclassed : (w.newThing (.collection x)).2.classOf?
        (.object (w.newThing (.collection x)).1) = none := by
      simp [World.classOf?, World.content?, World.thing?, World.newThing]
    have made : EStateM.run (newThing (.collection x)) w =
        .ok (.object (w.newThing (.collection x)).1) (w.newThing (.collection x)).2 := rfl
    obtain ⟨rfl, rfl⟩ := EStateM.Result.ok.inj (made.symm.trans h)
    cases unclassed.symm.trans happ
  cases offer with
  | datum d place =>
    cases h
    cases d with
    | null | truth | decimal | list => cases happ
    | whole | text | mapping =>
      obtain rfl := Option.some.inj happ
      decide
  | list | set | stream | entries => exact (of_collection h).elim

/-- **What makes an instance of the class that it is called for**, no primitive one, makes it in the
    ordinary way. -/
theorem makesInstances_of_construct
    (unprimitive : c ∉ [ClassId.whole, ClassId.text, ClassId.mapping])
    (h : EStateM.run (construct ρ c {}) w = .ok app w') (happ : w'.classOf? app = some c) :
    w.makesInstances c = true := by
  unfold construct at h
  rw [run_discarding, run_bind_of_ok (EStateM.run_get w)] at h
  unfold World.makesInstances
  cases halloc : w.member? c ClassDef.allocatorMember with
  | none => rfl
  | some e =>
    obtain ⟨k, x⟩ := e
    rw [halloc] at h
    split at h
    · rename_i app' w₁ hrun
      cases h
      cases x with
      | computed | field | value => cases hrun
      | method m =>
        dsimp only at hrun ⊢
        unfold makeBy at hrun
        cases hcode : m.code with
        | make params =>
          rw [hcode] at hrun
          obtain ⟨⟨⟩, hrun⟩ := (reads_fit m params {}).run_bind_eq_ok hrun
          obtain ⟨⟨⟩, w₂, hplain, -⟩ := run_bind_eq_ok_iff.1 hrun
          unfold checkPlain at hplain
          rw [run_bind_of_ok (EStateM.run_get w)] at hplain
          dsimp only
          cases hp : w.primitive? c with
          | none => rfl
          | some p =>
            rw [hp] at hplain
            cases hplain
        | answer a =>
          rw [hcode] at hrun
          obtain ⟨⟨⟩, hrun⟩ := (reads_fit m [] {}).run_bind_eq_ok hrun
          obtain ⟨⟨⟩, w₂, -, hrun⟩ := run_bind_eq_ok_iff.1 hrun
          obtain ⟨offer, w₃, -, hrun⟩ := run_bind_eq_ok_iff.1 hrun
          exact absurd (isPrimitive_of_keepOffer hrun happ) unprimitive
        | blank | empty | own | hidden | setUp =>
          rw [hcode] at hrun
          obtain ⟨⟨⟩, hrun⟩ := (reads_fit m [] {}).run_bind_eq_ok hrun
          cases hrun
          cases happ
    · cases h

/-- **No class is refused of which a call without arguments makes an instance**, if it shows
    anything of how it is called and is no primitive one. -/
theorem accepted_of_construct (hρ : ρ.replaces = false)
    (unprimitive : c ∉ [ClassId.whole, ClassId.text, ClassId.mapping])
    (shows : w.shown c ≠ .nothing) (h : EStateM.run (construct ρ c {}) w = .ok app w')
    (happ : w'.classOf? app = some c) : w.parameterFault? c = none := by
  refine World.accepted_of_binds shows ?_ (makesInstances_of_construct unprimitive h happ)
  rw [← World.obstacle?_eq_none_iff]
  cases hobstacle : w.obstacle? c with
  | none => rfl
  | some fault => exact nomatch (run_construct_of_obstacle hρ hobstacle).symm.trans h

/-- A class whose parameters are accepted is called. -/
theorem run_instantiate_of_accepted (hρ : ρ.replaces = false) (h : w.parameterFault? c = none) :
    EStateM.run (instantiate ρ c) w = EStateM.run (construct ρ c {}) w := by
  have checked : EStateM.run (checkParameters ρ c) w = .ok ⟨⟩ w := by
    rw [run_checkParameters_of_library hρ, h]
  unfold instantiate
  rw [run_bind_of_ok checked]

end Action

namespace World

/-- A store with one class of applications more. -/
def offering (x : ClassDef) : World :=
  { World.initial with classes := World.initial.classes.push x }

/-- The class of that store. -/
def offered : ClassId := ⟨6⟩

end World

end AppMount
