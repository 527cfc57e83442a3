import AppMount.Adaptation
import AppMount.Proofs.Frame

/-!
# What application code does to the store

The library by itself calls application code in constructors and hooks. What this code stays within
(`Dispatch.Respects`), all calls that lead to it stay within. Most application code makes new things
and leaves alone what is there. This is assumed of the written answers of an arbitrary dispatch
(`Dispatch.Discreet`) and proved of those of the library (`Dispatch.discreet_library`).

* `standIn_of_library` and its companions: what the library by itself need not look at;
* `stays_register`, `stays_provide`, `stays_setProperty`, `stays_fillDescriptor`: setting up one
  descriptor;
* `Makes`, `bare_of_allocate`: a bare descriptor was not there before;
* `stays_construct`, `makes_construct`: a call of a class; `stays_callThing`: of anything without
  positional arguments;
* `stays_ask`: a question to an application;
* `heeds_ask` and its companions: what discreet code comes to.
-/

namespace AppMount

/-- **Application code that minds its own business**: it replaces no method of the library, and its
    answers make new things and leave alone those that are there. -/
structure Dispatch.Discreet (ρ : Dispatch) : Prop where
  library : ρ.replaces = false
  run : ∀ answer, Action.Heeds .none (ρ.run answer)

theorem Dispatch.Discreet.respects {ρ : Dispatch} (h : ρ.Discreet) : ρ.Respects World.Making :=
  ⟨h.library, h.run⟩

/-- Discreet code stays within every relation that allows new things. -/
theorem Dispatch.Discreet.respects_frame {ρ : Dispatch}
    {R : (DescriptorId → Prop) → World → World → Prop} [World.Frame R] (h : ρ.Discreet) :
    ρ.Respects R :=
  ⟨h.library, fun answer w => World.Frame.of_effect (h.run answer w)⟩

/-- **A call of a class that converts none of its arguments**: it has no positional ones, or the
    class is below no primitive one. -/
def World.Takes (w : World) (c : ClassId) (args : Arguments) : Prop :=
  args.positional = [] ∨ w.primitive? c = none

theorem World.Takes.positional {w : World} {c p : ClassId} {args : Arguments} (h : w.Takes c args)
    (hp : w.primitive? c = some p) : args.positional = [] :=
  h.resolve_right (by simp [hp])

namespace Action

open World (Frame nobody)

variable {ρ : Dispatch} {R : (DescriptorId → Prop) → World → World → Prop} [Frame R]

/-! ## 1. What the library need not look at -/

theorem checkAccess_of_library (hρ : ρ.replaces = false) (r : Ref) :
    checkAccess ρ r = pure ⟨⟩ := by
  simp [checkAccess, hρ]

theorem named_of_library (hρ : ρ.replaces = false) (self : Ref) (method : String)
    (given : Nat) : named ρ self method given = pure none := by
  simp [named, hρ]

theorem special_of_library (hρ : ρ.replaces = false) (self : Ref) (method : String)
    (given : Nat) : special ρ self method given = pure none := by
  simp [special, hρ]

theorem standIn_of_library (hρ : ρ.replaces = false) (d : DescriptorId) (field : String) :
    standIn ρ d field = pure none := by
  simp [standIn, hρ]

theorem claim_of_library (hρ : ρ.replaces = false) (d : DescriptorId) (field : String) :
    claim ρ d field = pure ⟨⟩ := by
  simp [claim, hρ]

/-! ## 2. Reading -/

theorem reads_checkAccess (ρ : Dispatch) (r : Ref) : Reads (checkAccess ρ r) := by
  unfold checkAccess
  split
  · refine Reads.get.bind fun w => ?_
    split
    · exact .throw _
    · exact .pure _
  · exact .pure _

theorem reads_access (ρ : Dispatch) (r : Ref) (member : String) : Reads (access ρ r member) := by
  refine (reads_checkAccess ρ r).bind fun _ => Reads.get.bind fun w => ?_
  split
  · exact .pure _
  · exact .throw _

theorem reads_foundDatum (r : Ref) (found : Found) : Reads (foundDatum r found) := by
  refine Reads.get.bind fun w => ?_
  split <;> exact .pure _

theorem reads_qualnameOf (ρ : Dispatch) (r : Ref) : Reads (qualnameOf ρ r) :=
  (reads_access ρ r _).bind fun found => reads_foundDatum r found

theorem reads_isFrozen (hρ : ρ.replaces = false) (d : DescriptorId) : Reads (isFrozen ρ d) :=
  fun w => by rw [run_isFrozen_of_library hρ]; rfl

theorem reads_checkNotFrozen (hρ : ρ.replaces = false) (d : DescriptorId) :
    Reads (checkNotFrozen ρ d) := by
  refine (reads_isFrozen hρ d).bind fun frozen => ?_
  split
  · refine Reads.bind (fun w => ?_) fun name => .throw _
    rw [run_nameOf_of_library hρ]
    rfl
  · exact .pure _

theorem reads_checkChangeable (hρ : ρ.replaces = false) (d : DescriptorId) :
    Reads (checkChangeable ρ d) := by
  unfold checkChangeable
  rw [orReplaced_of_library hρ]
  exact ((reads_checkNotFrozen hρ d).bind fun _ => .pure _).bind fun _ => .pure _

theorem reads_codeOf (hρ : ρ.replaces = false) (r : Ref) : Reads (codeOf ρ r) := by
  intro w
  rw [run_codeOf_of_library hρ]
  split <;> rfl

theorem reads_fitCall (callee : String) (params : List Parameter) (given : Nat)
    (keywords : List String) : Reads (fitCall callee params given keywords) := by
  unfold fitCall
  split
  · exact .throw _
  · exact .pure _

theorem reads_fit (m : Method) (params : List Parameter) (args : Arguments) :
    Reads (fit m params args) :=
  reads_fitCall _ _ _ _

theorem reads_setOf (hρ : ρ.replaces = false) (items : List Ref) : Reads (setOf ρ items) := by
  unfold setOf
  rw [if_neg (by simp [hρ])]
  refine Reads.bind (Reads.forM fun r => (reads_codeOf hρ r).bind fun _ => .pure _) fun _ => ?_
  exact Reads.get.bind fun _ => .pure _

/-! ## 3. Setting up a descriptor -/

theorem stays_setUp {d : DescriptorId} {change : World → Descriptor → Descriptor}
    (h : ∀ w, Descriptor.SetUp w.like (change w)) :
    Stays R (Ref.descriptor d).only (modify fun w => w.changeDescriptor d (change w)) :=
  Stays.modify fun w => .setUp w rfl (h w)

theorem stays_register (hρ : ρ.replaces = false) (d : DescriptorId) (component : Ref) :
    Stays R (Ref.descriptor d).only (register ρ d component) := by
  unfold register checkClasses checkSingletons
  simp only [standIn_of_library hρ, checkAccess_of_library hρ, pure_bind, ite_self]
  exact (reads_checkChangeable hρ d).stays.bind fun _ => stays_setUp fun _ => .component component

theorem stays_provide (hρ : ρ.replaces = false) (d : DescriptorId) (service factory : Ref) :
    Stays R (Ref.descriptor d).only (provide ρ d service factory) := by
  unfold provide checkKeyed
  simp only [standIn_of_library hρ, pure_bind, hρ, Bool.false_eq_true, if_false]
  refine (reads_checkChangeable hρ d).stays.bind fun _ => ?_
  exact (reads_codeOf hρ service).stays.bind fun _ => stays_setUp fun _ => .provider service factory

theorem stays_setProperty (hρ : ρ.replaces = false) (d : DescriptorId) (name value : Datum) :
    Stays R (Ref.descriptor d).only (setProperty ρ d name value) := by
  unfold setProperty checkKeyed
  simp only [standIn_of_library hρ, pure_bind]
  refine (reads_checkChangeable hρ d).stays.bind fun _ => ?_
  split
  · exact stays_setUp fun _ => .property name value
  · exact .throw _

theorem stays_markFrozen (hρ : ρ.replaces = false) (d : DescriptorId) :
    Stays R (Ref.descriptor d).only (markFrozen ρ d) := by
  unfold markFrozen
  rw [claim_of_library hρ, pure_bind]
  exact stays_setUp fun _ => .frozen

theorem stays_orReplaced {B : DescriptorId → Prop} (hρ : ρ.replaces = false) (self : Ref)
    (method : String) (given : Nat) {own : Action Unit} (h : Stays R B own) :
    Stays R B (orReplaced ρ self method given own) := by
  rw [orReplaced_of_library hρ]
  exact h.bind fun _ => .pure _

theorem stays_fillDescriptor (hρ : ρ.replaces = false) (d : DescriptorId) (args : Arguments) :
    Stays R (Ref.descriptor d).only (fillDescriptor ρ d args) := by
  have claimed (field : String) : Stays R (Ref.descriptor d).only (claim ρ d field) := by
    rw [claim_of_library hρ]
    exact .pure _
  unfold fillDescriptor
  refine Stays.bind (.forM fun field _ => claimed field) fun _ => ?_
  refine Stays.bind (stays_setUp fun _ => .initialized _) fun _ => ?_
  refine .forM fun component _ => ?_
  exact (stays_orReplaced hρ _ _ _ (stays_register hρ d component)).bind fun _ => .pure _

theorem stays_setUpStep (hρ : ρ.replaces = false) (d : DescriptorId) (step : SetupStep) :
    Stays R (Ref.descriptor d).only (setUp ρ d step) := by
  unfold setUp
  refine Reads.get.stays.bind fun w => ?_
  cases step with
  | register component =>
    refine (Reads.ofExcept _).stays.bind fun r => ?_
    exact (stays_orReplaced hρ _ _ _ (stays_register hρ d r)).bind fun _ => .pure _
  | provide service factory =>
    refine (Reads.ofExcept _).stays.bind fun s => ?_
    refine (Reads.ofExcept _).stays.bind fun f => ?_
    exact (stays_orReplaced hρ _ _ _ (stays_provide hρ d s f)).bind fun _ => .pure _
  | setProperty name value =>
    exact (stays_orReplaced hρ _ _ _ (stays_setProperty hρ d name value)).bind fun _ => .pure _
  | freeze =>
    refine (stays_orReplaced hρ _ _ _ ?_).bind fun _ => .pure _
    refine (reads_isFrozen hρ d).stays.bind fun frozen => ?_
    split
    · exact .pure _
    · unfold checkHeld
      rw [standIn_of_library hρ, pure_bind]
      exact Stays.bind (.pure _) fun _ => stays_markFrozen hρ d

/-! ## 4. Making things -/

theorem stays_note (k : Ref) (method : String) : Stays R nobody (note k method) :=
  Stays.modify fun w => .called w _

theorem stays_newThing (x : Content) : Stays R nobody (newThing x) :=
  fun w => Frame.step (World.Step.thing w x)

theorem stays_keepOffer (offer : Offer) : Stays R nobody (keepOffer offer) := by
  cases offer with
  | datum d place => exact .pure _
  | list | set | stream | entries => exact stays_newThing _

theorem stays_callCode (hρ : ρ.Respects R) (k : Ref) (m : Method) (given : Nat) :
    Stays R nobody (callCode ρ k m given) := by
  unfold callCode
  refine (reads_fitCall _ _ _ _).stays.bind fun _ => ?_
  split
  · exact (stays_note _ _).bind fun _ => hρ.run _
  · exact .pure _

theorem stays_callFree (hρ : ρ.Respects R) (k : Ref) (m : Method) (given : Nat)
    (lastParameter : String) : Stays R nobody (callFree ρ k m given lastParameter) := by
  cases given with
  | zero =>
    unfold callFree
    dsimp only
    split
    · exact Stays.bind (.throw _) fun _ => .throw _
    · exact .throw _
  | succ given =>
    unfold callFree
    dsimp only
    split
    · exact Stays.bind (.throw _) fun _ => stays_callCode hρ k m given
    · exact stays_callCode hρ k m given

theorem stays_callWritten (hρ : ρ.Respects R) (r : Ref) (found : Found) (given : Nat) :
    Stays R nobody (callWritten ρ r found given) := by
  unfold callWritten
  refine Reads.get.stays.bind fun w => ?_
  split
  · exact stays_callFree hρ _ _ _ _
  · exact .throw _

theorem reads_convert (ρ : Dispatch) (c p : ClassId) {args : Arguments}
    (hargs : args.positional = []) : Reads (convert ρ c p args) := by
  unfold convert
  refine Reads.get.bind fun w => ?_
  split
  · unfold wholeOf
    rw [hargs]
    exact (Reads.ofExcept _).bind fun _ => .pure _
  · split
    · unfold textOf
      rw [hargs]
      exact (Reads.ofExcept _).bind fun _ => .pure _
    · split
      · split
        · unfold mappingOf
          rw [hargs]
          exact Reads.bind (.pure _) fun _ => .pure _
        · exact .pure _
      · exact .pure _

theorem stays_keepValue (c p : ClassId) (made : Converted) :
    Stays R nobody (allocateValue.keepValue c p made) := by
  unfold allocateValue.keepValue
  split
  · exact .pure _
  · exact stays_newThing _

theorem stays_allocateValue (ρ : Dispatch) (c p : ClassId) {args : Arguments}
    (hargs : args.positional = []) : Stays R nobody (allocateValue ρ c p args) := by
  unfold allocateValue
  rw [hargs]
  exact (reads_convert ρ c p hargs).stays.bind fun made => stays_keepValue c p made

/-- **Making a bare instance touches nothing that was there.** -/
theorem stays_allocate (hρ : ρ.replaces = false) {w : World} {c : ClassId} {args : Arguments}
    (h : w.Takes c args) : R nobody w (left (EStateM.run (allocate ρ c args) w)) := by
  unfold allocate
  rw [run_bind_of_ok (EStateM.run_get w)]
  cases hc : w.primitive? c with
  | some p => exact stays_allocateValue ρ c p (h.positional hc) w
  | none =>
    dsimp only
    split
    · rw [hρ, if_neg Bool.false_ne_true]
      exact Frame.step (World.Step.descriptor w c)
    · exact stays_newThing _ w

/-- What is found under a member does no more than the library's own method, if it is that one. -/
theorem stays_callFound {B : DescriptorId → Prop} (hρ : ρ.Respects R) (r : Ref) (found : Found)
    (given : Nat) (lastParameter : String) {own : DescriptorId → Action Unit}
    (h : ∀ d, r = .descriptor d → Stays R B (own d)) :
    Stays R B (callFound ρ r found given lastParameter own) := by
  unfold callFound
  split
  · exact (stays_callFree hρ _ _ _ _).of_nobody.bind fun _ => .pure _
  · split
    · exact (h _ rfl).bind fun _ => .pure _
    · exact (stays_callCode hρ _ _ _).of_nobody.bind fun _ => .pure _
  · exact (stays_callCode hρ _ _ _).of_nobody.bind fun _ => .pure _
  · exact (stays_callWritten hρ _ _ _).of_nobody.bind fun _ => .pure _

/-! ## 5. What is made is new -/

/-- **A thing that was just made**: it is in the store, and a descriptor is bare and was not there
    before. -/
def Makes.Bare (w : World) (r : Ref) (w' : World) : Prop :=
  w'.Stores r ∧ ∀ d, r.descriptor? = some d →
    ¬ w.HasDescriptor d ∧ ∃ c, w'.descriptor d = { cls := c }

/-- **A computation that makes what it hands back**, and sets up nothing else afterwards. -/
def Makes (R : (DescriptorId → Prop) → World → World → Prop) (x : Action Ref) : Prop :=
  ∀ w r w', EStateM.run x w = .ok r w' → ∃ v, Makes.Bare w r v ∧ R r.only v w'

/-- It is in the store then, and was not there before if it is a descriptor. -/
theorem Makes.new {x : Action Ref} (hx : Makes R x) {w w' : World} {r : Ref}
    (h : EStateM.run x w = .ok r w') :
    w'.Stores r ∧ ∀ d, r.descriptor? = some d → ¬ w.HasDescriptor d := by
  obtain ⟨v, ⟨stored, bare⟩, since⟩ := hx w r w' h
  exact ⟨Frame.stores since stored, fun d hd => (bare d hd).1⟩

theorem Makes.of_bare {x : Action Ref}
    (h : ∀ w r w', EStateM.run x w = .ok r w' → Makes.Bare w r w') : Makes R x :=
  fun w r w' hrun => ⟨w', h w r w' hrun, Frame.refl w'⟩

omit [Frame R] in
theorem Makes.throw (fault : Fault) : Makes R (throw fault) :=
  fun _ _ _ h => nomatch h

/-- What comes before may make other things. -/
theorem Makes.after {α : Type} {B : DescriptorId → Prop} {x : Action α} {f : α → Action Ref}
    (hx : Stays R B x) (hf : ∀ a, Makes R (f a)) : Makes R (x >>= f) := by
  intro w r w' h
  obtain ⟨a, w₁, hrun, h⟩ := run_bind_eq_ok_iff.1 h
  obtain ⟨v, ⟨stored, bare⟩, since⟩ := hf a w₁ r w' h
  exact ⟨v, ⟨stored, fun d hd => ⟨fun hw => (bare d hd).1 (Frame.has (hx.ok hrun) hw),
    (bare d hd).2⟩⟩, since⟩

omit [Frame R] in
theorem Makes.reading {α : Type} {x : Action α} {f : α → Action Ref} (hx : Reads x)
    (hf : ∀ a, Makes R (f a)) : Makes R (x >>= f) := by
  intro w r w' h
  obtain ⟨a, h⟩ := hx.run_bind_eq_ok h
  exact hf a w r w' h

theorem bare_ofDatum (w : World) (place : Nat) (d : Datum) :
    Makes.Bare w (.ofDatum place d) w := by
  refine ⟨World.stores_ofDatum w place d, fun e he => ?_⟩
  cases d <;> cases he

theorem bare_newThing (w : World) (x : Content) :
    Makes.Bare w (.object (w.newThing x).1) (w.newThing x).2 :=
  ⟨World.stores_newThing w x, fun _ hd => nomatch hd⟩

theorem makes_keepOffer (offer : Offer) : Makes R (keepOffer offer) := by
  refine Makes.of_bare fun w r w' h => ?_
  cases offer <;> cases h
  case datum d place => exact bare_ofDatum w place d
  all_goals exact bare_newThing w _

theorem bare_of_keepValue {c p : ClassId} {made : Converted} {w w' : World} {r : Ref}
    (h : EStateM.run (allocateValue.keepValue c p made) w = .ok r w') : Makes.Bare w r w' := by
  unfold allocateValue.keepValue at h
  split at h <;> cases h
  · exact bare_ofDatum w _ _
  · exact bare_newThing w _

/-- **A bare instance is new.** -/
theorem bare_of_allocate (hρ : ρ.replaces = false) {w w' : World} {c : ClassId}
    {args : Arguments} (hc : w.Takes c args) {self : Ref}
    (h : EStateM.run (allocate ρ c args) w = .ok self w') : Makes.Bare w self w' := by
  unfold allocate at h
  rw [run_bind_of_ok (EStateM.run_get w)] at h
  cases hp : w.primitive? c with
  | some p =>
    have bare := hc.positional hp
    rw [hp] at h
    unfold allocateValue at h
    rw [bare] at h
    obtain ⟨made, h⟩ := (reads_convert ρ c p bare).run_bind_eq_ok h
    exact bare_of_keepValue h
  | none =>
    rw [hp] at h
    dsimp only at h
    split at h
    · rw [hρ, if_neg Bool.false_ne_true] at h
      cases h
      refine ⟨(World.hasDescriptor_new_iff ..).2 (.inr rfl), fun d hd => ?_⟩
      cases hd
      exact ⟨World.not_hasDescriptor_new w { cls := c }, c, World.descriptor_new_self w _⟩
    · cases h
      exact bare_newThing w _

/-! ## 6. Constructing -/

theorem stays_runSetupStep (hρ : ρ.Respects R) (self : Ref) (step : SetupStep) :
    Stays R self.only (runSetupStep ρ self step) := by
  unfold runSetupStep
  cases self with
  | descriptor d => exact stays_setUpStep hρ.library d step
  | none | cls | object | datum =>
    refine (reads_access ρ _ _).stays.bind fun found => ?_
    refine Reads.get.stays.bind fun w => ?_
    refine (Reads.ofExcept _).stays.bind fun _ => ?_
    exact (stays_callFound hρ _ _ _ _ fun _ _ => .pure _).bind fun _ => .pure _

theorem stays_runAnswered (hρ : ρ.Respects R) (outermost : Bool) (answer : Answer) :
    Stays R nobody (runAnswered ρ outermost answer) := by
  unfold runAnswered
  refine (hρ.run answer).bind fun offer => ?_
  split
  · exact .pure _
  · split
    · exact .throw _
    · exact .pure _

/-- **What an initializer does once it is entered** that sets up an instance: it first runs those
    above it on a descriptor. -/
def setUpBody (ρ : Dispatch) (self : Ref) (above : List ClassId) (code : ConstructorCode) :
    Action Unit := do
  if above.contains ClassId.descriptor then
    let components ← ofExcept ((← get).scope.resolveAll code.components)
    runInitializers ρ self false above ⟨components, code.name⟩
  code.body.forM (runSetupStep ρ self)
  match code.failure with
  | some error => throw (.raised error)
  | none => pure ()

theorem stays_setUpBody (hρ : ρ.Respects R) (self : Ref) {above : List ClassId}
    (code : ConstructorCode)
    (initializers : ∀ args, Stays R self.only (runInitializers ρ self false above args)) :
    Stays R self.only (setUpBody ρ self above code) := by
  have ending : Stays R self.only (do
      code.body.forM (runSetupStep ρ self)
      match code.failure with
      | some error => throw (.raised error)
      | none => pure () : Action Unit) := by
    refine Stays.bind (.forM fun step _ => stays_runSetupStep hρ self step) fun _ => ?_
    split
    · exact .throw _
    · exact .pure _
  unfold setUpBody
  dsimp only
  split
  · refine Reads.get.stays.bind fun w => (Reads.ofExcept _).stays.bind fun components => ?_
    exact (initializers _).bind fun _ => ending
  · exact ending

theorem stays_runInitializers (hρ : ρ.Respects R) (self : Ref) (outermost : Bool)
    (lineage : List ClassId) (args : Arguments) :
    Stays R self.only (runInitializers ρ self outermost lineage args) := by
  induction lineage generalizing outermost args with
  | nil => exact .pure _
  | cons k above ih =>
    unfold runInitializers
    refine Reads.get.stays.bind fun w => ?_
    split
    · exact ih outermost args
    · split
      · exact .pure _
      · exact (reads_fit _ _ _).stays
      · exact (reads_fit _ _ _).stays
      · exact (reads_fit _ _ _).stays
      · split
        · exact stays_fillDescriptor hρ.library _ _
        · exact .pure _
      · refine (reads_fit _ _ _).stays.bind fun _ => ?_
        refine (stays_note _ _).of_nobody.bind fun _ => ?_
        exact (stays_runAnswered hρ outermost _).of_nobody
      · refine (reads_fit _ _ _).stays.bind fun _ => ?_
        refine (stays_note _ _).of_nobody.bind fun _ => ?_
        exact stays_setUpBody hρ self _ (ih false)
    · exact .throw _

theorem reads_checkNoOpenMethods (c : ClassId) : Reads (checkNoOpenMethods c) := by
  unfold checkNoOpenMethods
  refine Reads.get.bind fun w => ?_
  dsimp only
  cases (w.classDef c).openNames with
  | none => exact .pure _
  | some names =>
    refine Within.ite (Reads.pure _) ((Reads.ofExcept _).bind fun methods => ?_)
    split
    · exact .pure _
    · exact .throw _

theorem reads_fitBare (c : ClassId) (args : Arguments) : Reads (fitBare c args) := by
  unfold fitBare
  refine Reads.get.bind fun w => ?_
  split
  · split
    · exact .throw _
    · split
      · exact .throw _
      · exact .pure _
  · exact .pure _

theorem reads_checkPlain (c : ClassId) : Reads (checkPlain c) := by
  unfold checkPlain
  refine Reads.get.bind fun w => ?_
  split
  · exact .throw _
  · exact .pure _

/-- **Making an instance touches nothing that was there**: a descriptor that is initialized was
    allocated for it. -/
theorem stays_makeInstance (hρ : ρ.Respects R) {w : World} {c : ClassId} {args : Arguments}
    (hc : w.Takes c args) : R nobody w (left (EStateM.run (makeInstance ρ c args) w)) := by
  refine (reads_checkNoOpenMethods c).left_bind (P := R nobody w) (Frame.refl w) fun _ => ?_
  have allocated : R nobody w _ := stays_allocate hρ.library hc
  cases h : EStateM.run (allocate ρ c args) w with
  | error fault w₁ =>
    rw [run_bind_of_error h]
    rwa [h] at allocated
  | ok self w₁ =>
    rw [h] at allocated
    rw [run_bind_of_ok h, run_bind_of_ok (EStateM.run_get w₁)]
    have initialized : Stays R self.only (do
        runInitializers ρ self true (w₁.lineage c) args
        pure self) :=
      (stays_runInitializers hρ self true _ args).bind fun _ => .pure _
    exact Frame.trans allocated (initialized w₁) fun d hd =>
      .inr ((bare_of_allocate hρ.library hc h).2 d hd).1

theorem makes_makeInstance (hρ : ρ.Respects R) (c : ClassId) {args : Arguments}
    (hargs : args.positional = []) : Makes R (makeInstance ρ c args) := by
  refine Makes.reading (reads_checkNoOpenMethods c) fun _ w r w' h => ?_
  obtain ⟨self, w₁, halloc, h⟩ := run_bind_eq_ok_iff.1 h
  rw [run_bind_of_ok (EStateM.run_get w₁)] at h
  obtain ⟨⟨⟩, w₂, hinit, hend⟩ := run_bind_eq_ok_iff.1 h
  cases hend
  exact ⟨w₁, bare_of_allocate hρ.library (.inl hargs) halloc,
    (stays_runInitializers hρ _ true _ args).ok hinit⟩

theorem stays_makeBy (hρ : ρ.Respects R) {w : World} {c : ClassId} (k : ClassId) (m : Method)
    {args : Arguments} (hc : w.Takes c args) :
    R nobody w (left (EStateM.run (makeBy ρ c k m args) w)) := by
  have answered (answer : Answer) : Stays R nobody (do
      fit m [] args
      note (.cls k) ClassDef.allocatorMember
      keepOffer (← ρ.run answer)) := by
    refine (reads_fit _ _ _).stays.bind fun _ => (stays_note _ _).bind fun _ => ?_
    exact (hρ.run _).bind fun offer => stays_keepOffer offer
  unfold makeBy
  split
  · exact answered _ w
  · refine (reads_fit _ _ _).left_bind (P := R nobody w) (Frame.refl w) fun _ => ?_
    refine (reads_checkPlain c).left_bind (P := R nobody w) (Frame.refl w) fun _ => ?_
    exact stays_makeInstance hρ hc
  · exact (reads_fit _ _ _).left_bind (P := R nobody w) (Frame.refl w) fun _ => Frame.refl w

theorem makes_makeBy (hρ : ρ.Respects R) (c k : ClassId) (m : Method) {args : Arguments}
    (hargs : args.positional = []) : Makes R (makeBy ρ c k m args) := by
  unfold makeBy
  split
  · refine Makes.reading (reads_fit _ _ _) fun _ => ?_
    refine Makes.after (stays_note _ _) fun _ => ?_
    exact Makes.after (hρ.run _) fun offer => makes_keepOffer offer
  · refine Makes.reading (reads_fit _ _ _) fun _ => ?_
    refine Makes.reading (reads_checkPlain c) fun _ => ?_
    exact makes_makeInstance hρ c hargs
  · refine Makes.reading (reads_fit _ _ _) fun _ => Makes.of_bare ?_
    rintro w _ _ ⟨⟩
    exact bare_ofDatum w 0 .null

/-- **A call of a class touches nothing that was there**, except by application code. -/
theorem stays_construct_of_takes (hρ : ρ.Respects R) {w : World} {c : ClassId} {args : Arguments}
    (hc : w.Takes c args) : R nobody w (left (EStateM.run (construct ρ c args) w)) := by
  refine Stays.left_discarding ?_
  rw [run_bind_of_ok (EStateM.run_get w)]
  split
  · exact (reads_fitBare c args).left_bind (P := R nobody w) (Frame.refl w) fun _ =>
      stays_makeInstance hρ hc
  · exact stays_makeBy hρ _ _ hc
  · exact Frame.refl w

theorem stays_construct (hρ : ρ.Respects R) (c : ClassId) {args : Arguments}
    (hargs : args.positional = []) : Stays R nobody (construct ρ c args) :=
  fun _ => stays_construct_of_takes hρ (.inl hargs)

/-- **What a call of a class hands back is new.** -/
theorem makes_construct (hρ : ρ.Respects R) (c : ClassId) {args : Arguments}
    (hargs : args.positional = []) : Makes R (construct ρ c args) := by
  intro w r w' h
  unfold construct at h
  rw [run_discarding] at h
  split at h
  · rename_i r₁ w₁ hrun
    cases h
    refine Makes.reading Reads.get (fun v => ?_) w r w' hrun
    split
    · exact Makes.reading (reads_fitBare c args) fun _ => makes_makeInstance hρ c hargs
    · exact makes_makeBy hρ c _ _ hargs
    · exact Makes.throw _
  · cases h

theorem stays_callTaken (hρ : ρ.Respects R) (x : TakenMember) (args : Arguments) :
    Stays R nobody (callTaken ρ x args) := by
  unfold callTaken
  split
  · refine (reads_fit _ _ _).stays.bind fun _ => ?_
    exact (stays_callCode hρ _ _ _).bind fun offer => stays_keepOffer offer
  · refine (reads_fit _ _ _).stays.bind fun _ => ?_
    exact (stays_callFree hρ _ _ _ _).bind fun offer => stays_keepOffer offer
  · exact (reads_fitCall _ _ _ _).stays.bind fun _ => .pure _
  · exact .throw _

/-- **A call of anything makes new things only.** -/
theorem stays_callThing (hρ : ρ.Respects R) (r : Ref) {args : Arguments}
    (hargs : args.positional = []) : Stays R nobody (callThing ρ r args) := by
  unfold callThing
  refine Reads.get.stays.bind fun w => ?_
  split
  · exact stays_construct hρ _ hargs
  · exact stays_callTaken hρ _ args
  · refine (reads_fit _ _ _).stays.bind fun _ => ?_
    exact (stays_callCode hρ _ _ _).bind fun offer => stays_keepOffer offer
  · exact .throw _
  · exact .throw _

/-! ## 7. Answers -/

theorem stays_freshInstances (hρ : ρ.Respects R) (ms : List Mention) :
    Stays R nobody (freshInstances ρ ms) := by
  induction ms with
  | nil => exact .pure _
  | cons m rest ih =>
    refine Reads.get.stays.bind fun w => ?_
    refine (Reads.ofExcept _).stays.bind fun r => ?_
    refine (stays_callThing hρ r rfl).bind fun made => ?_
    exact ih.bind fun others => .pure _

/-- Running a written answer makes new things only, if those that it leads to do, and what comes
    before it. -/
theorem stays_answer (hρ : ρ.Respects R) {act : Deed → Action Unit}
    (hact : ∀ deed, Stays R nobody (act deed)) (answer : Answer) :
    Stays R nobody (Action.answer ρ act answer) := by
  have resolved (ms : List Mention) (w : World) :
      Stays R nobody (ofExcept (w.scope.resolveAll ms)) := (Reads.ofExcept _).stays
  induction answer with
  | list ms => exact Reads.get.stays.bind fun w => (resolved ms w).bind fun _ => .pure _
  | set ms =>
    refine Reads.get.stays.bind fun w => (resolved ms w).bind fun items => ?_
    exact (reads_setOf hρ.library items).stays.bind fun _ => .pure _
  | stream ms failure => exact Reads.get.stays.bind fun w => (resolved ms w).bind fun _ => .pure _
  | fresh ms => exact (stays_freshInstances hρ ms).bind fun _ => .pure _
  | mapping entries place =>
    simp only [Action.answer]
    split
    · exact .throw _
    · exact .pure _
  | datum value place => exact .pure _
  | fail error => exact .throw _
  | after deed answer ih => exact (hact deed).bind fun _ => ih

end Action

/-- **The written answers of the library are discreet**, however deep they lead to each other. -/
theorem Dispatch.discreet_ofDepth (depth : Nat) : (Dispatch.ofDepth false depth).Discreet := by
  induction depth with
  | zero => exact ⟨rfl, fun _ => .throw _⟩
  | succ depth ih =>
    exact ⟨rfl, fun answer => Action.stays_answer ih.respects (fun _ => .pure _) answer⟩

theorem Dispatch.discreet_library : Dispatch.library.Discreet :=
  discreet_ofDepth _

namespace Action

open World (Frame nobody)

variable {ρ : Dispatch} {R : (DescriptorId → Prop) → World → World → Prop} [Frame R]

theorem reads_ownOffer (hρ : ρ.replaces = false) (d : DescriptorId) (h : Hook) :
    Reads (ownOffer ρ d h) :=
  fun w => by rw [run_ownOffer_of_library hρ]; rfl

theorem stays_runHook (hρ : ρ.Respects R) (app k : Ref) (h : Hook) (m : Method) :
    Stays R nobody (runHook ρ app k h m) := by
  unfold runHook
  split
  · exact .pure _
  · split
    · exact (reads_ownOffer hρ.library _ h).stays
    · exact Reads.get.stays.bind fun _ => .throw _
  · exact (stays_note _ _).bind fun _ => hρ.run _
  · exact .pure _

/-- **A question to an application** runs its code at most. -/
theorem stays_ask (hρ : ρ.Respects R) (app : Ref) (h : Hook) : Stays R nobody (ask ρ app h) := by
  unfold ask
  refine (reads_access ρ app _).stays.bind fun found => ?_
  split
  · exact .throw _
  · exact stays_runHook hρ _ _ _ _
  · exact stays_callWritten hρ _ _ _

theorem stays_callOther (hρ : ρ.Respects R) (r : Ref) (method : String) (given : Nat) :
    Stays R nobody (callOther ρ r method given) := by
  refine (reads_access ρ r method).stays.bind fun found => ?_
  refine (stays_callFound hρ r found given _ fun _ _ => .pure _).bind fun offer => ?_
  split <;> exact .pure _

/-! ## 8. Discreet code -/

theorem heeds_ask (hρ : ρ.Discreet) (app : Ref) (h : Hook) : Heeds .none (ask ρ app h) :=
  stays_ask hρ.respects app h

theorem heeds_register (hρ : ρ.replaces = false) (d : DescriptorId) (component : Ref) :
    Heeds (.building (.descriptor d)) (register ρ d component) :=
  stays_register (R := World.Making) hρ d component

theorem heeds_provide (hρ : ρ.replaces = false) (d : DescriptorId) (service factory : Ref) :
    Heeds (.building (.descriptor d)) (provide ρ d service factory) :=
  stays_provide (R := World.Making) hρ d service factory

theorem heeds_setProperty (hρ : ρ.replaces = false) (d : DescriptorId) (name value : Datum) :
    Heeds (.building (.descriptor d)) (setProperty ρ d name value) :=
  stays_setProperty (R := World.Making) hρ d name value

end Action

end AppMount
