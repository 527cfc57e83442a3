import AppMount.Proofs.Silence
import AppMount.Proofs.Sparing

/-!
# Building in silence

Constructing, asking, absorbing and freezing write nothing to the server's log, and neither does
looking whether an application can be constructed or what listeners there are, whatever methods of
the library the classes of an application replace.

* `silent_construct`, `silent_callThing`: calls of classes and of anything else;
* `Dispatch.silent_ofDepth`: written answers;
* `silent_ask`, `silent_absorbInto`: asking an application and absorbing it;
* `silent_checkParameters`, `silent_checkConstructible`, `silent_freeze`: what building does with a
  descriptor;
* `silent_route`, `silent_listenerNames`: what it does with a configuration.
-/

namespace AppMount

namespace Action

variable {α : Type} {ρ : Dispatch}

/-! ## 1. Setting up a descriptor -/

theorem silent_lacking (r : Ref) (found : Found) (member : String) :
    Silent (lacking r found member) :=
  .look fun _ => .pure _

/-- Failing for what is found writes nothing. -/
theorem silent_throwLacking {r : Ref} {found : Found} {member : String} :
    Silent (lacking r found member >>= throw : Action α) :=
  (silent_lacking _ _ _).bind fun _ => .throw _

theorem silent_foundTruth (hρ : ρ.Silent) (found : Found) : Silent (foundTruth ρ found) := by
  unfold foundTruth
  split
  · exact silent_truthOf hρ _
  · exact .pure _

theorem silent_isFrozen (hρ : ρ.Silent) (d : DescriptorId) : Silent (isFrozen ρ d) :=
  silent_field (.look fun _ => .pure _) fun _ => silent_foundTruth hρ _

theorem silent_nameOf (d : DescriptorId) : Silent (nameOf ρ d) :=
  silent_field (.look fun _ => .pure _) fun _ => silent_foundDatum _ _

theorem silent_checkChangeable (hρ : ρ.Silent) (d : DescriptorId) :
    Silent (checkChangeable ρ d) := by
  refine (silent_orReplaced hρ _ _ _ ?_).bind fun _ => .pure _
  refine (silent_isFrozen hρ d).bind fun frozen => ?_
  split
  · exact (silent_nameOf d).bind fun _ => .throw _
  · exact .pure _

theorem silent_checkClasses (d : DescriptorId) (method : String) :
    Silent (checkClasses ρ d method) :=
  silent_field (.pure _) fun _ => silent_throwLacking

theorem silent_checkSingletons (d : DescriptorId) : Silent (checkSingletons ρ d) := by
  refine silent_field (.pure _) fun found => ?_
  split
  · exact .pure _
  · exact silent_throwLacking

theorem silent_checkMapping (d : DescriptorId) (field : String) :
    Silent (checkMapping ρ d field) :=
  silent_field (.pure _) fun _ => silent_throwLacking

theorem silent_checkKeyed (d : DescriptorId) (field : String) (key : Ref) :
    Silent (checkKeyed ρ d field key) := by
  refine silent_field (.pure _) fun found => .look fun w => ?_
  split <;> exact .throw _

theorem silent_register (hρ : ρ.Silent) (d : DescriptorId) (component : Ref) :
    Silent (register ρ d component) := by
  refine (silent_checkChangeable hρ d).bind fun _ => ?_
  dsimp only
  split
  · exact (silent_checkClasses d _).bind fun _ => .change
  · refine (reads_checkAccess ρ _).silent.bind fun _ => ?_
    exact (silent_checkSingletons d).bind fun _ => .change

theorem silent_putProvider (hρ : ρ.Silent) (d : DescriptorId) (service : Ref) (code : KeyCode)
    (factory : Ref) : Silent (putProvider ρ d service code factory) :=
  .look fun _ => (silent_settle hρ _ _ _ _).bind fun _ => .change

theorem silent_provide (hρ : ρ.Silent) (d : DescriptorId) (service factory : Ref) :
    Silent (provide ρ d service factory) := by
  refine (silent_checkChangeable hρ d).bind fun _ => (silent_checkKeyed d _ _).bind fun _ => ?_
  refine (silent_codeOf hρ service).bind fun code => ?_
  split
  · exact silent_putProvider hρ _ _ _ _
  · exact .change

theorem silent_setProperty (hρ : ρ.Silent) (d : DescriptorId) (name value : Datum) :
    Silent (setProperty ρ d name value) := by
  refine (silent_checkChangeable hρ d).bind fun _ => (silent_checkKeyed d _ _).bind fun _ => ?_
  split
  · exact .change
  · exact .throw _

theorem silent_markFrozen (d : DescriptorId) : Silent (markFrozen ρ d) :=
  (silent_claim d _).bind fun _ => .change

theorem silent_checkHeld (d : DescriptorId) : Silent (checkHeld ρ d) :=
  silent_field (.pure _) fun _ => .look fun _ => .throw _

theorem silent_fillDescriptor (hρ : ρ.Silent) (d : DescriptorId) (args : Arguments) :
    Silent (fillDescriptor ρ d args) := by
  refine Silent.bind (.forM fun field => silent_claim d field) fun _ => ?_
  refine Silent.bind .change fun _ => .forM fun component => ?_
  exact (silent_orReplaced hρ _ _ _ (silent_register hρ d component)).bind fun _ => .pure _

theorem silent_setUp (hρ : ρ.Silent) (d : DescriptorId) (step : SetupStep) :
    Silent (setUp ρ d step) := by
  refine .look fun w => ?_
  cases step with
  | register component =>
    refine (Silent.ofExcept _).bind fun r => ?_
    exact (silent_orReplaced hρ _ _ _ (silent_register hρ d r)).bind fun _ => .pure _
  | provide service factory =>
    refine (Silent.ofExcept _).bind fun s => (Silent.ofExcept _).bind fun f => ?_
    exact (silent_orReplaced hρ _ _ _ (silent_provide hρ d s f)).bind fun _ => .pure _
  | setProperty name value =>
    exact (silent_orReplaced hρ _ _ _ (silent_setProperty hρ d name value)).bind fun _ => .pure _
  | freeze =>
    refine (silent_orReplaced hρ _ _ _ ?_).bind fun _ => .pure _
    refine (silent_isFrozen hρ d).bind fun frozen => ?_
    split
    · exact .pure _
    · exact (silent_checkHeld d).bind fun _ => silent_markFrozen d

/-! ## 2. Constructing -/

theorem silent_newThing (x : Content) : Silent (newThing x) :=
  fun _ => rfl

theorem silent_keepOffer (offer : Offer) : Silent (keepOffer offer) := by
  cases offer with
  | datum d place => exact .pure _
  | list | set | stream | entries => exact silent_newThing _

theorem silent_convert (hρ : ρ.Silent) (c p : ClassId) (args : Arguments) :
    Silent (convert ρ c p args) := by
  refine .look fun w => ?_
  split
  · exact silent_wholeOf hρ _
  · split
    · exact silent_textOf hρ _
    · split
      · split
        · exact (silent_mappingOf hρ _).bind fun _ => .pure _
        · exact .pure _
      · exact .pure _

theorem silent_keepValue (c p : ClassId) (made : Converted) :
    Silent (allocateValue.keepValue c p made) := by
  unfold allocateValue.keepValue
  split
  · exact .pure _
  · exact silent_newThing _

theorem silent_allocateValue (hρ : ρ.Silent) (c p : ClassId) (args : Arguments) :
    Silent (allocateValue ρ c p args) := by
  refine (silent_convert hρ c p args).bind fun made => ?_
  have kept := silent_keepValue c p made
  split
  · refine .look fun w => ?_
    split
    · exact .pure _
    · exact kept
  · exact kept

theorem silent_allocate (hρ : ρ.Silent) (c : ClassId) (args : Arguments) :
    Silent (allocate ρ c args) := by
  refine .looking fun w => ?_
  dsimp only
  split
  · exact silent_allocateValue hρ _ _ _ w
  · split
    · rfl
    · rfl

theorem silent_runSetupStep (hρ : ρ.Silent) (self : Ref) (step : SetupStep) :
    Silent (runSetupStep ρ self step) := by
  unfold runSetupStep
  split
  · exact silent_setUp hρ _ step
  · refine (silent_access _ _).bind fun found => .look fun w => (Silent.ofExcept _).bind fun _ => ?_
    exact (silent_callFound hρ _ _ _ _ fun _ => .pure _).bind fun _ => .pure _

theorem silent_runAnswered (hρ : ρ.Silent) (outermost : Bool) (answer : Answer) :
    Silent (runAnswered ρ outermost answer) := by
  refine (hρ answer).bind fun offer => ?_
  split
  · exact .pure _
  · split
    · exact .throw _
    · exact .pure _

theorem silent_setUpBody (hρ : ρ.Silent) (self : Ref) {above : List ClassId}
    (code : ConstructorCode)
    (initializers : ∀ args, Silent (runInitializers ρ self false above args)) :
    Silent (setUpBody ρ self above code) := by
  have body : Silent (code.body.forM (runSetupStep ρ self)) :=
    .forM fun step => silent_runSetupStep hρ self step
  unfold setUpBody
  dsimp only
  split
  · refine .look fun w => (Silent.ofExcept _).bind fun components => ?_
    refine (initializers _).bind fun _ => body.bind fun _ => ?_
    split
    · exact .throw _
    · exact .pure _
  · refine body.bind fun _ => ?_
    split
    · exact .throw _
    · exact .pure _

theorem silent_runInitializers (hρ : ρ.Silent) (self : Ref) (outermost : Bool)
    (lineage : List ClassId) (args : Arguments) :
    Silent (runInitializers ρ self outermost lineage args) := by
  induction lineage generalizing outermost args with
  | nil => exact .pure _
  | cons k above ih =>
    unfold runInitializers
    refine .look fun w => ?_
    split
    · exact ih outermost args
    · split
      · exact .pure _
      · exact silent_fit _ _ _
      · exact silent_fit _ _ _
      · exact silent_fit _ _ _
      · split
        · exact silent_fillDescriptor hρ _ _
        · exact .pure _
      · refine (silent_fit _ _ _).bind fun _ => (silent_note _ _).bind fun _ => ?_
        exact silent_runAnswered hρ outermost _
      · refine (silent_fit _ _ _).bind fun _ => (silent_note _ _).bind fun _ => ?_
        exact silent_setUpBody hρ self _ (ih false)
    · exact .throw _

theorem silent_makeInstance (hρ : ρ.Silent) (c : ClassId) (args : Arguments) :
    Silent (makeInstance ρ c args) := by
  refine (reads_checkNoOpenMethods c).silent.bind fun _ => ?_
  refine (silent_allocate hρ c args).bind fun self => .look fun w => ?_
  exact (silent_runInitializers hρ self true _ args).bind fun _ => .pure _

theorem silent_makeBy (hρ : ρ.Silent) (c k : ClassId) (m : Method) (args : Arguments) :
    Silent (makeBy ρ c k m args) := by
  unfold makeBy
  split
  · refine (silent_fit _ _ _).bind fun _ => (silent_note _ _).bind fun _ => ?_
    exact (hρ _).bind fun offer => silent_keepOffer offer
  · refine (silent_fit _ _ _).bind fun _ => (reads_checkPlain c).silent.bind fun _ => ?_
    exact silent_makeInstance hρ c args
  · exact (silent_fit _ _ _).bind fun _ => .pure _

/-- **A call of a class writes nothing.** -/
theorem silent_construct (hρ : ρ.Silent) (c : ClassId) (args : Arguments) :
    Silent (construct ρ c args) := by
  refine .discarding (.look fun w => ?_)
  split
  · exact (reads_fitBare c args).silent.bind fun _ => silent_makeInstance hρ c args
  · exact silent_makeBy hρ c _ _ args
  · exact .throw _

theorem silent_callTaken (hρ : ρ.Silent) (x : TakenMember) (args : Arguments) :
    Silent (callTaken ρ x args) := by
  unfold callTaken
  split
  · refine (silent_fit _ _ _).bind fun _ => ?_
    exact (silent_callCode hρ _ _ _).bind fun offer => silent_keepOffer offer
  · refine (silent_fit _ _ _).bind fun _ => ?_
    exact (silent_callFree hρ _ _ _ _).bind fun offer => silent_keepOffer offer
  · exact (reads_fitCall _ _ _ _).silent.bind fun _ => .pure _
  · exact .throw _

/-- **A call of anything writes nothing.** -/
theorem silent_callThing (hρ : ρ.Silent) (r : Ref) (args : Arguments) :
    Silent (callThing ρ r args) := by
  refine .look fun w => ?_
  split
  · exact silent_construct hρ _ args
  · exact silent_callTaken hρ _ args
  · refine (silent_fit _ _ _).bind fun _ => ?_
    exact (silent_callCode hρ _ _ _).bind fun offer => silent_keepOffer offer
  · exact .throw _
  · exact .throw _

/-! ## 3. Answers -/

theorem silent_freshInstances (hρ : ρ.Silent) (ms : List Mention) :
    Silent (freshInstances ρ ms) := by
  induction ms with
  | nil => exact .pure _
  | cons m rest ih =>
    refine .look fun w => (Silent.ofExcept _).bind fun r => ?_
    exact (silent_callThing hρ r _).bind fun made => ih.bind fun others => .pure _

theorem silent_answer (hρ : ρ.Silent) {act : Deed → Action Unit}
    (hact : ∀ deed, Silent (act deed)) (answer : Answer) : Silent (Action.answer ρ act answer) := by
  induction answer with
  | list ms => exact .look fun w => (Silent.ofExcept _).bind fun _ => .pure _
  | set ms =>
    refine .look fun w => (Silent.ofExcept _).bind fun items => ?_
    exact (silent_setOf hρ items).bind fun _ => .pure _
  | stream ms failure => exact .look fun w => (Silent.ofExcept _).bind fun _ => .pure _
  | fresh ms => exact (silent_freshInstances hρ ms).bind fun _ => .pure _
  | mapping entries place =>
    simp only [Action.answer]
    split
    · exact .throw _
    · exact .pure _
  | datum value place => exact .pure _
  | fail error => exact .throw _
  | after deed answer ih => exact (hact deed).bind fun _ => ih

end Action

/-- **Written answers write nothing to the log**, however deep they lead to each other, and whether
    or not they replace methods of the library. -/
theorem Dispatch.silent_ofDepth (replaces : Bool) (depth : Nat) :
    (Dispatch.ofDepth replaces depth).Silent := by
  induction depth with
  | zero => exact fun _ => .throw _
  | succ depth ih => exact fun answer => Action.silent_answer ih (fun _ => .pure _) answer

namespace Action

variable {α : Type} {ρ : Dispatch}

theorem silent_foreignClasses (hρ : ρ.Silent) (r : Ref) (found : Found) :
    Silent (foreignClasses ρ r found) := by
  unfold foreignClasses
  split
  · split
    · exact (silent_setOf hρ _).bind fun _ => .pure _
    · exact .throw _
  · exact .look fun _ => .throw _

theorem silent_foreignSingletons (r : Ref) (added : List Ref) (found : Found) :
    Silent (foreignSingletons r added found) := by
  unfold foreignSingletons
  split
  · exact .pure _
  · exact silent_throwLacking

theorem silent_foreignEntries (hρ : ρ.Silent) (r : Ref) (found : Found) :
    Silent (foreignEntries ρ r found) := by
  unfold foreignEntries
  split
  · exact silent_entriesOf hρ _
  · exact .look fun _ => .throw _

theorem silent_ownOffer (hρ : ρ.Silent) (d : DescriptorId) (h : Hook) :
    Silent (ownOffer ρ d h) := by
  refine silent_field (.look fun _ => .pure _) fun found => ?_
  split
  · exact silent_foreignClasses hρ _ _
  · exact .look fun _ => silent_foreignSingletons _ _ _
  · exact (silent_foreignEntries hρ _ _).bind fun _ => .pure _

theorem silent_runHook (hρ : ρ.Silent) (app k : Ref) (h : Hook) (m : Method) :
    Silent (runHook ρ app k h m) := by
  unfold runHook
  split
  · exact .pure _
  · split
    · exact silent_ownOffer hρ _ h
    · exact .look fun _ => .throw _
  · exact (silent_note _ _).bind fun _ => hρ _
  · exact .pure _

/-- **A question to an application writes nothing.** -/
theorem silent_ask (hρ : ρ.Silent) (app : Ref) (h : Hook) : Silent (ask ρ app h) := by
  refine (silent_access app _).bind fun found => ?_
  split
  · exact .throw _
  · exact silent_runHook hρ _ _ _ _
  · exact silent_callWritten hρ _ _ _

/-! ## 4. Absorbing -/

theorem silent_finish (read : Reading α) : Silent (finish read) := by
  unfold finish
  split
  · exact .throw _
  · exact .pure _

theorem silent_takeClass (hρ : ρ.Silent) (d : DescriptorId) (r : Ref) (code : KeyCode) :
    Silent (takeClass ρ d r code) :=
  .look fun _ => (silent_addKey hρ _ _ _ _).bind fun _ => .change

theorem silent_takeClasses (hρ : ρ.Silent) (d : DescriptorId) (offer : Offer) :
    Silent (takeClasses ρ d offer) := by
  unfold takeClasses
  split
  · exact .forM fun r => .look fun w => silent_takeClass hρ d r _
  · refine Silent.bind (.forM fun r => ?_) fun _ => silent_finish _
    exact (silent_codeOf hρ r).bind fun code => silent_takeClass hρ d r code

theorem silent_replaceStandIn (d : DescriptorId) (field : String) (r : Ref) :
    Silent (replaceStandIn d field r) := by
  refine .update fun w => ?_
  split <;> rfl

theorem silent_absorbClasses (hρ : ρ.Silent) (d : DescriptorId) (app : Ref) :
    Silent (absorbClasses ρ d app) := by
  unfold absorbClasses
  split
  · refine (silent_standIn d _).bind fun found => ?_
    split
    · exact (silent_ask hρ app _).bind fun offer => silent_takeClasses hρ d offer
    · refine (silent_ask hρ app _).bind fun offer => (silent_pairsOf hρ offer).bind fun read => ?_
      exact (silent_replaceStandIn d _ _).bind fun _ => silent_finish _
    · exact silent_throwLacking
  · refine (silent_ask hρ app _).bind fun offer => .look fun w => ?_
    exact Silent.bind .change fun _ => silent_finish _

theorem silent_absorbSingletons (hρ : ρ.Silent) (d : DescriptorId) (app : Ref) :
    Silent (absorbSingletons ρ d app) := by
  refine (silent_ask hρ app _).bind fun offer => .afterCheck (silent_checkSingletons d) ?_
  exact Silent.bind .change fun _ => silent_finish _

theorem silent_absorbProperties (hρ : ρ.Silent) (d : DescriptorId) (app : Ref) :
    Silent (absorbProperties ρ d app) := by
  refine (silent_checkMapping d _).bind fun _ => (silent_ask hρ app _).bind fun offer => ?_
  refine (silent_pairsOf hρ offer).bind fun read => ?_
  exact Silent.bind .change fun _ => silent_finish _

theorem silent_absorbProviders (hρ : ρ.Silent) (d : DescriptorId) (app : Ref) :
    Silent (absorbProviders ρ d app) := by
  have providers (e : DescriptorId) : Silent (providersOf ρ e) :=
    silent_field (.look fun _ => .pure _) fun found =>
      (silent_foreignEntries hρ _ found).bind fun _ => .pure _
  unfold absorbProviders
  split
  · split
    · refine (silent_checkMapping d _).bind fun _ => (providers _).bind fun held => ?_
      exact .forM fun p => .look fun w => silent_putProvider hρ d _ _ _
    · exact .change
  · exact (reads_checkAccess ρ _).silent

/-- **Absorbing an application writes nothing**, also in the way of the descriptor's class. -/
theorem silent_absorbInto (hρ : ρ.Silent) (d : DescriptorId) (app : Ref) :
    Silent (absorbInto ρ d app) := by
  refine (silent_orReplaced hρ _ _ _ ?_).bind fun _ => .pure _
  refine (silent_absorbClasses hρ d app).bind fun _ => ?_
  refine (silent_absorbSingletons hρ d app).bind fun _ => ?_
  exact (silent_absorbProperties hρ d app).bind fun _ => silent_absorbProviders hρ d app

/-! ## 5. Parameters -/

theorem silent_stated (hρ : ρ.Silent) (r : Ref) : Silent (stated ρ r) := by
  refine (silent_member? r _).bind fun wrapped => (silent_member? r _).bind fun signature => ?_
  refine .look fun w => ?_
  split
  · exact .afterCheck (.throw _) (.pure _)
  · exact .pure _
  · exact .pure _
  · exact .pure _
  · exact (silent_describeFound hρ r _).bind fun _ => .pure _

theorem silent_listed (hρ : ρ.Silent) (r : Ref) : Silent (listed ρ r) := by
  refine (silent_member? r _).bind fun found => ?_
  split
  · exact .pure _
  · refine (silent_foundTruth hρ _).bind fun truth => ?_
    split
    · exact .pure _
    · split
      · split
        · exact .pure _
        · exact (silent_describe hρ r).bind fun _ => .throw _
      · exact silent_throwLacking

theorem silent_checkExpected (qualname : String) (expected : Expected) :
    Silent (checkExpected qualname expected) := by
  unfold checkExpected
  split
  · exact .throw _
  · split
    · exact .throw _
    · exact .pure _

theorem silent_checkParameters (hρ : ρ.Silent) (c : ClassId) : Silent (checkParameters ρ c) := by
  refine .either (silent_stated hρ _) (.pure _) fun stated => .look fun w => ?_
  dsimp only
  split
  · exact silent_checkExpected _ _
  · exact .throw _
  · exact silent_checkExpected _ _
  · exact silent_checkExpected _ _

theorem silent_instantiate (hρ : ρ.Silent) (c : ClassId) : Silent (instantiate ρ c) :=
  (silent_checkParameters hρ c).bind fun _ => silent_construct hρ c _

theorem silent_expectedOfTaken (x : TakenMember) (params : Option (List Parameter)) :
    Silent (expectedOfTaken x params) := by
  unfold expectedOfTaken
  split
  · split
    · exact .pure _
    · exact .throw _
  · exact .pure _
  · exact .pure _
  · exact .pure _
  · exact .pure _
  · exact .pure _

theorem silent_expectedOfCall (hρ : ρ.Silent) (r : Ref) (member : Member) :
    Silent (expectedOfCall ρ r member) := by
  unfold expectedOfCall
  split
  · exact .pure _
  · exact (silent_describe hρ r).bind fun _ => .throw _
  · exact .pure _
  · exact .pure _

theorem silent_expectedOfStandIn (hρ : ρ.Silent) (r : Ref) : Silent (expectedOfStandIn ρ r) := by
  refine .look fun w => ?_
  dsimp only
  split
  · refine (silent_listed hρ r).bind fun params => ?_
    split
    · exact .pure _
    · exact (silent_describe hρ r).bind fun _ => .throw _
  · exact (silent_special hρ _ _ _).bind fun _ => .pure _

theorem silent_expectedOf (hρ : ρ.Silent) (r : Ref) : Silent (expectedOf ρ r) := by
  have uncallable : Silent (do return .error (.uncallable (← describe ρ r)) : Action Expected) :=
    (silent_describe hρ r).bind fun _ => .pure _
  refine .look fun w => ?_
  split
  · exact uncallable
  · exact uncallable
  · refine (silent_stated hρ r).bind fun expected => ?_
    split
    · exact .pure _
    · exact (silent_listed hρ r).bind fun params => silent_expectedOfTaken _ _
  · refine (silent_stated hρ r).bind fun expected => ?_
    split
    · exact .pure _
    · refine Silent.bind (.forM fun mark => (silent_member? r mark).bind fun _ => .pure _)
        fun _ => ?_
      refine (silent_expectedOfStandIn hρ r).bind fun expected => ?_
      split
      · exact .pure _
      · exact silent_expectedOfCall hρ r _
  · exact uncallable

theorem silent_expectedOfFound (hρ : ρ.Silent) (found : Found) :
    Silent (expectedOfFound ρ found) := by
  refine Silent.bind (.attempt ?_) fun read => ?_
  · split
    · exact .pure _
    · exact silent_expectedOf hρ _
    · exact .pure _
  · split
    · exact .pure _
    · split
      · exact .pure _
      · exact .throw _

theorem silent_qualnameFound (r : Ref) (found : Found) : Silent (qualnameFound ρ r found) := by
  unfold qualnameFound
  split
  · exact .pure _
  · exact (reads_qualnameOf ρ _).silent.bind fun _ => .pure _
  · exact .look fun _ => .throw _

theorem silent_checkParametersFound (hρ : ρ.Silent) (r : Ref) (found : Found) :
    Silent (checkParametersFound ρ r found) := by
  refine (silent_expectedOfFound hρ found).bind fun expected => ?_
  split
  · exact .pure _
  · exact (silent_qualnameFound r found).bind fun _ => silent_checkExpected _ _

/-! ## 6. Freezing -/

theorem silent_applicationClassOf (d : DescriptorId) : Silent (applicationClassOf ρ d) :=
  silent_field (.look fun _ => .pure _) fun _ => .pure _

theorem silent_hasApplication (d : DescriptorId) : Silent (hasApplication ρ d) :=
  silent_field (.look fun _ => .pure _) fun _ => .pure _

theorem silent_instantiateFound (hρ : ρ.Silent) (r : Ref) (found : Found) :
    Silent (instantiateFound ρ r found) := by
  unfold instantiateFound
  split
  · exact silent_instantiate hρ _
  · refine (silent_checkParametersFound hρ r _).bind fun _ => ?_
    split
    · exact (silent_callCode hρ _ _ _).bind fun offer => silent_keepOffer offer
    · exact silent_callThing hρ _ _
    · exact .throw _

theorem silent_fulfil (hρ : ρ.Silent) (d : DescriptorId) (found : Found) :
    Silent (fulfil ρ d found) := by
  have made : Silent (makeApplication ρ d found) := by
    refine (silent_named hρ _ _ _).bind fun offer => ?_
    split
    · exact silent_keepOffer _
    · exact silent_instantiateFound hρ _ _
  refine made.bind fun app => (silent_claim d _).bind fun _ => ?_
  exact Silent.bind .change fun _ => silent_absorbInto hρ d app

/-- **Freezing writes nothing**, whatever code it runs. -/
theorem silent_freeze (hρ : ρ.Silent) (d : DescriptorId) : Silent (freeze ρ d) := by
  refine (silent_isFrozen hρ d).bind fun frozen => ?_
  split
  · exact .pure _
  · refine (silent_checkHeld d).bind fun _ => (silent_applicationClassOf d).bind fun found => ?_
    dsimp only
    split
    · refine (silent_hasApplication d).bind fun has => ?_
      exact .afterCheck (silent_fulfil hρ d found) (silent_markFrozen d)
    · exact silent_markFrozen d

/-- **Looking whether an application can be constructed writes nothing.** -/
theorem silent_checkConstructible (hρ : ρ.Silent) (d : DescriptorId) :
    Silent (checkConstructible ρ d) := by
  refine (silent_isFrozen hρ d).bind fun frozen => ?_
  split
  · exact .pure _
  · refine (silent_applicationClassOf d).bind fun found => ?_
    split
    · exact .pure _
    · exact silent_checkParameters hρ _
    · exact silent_checkParametersFound hρ _ _

/-! ## 7. Looking for a listener -/

theorem silent_route (hρ : ρ.Silent) (setting : Setting) (name : Datum) (required : Bool) :
    Silent (route ρ setting name required) := by
  have has (r : Ref) : Silent (hasListener ρ r name) := by
    refine .look fun w => ?_
    split
    · exact (Silent.ofExcept _).bind fun _ => .pure _
    · refine (silent_callOther hρ r _ _).bind fun offer => ?_
      split <;> exact .pure _
  cases setting with
  | config => exact .pure _
  | other r =>
    show Silent (routeUnder ρ r name required)
    unfold routeUnder
    split
    · exact .pure _
    · exact (has r).bind fun _ => .pure _

theorem silent_foreignNames (hρ : ρ.Silent) (r : Ref) : Silent (foreignNames ρ r) := by
  refine (silent_access r _).bind fun found => ?_
  split
  · refine (silent_elementsOf hρ _).bind fun read => (silent_finish _).bind fun _ => ?_
    refine Silent.bind (.mapM fun r => (reads_orderedDatum r).silent) fun _ => ?_
    exact .ofExcept _
  · exact .look fun _ => .throw _

theorem silent_listenerNames (hρ : ρ.Silent) (setting : Setting) :
    Silent (listenerNames ρ setting) := by
  cases setting with
  | config => exact .pure _
  | other r =>
    refine .look fun w => ?_
    split
    · exact .look fun _ => .ofExcept _
    · exact (silent_foreignNames hρ r).bind fun _ => .ofExcept _

end Action

end AppMount
