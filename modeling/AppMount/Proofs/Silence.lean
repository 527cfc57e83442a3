import AppMount.Proofs.ApplicationCode
import AppMount.Server.Build

/-!
# What writes to the log

The server's log is written when a registration falls back and when it is mounted. Nothing else that
the library does writes to it, whatever methods of the library the classes of an application
replace, as long as the code of the application itself does not.

* `Action.Silent`: a computation that does not write to the log (`Silent.bind`, `Silent.update`);
* `Dispatch.Silent`: application code that does not;
* `silent_callMethod`, `silent_orReplaced`: calls of methods, replaced or not;
* `silent_describe`, `silent_areEqual`, `silent_elementsOf`, `silent_entriesOf` and their
  companions: what the library does with a thing.
-/

namespace AppMount

namespace Action

variable {α β : Type} {x : Action α} {f : α → Action β} {ρ : Dispatch}

/-! ## 1. Silent computations -/

/-- **A computation that does not write to the log**, however it ends. -/
def Silent (x : Action α) : Prop :=
  Within (fun w w' => w'.log = w.log) x

/-- A computation that only reads writes nothing. -/
theorem Reads.silent (hx : Reads x) : Silent x :=
  hx.within fun _ => rfl

namespace Silent

theorem pure (a : α) : Silent (pure a : Action α) :=
  fun _ => rfl

theorem throw (fault : Fault) : Silent (throw fault : Action α) :=
  fun _ => rfl

theorem bind (hx : Silent x) (hf : ∀ a, Silent (f a)) : Silent (x >>= f) :=
  Within.bind (fun h h' => h'.trans h) hx hf

/-- What goes on from a store. -/
theorem look {f : World → Action α} (hf : ∀ w, Silent (f w)) : Silent (get >>= f) :=
  bind (fun _ => rfl) hf

/-- What goes on from a store may depend on that it is the present one. -/
theorem looking {f : World → Action α} (hf : ∀ w, (left (EStateM.run (f w) w)).log = w.log) :
    Silent (get >>= f) :=
  hf

theorem update {change : World → World} (h : ∀ w, (change w).log = w.log) :
    Silent (modify change : Action PUnit) :=
  h

/-- A descriptor is changed. -/
theorem change {d : World → DescriptorId} {g : World → Descriptor → Descriptor} :
    Silent (modify fun w => w.changeDescriptor (d w) (g w) : Action PUnit) :=
  update fun _ => rfl

theorem ofExcept (result : Except Fault α) : Silent (ofExcept result) :=
  (Reads.ofExcept result).silent

/-- What comes after a check that may be left out. -/
theorem afterCheck {c : Prop} [Decidable c] {y : Action β} (hx : Silent x) (hy : Silent y) :
    Silent (if c then x >>= fun _ => y else y) := by
  split
  · exact hx.bind fun _ => hy
  · exact hy

/-- What comes after one of two computations. -/
theorem either {c : Prop} [Decidable c] {y : Action α} (hx : Silent x) (hy : Silent y)
    (hf : ∀ a, Silent (f a)) : Silent (if c then x >>= f else y >>= f) := by
  split
  · exact hx.bind hf
  · exact hy.bind hf

theorem forM {items : List β} {g : β → Action PUnit} (hg : ∀ b, Silent (g b)) :
    Silent (items.forM g) :=
  Within.forM (fun _ => rfl) (fun h h' => h'.trans h) fun b _ => hg b

theorem mapM {items : List β} {g : β → Action α} (hg : ∀ b, Silent (g b)) :
    Silent (items.mapM g) := by
  induction items with
  | nil => exact pure _
  | cons b rest ih =>
    rw [List.mapM_cons]
    exact (hg b).bind fun _ => ih.bind fun _ => pure _

theorem attempt (hx : Silent x) : Silent (attempt x) := by
  intro w
  have same := hx w
  rw [run_attempt]
  cases h : EStateM.run x w <;> rw [h] at same <;> exact same

/-- The log is kept of a failed computation. -/
theorem discarding (hx : Silent x) : Silent (discarding x) := by
  intro w
  rcases left_discarding x w with same | ⟨-, same⟩ <;> rw [same] <;> exact hx w

end Silent

end Action

/-- **Application code that does not write to the log.** -/
def Dispatch.Silent (ρ : Dispatch) : Prop :=
  ∀ answer, Action.Silent (ρ.run answer)

namespace Action

variable {α : Type} {ρ : Dispatch}

/-! ## 2. Asking for members and calling them -/

theorem silent_access (r : Ref) (member : String) : Silent (access ρ r member) :=
  (reads_access ρ r member).silent

theorem silent_member? (r : Ref) (member : String) : Silent (member? ρ r member) := by
  refine (reads_checkAccess ρ r).silent.bind fun _ => .look fun w => ?_
  split
  · exact .pure _
  · split
    · exact .pure _
    · exact .throw _

theorem silent_fit (m : Method) (params : List Parameter) (args : Arguments) :
    Silent (fit m params args) :=
  (reads_fit m params args).silent

theorem silent_note (k : Ref) (method : String) : Silent (note k method) :=
  .update fun _ => rfl

theorem silent_callCode (hρ : ρ.Silent) (k : Ref) (m : Method) (given : Nat) :
    Silent (callCode ρ k m given) := by
  unfold callCode
  refine (reads_fitCall _ _ _ _).silent.bind fun _ => ?_
  split
  · exact (silent_note _ _).bind fun _ => hρ _
  · exact .pure _

theorem silent_special (hρ : ρ.Silent) (self : Ref) (method : String) (given : Nat) :
    Silent (special ρ self method given) := by
  unfold special
  split
  · refine .look fun w => ?_
    split
    · split
      · exact .pure _
      · exact (silent_callCode hρ _ _ _).bind fun _ => .pure _
    · exact .throw _
    · exact .pure _
  · exact .pure _

theorem silent_callFree (hρ : ρ.Silent) (k : Ref) (m : Method) (given : Nat)
    (lastParameter : String) : Silent (callFree ρ k m given lastParameter) := by
  unfold callFree
  refine .afterCheck (.throw _) ?_
  cases given with
  | zero => exact .throw _
  | succ given => exact silent_callCode hρ k m given

theorem silent_callWritten (hρ : ρ.Silent) (r : Ref) (found : Found) (given : Nat) :
    Silent (callWritten ρ r found given) := by
  refine .look fun w => ?_
  split
  · exact silent_callFree hρ _ _ _ _
  · exact .throw _

theorem silent_named (hρ : ρ.Silent) (self : Ref) (method : String) (given : Nat) :
    Silent (named ρ self method given) := by
  unfold named
  split
  · refine (silent_access _ _).bind fun found => ?_
    split
    · split
      · exact .pure _
      · exact (silent_callCode hρ _ _ _).bind fun _ => .pure _
    · exact (silent_callWritten hρ _ _ _).bind fun _ => .pure _
  · exact .pure _

/-- **A method of the library is silent if it is replaced**, and as silent as it is by itself. -/
theorem silent_orReplaced (hρ : ρ.Silent) (self : Ref) (method : String) (given : Nat)
    {own : Action Unit} (h : Silent own) : Silent (orReplaced ρ self method given own) := by
  refine (silent_named hρ _ _ _).bind fun offer => ?_
  split
  · exact .pure _
  · exact h.bind fun _ => .pure _

theorem silent_callFound (hρ : ρ.Silent) (r : Ref) (found : Found) (given : Nat)
    (lastParameter : String) {own : DescriptorId → Action Unit} (h : ∀ d, Silent (own d)) :
    Silent (callFound ρ r found given lastParameter own) := by
  unfold callFound
  split
  · exact (silent_callFree hρ _ _ _ _).bind fun _ => .pure _
  · split
    · exact (h _).bind fun _ => .pure _
    · exact (silent_callCode hρ _ _ _).bind fun _ => .pure _
  · exact (silent_callCode hρ _ _ _).bind fun _ => .pure _
  · exact (silent_callWritten hρ _ _ _).bind fun _ => .pure _

theorem silent_callOther (hρ : ρ.Silent) (r : Ref) (method : String) (given : Nat) :
    Silent (callOther ρ r method given) := by
  refine (silent_access r method).bind fun found => ?_
  refine (silent_callFound hρ r found given _ fun _ => .pure _).bind fun offer => ?_
  split <;> exact .pure _

/-- **A call of a method of descriptors on anything.** -/
theorem silent_callMethod (hρ : ρ.Silent) (r : Ref) (method : String) (given : Nat)
    (lastParameter : String) {own : DescriptorId → Action Unit} (h : ∀ d, Silent (own d)) :
    Silent (callMethod ρ r method given lastParameter own) := by
  unfold callMethod
  split
  · refine (silent_access _ _).bind fun found => ?_
    exact (silent_callFound hρ _ _ _ _ h).bind fun _ => .pure _
  · split
    · exact (h _).bind fun _ => .pure _
    · exact (silent_callOther hρ _ _ _).bind fun _ => .pure _

theorem silent_standIn (d : DescriptorId) (field : String) : Silent (standIn ρ d field) := by
  unfold standIn
  split
  · refine (reads_checkAccess ρ _).silent.bind fun _ => .look fun w => ?_
    split
    · exact .pure _
    · exact .pure _
    · exact .throw _
  · exact .pure _

theorem silent_claim (d : DescriptorId) (field : String) : Silent (claim ρ d field) := by
  unfold claim
  split
  · refine .looking fun w => ?_
    dsimp only
    split
    · rfl
    · split
      · rfl
      · split <;> rfl
  · exact .pure _

/-! ## 3. Describing -/

theorem silent_textOffered (method : String) (offer : Offer) :
    Silent (textOffered method offer) := by
  unfold textOffered
  split
  · exact .pure _
  · exact .throw _

theorem silent_lengthOf (r : Ref) (found : Found) : Silent (lengthOf r found) := by
  refine .look fun w => ?_
  split
  · exact .pure _
  · exact .pure _
  · exact .pure _
  · exact .throw _

theorem silent_foundDatum (r : Ref) (found : Found) : Silent (foundDatum r found) :=
  (reads_foundDatum r found).silent

/-- What is done with a field of a descriptor: one thing with a value of its own, and another with
    what stands in its place. -/
theorem silent_field {d : DescriptorId} {field : String} {own : Action α}
    {other : Found → Action α} (h : Silent own) (h' : ∀ found, Silent (other found)) :
    Silent (standIn ρ d field >>= fun
      | none => own
      | some found => other found) := by
  refine (silent_standIn d field).bind fun found => ?_
  cases found with
  | none => exact h
  | some found => exact h' found

theorem silent_singletonCount (d : DescriptorId) : Silent (singletonCount ρ d) := by
  refine (silent_standIn d _).bind fun found => ?_
  split
  · exact .look fun w => .pure _
  · exact .look fun w => .pure _
  · exact silent_lengthOf _ _

theorem silent_describeDescriptor (d : DescriptorId) : Silent (describeDescriptor ρ d) := by
  have shown (name : Datum) (classes singletons : Nat) : Silent (do
      let frozen ← match ← standIn ρ d "_frozen" with
        | none => pure (Text.truthWord ((← get).descriptor d).frozen)
        | some found => pure (← foundDatum (.descriptor d) found).plain
      return Descriptor.describeWith name classes singletons frozen) :=
    silent_field (.look fun w => .pure _) fun found => (silent_foundDatum _ _).bind fun _ => .pure _
  have counted (name : Datum) (classes : Nat) :=
    (@silent_singletonCount ρ d).bind (shown name classes)
  unfold describeDescriptor
  refine silent_field (.look fun w => ?_) fun found => (silent_foundDatum _ _).bind fun name => ?_
  · exact silent_field (.look fun w => counted _ _) fun found =>
      (silent_lengthOf _ _).bind fun classes => counted _ _
  · exact silent_field (.look fun w => counted _ _) fun found =>
      (silent_lengthOf _ _).bind fun classes => counted _ _

theorem silent_checkLength (value : Option Datum) : Silent (checkLength value) := by
  unfold checkLength
  split
  · split
    · exact .throw _
    · exact .pure _
  · exact .pure _

theorem silent_describeBy (hρ : ρ.Silent) {inner : Option (Ref → Action String)}
    (h : ∀ describe ∈ inner, ∀ r, Silent (describe r)) (r : Ref) :
    Silent (describeBy ρ inner r) := by
  refine (silent_special hρ _ _ _).bind fun offer => ?_
  split
  · exact silent_textOffered _ _
  · refine .look fun w => (silent_checkLength _).bind fun _ => ?_
    split
    · exact silent_describeDescriptor _
    · exact (Silent.mapM fun r => h _ rfl r).bind fun _ => .pure _
    · exact .pure _

theorem silent_describeTo (hρ : ρ.Silent) (depth : Nat) (r : Ref) :
    Silent (describeTo ρ depth r) := by
  induction depth generalizing r with
  | zero => exact silent_describeBy hρ (by simp) r
  | succ depth ih =>
    refine silent_describeBy hρ (fun describe h r => ?_) r
    cases h
    exact ih r

/-- **Describing a thing writes nothing**, also if its class has its own way. -/
theorem silent_describe (hρ : ρ.Silent) (r : Ref) : Silent (describe ρ r) := by
  refine .look fun w => ?_
  split
  · exact silent_describeTo hρ _ _
  · exact .pure _

theorem silent_describeFound (hρ : ρ.Silent) (r : Ref) (found : Found) :
    Silent (describeFound ρ r found) := by
  unfold describeFound
  split
  · exact silent_describe hρ _
  · split
    · exact .pure _
    · exact (silent_describe hρ _).bind fun _ => .pure _
  · exact .pure _

theorem silent_labelOf (hρ : ρ.Silent) (r : Registration) : Silent (labelOf ρ r) := by
  unfold labelOf
  split
  · exact .pure _
  · exact silent_describe hρ _

/-! ## 4. Values of things -/

theorem silent_wholeOffered (method : String) (offer : Offer) :
    Silent (wholeOffered method offer) := by
  unfold wholeOffered
  split
  · exact .pure _
  · split
    · exact .pure _
    · exact .throw _
  · exact .throw _

theorem silent_firstWhole (hρ : ρ.Silent) (r : Ref) (methods : List String) :
    Silent (firstWhole ρ r methods) := by
  induction methods with
  | nil => exact .pure _
  | cons method rest ih =>
    refine (silent_special hρ _ _ _).bind fun offer => ?_
    split
    · exact (silent_wholeOffered _ _).bind fun _ => .pure _
    · exact ih

theorem silent_spelled (hρ : ρ.Silent) (base : Int) (r : Ref) (s : String) :
    Silent (spelled ρ base r s) := by
  unfold spelled
  refine .afterCheck (.throw _) ?_
  split
  · exact .pure _
  · exact (silent_describe hρ _).bind fun _ => .throw _

theorem silent_numberOf (hρ : ρ.Silent) (r : Ref) : Silent (numberOf ρ r) := by
  refine (silent_firstWhole hρ _ _).bind fun first => .look fun w => ?_
  split
  · exact .pure _
  · exact .pure _
  · refine (silent_firstWhole hρ _ _).bind fun second => .look fun w => ?_
    split
    · exact .pure _
    · exact (silent_spelled hρ _ _ _).bind fun _ => .pure _
    · exact .look fun w => .throw _

theorem silent_baseOf (hρ : ρ.Silent) (r : Ref) : Silent (baseOf ρ r) := by
  refine .look fun w => ?_
  split
  · exact .pure _
  · refine (silent_firstWhole hρ _ _).bind fun first => ?_
    split
    · exact .pure _
    · exact .look fun w => .throw _

theorem silent_numberToBase (hρ : ρ.Silent) (r base : Ref) : Silent (numberToBase ρ r base) := by
  refine (silent_baseOf hρ _).bind fun b => ?_
  split
  · exact .throw _
  · refine .look fun w => ?_
    split
    · exact silent_spelled hρ _ _ _
    · exact .throw _

theorem silent_wholeOf (hρ : ρ.Silent) (args : Arguments) : Silent (wholeOf ρ args) := by
  refine (Silent.ofExcept _).bind fun _ => ?_
  split
  · exact .pure _
  · exact silent_numberOf hρ _
  · exact (silent_numberToBase hρ _ _).bind fun _ => .pure _

theorem silent_convertedText (offer : Offer) : Silent (convertedText offer) :=
  (silent_textOffered _ _).bind fun _ => .pure _

theorem silent_plainText (hρ : ρ.Silent) (r : Ref) : Silent (plainText ρ r) := by
  refine (silent_special hρ _ _ _).bind fun offer => ?_
  split
  · exact silent_convertedText _
  · refine .look fun w => ?_
    split
    · exact .pure _
    · refine (silent_special hρ _ _ _).bind fun offer => ?_
      split
      · exact silent_convertedText _
      · refine (silent_describe hρ _).bind fun s => ?_
        split <;> exact .pure _

theorem silent_textOf (hρ : ρ.Silent) (args : Arguments) : Silent (textOf ρ args) := by
  refine (Silent.ofExcept _).bind fun _ => ?_
  split
  · exact .pure _
  · exact silent_plainText hρ _
  · exact .look fun w => .ofExcept _

theorem silent_truthOf (hρ : ρ.Silent) (r : Ref) : Silent (truthOf ρ r) := by
  refine (silent_special hρ _ _ _).bind fun truth => ?_
  split
  · exact .pure _
  · exact .throw _
  · refine (silent_special hρ _ _ _).bind fun length => ?_
    split
    · split
      · split
        · exact .throw _
        · split
          · exact .pure _
          · exact .throw _
      · exact .throw _
    · exact .throw _
    · exact .look fun w => .pure _

/-! ## 5. Equality and codes -/

theorem silent_codeOffered (offer : Offer) : Silent (codeOffered offer) := by
  unfold codeOffered
  split
  · split
    · exact .pure _
    · exact .throw _
  · exact .throw _

theorem silent_codeBy (hρ : ρ.Silent) {inner : Option (Ref → Action KeyCode)}
    (h : ∀ code ∈ inner, ∀ r, Silent (code r)) (r : Ref) : Silent (codeBy ρ inner r) := by
  refine .look fun w => .afterCheck (.throw _) ?_
  refine (silent_special hρ _ _ _).bind fun offer => ?_
  split
  · exact silent_codeOffered _
  · split
    · exact (Silent.mapM fun r => h _ rfl r).bind fun _ => .pure _
    · split
      · exact .throw _
      · exact .pure _

theorem silent_codeTo (hρ : ρ.Silent) (depth : Nat) (r : Ref) : Silent (codeTo ρ depth r) := by
  induction depth generalizing r with
  | zero => exact silent_codeBy hρ (by simp) r
  | succ depth ih =>
    refine silent_codeBy hρ (fun code h r => ?_) r
    cases h
    exact ih r

theorem silent_codeOf (hρ : ρ.Silent) (r : Ref) : Silent (codeOf ρ r) := by
  refine .look fun w => ?_
  split
  · exact silent_codeTo hρ _ _
  · split
    · exact .throw _
    · exact .pure _

section Comparing

variable {equal : Ref → Ref → Action Bool} (h : ∀ a b, Silent (equal a b))

include h

theorem silent_comparePartsBy (parts others : List Ref) :
    Silent (comparePartsBy equal parts others) := by
  induction parts generalizing others with
  | nil => cases others <;> exact .pure _
  | cons a parts ih =>
    cases others with
    | nil => exact .pure _
    | cons b others =>
      unfold comparePartsBy
      split
      · exact ih others
      · refine (h a b).bind fun same => ?_
        split
        · exact ih others
        · exact .pure _

theorem silent_firstSame (codeAt : Ref → KeyCode) (r : Ref) (code : KeyCode) (items : List Ref) :
    Silent (firstSame equal codeAt r code items) := by
  induction items with
  | nil => exact .pure _
  | cons e rest ih =>
    unfold firstSame
    split
    · split
      · exact .pure _
      · refine (h e r).bind fun same => ?_
        split
        · exact .pure _
        · exact ih
    · exact ih

theorem silent_allAmong (codeAt otherCodeAt : Ref → KeyCode) (others items : List Ref) :
    Silent (allAmong equal codeAt otherCodeAt others items) := by
  induction items with
  | nil => exact .pure _
  | cons r rest ih =>
    refine (silent_firstSame h _ _ _ _).bind fun found => ?_
    split
    · exact ih
    · exact .pure _

theorem silent_compareBy (compared : Comparison) : Silent (compareBy equal compared) := by
  cases compared with
  | inOrder parts others => exact silent_comparePartsBy h parts others
  | elements items others codes otherCodes =>
    exact .look fun w => silent_allAmong h _ _ others items
  | unlike => exact .pure _

end Comparing

theorem silent_compareOthers (hρ : ρ.Silent) (a b : Ref) (asked : Bool) :
    Silent (compareOthers ρ a b asked) := by
  have access (r : Ref) := (reads_checkAccess ρ r).silent
  refine .look fun w => .afterCheck (access b) ?_
  dsimp only
  split
  · refine .afterCheck (silent_special hρ _ _ _) ?_
    exact .afterCheck (access a) (.pure _)
  · exact .pure _

theorem silent_equalBy (hρ : ρ.Silent) {inner : Option (Ref → Ref → Action Bool)}
    (h : ∀ equal ∈ inner, ∀ a b, Silent (equal a b)) (a b : Ref) :
    Silent (equalBy ρ inner a b) := by
  refine .look fun w => .afterCheck (silent_special hρ _ _ _) ?_
  refine (silent_special hρ _ _ _).bind fun _ => ?_
  split
  · exact silent_compareBy (h _ rfl) _
  · exact silent_compareOthers hρ _ _ _

theorem silent_areEqualTo (hρ : ρ.Silent) (depth : Nat) (a b : Ref) :
    Silent (areEqualTo ρ depth a b) := by
  induction depth generalizing a b with
  | zero => exact silent_equalBy hρ (by simp) a b
  | succ depth ih =>
    refine silent_equalBy hρ (fun equal h a b => ?_) a b
    cases h
    exact ih a b

/-- **Comparing two things writes nothing**, also if their classes have a say. -/
theorem silent_areEqual (hρ : ρ.Silent) (a b : Ref) : Silent (areEqual ρ a b) := by
  refine .look fun w => ?_
  split
  · exact silent_areEqualTo hρ _ _ _
  · exact .pure _

theorem silent_settle (hρ : ρ.Silent) (codeAt : Ref → KeyCode) (r : Ref) (code : KeyCode)
    (items : List Ref) : Silent (settle ρ codeAt r code items) :=
  (silent_firstSame (silent_areEqual hρ) _ _ _ _).bind fun _ => .pure _

theorem silent_addKey (hρ : ρ.Silent) (items : List Ref) (codes : List (Ref × KeyCode)) (r : Ref)
    (code : KeyCode) : Silent (addKey ρ items codes r code) :=
  .look fun _ => (silent_settle hρ _ _ _ _).bind fun _ => .pure _

theorem silent_addAllKeys (hρ : ρ.Silent) (items : List Ref) (codes : List (Ref × KeyCode))
    (added : List Ref) : Silent (addAllKeys ρ items codes added) := by
  induction added generalizing items codes with
  | nil => exact .pure _
  | cons r rest ih =>
    refine (silent_codeOf hρ r).bind fun code => ?_
    exact (silent_addKey hρ _ _ _ _).bind fun _ => ih _ _

theorem silent_setOf (hρ : ρ.Silent) (items : List Ref) : Silent (setOf ρ items) := by
  unfold setOf
  split
  · exact silent_addAllKeys hρ _ _ _
  · refine Silent.bind (.forM fun r => (silent_codeOf hρ r).bind fun _ => .pure _) fun _ => ?_
    exact .look fun _ => .pure _

/-! ## 6. Collections and mappings -/

theorem silent_yielded (r : Ref) (x : Collection) : Silent (yielded r x) := by
  cases x with
  | list | set | entries => exact .pure _
  | stream items ending =>
    unfold yielded
    dsimp only
    split
    · exact Silent.bind (.update fun _ => rfl) fun _ => .pure _
    · exact .pure _

theorem silent_ownElements (hρ : ρ.Silent) (r : Ref) : Silent (ownElements ρ r) := by
  refine .look fun w => .look fun w => ?_
  split
  · exact .pure _
  · exact silent_yielded _ _
  · refine (silent_special hρ _ _ _).attempt.bind fun asked => ?_
    split
    · exact .pure _
    · exact .look fun w => .throw _

theorem silent_elementsOf (hρ : ρ.Silent) (r : Ref) : Silent (elementsOf ρ r) := by
  refine .look fun w => .afterCheck (.throw _) ?_
  refine (silent_special hρ _ _ _).bind fun offer => ?_
  split
  · exact .pure _
  · exact .throw _
  · exact silent_ownElements hρ _

theorem silent_pairElements (hρ : ρ.Silent) (index : Nat) (r : Ref) :
    Silent (pairElements ρ index r) := by
  refine (silent_elementsOf hρ r).attempt.bind fun read => ?_
  split
  · exact .pure _
  · exact .throw _
  · exact .throw _

theorem silent_readPair (hρ : ρ.Silent) (index : Nat) (r : Ref) : Silent (readPair ρ index r) := by
  refine (silent_pairElements hρ _ _).bind fun items => ?_
  split
  · exact (silent_codeOf hρ _).bind fun _ => .look fun w => .pure _
  · exact .throw _

theorem silent_readPairs (hρ : ρ.Silent) (index : Nat) (items : List Ref) (ending : Option Fault) :
    Silent (readPairs ρ index items ending) := by
  induction items generalizing index with
  | nil => exact .pure _
  | cons r rest ih =>
    refine (silent_readPair hρ _ _).attempt.bind fun read => ?_
    split
    · exact .pure _
    · exact (ih _).bind fun _ => .pure _

theorem silent_pairsOf (hρ : ρ.Silent) (offer : Offer) : Silent (pairsOf ρ offer) := by
  unfold pairsOf
  split
  · split
    · exact .pure _
    · exact silent_readPairs hρ _ _ _
  · exact .look fun w => .pure _

theorem silent_item (hρ : ρ.Silent) (r key : Ref) : Silent (item ρ r key) := by
  refine (silent_special hρ _ _ _).bind fun offer => ?_
  split
  · exact .throw _
  · refine .look fun w => ?_
    split
    · split
      · exact .pure _
      · refine (silent_special hρ _ _ _).bind fun _ => ?_
        exact (silent_describe hρ _).bind fun _ => .throw _
    · exact .ofExcept _
    · exact .throw _

theorem silent_keysOffered (r : Ref) (offer : Offer) : Silent (keysOffered r offer) := by
  unfold keysOffered
  dsimp only
  split
  · exact .look fun w => Silent.bind (.throw _) fun _ => by
      split
      · exact .pure _
      · exact .throw _
  · split
    · exact .pure _
    · exact .throw _

theorem silent_readKeyed (hρ : ρ.Silent) (r : Ref) (keys : List Ref) :
    Silent (readKeyed ρ r keys) := by
  induction keys with
  | nil => exact .pure _
  | cons key rest ih =>
    refine (silent_item hρ r key).bind fun v => .look fun w => ?_
    exact ih.bind fun _ => .pure _

theorem silent_unkeyedEntries (hρ : ρ.Silent) (r : Ref) : Silent (unkeyedEntries ρ r) := by
  refine .look fun w => ?_
  split
  · exact silent_readKeyed hρ _ _
  · split
    · exact .throw _
    · exact .throw _
  · split
    · exact .pure _
    · refine (silent_elementsOf hρ _).bind fun read => ?_
      refine (silent_readPairs hρ _ _ _).bind fun pairs => ?_
      split
      · exact .throw _
      · exact .pure _

/-- **Reading a thing as a mapping writes nothing**, also if it hands out its keys itself. -/
theorem silent_entriesOf (hρ : ρ.Silent) (r : Ref) : Silent (entriesOf ρ r) := by
  have keyed {x : Action Offer} (hx : Silent x) : Silent (do
      let offer ← x
      readKeyed ρ r (← keysOffered r offer)) :=
    hx.bind fun offer => (silent_keysOffered r offer).bind fun keys => silent_readKeyed hρ r keys
  refine .look fun w => .afterCheck (reads_checkAccess ρ r).silent ?_
  dsimp only
  split
  · exact .pure _
  · refine .either (.pure _) (silent_member? _ _) fun found => ?_
    split
    · exact silent_unkeyedEntries hρ _
    · exact keyed (silent_callFree hρ _ _ _ _)
    · exact keyed (silent_callCode hρ _ _ _)
    · exact keyed (silent_callWritten hρ _ _ _)

theorem silent_mappingOf (hρ : ρ.Silent) (args : Arguments) : Silent (mappingOf ρ args) := by
  unfold mappingOf
  split
  · exact .pure _
  · exact (silent_entriesOf hρ _).bind fun _ => .pure _
  · exact .throw _

end Action

end AppMount
