import AppMount.Proofs.Freezing
import AppMount.Server.Build
import Mathlib.Data.Nat.Find

/-!
# Validation

What the first pass of building refuses. A registration is refused if it requires a listener that
there is none of, if its place is taken by one before it, or if the class of its application cannot
be called without arguments. The first pass stops at the first of these, says what is wrong with it,
and leaves nothing behind but entries in the log.

* `ServerConfig.Lacks`, `ServerConfig.resolve`, `ServerConfig.placeOf`: where registrations belong;
* `World.refusal?`, `World.refusalAt?`: what a registration is refused for, given those before it;
* `ServerBuilder.Holds`: a builder of a configuration with descriptors of the store;
* `run_validate_cons`: one step; `run_validate_of_accepted`: the steps up to a registration;
* `run_validate_of_all`, `run_validate_of_first`: the whole pass;
* `World.Bad`, `World.Reports`: which registrations are bad, and what is said about them;
* `validate_reports_first_bad`: exactly builders with bad registrations are refused, for the first
  of them.
-/

namespace AppMount

/-! ## 1. Where registrations belong -/

namespace ServerConfig

/-- **A configuration lacks a name** that is not the default one and that none of its listeners
    has. -/
def Lacks (config : ServerConfig) (name : Datum) : Prop :=
  name ≠ .null ∧ name ≠ .text defaultRouting ∧ ∀ l ∈ config.listeners, name ≠ .text l.name

instance (config : ServerConfig) (name : Datum) : Decidable (config.Lacks name) :=
  inferInstanceAs (Decidable (_ ∧ _ ∧ _))

/-- **The listener of a routing name.** Names that there are no listeners of lead to the default
    one. -/
def resolve (config : ServerConfig) (name : Datum) : Datum :=
  if name = .null ∨ config.Lacks name then .text defaultRouting else name

/-- The place of a registration. -/
def placeOf (config : ServerConfig) (r : Registration) : ServerBuilder.Place :=
  ((config.resolve r.routingName).key, r.contextRoot.key)

theorem has_eq_false_of_lacks {config : ServerConfig} {name : Datum} (h : config.Lacks name) :
    config.has name = false := by
  obtain ⟨-, hdefault, hnone⟩ := h
  cases name with
  | text s =>
    have hs : s ≠ defaultRouting := fun he => hdefault (by rw [he])
    show (config.listener? s).isSome = false
    unfold listener?
    rw [if_neg hs, Option.isSome_eq_false_iff, Option.isNone_iff_eq_none, List.find?_eq_none]
    intro l hl he
    exact hnone l hl (by rw [of_decide_eq_true he])
  | null | truth | whole | decimal | list | mapping => rfl

theorem has_of_listener {config : ServerConfig} {l : Listener} (hl : l ∈ config.listeners) :
    config.has (.text l.name) = true := by
  show (config.listener? l.name).isSome = true
  unfold listener?
  split
  · rfl
  · exact List.find?_isSome.2 ⟨l, hl, decide_eq_true rfl⟩

theorem isDefaultName_eq_false_of_lacks {config : ServerConfig} {name : Datum}
    (h : config.Lacks name) : isDefaultName name = false := by
  simp [isDefaultName, h.1, h.2.1]

/-- What a name is that is not lacking. -/
theorem eq_of_not_lacks {config : ServerConfig} {name : Datum} (h : ¬ config.Lacks name) :
    name = .null ∨ name = .text defaultRouting ∨ ∃ l ∈ config.listeners, name = .text l.name := by
  by_contra hall
  refine h ⟨fun he => hall (.inl he), fun he => hall (.inr (.inl he)), fun l hl he => ?_⟩
  exact hall (.inr (.inr ⟨l, hl, he⟩))

theorem resolve_of_lacks {config : ServerConfig} {name : Datum} (h : config.Lacks name) :
    config.resolve name = .text defaultRouting :=
  if_pos (.inr h)

theorem resolve_of_not_lacks {config : ServerConfig} {name : Datum} (hn : name ≠ .null)
    (h : ¬ config.Lacks name) : config.resolve name = name :=
  if_neg (not_or.2 ⟨hn, h⟩)

theorem isKey_resolve (config : ServerConfig) (name : Datum) :
    (config.resolve name).isKey = true := by
  unfold resolve
  split
  · rfl
  · rename_i h
    rcases eq_of_not_lacks fun hl => h (.inr hl) with rfl | rfl | ⟨l, -, rfl⟩
    · rfl
    · rfl
    · rfl

theorem route_of_lacks {config : ServerConfig} {name : Datum} (h : config.Lacks name)
    (required : Bool) :
    config.route name required = if required then .refused name else .fallBack name := by
  unfold route Routing.named
  rw [isDefaultName_eq_false_of_lacks h, has_eq_false_of_lacks h]
  rfl

theorem route_of_not_lacks {config : ServerConfig} {name : Datum} (h : ¬ config.Lacks name)
    (required : Bool) : config.route name required = .to (config.resolve name) := by
  unfold route
  rcases eq_of_not_lacks h with rfl | rfl | ⟨l, hl, rfl⟩
  · rfl
  · rw [resolve_of_not_lacks (by simp) h]
    rfl
  · rw [resolve_of_not_lacks (by simp) h, has_of_listener hl]
    split
    · rename_i hdefault
      have : l.name = defaultRouting := by simpa [isDefaultName] using hdefault
      rw [this]
      rfl
    · rfl

/-- The first registration that has the place of another one. -/
theorem of_find?_placeOf {config : ServerConfig} {before : List Registration} {q r : Registration}
    (h : before.find? (config.placeOf · = config.placeOf r) = some q) :
    q ∈ before ∧ config.placeOf q = config.placeOf r :=
  ⟨List.mem_of_find?_eq_some h, by simpa using List.find?_some h⟩

theorem find?_placeOf_eq_none_iff {config : ServerConfig} {before : List Registration}
    {r : Registration} :
    before.find? (config.placeOf · = config.placeOf r) = none ↔
      ∀ q ∈ before, config.placeOf q ≠ config.placeOf r := by
  simp

/-- **A registration that requires a listener that there is none of.** -/
def Misses (config : ServerConfig) (r : Registration) : Prop :=
  config.Lacks r.routingName ∧ r.routingRequired.isTrue = true

instance (config : ServerConfig) (r : Registration) : Decidable (config.Misses r) :=
  inferInstanceAs (Decidable (_ ∧ _))

end ServerConfig

/-! ## 2. What is refused -/

namespace World

/-- A store with more in its log, and nothing else changed. -/
def logging (w : World) (entries : List LogEntry) : World :=
  { w with log := w.log ++ entries }

@[simp] theorem logging_nil (w : World) : w.logging [] = w := by
  simp [logging]

theorem logging_append (w : World) (entries entries' : List LogEntry) :
    (w.logging entries).logging entries' = w.logging (entries ++ entries') := by
  simp [logging]

/-- The notes show in no description. -/
theorem describe_noting (w : World) (calls : List Call) (log : List LogEntry) :
    (w.noting calls log).describe = w.describe := by
  have describeTo (depth : Nat) (r : Ref) :
      (w.noting calls log).describeTo depth r = w.describeTo depth r := by
    induction depth generalizing r with
    | zero => cases r <;> rfl
    | succ depth ih =>
      cases r with
      | object o =>
        simp only [World.describeTo, funext ih]
        rfl
      | none | cls | descriptor | datum => rfl
  exact funext (describeTo _)

theorem describe_logging (w : World) (entries : List LogEntry) :
    (w.logging entries).describe = w.describe :=
  describe_noting w w.calls (w.log ++ entries)

/-- **What a registration is refused for**, if it is, given those before it. -/
def refusal? (w : World) (config : ServerConfig) (before : List Registration) (r : Registration) :
    Option Fault :=
  if config.Misses r then
    some (.missingListener (r.label w.describe) r.routingName config.listenerNames)
  else if r.contextRoot.isKey = false then some (.notKey r.contextRoot.typeWord)
  else
    match before.find? (config.placeOf · = config.placeOf r) with
    | some q =>
      some (.samePlace (r.label w.describe) (q.label w.describe) r.contextRoot
        (config.resolve r.routingName))
    | none => r.config.descriptor?.bind w.constructionFault?

/-- A registration that nothing is wrong with has its listener, and a place of its own. -/
theorem refusal?_eq_none_iff {w : World} {config : ServerConfig} {before : List Registration}
    {r : Registration} :
    w.refusal? config before r = none ↔
      ¬ config.Misses r ∧ r.contextRoot.isKey = true ∧
        (∀ q ∈ before, config.placeOf q ≠ config.placeOf r) ∧
        r.config.descriptor?.bind w.constructionFault? = none := by
  unfold refusal?
  rw [← ServerConfig.find?_placeOf_eq_none_iff]
  by_cases hmisses : config.Misses r
  · simp [hmisses]
  · cases r.contextRoot.isKey with
    | false => simp [hmisses]
    | true =>
      cases before.find? (config.placeOf · = config.placeOf r) with
      | some q => simp [hmisses]
      | none => simp [hmisses]

/-- What the registration at a position is refused for, if there is one and it is. -/
def refusalAt? (w : World) (config : ServerConfig) (registrations : List Registration) (i : Nat) :
    Option Fault :=
  registrations[i]?.bind (w.refusal? config (registrations.take i))

/-- **What validation writes to the log**: which registrations fall back to the default listener. -/
def fallBacks (w : World) (config : ServerConfig) (registrations : List Registration) :
    List LogEntry :=
  (registrations.filter fun r => config.Lacks r.routingName ∧ r.routingRequired.isTrue = false).map
    fun r => .fellBack (r.label w.describe) r.routingName

/-- **The store that the validation of registrations leaves**: only the log has grown. -/
def validated (w : World) (config : ServerConfig) (registrations : List Registration) : World :=
  w.logging (w.fallBacks config registrations)

theorem validated_of_pos {w : World} {config : ServerConfig} {r : Registration}
    (h : config.Lacks r.routingName) (hr : r.routingRequired.isTrue = false) :
    w.validated config [r] = w.logging [.fellBack (r.label w.describe) r.routingName] := by
  unfold validated fallBacks
  rw [List.filter_cons_of_pos (by simp [h, hr])]
  rfl

theorem validated_of_neg {w : World} {config : ServerConfig} {r : Registration}
    (h : ¬ config.Lacks r.routingName ∨ r.routingRequired.isTrue = true) :
    w.validated config [r] = w := by
  unfold validated fallBacks
  rw [List.filter_cons_of_neg (by rcases h with h | h <;> simp [h])]
  exact logging_nil w

section Validated

variable (w : World) (config : ServerConfig) (rs : List Registration)

theorem describe_validated : (w.validated config rs).describe = w.describe :=
  describe_logging w _

theorem validated_append (rs' : List Registration) :
    (w.validated config rs).validated config rs' = w.validated config (rs ++ rs') := by
  have later : (w.validated config rs).fallBacks config rs' = w.fallBacks config rs' := by
    unfold fallBacks
    rw [describe_validated]
  show (w.validated config rs).logging ((w.validated config rs).fallBacks config rs') = _
  rw [later]
  simp [validated, logging, fallBacks]

theorem constructionFault?_validated (d : DescriptorId) :
    (w.validated config rs).constructionFault? d = w.constructionFault? d := rfl

theorem refusal?_validated (before : List Registration) (r : Registration) :
    (w.validated config rs).refusal? config before r = w.refusal? config before r := by
  unfold refusal?
  rw [describe_validated]
  rfl

theorem refusalAt?_validated (i : Nat) (rs' : List Registration) :
    (w.validated config rs).refusalAt? config rs' i = w.refusalAt? config rs' i :=
  congrArg _ (funext fun r => refusal?_validated w config rs _ r)

end Validated

theorem refusalAt?_of_getElem? {w : World} {config : ServerConfig} {rs : List Registration}
    {i : Nat} {r : Registration} (h : rs[i]? = some r) :
    w.refusalAt? config rs i = w.refusal? config (rs.take i) r := by
  unfold refusalAt?
  rw [h, Option.bind_some]

@[simp] theorem validated_nil (w : World) (config : ServerConfig) : w.validated config [] = w :=
  logging_nil w

/-- Either nothing is refused, or something is refused first. -/
theorem refused_first (w : World) (config : ServerConfig) (registrations : List Registration) :
    (∀ i, w.refusalAt? config registrations i = none) ∨
      ∃ i fault, w.refusalAt? config registrations i = some fault ∧
        ∀ j < i, w.refusalAt? config registrations j = none := by
  by_cases h : ∃ i, (w.refusalAt? config registrations i).isSome
  · right
    obtain ⟨fault, hfault⟩ := Option.isSome_iff_exists.1 (Nat.find_spec h)
    refine ⟨Nat.find h, fault, hfault, fun j hj => ?_⟩
    exact Option.not_isSome_iff_eq_none.1 (Nat.find_min h hj)
  · left
    exact fun i => Option.not_isSome_iff_eq_none.1 fun hi => h ⟨i, hi⟩

end World

/-! ## 3. One step -/

/-- **A builder of a configuration**, with nothing foreign in its fields, whose registrations are of
    descriptors of the store. -/
structure ServerBuilder.Holds (b : ServerBuilder) (config : ServerConfig) (members : List Ref)
    (w : World) : Prop where
  setting : b.setting = .config config members
  standIns : b.standIns = []
  stored : ∀ r ∈ b.registrations, ∃ d, r.config = .descriptor d ∧ w.HasDescriptor d

namespace Action

variable {ρ : Dispatch}

/-- A call of a method of descriptors runs the library's own code. -/
theorem callMethod_of_library (hρ : ρ.replaces = false) (d : DescriptorId) (method : String)
    (given : Nat) (lastParameter : String) (own : DescriptorId → Action Unit) :
    callMethod ρ (.descriptor d) method given lastParameter own = (do own d; pure true) := by
  unfold callMethod
  rw [if_neg (by simp [hρ])]

theorem run_logged (entry : LogEntry) (w : World) :
    EStateM.run (logged entry) w = .ok ⟨⟩ (w.logging [entry]) := rfl

/-- **Looking for the listener of a registration**: it is found, or the registration falls back, or
    it misses a listener. -/
theorem run_resolveListener (hρ : ρ.replaces = false) (config : ServerConfig) (members : List Ref)
    (r : Registration) (w : World) :
    EStateM.run (resolveListener ρ (.config config members) r) w =
      if config.Misses r then
        .error (.missingListener (r.label w.describe) r.routingName config.listenerNames) w
      else .ok (config.resolve r.routingName) (w.validated config [r]) := by
  unfold resolveListener route
  rw [pure_bind]
  by_cases hlacks : config.Lacks r.routingName
  · rw [ServerConfig.route_of_lacks hlacks]
    cases hrequired : r.routingRequired.isTrue with
    | true =>
      rw [if_pos rfl, if_pos ⟨hlacks, hrequired⟩]
      dsimp only
      rw [run_bind_of_ok (run_labelOf_of_library hρ r w)]
      rfl
    | false =>
      rw [if_neg Bool.false_ne_true, if_neg (by simp [ServerConfig.Misses, hrequired])]
      dsimp only
      rw [run_bind_of_ok (run_labelOf_of_library hρ r w), run_bind_of_ok (run_logged _ w),
        ServerConfig.resolve_of_lacks hlacks, World.validated_of_pos hlacks hrequired]
      rfl
  · rw [ServerConfig.route_of_not_lacks hlacks, if_neg fun h => hlacks h.1,
      World.validated_of_neg (.inl hlacks)]
    rfl

end Action

namespace ServerBuilder

variable {ρ : Dispatch} {b : ServerBuilder} {config : ServerConfig} {members : List Ref}

theorem run_placeOf (config : ServerConfig) (r : Registration) (w : World) :
    EStateM.run (placeOf (config.resolve r.routingName) r) w =
      if r.contextRoot.isKey = false then .error (.notKey r.contextRoot.typeWord) w
      else .ok (config.placeOf r) w := by
  unfold placeOf
  rw [List.find?_cons_of_neg (by simp [config.isKey_resolve])]
  cases h : r.contextRoot.isKey with
  | false =>
    rw [List.find?_cons_of_pos (by simp [h])]
    rfl
  | true =>
    rw [List.find?_cons_of_neg (by simp [h])]
    rfl

theorem checkField_of_nil (hb : b.standIns = []) (field : String) :
    b.checkField field = pure ⟨⟩ := by
  unfold checkField
  rw [hb]
  rfl

/-- The first pass over a builder with nothing foreign in its fields. -/
theorem validate_cons (hb : b.standIns = []) (taken : List (Place × String)) (r : Registration)
    (rest : List Registration) :
    b.validate ρ taken (r :: rest) = (do
      let listener ← Action.resolveListener ρ b.setting r
      let label ← Action.labelOf ρ r
      let place ← placeOf listener r
      match taken.find? (·.1 = place) with
      | some (_, other) => throw (.samePlace label other r.contextRoot listener)
      | none =>
        let _ ← Action.callMethod ρ r.config "check_constructible" 0 "self"
          (Action.checkConstructible ρ)
        let resolved ← b.validate ρ (taken ++ [(place, label)]) rest
        pure ((listener, r) :: resolved)) := by
  rw [validate]
  dsimp only
  rewrite [checkField_of_nil hb, pure_bind, ite_self]
  rfl

/-- The places that registrations take, with their labels. -/
def taken (w : World) (config : ServerConfig) (before : List Registration) :
    List (Place × String) :=
  before.map fun q => (config.placeOf q, q.label w.describe)

theorem taken_validated (w : World) (config : ServerConfig) (rs before : List Registration) :
    taken (w.validated config rs) config before = taken w config before := by
  unfold taken
  rw [World.describe_validated]

theorem find?_taken (w : World) (config : ServerConfig) (before : List Registration)
    (place : Place) :
    (taken w config before).find? (·.1 = place) =
      (before.find? (config.placeOf · = place)).map
        fun q => (config.placeOf q, q.label w.describe) := by
  unfold taken
  rw [List.find?_map]
  rfl

/-- **One step of the first pass**: the registration is refused, or the pass goes on with its place
    taken. -/
theorem run_validate_cons (hρ : ρ.replaces = false) (hs : b.setting = .config config members)
    (hb : b.standIns = []) {r : Registration} {d : DescriptorId} (hd : r.config = .descriptor d)
    (before rest : List Registration) (w : World) :
    EStateM.run (b.validate ρ (taken w config before) (r :: rest)) w =
      match w.refusal? config before r with
      | some fault => .error fault (w.validated config [r])
      | none => EStateM.run (do
          let resolved ← b.validate ρ (taken w config (before ++ [r])) rest
          pure ((config.resolve r.routingName, r) :: resolved))
          (w.validated config [r]) := by
  rw [validate_cons hb, hs]
  unfold World.refusal?
  by_cases hmisses : config.Misses r
  · rw [if_pos hmisses]
    have refused := Action.run_resolveListener hρ config members r w
    rw [if_pos hmisses] at refused
    rw [Action.run_bind_of_error refused, World.validated_of_neg (.inr hmisses.2)]
  · rw [if_neg hmisses]
    have resolved := Action.run_resolveListener hρ config members r w
    rw [if_neg hmisses] at resolved
    rw [Action.run_bind_of_ok resolved]
    have labelled := Action.run_labelOf_of_library hρ r (w.validated config [r])
    rw [World.describe_validated] at labelled
    rw [Action.run_bind_of_ok labelled]
    have placed := run_placeOf config r (w.validated config [r])
    cases hkey : r.contextRoot.isKey with
    | false =>
      rw [if_pos hkey] at placed
      rw [Action.run_bind_of_error placed]
      rfl
    | true =>
      rw [if_neg (by simp [hkey])] at placed
      rw [Action.run_bind_of_ok placed, find?_taken, if_neg nofun]
      cases before.find? (config.placeOf · = config.placeOf r) with
      | some q => rfl
      | none =>
        rw [hd, Action.callMethod_of_library hρ]
        dsimp only [Option.map_none]
        rw [bind_assoc]
        have checked := Action.run_checkConstructible_of_library hρ d
          (w.validated config [r])
        rw [World.constructionFault?_validated] at checked
        show _ = match w.constructionFault? d with | some fault => _ | none => _
        cases hfault : w.constructionFault? d with
        | some fault =>
          rw [hfault] at checked
          rw [Action.run_bind_of_error checked]
        | none =>
          rw [hfault] at checked
          rw [Action.run_bind_of_ok checked, pure_bind]
          simp [taken]

/-! ## 4. The whole pass -/

/-- A registration with its listener. -/
def resolved (config : ServerConfig) (r : Registration) : Datum × Registration :=
  (config.resolve r.routingName, r)

variable {w : World}

/-- **As long as nothing is refused, the first pass goes on**: every registration gets its listener,
    and its place is taken from then on. -/
theorem run_validate_of_accepted (hρ : ρ.replaces = false) (hb : b.Holds config members w) {n : Nat}
    (hn : n ≤ b.registrations.length)
    (h : ∀ j < n, w.refusalAt? config b.registrations j = none) :
    EStateM.run (b.validate ρ [] b.registrations) w =
      EStateM.run (do
        let rest ← b.validate ρ (taken w config (b.registrations.take n)) (b.registrations.drop n)
        pure ((b.registrations.take n).map (resolved config) ++ rest))
        (w.validated config (b.registrations.take n)) := by
  -- The induction is on how far the pass has come.
  induction n with
  | zero =>
    rw [List.take_zero, List.drop_zero]
    simp [taken]
  | succ n ih =>
    have hlt : n < b.registrations.length := hn
    have hr : b.registrations[n]? = some b.registrations[n] := List.getElem?_eq_getElem hlt
    obtain ⟨d, hd, -⟩ := hb.stored b.registrations[n] (List.getElem_mem hlt)
    have accepted : w.refusal? config (b.registrations.take n) b.registrations[n] = none := by
      rw [← World.refusalAt?_of_getElem? hr]
      exact h n (Nat.lt_succ_self n)
    have step := run_validate_cons hρ hb.setting hb.standIns hd (b.registrations.take n)
      (b.registrations.drop (n + 1)) (w.validated config (b.registrations.take n))
    rw [World.refusal?_validated, accepted, taken_validated, World.validated_append,
      taken_validated] at step
    rw [ih (Nat.le_of_lt hlt) fun j hj => h j (Nat.lt_succ_of_lt hj),
      List.drop_eq_getElem_cons hlt, EStateM.run_bind, step, ← EStateM.run_bind,
      List.take_succ_eq_append_getElem hlt]
    simp only [bind_assoc, pure_bind, List.map_append, List.map_cons, List.map_nil,
      List.append_assoc, List.singleton_append]
    rfl

/-- **Where nothing is refused, the first pass succeeds.** -/
theorem run_validate_of_all (hρ : ρ.replaces = false) (hb : b.Holds config members w)
    (h : ∀ i, w.refusalAt? config b.registrations i = none) :
    EStateM.run (b.validate ρ [] b.registrations) w =
      .ok (b.registrations.map (resolved config))
        (w.validated config b.registrations) := by
  rw [run_validate_of_accepted hρ hb le_rfl fun j _ => h j, List.take_length, List.drop_length]
  simp [validate]

/-- **The first pass stops at the first registration that is refused.** -/
theorem run_validate_of_first (hρ : ρ.replaces = false) (hb : b.Holds config members w) {i : Nat}
    {fault : Fault} (hi : w.refusalAt? config b.registrations i = some fault)
    (first : ∀ j < i, w.refusalAt? config b.registrations j = none) :
    EStateM.run (b.validate ρ [] b.registrations) w =
      .error fault (w.validated config (b.registrations.take (i + 1))) := by
  obtain ⟨r, hr, refused⟩ := Option.bind_eq_some_iff.1 hi
  obtain ⟨hlt, rfl⟩ := List.getElem?_eq_some_iff.1 hr
  obtain ⟨d, hd, -⟩ := hb.stored b.registrations[i] (List.getElem_mem hlt)
  have step := run_validate_cons hρ hb.setting hb.standIns hd (b.registrations.take i)
    (b.registrations.drop (i + 1)) (w.validated config (b.registrations.take i))
  rw [World.refusal?_validated, refused, taken_validated, World.validated_append] at step
  rw [run_validate_of_accepted hρ hb (Nat.le_of_lt hlt) first, List.drop_eq_getElem_cons hlt,
    Action.run_bind_of_error step, List.take_succ_eq_append_getElem hlt]

/-- Building is the two passes, one after the other. -/
theorem build_of_nil (hb : b.standIns = []) :
    b.build ρ = (do
      let resolved ← b.validate ρ [] b.registrations
      let mounts ← b.mountAll ρ resolved
      pure { setting := b.setting, mounts := mounts }) := by
  have registered : b.toMount = pure b.registrations := by
    unfold toMount
    rw [hb]
    rfl
  unfold build
  rw [registered, pure_bind]
  simp only [checkField_of_nil hb, pure_bind]

/-- What the first pass refuses is not built. -/
theorem run_build_of_first (hρ : ρ.replaces = false) (hb : b.Holds config members w) {i : Nat}
    {fault : Fault} (hi : w.refusalAt? config b.registrations i = some fault)
    (first : ∀ j < i, w.refusalAt? config b.registrations j = none) :
    EStateM.run (b.build ρ) w =
      .error fault (w.validated config (b.registrations.take (i + 1))) := by
  rw [build_of_nil hb.standIns]
  exact Action.run_bind_of_error (run_validate_of_first hρ hb hi first)

end ServerBuilder

/-! ## 5. Bad registrations -/

namespace World

variable {w : World} {config : ServerConfig} {registrations : List Registration} {i : Nat}
  {fault : Fault}

/-- **A registration that waits for an application of a class that cannot be called without
    arguments.** -/
def Unconstructible (w : World) (r : Registration) : Prop :=
  ∃ d c params, r.config = .descriptor d ∧ (w.descriptor d).frozen = false ∧
    (w.descriptor d).applicationClass = some c ∧ w.parametersOf c = some params ∧
    callFault? params 0 [] ≠ none

/-- **A bad registration**: it misses a listener, or one before it has its place, or its application
    cannot be constructed. -/
def Bad (w : World) (config : ServerConfig) (registrations : List Registration) (i : Nat) : Prop :=
  ∃ r, registrations[i]? = some r ∧
    (config.Misses r ∨ (∃ q ∈ registrations.take i, config.placeOf q = config.placeOf r) ∨
      w.Unconstructible r)

/-- **What is said about a bad registration.** That it misses a listener comes first, then that its
    place is taken, by the only one before it that has this place. -/
inductive Reports (w : World) (config : ServerConfig) (registrations : List Registration)
    (i : Nat) : Fault → Prop where
  | misses {r : Registration} (hr : registrations[i]? = some r) (h : config.Misses r) :
    Reports w config registrations i
      (.missingListener (r.label w.describe) r.routingName config.listenerNames)
  | taken {r q : Registration} {j : Nat} (hr : registrations[i]? = some r)
    (h : ¬ config.Misses r) (hj : j < i) (hq : registrations[j]? = some q)
    (same : config.placeOf q = config.placeOf r)
    (only : ∀ k < i, ∀ q', registrations[k]? = some q' →
      config.placeOf q' = config.placeOf r → k = j) :
    Reports w config registrations i
      (.samePlace (r.label w.describe) (q.label w.describe) r.contextRoot
        (config.resolve r.routingName))
  | unconstructible {r : Registration} {d : DescriptorId} {c : ClassId} {params : List Parameter}
    {p : Parameter} (hr : registrations[i]? = some r) (h : ¬ config.Misses r)
    (free : ∀ q ∈ registrations.take i, config.placeOf q ≠ config.placeOf r)
    (hd : r.config = .descriptor d) (hf : (w.descriptor d).frozen = false)
    (hc : (w.descriptor d).applicationClass = some c) (hp : w.parametersOf c = some params)
    (first : firstRequired? params = some p) :
    Reports w config registrations i (.unconstructible (w.classDef c).qualname (.missing p.name))

theorem Reports.category (h : w.Reports config registrations i fault) :
    fault.category = "ConfigurationError" := by
  cases h with
  | misses | taken | unconstructible => rfl

/-- **What a builder promises that is to be validated**: context roots can be keys, and the classes
    of the applications show their parameters. -/
structure Legible (w : World) (r : Registration) : Prop where
  isKey : r.contextRoot.isKey = true
  shown : ∀ d c, r.config = .descriptor d → (w.descriptor d).applicationClass = some c →
    ∃ params, w.parametersOf c = some params

theorem shown_of_parametersOf {c : ClassId} {params : List Parameter}
    (h : w.parametersOf c = some params) : w.shown c = .parameters params := by
  unfold parametersOf at h
  split at h
  · rename_i hshown
    rw [hshown, Option.some.inj h]
  · cases h

theorem constructionFault?_of_parametersOf {d : DescriptorId} {c : ClassId}
    {params : List Parameter} (hf : (w.descriptor d).frozen = false)
    (hc : (w.descriptor d).applicationClass = some c) (hp : w.parametersOf c = some params) :
    w.constructionFault? d =
      (firstRequired? params).map fun p =>
        .unconstructible (w.classDef c).qualname (.missing p.name) := by
  rw [constructionFault?_of_backed hf hc]
  unfold parameterFault?
  rw [shown_of_parametersOf hp]

/-- **What a descriptor is refused for** whose class shows its parameters. -/
theorem constructionFault?_eq_some_iff {r : Registration} {d : DescriptorId} (hl : w.Legible r)
    (hd : r.config = .descriptor d) :
    w.constructionFault? d = some fault ↔
      ∃ c params p, (w.descriptor d).frozen = false ∧
        (w.descriptor d).applicationClass = some c ∧ w.parametersOf c = some params ∧
        firstRequired? params = some p ∧
        fault = .unconstructible (w.classDef c).qualname (.missing p.name) := by
  constructor
  · intro h
    have hf : (w.descriptor d).frozen = false := by
      by_contra hf
      simp [constructionFault?, hf] at h
    cases hc : (w.descriptor d).applicationClass with
    | none => simp [constructionFault?, hc] at h
    | some c =>
      obtain ⟨params, hp⟩ := hl.shown d c hd hc
      rw [constructionFault?_of_parametersOf hf hc hp] at h
      obtain ⟨p, first, rfl⟩ := Option.map_eq_some_iff.1 h
      exact ⟨c, params, p, hf, rfl, hp, first, rfl⟩
  · rintro ⟨c, params, p, hf, hc, hp, first, rfl⟩
    rw [constructionFault?_of_parametersOf hf hc hp, first]
    rfl

/-- A descriptor is refused exactly if its application cannot be constructed. -/
theorem unconstructible_iff {r : Registration} {d : DescriptorId} (hl : w.Legible r)
    (hd : r.config = .descriptor d) :
    w.Unconstructible r ↔ ∃ fault, w.constructionFault? d = some fault := by
  constructor
  · rintro ⟨e, c, params, he, hf, hc, hp, hcall⟩
    obtain rfl : d = e := Ref.descriptor.inj (hd.symm.trans he)
    rw [ne_eq, callFault?_nil_eq_none_iff] at hcall
    obtain ⟨p, first⟩ := Option.ne_none_iff_exists'.1 hcall
    exact ⟨_, (constructionFault?_eq_some_iff hl hd).2 ⟨c, params, p, hf, hc, hp, first, rfl⟩⟩
  · rintro ⟨fault, h⟩
    obtain ⟨c, params, p, hf, hc, hp, first, -⟩ := (constructionFault?_eq_some_iff hl hd).1 h
    refine ⟨d, c, params, hd, hf, hc, hp, ?_⟩
    rw [ne_eq, callFault?_nil_eq_none_iff, first]
    exact Option.some_ne_none p

/-- **What is refused, with all that comes before in the order of the checks.** -/
theorem refusal?_eq_some_iff {before : List Registration} {r : Registration} (hl : w.Legible r) :
    w.refusal? config before r = some fault ↔
      (config.Misses r ∧
        fault = .missingListener (r.label w.describe) r.routingName config.listenerNames) ∨
      (¬ config.Misses r ∧ ∃ q, before.find? (config.placeOf · = config.placeOf r) = some q ∧
        fault = .samePlace (r.label w.describe) (q.label w.describe) r.contextRoot
          (config.resolve r.routingName)) ∨
      (¬ config.Misses r ∧ (∀ q ∈ before, config.placeOf q ≠ config.placeOf r) ∧
        ∃ d, r.config = .descriptor d ∧ w.constructionFault? d = some fault) := by
  unfold refusal?
  by_cases hmisses : config.Misses r
  · simp [hmisses, eq_comm]
  · rw [if_neg hmisses, if_neg (by simp [hl.isKey])]
    cases hfind : before.find? (config.placeOf · = config.placeOf r) with
    | some q =>
      obtain ⟨hmem, same⟩ := ServerConfig.of_find?_placeOf hfind
      have hq : ¬ ∀ q ∈ before, config.placeOf q ≠ config.placeOf r := fun h => h q hmem same
      simp only [hmisses, false_and, not_false_eq_true, true_and, false_or, hq, or_false,
        Option.some.injEq, exists_eq_left']
      exact eq_comm
    | none =>
      have free := ServerConfig.find?_placeOf_eq_none_iff.1 hfind
      have bound : r.config.descriptor?.bind w.constructionFault? = some fault ↔
          ∃ d, r.config = .descriptor d ∧ w.constructionFault? d = some fault := by
        cases r.config with
        | descriptor d => simp
        | none | cls | object | datum => simp [Ref.descriptor?]
      simp only [hmisses, false_and, not_false_eq_true, true_and, false_or, reduceCtorEq,
        exists_false]
      rw [bound]
      exact ⟨fun h => ⟨free, h⟩, fun h => h.2⟩

/-- **A registration is refused exactly if it is bad.** -/
theorem bad_iff_refusalAt? (hl : ∀ r ∈ registrations, w.Legible r)
    (hd : ∀ r ∈ registrations, ∃ d, r.config = .descriptor d ∧ w.HasDescriptor d) :
    w.Bad config registrations i ↔ ∃ fault, w.refusalAt? config registrations i = some fault := by
  cases hr : registrations[i]? with
  | none => simp [Bad, refusalAt?, hr]
  | some r =>
    have hmem := List.mem_of_getElem? hr
    obtain ⟨d, hd, -⟩ := hd r hmem
    have hl := hl r hmem
    simp only [refusalAt?_of_getElem? hr, refusal?_eq_some_iff hl]
    constructor
    · rintro ⟨r', hr', hbad⟩
      obtain rfl : r = r' := Option.some.inj (hr.symm.trans hr')
      by_cases hmisses : config.Misses r
      · exact ⟨_, .inl ⟨hmisses, rfl⟩⟩
      · cases hfind : (registrations.take i).find? (config.placeOf · = config.placeOf r) with
        | some q => exact ⟨_, .inr (.inl ⟨hmisses, q, rfl, rfl⟩)⟩
        | none =>
          have free := ServerConfig.find?_placeOf_eq_none_iff.1 hfind
          have hcons : w.Unconstructible r := by
            refine (hbad.resolve_left hmisses).resolve_left ?_
            rintro ⟨q, hq, he⟩
            exact free q hq he
          obtain ⟨fault, h⟩ := (unconstructible_iff hl hd).1 hcons
          exact ⟨fault, .inr (.inr ⟨hmisses, free, d, hd, h⟩)⟩
    · rintro ⟨fault, ⟨hmisses, -⟩ | ⟨-, q, hfind, -⟩ | ⟨-, -, d', hd', h⟩⟩
      · exact ⟨r, hr, .inl hmisses⟩
      · exact ⟨r, hr, .inr (.inl ⟨q, ServerConfig.of_find?_placeOf hfind⟩)⟩
      · exact ⟨r, hr, .inr (.inr ((unconstructible_iff hl hd').2 ⟨fault, h⟩))⟩

/-- **The first bad registration is reported.** That none before it is bad is why only one can have
    its place. -/
theorem reports_of_first (hl : ∀ r ∈ registrations, w.Legible r)
    (hi : w.refusalAt? config registrations i = some fault)
    (first : ∀ j < i, ¬ w.Bad config registrations j) :
    w.Reports config registrations i fault := by
  obtain ⟨r, hr, refused⟩ := Option.bind_eq_some_iff.1 hi
  have hl := hl r (List.mem_of_getElem? hr)
  rcases (refusal?_eq_some_iff hl).1 refused with
    ⟨hmisses, rfl⟩ | ⟨hmisses, q, hfind, rfl⟩ | ⟨hmisses, free, d, hd, h⟩
  · exact .misses hr hmisses
  · obtain ⟨hmem, same⟩ := ServerConfig.of_find?_placeOf hfind
    obtain ⟨j, hq⟩ := List.getElem?_of_mem hmem
    obtain ⟨hlt, -⟩ := List.getElem?_eq_some_iff.1 hq
    have hj : j < i := by
      rw [List.length_take] at hlt
      omega
    rw [List.getElem?_take_of_lt hj] at hq
    -- Of two with this place the later one would be bad.
    have apart {k k' : Nat} {q q' : Registration} (hk' : k' < i) (hlt : k < k')
        (hq : registrations[k]? = some q) (hq' : registrations[k']? = some q')
        (he : config.placeOf q = config.placeOf q') : False := by
      refine first k' hk' ⟨q', hq', .inr (.inl ⟨q, ?_, he⟩)⟩
      rw [← List.getElem?_take_of_lt hlt] at hq
      exact List.mem_of_getElem? hq
    refine .taken hr hmisses hj hq same fun k hk q' hq' same' => ?_
    rcases Nat.lt_trichotomy k j with h | h | h
    · exact (apart hj h hq' hq (same'.trans same.symm)).elim
    · exact h
    · exact (apart hk h hq hq' (same.trans same'.symm)).elim
  · obtain ⟨c, params, p, hf, hc, hp, hfirst, rfl⟩ := (constructionFault?_eq_some_iff hl hd).1 h
    exact .unconstructible hr hmisses free hd hf hc hp hfirst

end World

/-! ## 6. What the first pass says -/

namespace ServerBuilder

variable {ρ : Dispatch} {b : ServerBuilder} {config : ServerConfig} {members : List Ref} {w : World}

theorem Holds.validated (hb : b.Holds config members w) (rs : List Registration) :
    b.Holds config members (w.validated config rs) :=
  ⟨hb.setting, hb.standIns, hb.stored⟩

/-- **Validation refuses exactly the bad registrations, reports the first one, and touches
    nothing.** What is refused leaves a store in which only the log has grown; to build again from
    there ends the same way. -/
theorem validate_reports_first_bad (hρ : ρ.replaces = false) (hb : b.Holds config members w)
    (hl : ∀ r ∈ b.registrations, w.Legible r) :
    ((∃ fault w', EStateM.run (b.validate ρ [] b.registrations) w = .error fault w' ∧
        fault.category = "ConfigurationError") ↔ ∃ i, w.Bad config b.registrations i) ∧
    ((∀ i, ¬ w.Bad config b.registrations i) →
      EStateM.run (b.validate ρ [] b.registrations) w =
        .ok (b.registrations.map (resolved config))
          (w.validated config b.registrations)) ∧
    ∀ i, w.Bad config b.registrations i → (∀ j < i, ¬ w.Bad config b.registrations j) →
      ∃ fault, w.Reports config b.registrations i fault ∧
        EStateM.run (b.validate ρ [] b.registrations) w =
          .error fault (w.validated config (b.registrations.take (i + 1))) ∧
        EStateM.run (b.build ρ) w =
          .error fault (w.validated config (b.registrations.take (i + 1))) ∧
        EStateM.run (b.build ρ) (w.validated config (b.registrations.take (i + 1))) =
          .error fault ((w.validated config (b.registrations.take (i + 1))).validated config
            (b.registrations.take (i + 1))) := by
  have accepted {i : Nat} (h : ¬ w.Bad config b.registrations i) :
      w.refusalAt? config b.registrations i = none := by
    rw [World.bad_iff_refusalAt? hl hb.stored] at h
    exact Option.eq_none_iff_forall_ne_some.2 fun fault hf => h ⟨fault, hf⟩
  refine ⟨⟨?_, ?_⟩, fun h => ?_, fun i hi first => ?_⟩
  · rintro ⟨fault, w', herr, -⟩
    by_contra hall
    rw [run_validate_of_all hρ hb fun i => accepted fun hi => hall ⟨i, hi⟩] at herr
    cases herr
  · rintro ⟨i, hi⟩
    obtain ⟨j, hj, first⟩ : ∃ j, w.Bad config b.registrations j ∧
        ∀ k < j, ¬ w.Bad config b.registrations k := by
      classical
      exact ⟨Nat.find ⟨i, hi⟩, Nat.find_spec ⟨i, hi⟩, fun k hk => Nat.find_min ⟨i, hi⟩ hk⟩
    obtain ⟨fault, hfault⟩ := (World.bad_iff_refusalAt? hl hb.stored).1 hj
    refine ⟨fault, _, run_validate_of_first hρ hb hfault fun k hk => accepted (first k hk), ?_⟩
    exact (World.reports_of_first hl hfault first).category
  · exact run_validate_of_all hρ hb fun i => accepted (h i)
  · obtain ⟨fault, hfault⟩ := (World.bad_iff_refusalAt? hl hb.stored).1 hi
    have before {j : Nat} (hj : j < i) := accepted (first j hj)
    refine ⟨fault, World.reports_of_first hl hfault first, ?_, ?_, ?_⟩
    · exact run_validate_of_first hρ hb hfault fun j hj => before hj
    · exact run_build_of_first hρ hb hfault fun j hj => before hj
    · refine run_build_of_first hρ (hb.validated _) ?_ fun j hj => ?_
      · rw [World.refusalAt?_validated]
        exact hfault
      · rw [World.refusalAt?_validated]
        exact before hj

/-- A store with two descriptors to be filled by hand and one for a class of applications whose
    constructor has a parameter. -/
def crowdedStore : World :=
  { World.initial with
    classes := World.initial.classes.push
      { name := "ReportApp", qualname := "ReportApp", home := .text "shop",
        ancestors := [ClassId.application, ClassId.object],
        members := [(ClassDef.initializerMember,
          .method (.within "ReportApp" ClassDef.initializerMember
            (.setUp { params := [⟨"dsn", .ordinary, false⟩] })))] }
    descriptors := #[{ cls := ClassId.descriptor }, { cls := ClassId.descriptor },
      { cls := ClassId.descriptor, applicationClass := some ⟨6⟩ }] }

/-- Three registrations, of which the second falls back to where the third one is. -/
def crowdedBuilder : ServerBuilder :=
  { registrations :=
      [{ contextRoot := .text "/", config := .descriptor ⟨0⟩ },
        { contextRoot := .text "/reports", config := .descriptor ⟨1⟩,
          routingName := .text "admin" },
        { contextRoot := .text "/reports", config := .descriptor ⟨2⟩,
          appClassName := .text "shop.ReportApp" }] }

/-- The third registration is bad for two reasons; that its place is taken is the one reported. -/
theorem validate_crowdedBuilder :
    Dispatch.library.replaces = false ∧ crowdedBuilder.Holds {} [] crowdedStore ∧
    (∀ r ∈ crowdedBuilder.registrations, crowdedStore.Legible r) ∧
    ∃ fault, crowdedStore.Reports {} crowdedBuilder.registrations 2 fault ∧
      EStateM.run (crowdedBuilder.build Dispatch.library) crowdedStore =
        .error fault (crowdedStore.validated {} crowdedBuilder.registrations) := by
  have holds : crowdedBuilder.Holds {} [] crowdedStore := by
    refine ⟨rfl, rfl, ?_⟩
    simp [crowdedBuilder, World.HasDescriptor, crowdedStore]
  have legible : ∀ r ∈ crowdedBuilder.registrations, crowdedStore.Legible r := by
    intro r hr
    simp only [crowdedBuilder, List.mem_cons, List.not_mem_nil, or_false] at hr
    rcases hr with rfl | rfl | rfl
    · exact ⟨rfl, by rintro d c ⟨⟩ ⟨⟩⟩
    · exact ⟨rfl, by rintro d c ⟨⟩ ⟨⟩⟩
    · exact ⟨rfl, by rintro d c ⟨⟩ ⟨⟩; exact ⟨_, rfl⟩⟩
  have bad (i : Nat) : crowdedStore.Bad {} crowdedBuilder.registrations i ↔ _ :=
    World.bad_iff_refusalAt? legible holds.stored
  have second : crowdedStore.Bad {} crowdedBuilder.registrations 2 :=
    (bad 2).2 (Option.isSome_iff_exists.1 (by decide))
  have accepted : ∀ j < 2, crowdedStore.refusalAt? {} crowdedBuilder.registrations j = none := by
    decide
  have first : ∀ j < 2, ¬ crowdedStore.Bad {} crowdedBuilder.registrations j := by
    intro j hj h
    obtain ⟨fault, hfault⟩ := (bad j).1 h
    rw [accepted j hj] at hfault
    cases hfault
  obtain ⟨fault, hreports, -, hbuild, -⟩ :=
    (validate_reports_first_bad (ρ := Dispatch.library) rfl holds legible).2.2 2 second first
  exact ⟨rfl, holds, legible, fault, hreports, hbuild⟩

end ServerBuilder

end AppMount
