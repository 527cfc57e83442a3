import AppMount.Proofs.Listening
import AppMount.Proofs.SilentFreezing
import AppMount.Proofs.Telling

/-!
# The log of a build

What a build writes to the server's log. The first pass warns of each registration that falls back,
up to the first one that it refuses, and of that one too if it has fallen back by then; the second
pass records each mount, up to the first descriptor that cannot be frozen. Each record has the label
that the registration has at that moment. Nothing else is written, whatever methods of the library
the classes of an application replace. A registration that cannot be named at that moment ends the
build without a record.

* `recordsOf`: the records of a pass over a list, by what each element gives when the pass gets to
  it; `InTurns.log`, `InTurns.forall₂_recordsOf`: they are what is written, and what they say;
* `ServerBuilder.warningIn?`, `ServerBuilder.warnings`: the first pass (`log_of_check`);
* `ServerBuilder.mountingIn?`, `ServerBuilder.mountings`: the second pass (`log_of_mount`);
* `ServerBuilder.Recorded`: what there is to say about the log of a build; `build_recorded`: all
  builds;
* `build_without_warning`: a registration that falls back and cannot be named.
-/

namespace AppMount

/-- The store that a run leaves, if it comes to an end. -/
def Action.ended? {α : Type} : EStateM.Result Fault World α → Option World
  | .ok _ w => some w
  | .error .. => none

open AppMount.Action (Silent ended? left result?)

/-! ## 1. Passes over lists -/

section Passes

variable {α β σ : Type}

/-- What is found in a range is found at its beginning and in the range after it. -/
theorem filterMap_range_succ (f : Nat → Option α) (n : Nat) :
    (List.range (n + 1)).filterMap f =
      (f 0).toList ++ (List.range n).filterMap fun i => f (i + 1) := by
  rw [List.range_succ_eq_map, List.filterMap_cons, List.filterMap_map]
  cases f 0 <;> rfl

/-- **The records of a pass over a list.** Each element gives its record, if it gives one, in the
    store that the pass over those before it leaves, if that comes to an end. -/
def recordsOf (pass : List α → Action β) (record? : World → α → Option LogEntry) (items : List α)
    (w : World) : List LogEntry :=
  (List.range items.length).filterMap fun i => do
    let a ← items[i]?
    let v ← ended? (EStateM.run (pass (items.take i)) w)
    record? v a

/-- **A pass that takes its turns one after the other**, each going on with what the one before
    hands on. -/
structure InTurns (pass : σ → List α → Action (List β)) (turn : σ → α → Action (σ × β)) :
    Prop where
  nil : ∀ s, pass s [] = pure []
  cons : ∀ s a rest, pass s (a :: rest) = do
    let (s, b) ← turn s a
    let others ← pass s rest
    pure (b :: others)

namespace InTurns

variable {pass : σ → List α → Action (List β)} {turn : σ → α → Action (σ × β)}
  {record? : World → α → Option LogEntry}

theorem run_cons_of_ok (turns : InTurns pass turn) {s s' : σ} {a : α} {b : β} {w v : World}
    (h : EStateM.run (turn s a) w = .ok (s', b) v) (rest : List α) :
    EStateM.run (pass s (a :: rest)) w =
      EStateM.run (do let others ← pass s' rest; pure (b :: others)) v := by
  rw [turns.cons, Action.run_bind_of_ok h]

theorem run_cons_of_error (turns : InTurns pass turn) {s : σ} {a : α} {fault : Fault}
    {w v : World} (h : EStateM.run (turn s a) w = .error fault v) (rest : List α) :
    EStateM.run (pass s (a :: rest)) w = .error fault v := by
  rw [turns.cons, Action.run_bind_of_error h]

/-- **The records of a pass begin with that of its first turn.** -/
theorem recordsOf_cons (turns : InTurns pass turn) (s : σ) (a : α) (rest : List α) (w : World) :
    recordsOf (pass s) record? (a :: rest) w =
      (record? w a).toList ++
        match EStateM.run (turn s a) w with
        | .ok (s', _) v => recordsOf (pass s') record? rest v
        | .error .. => [] := by
  have first : ended? (EStateM.run (pass s ((a :: rest).take 0)) w) = some w := by
    rw [List.take_zero, turns.nil]
    rfl
  unfold recordsOf
  rw [List.length_cons, filterMap_range_succ, first]
  congr 1
  cases hrun : EStateM.run (turn s a) w with
  | ok handed v =>
    obtain ⟨s', b⟩ := handed
    refine List.filterMap_congr fun i _ => ?_
    have same : ended? (EStateM.run (pass s ((a :: rest).take (i + 1))) w) =
        ended? (EStateM.run (pass s' (rest.take i)) v) := by
      rw [List.take_succ_cons, turns.run_cons_of_ok hrun, EStateM.run_bind]
      cases EStateM.run (pass s' (rest.take i)) v <;> rfl
    rw [same]
    rfl
  | error fault v =>
    refine List.filterMap_eq_nil_iff.2 fun i _ => ?_
    rw [List.take_succ_cons, turns.run_cons_of_error hrun]
    cases (a :: rest)[i + 1]? <;> rfl

/-- **What a pass writes are its records**, if each turn writes its own. -/
theorem log (turns : InTurns pass turn)
    (each : ∀ s a w, (left (EStateM.run (turn s a) w)).log = w.log ++ (record? w a).toList)
    (s : σ) (items : List α) (w : World) :
    (left (EStateM.run (pass s items) w)).log = w.log ++ recordsOf (pass s) record? items w := by
  induction items generalizing s w with
  | nil =>
    rw [turns.nil]
    exact (List.append_nil _).symm
  | cons a rest ih =>
    have first := each s a w
    rw [turns.recordsOf_cons]
    cases hrun : EStateM.run (turn s a) w with
    | ok handed v =>
      obtain ⟨s', b⟩ := handed
      rw [hrun] at first
      rw [turns.run_cons_of_ok hrun, Action.left_bind_pure, ih, ← List.append_assoc]
      exact congrArg (· ++ _) first
    | error fault v =>
      rw [hrun] at first
      rw [turns.run_cons_of_error hrun, List.append_nil]
      exact first

/-- **A pass that comes to an end has a record of each turn**, if each turn that does has one. -/
theorem forall₂_recordsOf (turns : InTurns pass turn) {Q : β → LogEntry → Prop}
    (each : ∀ s a w s' b v, EStateM.run (turn s a) w = .ok (s', b) v →
      ∃ entry, record? w a = some entry ∧ Q b entry)
    (s : σ) {items : List α} {w w' : World} {results : List β}
    (h : EStateM.run (pass s items) w = .ok results w') :
    List.Forall₂ Q results (recordsOf (pass s) record? items w) := by
  induction items generalizing s w results with
  | nil =>
    rw [turns.nil] at h
    cases h
    exact .nil
  | cons a rest ih =>
    rw [turns.recordsOf_cons]
    cases hrun : EStateM.run (turn s a) w with
    | ok handed v =>
      obtain ⟨s', b⟩ := handed
      obtain ⟨entry, own, tells⟩ := each s a w s' b v hrun
      rw [turns.run_cons_of_ok hrun] at h
      obtain ⟨others, v', hothers, h⟩ := Action.run_bind_eq_ok_iff.1 h
      cases h
      rw [own]
      exact .cons tells (ih s' hothers)
    | error fault v =>
      rw [turns.run_cons_of_error hrun] at h
      cases h

/-- A pass that comes to an end does so as far as one looks. -/
theorem run_take (turns : InTurns pass turn) {s : σ} {items : List α} {w w' : World}
    {results : List β} (h : EStateM.run (pass s items) w = .ok results w') (i : Nat) :
    ∃ before v, EStateM.run (pass s (items.take i)) w = .ok before v := by
  induction items generalizing s w w' i results with
  | nil => exact ⟨results, w', by rw [List.take_nil, h]⟩
  | cons a rest ih =>
    cases i with
    | zero => exact ⟨[], w, by rw [List.take_zero, turns.nil]; rfl⟩
    | succ i =>
      cases hrun : EStateM.run (turn s a) w with
      | ok handed v =>
        obtain ⟨s', b⟩ := handed
        rw [turns.run_cons_of_ok hrun] at h
        obtain ⟨others, v', hothers, -⟩ := Action.run_bind_eq_ok_iff.1 h
        obtain ⟨before, v'', hbefore⟩ := ih hothers i
        refine ⟨b :: before, v'', ?_⟩
        rw [List.take_succ_cons, turns.run_cons_of_ok hrun, Action.run_bind_of_ok hbefore]
        rfl
      | error fault v =>
        rw [turns.run_cons_of_error hrun] at h
        cases h

end InTurns

end Passes

/-! ## 2. The first pass -/

namespace ServerBuilder

variable {ρ : Dispatch} {b : ServerBuilder} {config : ServerConfig} {members : List Ref}
  {r : Registration} {w w' : World}

/-- Where the routing name of a registration leads. -/
def routed (ρ : Dispatch) (b : ServerBuilder) (r : Registration) : Action Routing := do
  if !isDefaultName r.routingName then b.checkField "_config"
  Action.route ρ b.setting r.routingName r.routingRequired.isTrue

/-- The listener of a registration whose routing name leads somewhere. -/
def listenerAt (ρ : Dispatch) (b : ServerBuilder) (r : Registration) : Routing → Action Datum
  | .to listener => pure listener
  | .fallBack name => do
    Action.logged (.fellBack (← Action.labelOf ρ r) name)
    pure (.text defaultRouting)
  | .refused name => do
    let label ← Action.labelOf ρ r
    throw (.missingListener label name (← Action.listenerNames ρ b.setting))

/-- Accepts a registration on a listener, or refuses it. -/
def accept (ρ : Dispatch) (taken : List (Place × String)) (r : Registration) (listener : Datum) :
    Action (List (Place × String) × (Datum × Registration)) := do
  let label ← Action.labelOf ρ r
  let place ← placeOf listener r
  match taken.find? (·.1 = place) with
  | some (_, other) => throw (.samePlace label other r.contextRoot listener)
  | none =>
    let _ ← Action.callMethod ρ r.config "check_constructible" 0 "self"
      (Action.checkConstructible ρ)
    pure (taken ++ [(place, label)], (listener, r))

/-- **One turn of the first pass.** -/
def check (ρ : Dispatch) (b : ServerBuilder) (taken : List (Place × String)) (r : Registration) :
    Action (List (Place × String) × (Datum × Registration)) := do
  let routing ← b.routed ρ r
  let listener ← b.listenerAt ρ r routing
  accept ρ taken r listener

/-- The first pass takes its turns one after the other. -/
theorem inTurns_validate (ρ : Dispatch) (b : ServerBuilder) :
    InTurns (b.validate ρ) (b.check ρ) where
  nil _ := rfl
  cons taken r rest := by
    have accepted (listener : Datum) : (do
        let label ← Action.labelOf ρ r
        let place ← placeOf listener r
        match taken.find? (·.1 = place) with
        | some (_, other) => throw (.samePlace label other r.contextRoot listener)
        | none =>
          let _ ← Action.callMethod ρ r.config "check_constructible" 0 "self"
            (Action.checkConstructible ρ)
          let resolved ← b.validate ρ (taken ++ [(place, label)]) rest
          pure ((listener, r) :: resolved)) = (do
        let (taken, resolved) ← accept ρ taken r listener
        let others ← b.validate ρ taken rest
        pure (resolved :: others)) := by
      unfold accept
      simp only [bind_assoc]
      refine bind_congr fun label => bind_congr fun place => ?_
      cases taken.find? (·.1 = place) with
      | none => simp only [bind_assoc, pure_bind]
      | some other => rfl
    have looked : Action.resolveListener ρ b.setting r =
        Action.route ρ b.setting r.routingName r.routingRequired.isTrue >>= b.listenerAt ρ r :=
      rfl
    rw [validate, looked]
    unfold check routed
    dsimp only
    split
    · simp only [bind_assoc]
      exact bind_congr fun _ => bind_congr fun routing => bind_congr fun listener =>
        accepted listener
    · simp only [bind_assoc]
      exact bind_congr fun routing => bind_congr fun listener => accepted listener

/-- The warning that a registration gives when the first pass gets to it: it falls back, and has a
    name. -/
def warningIn? (ρ : Dispatch) (b : ServerBuilder) (w : World) (r : Registration) :
    Option LogEntry :=
  match EStateM.run (b.routed ρ r) w with
  | .ok (.fallBack name) v =>
    (result? (EStateM.run (Action.labelOf ρ r) v)).map (.fellBack · name)
  | _ => none

theorem silent_routed (hρ : ρ.Silent) (b : ServerBuilder) (r : Registration) :
    Silent (b.routed ρ r) :=
  .afterCheck (reads_checkField b _).silent (Action.silent_route hρ _ _ _)

theorem silent_accept (hρ : ρ.Silent) (taken : List (Place × String)) (r : Registration)
    (listener : Datum) : Silent (accept ρ taken r listener) := by
  refine (Action.silent_labelOf hρ r).bind fun label => ?_
  refine (reads_placeOf listener r).silent.bind fun place => ?_
  split
  · exact .throw _
  · refine (Action.silent_callMethod hρ _ _ _ _ fun d => ?_).bind fun _ => .pure _
    exact Action.silent_checkConstructible hρ d

/-- What is written before something silent is all that is written. -/
theorem log_bind {α β : Type} {x : Action α} {f : α → Action β} {entries : List LogEntry}
    (h : (left (EStateM.run x w)).log = w.log ++ entries) (hf : ∀ a, Silent (f a)) :
    (left (EStateM.run (x >>= f) w)).log = w.log ++ entries := by
  cases hrun : EStateM.run x w with
  | ok a v =>
    rw [hrun] at h
    rw [Action.run_bind_of_ok hrun]
    exact (hf a v).trans h
  | error fault v =>
    rw [hrun] at h
    rwa [Action.run_bind_of_error hrun]

/-- Falling back is written if the registration can be named. -/
theorem log_listenerAt (hρ : ρ.Silent) (b : ServerBuilder) (r : Registration) (routing : Routing)
    (w : World) :
    (left (EStateM.run (b.listenerAt ρ r routing) w)).log = w.log ++
      match routing with
      | .fallBack name =>
        ((result? (EStateM.run (Action.labelOf ρ r) w)).map (.fellBack · name)).toList
      | _ => [] := by
  have labelled := Action.silent_labelOf hρ r
  cases routing with
  | «to» listener => exact (List.append_nil _).symm
  | fallBack name =>
    have same := labelled w
    unfold listenerAt
    cases hrun : EStateM.run (Action.labelOf ρ r) w with
    | ok label v =>
      rw [hrun] at same
      rw [Action.run_bind_of_ok hrun, Action.run_bind_of_ok (Action.run_logged _ v)]
      exact congrArg (· ++ _) same
    | error fault v =>
      rw [hrun] at same
      rw [Action.run_bind_of_error hrun]
      exact same.trans (List.append_nil _).symm
  | refused name =>
    have refused : Silent (b.listenerAt ρ r (.refused name)) :=
      labelled.bind fun label => (Action.silent_listenerNames hρ _).bind fun _ => .throw _
    exact (refused w).trans (List.append_nil _).symm

/-- **What one turn of the first pass writes is its warning**, whether it accepts the registration
    or not. -/
theorem log_check (hρ : ρ.Silent) (b : ServerBuilder) (taken : List (Place × String))
    (r : Registration) (w : World) :
    (left (EStateM.run (b.check ρ taken r) w)).log = w.log ++ (b.warningIn? ρ w r).toList := by
  have same := silent_routed hρ b r w
  unfold check warningIn?
  cases hrun : EStateM.run (b.routed ρ r) w with
  | ok routing v =>
    rw [hrun] at same
    have same : v.log = w.log := same
    rw [Action.run_bind_of_ok hrun, ← same]
    refine log_bind ((log_listenerAt hρ b r routing v).trans ?_) (silent_accept hρ taken r)
    cases routing <;> rfl
  | error fault v =>
    rw [hrun] at same
    rw [Action.run_bind_of_error hrun]
    exact same.trans (List.append_nil _).symm

/-- **Which registrations warn**, under a configuration: those whose name it lacks, unless they
    require it. -/
theorem warningIn?_of_config (hs : b.setting = .config config members)
    (hb : b.standIns.lacks "_config" = false) (w : World) (r : Registration) :
    b.warningIn? ρ w r =
      if config.Lacks r.routingName ∧ r.routingRequired.isTrue = false then
        (result? (EStateM.run (Action.labelOf ρ r) w)).map (.fellBack · r.routingName)
      else none := by
  have routed : b.routed ρ r =
      pure (config.route r.routingName r.routingRequired.isTrue) := by
    have checked : b.checkField "_config" = pure ⟨⟩ := by
      unfold checkField
      rw [hb]
      rfl
    unfold ServerBuilder.routed
    rw [checked, hs]
    dsimp only
    rw [pure_bind, ite_self]
    rfl
  unfold warningIn?
  rw [routed, EStateM.run_pure]
  by_cases lacks : config.Lacks r.routingName
  · rw [ServerConfig.route_of_lacks lacks]
    cases r.routingRequired.isTrue <;> simp [lacks]
  · rw [ServerConfig.route_of_not_lacks lacks, if_neg fun h => lacks h.1]

/-! ## 3. The second pass -/

/-- Freezes the descriptor of a registration, and sees to its executor. -/
def settle (ρ : Dispatch) (b : ServerBuilder) (r : Registration) : Action Unit := do
  let _ ← Action.callMethod ρ r.config "freeze" 0 "self" (Action.freeze ρ)
  if r.executor = .none then b.checkField "_default_executor"

/-- **One turn of the second pass.** -/
def mount (ρ : Dispatch) (b : ServerBuilder) (_ : Unit) (e : Datum × Registration) :
    Action (Unit × Mount) := do
  b.settle ρ e.2
  Action.logged (.mounted (← Action.labelOf ρ e.2) e.2.contextRoot e.1)
  pure ((), mountOf b.defaultExecutor e.1 e.2)

/-- The second pass takes its turns one after the other. -/
theorem inTurns_mountAll (ρ : Dispatch) (b : ServerBuilder) :
    InTurns (fun _ => b.mountAll ρ) (b.mount ρ) where
  nil _ := rfl
  cons _ e rest := by
    obtain ⟨listener, r⟩ := e
    rw [mountAll]
    unfold mount settle
    dsimp only
    simp only [bind_assoc]
    refine bind_congr fun _ => ?_
    split
    · simp only [pure_bind]
    · simp only [pure_bind]

/-- The record that a mount gives when the second pass gets to it: the descriptor is frozen, and the
    registration has a name then. -/
def mountingIn? (ρ : Dispatch) (b : ServerBuilder) (w : World) (e : Datum × Registration) :
    Option LogEntry :=
  let m := mountOf b.defaultExecutor e.1 e.2
  (ended? (EStateM.run (b.settle ρ e.2) w)).bind fun v =>
    (result? (EStateM.run (Action.labelOf ρ e.2) v)).map (.mounted · m.contextRoot m.listener)

theorem silent_settle (hρ : ρ.Silent) (b : ServerBuilder) (r : Registration) :
    Silent (b.settle ρ r) := by
  refine (Action.silent_callMethod hρ _ _ _ _ fun d => Action.silent_freeze hρ d).bind fun _ => ?_
  split
  · exact (reads_checkField b _).silent
  · exact .pure _

/-- **What one turn of the second pass writes is its record.** -/
theorem log_mount (hρ : ρ.Silent) (b : ServerBuilder) (e : Datum × Registration) (w : World) :
    (left (EStateM.run (b.mount ρ () e) w)).log = w.log ++ (b.mountingIn? ρ w e).toList := by
  have same := silent_settle hρ b e.2 w
  unfold mount mountingIn?
  dsimp only
  cases hrun : EStateM.run (b.settle ρ e.2) w with
  | error fault v =>
    rw [hrun] at same
    rw [Action.run_bind_of_error hrun]
    exact same.trans (List.append_nil _).symm
  | ok _ v =>
    rw [hrun] at same
    have same : v.log = w.log := same
    have same' := Action.silent_labelOf hρ e.2 v
    rw [Action.run_bind_of_ok hrun, ← same, ended?, Option.bind_some]
    cases hrun' : EStateM.run (Action.labelOf ρ e.2) v with
    | error fault v' =>
      rw [hrun'] at same'
      rw [Action.run_bind_of_error hrun']
      exact same'.trans (List.append_nil _).symm
    | ok label v' =>
      rw [hrun'] at same'
      rw [Action.run_bind_of_ok hrun', Action.run_bind_of_ok (Action.run_logged _ v')]
      exact congrArg (· ++ _) same'

/-! ## 4. Building -/

/-- The registrations before a place in the order are accepted. -/
def Reaches (ρ : Dispatch) (b : ServerBuilder) (w : World) (i : Nat) : Prop :=
  ∃ found v, EStateM.run (b.validate ρ [] (b.applications.take i)) w = .ok found v

/-- **The warnings of the first pass**, one for each registration that it gets to and that gives
    one. -/
def warnings (ρ : Dispatch) (b : ServerBuilder) (w : World) : List LogEntry :=
  recordsOf (b.validate ρ []) (b.warningIn? ρ) b.applications w

/-- **The records of the second pass**, which there is only if the first one refuses nothing. -/
def mountings (ρ : Dispatch) (b : ServerBuilder) (w : World) : List LogEntry :=
  match EStateM.run (b.validate ρ [] b.applications) w with
  | .ok found v => recordsOf (b.mountAll ρ) (b.mountingIn? ρ) found v
  | .error .. => []

/-- **What the log of a build says.** All that is written are the warnings and then the records of
    the mounts. The first pass gets to the registrations up to the first one that it refuses. Under
    a configuration those warn whose name it lacks, unless they require it. And if the build comes
    to an end, there is a record of each mount, with its context root and its listener. -/
structure Recorded (ρ : Dispatch) (b : ServerBuilder) (w : World)
    (result : EStateM.Result Fault World Server) : Prop where
  log : (left result).log = w.log ++ (b.warnings ρ w ++ b.mountings ρ w)
  reached : ∀ i j, i ≤ j → b.Reaches ρ w j → b.Reaches ρ w i
  warned : ∀ config members, b.setting = .config config members →
    b.standIns.lacks "_config" = false → ∀ v r,
    b.warningIn? ρ v r =
      if config.Lacks r.routingName ∧ r.routingRequired.isTrue = false then
        (result? (EStateM.run (Action.labelOf ρ r) v)).map (.fellBack · r.routingName)
      else none
  mounted : ∀ server w', result = .ok server w' →
    List.Forall₂ (fun m entry => ∃ label, entry = .mounted label m.contextRoot m.listener)
      server.mounts (b.mountings ρ w)

theorem Reaches.of_le {i j : Nat} (h : i ≤ j) (hj : b.Reaches ρ w j) : b.Reaches ρ w i := by
  obtain ⟨found, v, hrun⟩ := hj
  obtain ⟨before, v', hrun'⟩ := (inTurns_validate ρ b).run_take hrun i
  rw [List.take_take, Nat.min_eq_left h] at hrun'
  exact ⟨before, v', hrun'⟩

/-- Nothing is mounted if there are no registrations to be found. -/
theorem applications_of_toMount_error {fault : Fault}
    (h : EStateM.run b.toMount w = .error fault w') : b.applications = [] := by
  refine if_neg fun own => ?_
  unfold toMount at h
  rw [own] at h
  cases h

/-- Finding the registrations writes nothing, and finds those that are mounted. -/
theorem run_build_of_toMount {registrations : List Registration}
    (h : EStateM.run b.toMount w = .ok registrations w') :
    EStateM.run (b.build ρ) w = EStateM.run (do
      let found ← b.validate ρ [] b.applications
      let mounts ← b.mountAll ρ found
      b.checkField "_config"
      pure { setting := b.setting, mounts := mounts }) w := by
  obtain rfl : w = w' := (reads_toMount b).ok h
  unfold build
  rw [Action.run_bind_of_ok h, handsBack_toMount_applications b w registrations w h]

/-- The second pass and what comes after it write the records of the mounts. -/
theorem log_mountAll (hρ : ρ.Silent) (b : ServerBuilder) (found : List (Datum × Registration))
    (w : World) :
    (left (EStateM.run (do
      let mounts ← b.mountAll ρ found
      b.checkField "_config"
      pure ({ setting := b.setting, mounts := mounts } : Server)) w)).log =
      w.log ++ recordsOf (b.mountAll ρ) (b.mountingIn? ρ) found w := by
  refine log_bind ?_ fun mounts => (reads_checkField b _).silent.bind fun _ => .pure _
  exact (inTurns_mountAll ρ b).log (fun _ e w => log_mount hρ b e w) () found w

/-- **All that a build writes** are its warnings and the records of its mounts. -/
theorem log_build (hρ : ρ.Silent) (b : ServerBuilder) (w : World) :
    (left (EStateM.run (b.build ρ) w)).log = w.log ++ (b.warnings ρ w ++ b.mountings ρ w) := by
  cases hfound : EStateM.run b.toMount w with
  | error fault w' =>
    obtain rfl : w = w' := (reads_toMount b).error hfound
    have nothing := applications_of_toMount_error hfound
    unfold build warnings mountings
    rw [Action.run_bind_of_error hfound, nothing]
    exact (List.append_nil _).symm
  | ok registrations w' =>
    have first := (inTurns_validate ρ b).log (log_check hρ b) [] b.applications w
    rw [run_build_of_toMount hfound, ← List.append_assoc]
    unfold warnings mountings
    rw [← first]
    cases hrun : EStateM.run (b.validate ρ [] b.applications) w with
    | ok found v =>
      rw [Action.run_bind_of_ok hrun]
      exact log_mountAll hρ b found v
    | error fault v =>
      rw [Action.run_bind_of_error hrun]
      exact (List.append_nil _).symm

/-- **A build that comes to an end has recorded each mount.** -/
theorem forall₂_mountings {server : Server}
    (h : EStateM.run (b.build ρ) w = .ok server w') :
    List.Forall₂ (fun m entry => ∃ label, entry = .mounted label m.contextRoot m.listener)
      server.mounts (b.mountings ρ w) := by
  cases hfound : EStateM.run b.toMount w with
  | error fault w' =>
    unfold build at h
    rw [Action.run_bind_of_error hfound] at h
    cases h
  | ok registrations w' =>
    rw [run_build_of_toMount hfound] at h
    obtain ⟨found, v, hvalidate, h⟩ := Action.run_bind_eq_ok_iff.1 h
    obtain ⟨mounts, v', hmount, h⟩ := Action.run_bind_eq_ok_iff.1 h
    obtain ⟨-, v'', -, h⟩ := Action.run_bind_eq_ok_iff.1 h
    cases h
    unfold mountings
    rw [hvalidate]
    refine (inTurns_mountAll ρ b).forall₂_recordsOf (fun s e w s' m v'' hturn => ?_) () hmount
    obtain ⟨⟨⟩, v₁, hsettle, hturn⟩ := Action.run_bind_eq_ok_iff.1 hturn
    obtain ⟨label, v₂, hlabel, hturn⟩ := Action.run_bind_eq_ok_iff.1 hturn
    rw [Action.run_bind_of_ok (Action.run_logged _ v₂)] at hturn
    cases hturn
    refine ⟨_, ?_, label, rfl⟩
    unfold mountingIn?
    rw [hsettle, ended?, Option.bind_some, hlabel]
    rfl

/-- **The log of every build**, for every builder and every store, as long as the code of the
    applications does not write to the log itself. -/
theorem build_recorded (hρ : ρ.Silent) (b : ServerBuilder) (w : World) :
    b.Recorded ρ w (EStateM.run (b.build ρ) w) where
  log := log_build hρ b w
  reached _ _ := Reaches.of_le
  warned _ _ hs hb v r := warningIn?_of_config hs hb v r
  mounted _ _ := forall₂_mountings

/-- A store with a descriptor, and one of a class that describes its instances itself. -/
def describedStore (answer : Answer) : World :=
  { World.initial with
    classes := World.initial.classes.push
      { name := "Board", qualname := "Board", home := .text "shop",
        ancestors := [ClassId.descriptor, ClassId.application, ClassId.object],
        members := [("__repr__", .method (.within "Board" "__repr__" (.answer answer)))] }
    descriptors := #[{ cls := ClassId.descriptor, name := .text "api" }, { cls := ⟨6⟩ }] }

/-- A registration of the first descriptor that would like a listener of its own. -/
def wishfulRegistration (contextRoot : String) : Registration :=
  { contextRoot := .text contextRoot, config := .descriptor ⟨0⟩, routingName := .text "metrics" }

/-- A registration of the second descriptor that would like one too. -/
def boardRegistration : Registration :=
  { contextRoot := .text "/board", config := .descriptor ⟨1⟩, routingName := .text "admin" }

/-- A builder that has the first descriptor at two places. -/
def twoPlacesBuilder : ServerBuilder :=
  { registrations := [wishfulRegistration "/a", boardRegistration, wishfulRegistration "/b"] }

/-- A builder that has it at one place twice. -/
def onePlaceBuilder : ServerBuilder :=
  { registrations := [wishfulRegistration "/a", wishfulRegistration "/a", boardRegistration] }

/-- Each of three registrations warns before anything is frozen, and is recorded after; where the
    second one is refused for its place, it has warned, the third one has not, and nothing is
    recorded. -/
theorem build_recorded_describedStore :
    Dispatch.replaceable.Silent ∧
      (left (EStateM.run (twoPlacesBuilder.build Dispatch.replaceable)
        (describedStore (.datum (.text "board") 0)))).log =
        [.fellBack "ResourceConfig(name='api', classes=0, singletons=0, frozen=False)"
            (.text "metrics"),
          .fellBack "board" (.text "admin"),
          .fellBack "ResourceConfig(name='api', classes=0, singletons=0, frozen=False)"
            (.text "metrics"),
          .mounted "ResourceConfig(name='api', classes=0, singletons=0, frozen=True)"
            (.text "/a") (.text defaultRouting),
          .mounted "board" (.text "/board") (.text defaultRouting),
          .mounted "ResourceConfig(name='api', classes=0, singletons=0, frozen=True)"
            (.text "/b") (.text defaultRouting)] ∧
      (left (EStateM.run (onePlaceBuilder.build Dispatch.replaceable)
        (describedStore (.datum (.text "board") 0)))).log =
        [.fellBack "ResourceConfig(name='api', classes=0, singletons=0, frozen=False)"
            (.text "metrics"),
          .fellBack "ResourceConfig(name='api', classes=0, singletons=0, frozen=False)"
            (.text "metrics")] := by
  have silent : Dispatch.replaceable.Silent := Dispatch.silent_ofDepth true Dispatch.depth
  refine ⟨silent, ?_, ?_⟩
  · rw [(build_recorded silent twoPlacesBuilder _).log]
    decide +kernel
  · rw [(build_recorded silent onePlaceBuilder _).log]
    decide +kernel

/-- **A registration that cannot be named gives no record.** The configuration lacks the listener
    that the only registration would like, and it does without; but its descriptor fails when it is
    to be described for the warning. The build ends there, and the log stays empty. -/
theorem build_without_warning :
    ({} : ServerConfig).Lacks boardRegistration.routingName ∧
      boardRegistration.routingRequired.isTrue = false ∧
      ∃ w', EStateM.run (({ registrations := [boardRegistration] } : ServerBuilder).build
          Dispatch.replaceable) (describedStore (.fail ⟨"RuntimeError", "no board"⟩)) =
        .error (.raised ⟨"RuntimeError", "no board"⟩) w' ∧ w'.log = [] := by
  exact ⟨by decide, rfl, _, rfl, rfl⟩

end ServerBuilder

end AppMount
