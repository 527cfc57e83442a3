import AppMount.Proofs.Validation
import Mathlib.Data.List.Forall2

/-!
# Mounting

What a server is made of when building it comes to an end. Registrations become mounts one by one
and in order; each has its listener by the routing policy, its executor, and a place of its own, and
each descriptor is frozen.

* `within_mountAll`, `within_build`: what freezing and logging keep, the passes keep;
* `World.KeepsFrozen`: frozen descriptors stay as they are (`keepsFrozen_mountAll`);
  `World.Hardens`: they stay frozen (`hardens_freeze`);
* `run_mountAll_eq_ok`: the mounts of a second pass that comes to an end;
* `run_validate_eq_ok`: what a first pass that comes to an end says; `accepted_iff`: when nothing is
  refused;
* `ServerBuilder.Assembled`: the builders that calls lead to, with what was added to them;
* `ServerConfig.Leads`, `Mount.Resolves`: how a mount comes from a registration;
* `build_resolves`: the mounts of a server that was built.
-/

namespace AppMount

/-! ## 1. The second pass -/

namespace ServerBuilder

open AppMount.Action (Within)

variable {ρ : Dispatch} {b : ServerBuilder} {config : ServerConfig} {members : List Ref}
  {w w' : World}

/-- The second pass over a builder with nothing foreign in its fields. -/
theorem mountAll_cons (hρ : ρ.replaces = false) (hb : b.standIns = []) {r : Registration}
    {d : DescriptorId} (hd : r.config = .descriptor d) (listener : Datum)
    (rest : List (Datum × Registration)) :
    b.mountAll ρ ((listener, r) :: rest) = (do
      Action.freeze ρ d
      let label ← Action.labelOf ρ r
      Action.logged (.mounted label r.contextRoot listener)
      let mounts ← b.mountAll ρ rest
      pure (mountOf b.defaultExecutor listener r :: mounts)) := by
  rw [mountAll]
  dsimp only
  rw [checkField_of_nil hb, pure_bind, ite_self, hd, Action.callMethod_of_library hρ, bind_assoc]
  rfl

theorem within_labelOf (hρ : ρ.replaces = false) {R : World → World → Prop} (refl : ∀ w, R w w)
    (r : Registration) : Within R (Action.labelOf ρ r) := by
  intro w
  rw [Action.run_labelOf_of_library hρ]
  exact refl w

/-- **What freezing and logging keep, the second pass keeps**, whether it fails or not. -/
theorem within_mountAll (hρ : ρ.replaces = false) (hb : b.standIns = [])
    {R : World → World → Prop} (refl : ∀ w, R w w)
    (trans : ∀ {w₁ w₂ w₃}, R w₁ w₂ → R w₂ w₃ → R w₁ w₃)
    (logging : ∀ w entries, R w (w.logging entries))
    {resolved : List (Datum × Registration)}
    (h : ∀ e ∈ resolved, ∃ d, e.2.config = .descriptor d ∧ Within R (Action.freeze ρ d)) :
    Within R (b.mountAll ρ resolved) := by
  induction resolved with
  | nil => exact Within.pure refl _
  | cons e rest ih =>
    obtain ⟨listener, r⟩ := e
    obtain ⟨d, hd, frozen⟩ := h _ List.mem_cons_self
    rw [mountAll_cons hρ hb hd]
    refine Within.bind trans frozen fun _ => ?_
    refine Within.bind trans (within_labelOf hρ refl r) fun label => ?_
    refine Within.bind trans (fun w => logging w _) fun _ => ?_
    refine Within.bind trans (ih fun e' he' => h e' (List.mem_cons_of_mem _ he')) fun mounts => ?_
    exact Within.pure refl _

/-- **What freezing and logging keep, building keeps**, whether it fails or not. -/
theorem within_build (hρ : ρ.replaces = false) (hb : b.Holds config members w)
    {R : World → World → Prop} (refl : ∀ w, R w w)
    (trans : ∀ {w₁ w₂ w₃}, R w₁ w₂ → R w₂ w₃ → R w₁ w₃)
    (logging : ∀ w entries, R w (w.logging entries))
    (h : ∀ r ∈ b.registrations, ∀ d, r.config = .descriptor d → Within R (Action.freeze ρ d)) :
    R w (Action.left (EStateM.run (b.build ρ) w)) := by
  rw [build_of_nil hb.standIns]
  rcases w.refused_first config b.registrations with hall | ⟨i, fault, hi, first⟩
  · rw [Action.run_bind_of_ok (run_validate_of_all hρ hb hall)]
    have validated : R w (w.validated config b.registrations) := logging w _
    refine trans validated ?_
    refine (Within.bind (R := R) trans ?_ fun mounts => Within.pure refl _) _
    refine within_mountAll hρ hb.standIns refl trans logging fun e he => ?_
    obtain ⟨r, hr, rfl⟩ := List.mem_map.1 he
    obtain ⟨d, hd, -⟩ := hb.stored r hr
    exact ⟨d, hd, h r hr d hd⟩
  · rw [Action.run_bind_of_error (run_validate_of_first hρ hb hi first)]
    exact logging w _

end ServerBuilder

/-! ## 2. Frozen descriptors stay -/

namespace World

/-- **Frozen descriptors are kept as they are**, and nothing is taken from the store. -/
structure KeepsFrozen (w w' : World) : Prop where
  has : ∀ d, w.HasDescriptor d → w'.HasDescriptor d
  descriptor : ∀ d, w.HasDescriptor d → (w.descriptor d).frozen = true →
    w'.descriptor d = w.descriptor d

theorem KeepsFrozen.refl (w : World) : KeepsFrozen w w :=
  ⟨fun _ h => h, fun _ _ _ => rfl⟩

theorem KeepsFrozen.trans {w₁ w₂ w₃ : World} (h : KeepsFrozen w₁ w₂) (h' : KeepsFrozen w₂ w₃) :
    KeepsFrozen w₁ w₃ := by
  refine ⟨fun d hd => h'.has d (h.has d hd), fun d hd hf => ?_⟩
  have hsame := h.descriptor d hd hf
  rw [← hsame] at hf
  exact (h'.descriptor d (h.has d hd) hf).trans hsame

theorem KeepsFrozen.logging (w : World) (entries : List LogEntry) :
    KeepsFrozen w (w.logging entries) :=
  ⟨fun _ h => h, fun _ _ _ => rfl⟩

/-- **Nothing is taken from a store, and what was frozen is frozen**, but for what may be set up. -/
structure Hardens (B : DescriptorId → Prop) (w w' : World) : Prop where
  stores : ∀ r, w.Stores r → w'.Stores r
  frozen : ∀ d, w.HasDescriptor d → ¬ B d → (w.descriptor d).frozen = true →
    (w'.descriptor d).frozen = true

variable {B : DescriptorId → Prop} {w w' : World}

theorem Hardens.has (h : Hardens B w w') {d : DescriptorId} (hd : w.HasDescriptor d) :
    w'.HasDescriptor d :=
  h.stores (.descriptor d) hd

theorem Hardens.change (w : World) (d : DescriptorId) {f : Descriptor → Descriptor}
    (hf : ¬ B d → ∀ x, x.frozen = true → (f x).frozen = true) :
    Hardens B w (w.changeDescriptor d f) := by
  refine ⟨fun r => ?_, fun e he hB hfrozen => ?_⟩
  · cases r with
    | descriptor e => exact (hasDescriptor_change w d e f).2
    | none | cls | object | datum => exact id
  · by_cases hde : d = e
    · subst hde
      rw [descriptor_change_self he]
      exact hf hB _ hfrozen
    · rwa [descriptor_change_of_ne hde]

instance : Frame Hardens where
  refl _ := ⟨fun _ hr => hr, fun _ _ _ hf => hf⟩
  trans {B B' w w' w''} h h' hB := by
    refine ⟨fun r hr => h'.stores r (h.stores r hr), fun d hd hn hf => ?_⟩
    refine h'.frozen d (h.has hd) (fun hd' => ?_) (h.frozen d hd hn hf)
    exact (hB d hd').elim hn fun hw => hw hd
  step h := by
    refine ⟨fun _ => h.keeps.stores, fun d hd hn hf => ?_⟩
    rwa [h.keeps.descriptor d hd hn id]
  stores h := h.stores _
  notes _ _ := ⟨fun r hr => by cases r <;> exact hr, fun _ _ _ hf => hf⟩

theorem Hardens.logging (w : World) (entries : List LogEntry) :
    Hardens nobody w (w.logging entries) :=
  ⟨fun r hr => by cases r <;> exact hr, fun _ _ _ hf => hf⟩

end World

namespace Action

variable {ρ : Dispatch}

/-- **Freezing one descriptor keeps those that are frozen**, also if it is one of them. -/
theorem keepsFrozen_freeze (hρ : ρ.Discreet) (d : DescriptorId) :
    Within World.KeepsFrozen (freeze ρ d) := by
  intro w
  have effect := heeds_freeze hρ d w
  refine ⟨fun e he => effect.has he, fun e he hf => ?_⟩
  by_cases hed : e = d
  · subst hed
    rw [freeze_of_frozen hρ.library hf]
    rfl
  · exact effect.descriptor he (fun h => h) hed

/-- **Freezing undoes no freeze**, if application code does not. -/
theorem hardens_freeze (hρ : ρ.Respects World.Hardens) (d : DescriptorId) :
    Stays World.Hardens World.nobody (freeze ρ d) := by
  have marked (w : World) : World.Hardens World.nobody w (w.changeDescriptor d Descriptor.marked) :=
    .change w d fun _ _ _ => rfl
  have absorbed (app : Ref) : Stays World.Hardens World.nobody (absorb ρ d app) :=
    within_absorb hρ.library World.Frame.refl (fun h h' => World.Frame.trans h h' fun _ => .inl)
      (fun h => stays_ask hρ app h) fun w f hf => .change w d fun _ x hx => (hf x).frozen.trans hx
  intro w
  rcases frozen_or_settled_or_pending (w.descriptor d) with hf | ⟨hf, hs⟩ | ⟨hf, ha, c, hc⟩
  · rw [freeze_of_frozen hρ.library hf]
    exact World.Frame.refl w
  · rw [freeze_of_settled hρ.library hf hs]
    exact marked w
  · rw [freeze_of_pending hρ.library hf hc ha]
    have fulfilled : Stays World.Hardens World.nobody (do
        let app ← instantiate ρ c
        modify (·.changeDescriptor d (·.standFor app))
        absorb ρ d app
        markFrozen ρ d) := by
      refine (stays_instantiate hρ c).bind fun app => Stays.bind (fun v => ?_) fun _ => ?_
      · exact .change v d fun _ _ hx => hx
      · refine (absorbed app).bind fun _ v => ?_
        rw [run_markFrozen_of_library hρ.library]
        exact marked v
    exact fulfilled w

end Action

namespace ServerBuilder

open AppMount.Action (Within)

variable {ρ : Dispatch} {b : ServerBuilder} {config : ServerConfig} {members : List Ref}
  {w w' : World}

theorem keepsFrozen_mountAll (hρ : ρ.Discreet) (hb : b.standIns = [])
    {resolved : List (Datum × Registration)}
    (h : ∀ e ∈ resolved, ∃ d, e.2.config = .descriptor d) :
    Within World.KeepsFrozen (b.mountAll ρ resolved) := by
  refine within_mountAll hρ.library hb World.KeepsFrozen.refl World.KeepsFrozen.trans
    World.KeepsFrozen.logging fun e he => ?_
  obtain ⟨d, hd⟩ := h e he
  exact ⟨d, hd, Action.keepsFrozen_freeze hρ d⟩

/-- **A second pass that comes to an end** makes a mount of each registration and leaves its
    descriptor frozen, if application code undoes no freeze. -/
theorem run_mountAll_eq_ok (hρ : ρ.Respects World.Hardens) (hb : b.standIns = [])
    {resolved : List (Datum × Registration)} {mounts : List Mount}
    (h : ∀ e ∈ resolved, ∃ d, e.2.config = .descriptor d ∧ w.HasDescriptor d)
    (hrun : EStateM.run (b.mountAll ρ resolved) w = .ok mounts w') :
    mounts = resolved.map (fun e => mountOf b.defaultExecutor e.1 e.2) ∧
      ∀ e ∈ resolved, ∀ d, e.2.config = .descriptor d → (w'.descriptor d).frozen = true := by
  induction resolved generalizing w mounts with
  | nil =>
    cases hrun
    exact ⟨rfl, fun e he => nomatch he⟩
  | cons e rest ih =>
    obtain ⟨listener, r⟩ := e
    obtain ⟨d, hd, hhas⟩ := h _ List.mem_cons_self
    rw [mountAll_cons hρ.library hb hd] at hrun
    obtain ⟨⟨⟩, w₁, hfreeze, hrun⟩ := Action.run_bind_eq_ok_iff.1 hrun
    rw [Action.run_bind_of_ok (Action.run_labelOf_of_library hρ.library r w₁),
      Action.run_bind_of_ok (Action.run_logged _ w₁)] at hrun
    obtain ⟨others, w₂, hrest, hend⟩ := Action.run_bind_eq_ok_iff.1 hrun
    obtain ⟨rfl, rfl⟩ : mountOf b.defaultExecutor listener r :: others = mounts ∧ w₂ = w' := by
      cases hend
      exact ⟨rfl, rfl⟩
    have kept := (Action.hardens_freeze hρ d).ok hfreeze
    have stored : ∀ e ∈ rest, ∃ d, e.2.config = .descriptor d ∧ w₁.HasDescriptor d := by
      intro e he
      obtain ⟨d', hd', hhas'⟩ := h e (List.mem_cons_of_mem _ he)
      exact ⟨d', hd', kept.has hhas'⟩
    obtain ⟨rfl, frozen⟩ := ih (w := w₁.logging _) stored hrest
    refine ⟨rfl, fun e he d' hd' => ?_⟩
    rcases List.mem_cons.1 he with rfl | he
    · obtain rfl : d = d' := Ref.descriptor.inj (hd.symm.trans hd')
      -- Frozen by now, the descriptor is kept so by the rest of the pass.
      have hf := Action.frozen_of_freeze hρ hhas hfreeze
      have mounts : Within (World.Hardens World.nobody) (b.mountAll ρ rest) :=
        within_mountAll hρ.library hb World.Frame.refl
          (fun h h' => World.Frame.trans h h' fun _ => .inl) World.Hardens.logging fun e he =>
            (stored e he).imp fun d h => ⟨h.1, Action.hardens_freeze hρ d⟩
      exact (mounts.ok hrest).frozen d (kept.has hhas) id hf
    · exact frozen e he d' hd'

/-! ## 3. The first pass -/

/-- **A first pass that comes to an end** has refused nothing. -/
theorem run_validate_eq_ok (hρ : ρ.replaces = false) (hb : b.Holds config members w)
    {found : List (Datum × Registration)}
    (hrun : EStateM.run (b.validate ρ [] b.registrations) w = .ok found w') :
    (∀ i, w.refusalAt? config b.registrations i = none) ∧
      found = b.registrations.map (resolved config) ∧
      w' = w.validated config b.registrations := by
  rcases w.refused_first config b.registrations with hall | ⟨i, fault, hi, first⟩
  · rw [run_validate_of_all hρ hb hall] at hrun
    cases hrun
    exact ⟨hall, rfl, rfl⟩
  · rw [run_validate_of_first hρ hb hi first] at hrun
    cases hrun

/-- Nothing that is refused is built. -/
theorem run_build_eq_ok (hρ : ρ.replaces = false) (hb : b.Holds config members w) {server : Server}
    (hrun : EStateM.run (b.build ρ) w = .ok server w') :
    (∀ i, w.refusalAt? config b.registrations i = none) ∧
      EStateM.run (b.mountAll ρ (b.registrations.map (resolved config)))
        (w.validated config b.registrations) = .ok server.mounts w' ∧
      server.setting = b.setting := by
  rw [build_of_nil hb.standIns] at hrun
  obtain ⟨found, w₁, hvalid, hrun⟩ := Action.run_bind_eq_ok_iff.1 hrun
  obtain ⟨hall, rfl, rfl⟩ := run_validate_eq_ok hρ hb hvalid
  obtain ⟨mounts, w₂, hmount, hend⟩ := Action.run_bind_eq_ok_iff.1 hrun
  cases hend
  exact ⟨hall, hmount, rfl⟩

/-- **Nothing is refused** if nothing is wrong with any registration by itself, and they are in
    different places. -/
theorem accepted_iff {rs : List Registration} :
    (∀ i, w.refusalAt? config rs i = none) ↔
      (∀ r ∈ rs, ¬ config.Misses r ∧ r.contextRoot.isKey = true ∧
        r.config.descriptor?.bind w.constructionFault? = none) ∧
      rs.Pairwise fun q r => config.placeOf q ≠ config.placeOf r := by
  rw [List.pairwise_iff_getElem]
  constructor
  · intro h
    have accepted (i : Nat) (hi : i < rs.length) :=
      World.refusal?_eq_none_iff.1
        ((World.refusalAt?_of_getElem? (List.getElem?_eq_getElem hi)).symm.trans (h i))
    refine ⟨fun r hr => ?_, fun j i hj hi hlt => ?_⟩
    · obtain ⟨i, hi, rfl⟩ := List.getElem_of_mem hr
      obtain ⟨hmisses, hkey, -, hfault⟩ := accepted i hi
      exact ⟨hmisses, hkey, hfault⟩
    · refine (accepted i hi).2.2.1 _ (List.mem_of_getElem? (i := j) ?_)
      rw [List.getElem?_take_of_lt hlt, List.getElem?_eq_getElem hj]
  · rintro ⟨own, apart⟩ i
    cases hr : rs[i]? with
    | none =>
      unfold World.refusalAt?
      rw [hr]
      rfl
    | some r =>
      obtain ⟨hi, rfl⟩ := List.getElem?_eq_some_iff.1 hr
      obtain ⟨hmisses, hkey, hfault⟩ := own _ (List.getElem_mem hi)
      rw [World.refusalAt?_of_getElem? hr, World.refusal?_eq_none_iff]
      refine ⟨hmisses, hkey, fun q hq => ?_, hfault⟩
      obtain ⟨j, hj, rfl⟩ := List.getElem_of_mem hq
      have hlt : j < i := Nat.lt_of_lt_of_le hj (List.length_take_le i rs)
      rw [List.getElem_take]
      exact apart j i (Nat.lt_trans hlt hi) hi hlt

end ServerBuilder

/-! ## 4. Builders and what was added to them -/

/-- The registration of an application that is added to a builder. -/
def Registration.ofAdded (ρ : Dispatch) (app : Ref) (contextRoot : Datum) :
    Action Registration := do
  Action.checkAccess ρ app
  let supplied ← Action.finished (← RegistrationBuilder.supply ρ {} app)
  let placed := if contextRoot = .null then supplied else supplied.withContextRoot contextRoot
  Action.ofExcept placed.build

namespace ServerBuilder

variable {ρ : Dispatch} {b b' : ServerBuilder} {config : ServerConfig} {members : List Ref}
  {registrations : List Registration} {executor : Ref} {w w' : World}

theorem addApplication_eq (b : ServerBuilder) (app : Ref) (contextRoot : Datum) :
    b.addApplication ρ app contextRoot = Registration.ofAdded ρ app contextRoot >>= b.append := by
  unfold addApplication Registration.ofAdded
  simp only [bind_assoc]

theorem run_append_of_nil (hb : b.standIns = []) (r : Registration) (w : World) :
    EStateM.run (b.append r) w = .ok { b with registrations := b.registrations ++ [r] } w := by
  unfold append addFault?
  rw [hb]
  rfl

/-- **The builders that calls lead to**, each with the registrations that were added to it, in
    order, and the executor that was chosen last. The calls may be made at any time, and anything
    may happen to the store between them. -/
inductive Assembled (ρ : Dispatch) (config : ServerConfig) (members : List Ref) :
    List Registration → Ref → ServerBuilder → Prop where
  | new : Assembled ρ config members [] .none { setting := .config config members }
  | registration {registrations : List Registration} {executor : Ref} {b b' : ServerBuilder}
    {w' : World} (h : Assembled ρ config members registrations executor b) (r : Registration)
    (contextRoot : Datum) (w : World)
    (added : EStateM.run (b.append (b.placed r contextRoot)) w = .ok b' w') :
    Assembled ρ config members (registrations ++ [b.placed r contextRoot]) executor b'
  | application {registrations : List Registration} {executor : Ref} {b b' : ServerBuilder}
    {r : Registration} {w' w₁ : World} (h : Assembled ρ config members registrations executor b)
    (app : Ref) (contextRoot : Datum) (w : World)
    (made : EStateM.run (Registration.ofAdded ρ app contextRoot) w = .ok r w₁)
    (added : EStateM.run (b.addApplication ρ app contextRoot) w = .ok b' w') :
    Assembled ρ config members (registrations ++ [r]) executor b'
  | defaultExecutor {registrations : List Registration} {executor chosen : Ref}
    {b : ServerBuilder} (h : Assembled ρ config members registrations executor b) :
    Assembled ρ config members registrations chosen (b.withDefaultExecutor chosen)

/-- **What a builder holds after any calls.** -/
theorem Assembled.eq (h : Assembled ρ config members registrations executor b) :
    b = { setting := .config config members, registrations := registrations,
          defaultExecutor := executor } := by
  induction h with
  | new => rfl
  | registration h r contextRoot w added ih =>
    subst ih
    rw [run_append_of_nil rfl] at added
    cases added
    rfl
  | application h app contextRoot w made added ih =>
    subst ih
    rw [addApplication_eq, Action.run_bind_of_ok made, run_append_of_nil rfl] at added
    cases added
    rfl
  | defaultExecutor h ih =>
    subst ih
    rfl

end ServerBuilder

/-! ## 5. Mounts -/

/-- **Where a registration leads under a configuration**: by no name and by the default name to the
    default listener, by the name of a listener to that, and by any other name to the default
    listener, unless it is required. -/
inductive ServerConfig.Leads (config : ServerConfig) (r : Registration) : Datum → Prop where
  | unnamed (h : r.routingName = .null) : Leads config r (.text defaultRouting)
  | byDefault (h : r.routingName = .text defaultRouting) : Leads config r (.text defaultRouting)
  | named {l : Listener} (hl : l ∈ config.listeners) (h : r.routingName = .text l.name) :
    Leads config r (.text l.name)
  | fallingBack (h : config.Lacks r.routingName) (hr : r.routingRequired.isTrue = false) :
    Leads config r (.text defaultRouting)

/-- What is not missing leads to its listener. -/
theorem ServerConfig.leads_resolve {config : ServerConfig} {r : Registration}
    (h : ¬ config.Misses r) : config.Leads r (config.resolve r.routingName) := by
  by_cases hlacks : config.Lacks r.routingName
  · rw [resolve_of_lacks hlacks]
    refine .fallingBack hlacks ?_
    by_contra hrequired
    exact h ⟨hlacks, by simpa using hrequired⟩
  · rcases eq_of_not_lacks hlacks with hn | hn | ⟨l, hl, hn⟩
    · rw [hn]
      exact .unnamed hn
    · rw [resolve_of_not_lacks (by simp [hn]) hlacks, hn]
      exact .byDefault hn
    · rw [resolve_of_not_lacks (by simp [hn]) hlacks, hn]
      exact .named hl hn

/-- **A mount that comes from a registration**, where `fallback` is the executor of applications
    without one. -/
structure Mount.Resolves (config : ServerConfig) (fallback : Ref) (r : Registration) (m : Mount) :
    Prop where
  contextRoot : m.contextRoot = r.contextRoot
  descriptor : m.config = r.config
  appClassName : m.appClassName = r.appClassName
  listener : config.Leads r m.listener
  ownExecutor : r.executor ≠ .none → m.executor = r.executor
  defaultExecutor : r.executor = .none → m.executor = fallback

/-- The place of a mount. -/
def Mount.place (m : Mount) : ServerBuilder.Place :=
  (m.listener.key, m.contextRoot.key)

theorem Mount.resolves_mountOf {config : ServerConfig} {fallback : Ref} {r : Registration}
    (h : ¬ config.Misses r) :
    Resolves config fallback r
      (ServerBuilder.mountOf fallback (config.resolve r.routingName) r) where
  contextRoot := rfl
  descriptor := rfl
  appClassName := rfl
  listener := ServerConfig.leads_resolve h
  ownExecutor he := if_neg he
  defaultExecutor he := if_pos he

namespace ServerBuilder

variable {ρ : Dispatch} {b : ServerBuilder} {config : ServerConfig} {members : List Ref}
  {registrations : List Registration} {executor : Ref} {w w' : World}

/-- **A server that was built has one mount for each registration that was added**, in order and in
    a place of its own, and all that it mounts is frozen, if application code undoes no freeze. -/
theorem build_resolves (hρ : ρ.Respects World.Hardens)
    (h : Assembled ρ config members registrations executor b)
    (stored : ∀ r ∈ registrations, ∃ d, r.config = .descriptor d ∧ w.HasDescriptor d)
    {server : Server} (hrun : EStateM.run (b.build ρ) w = .ok server w') :
    List.Forall₂ (Mount.Resolves config executor) registrations server.mounts ∧
      server.mounts.Pairwise (fun m m' => m.place ≠ m'.place) ∧
      (∀ m ∈ server.mounts, ∃ d, m.config = .descriptor d ∧ (w'.descriptor d).frozen = true) ∧
      server.setting = .config config members := by
  obtain rfl := h.eq
  obtain ⟨accepted, hmount, hsetting⟩ := run_build_eq_ok hρ.library ⟨rfl, rfl, stored⟩ hrun
  have located : ∀ e ∈ registrations.map (resolved config), ∃ d, e.2.config = .descriptor d ∧
      (w.validated config registrations).HasDescriptor d := by
    intro e he
    obtain ⟨r, hr, rfl⟩ := List.mem_map.1 he
    exact stored r hr
  obtain ⟨hmounts, frozen⟩ := run_mountAll_eq_ok hρ rfl located hmount
  rw [List.map_map] at hmounts
  refine ⟨?_, ?_, fun m hm => ?_, hsetting⟩
  · rw [hmounts, List.forall₂_map_right_iff, List.forall₂_same]
    exact fun r hr => Mount.resolves_mountOf ((accepted_iff.1 accepted).1 r hr).1
  · rw [hmounts, List.pairwise_map]
    exact (accepted_iff.1 accepted).2
  · rw [hmounts] at hm
    obtain ⟨r, hr, rfl⟩ := List.mem_map.1 hm
    obtain ⟨d, hd, -⟩ := stored r hr
    exact ⟨d, hd, frozen _ (List.mem_map.2 ⟨r, hr, rfl⟩) d hd⟩

/-- A store with a descriptor, an executor, and a class of applications that would like a listener
    of their own. -/
def mixedStore : World :=
  { World.initial with
    classes := World.initial.classes.push
      { name := "ShopApp", qualname := "ShopApp", home := .text "shop",
        ancestors := [ClassId.application, ClassId.object],
        metadata := MetadataSlot.absent.decorate (.routing (.text "admin") (.truth false)) }
    descriptors := #[{ cls := ClassId.descriptor }]
    things := #[⟨.executor "pool" false, .object ⟨0⟩, none⟩] }

/-- A registration with an executor of its own, which counts as false. -/
def ownRegistration : Registration :=
  { contextRoot := .text "/", config := .descriptor ⟨0⟩, executor := .datum (.whole 0) 0 }

/-- The registration of the class. -/
def shopRegistration : Registration :=
  { contextRoot := .text "/shop", config := .descriptor ⟨1⟩, appClassName := .text "shop.ShopApp",
    routingName := .text "admin" }

/-- A builder of both. -/
def mixedBuilder : ServerBuilder :=
  { registrations := [ownRegistration, shopRegistration], defaultExecutor := .object ⟨0⟩ }

/-- The default executor may be chosen before and after the applications are added. -/
theorem assembled_mixedBuilder :
    Assembled Dispatch.library {} [] [ownRegistration, shopRegistration] (.object ⟨0⟩)
      mixedBuilder := by
  have chosen : Assembled Dispatch.library {} [] [] (.cls ⟨6⟩) _ := .defaultExecutor .new
  have first := chosen.registration ownRegistration .null mixedStore rfl
  have second := first.application (.cls ⟨6⟩) (.text "/shop") mixedStore rfl rfl
  exact second.defaultExecutor

/-- Both are mounted on the default listener, the second one for want of its own. -/
theorem build_mixedBuilder :
    Dispatch.library.Respects World.Hardens ∧
      Assembled Dispatch.library {} [] mixedBuilder.registrations (.object ⟨0⟩) mixedBuilder ∧
      ∃ w server w',
        (∀ r ∈ mixedBuilder.registrations, ∃ d, r.config = .descriptor d ∧ w.HasDescriptor d) ∧
        EStateM.run (mixedBuilder.build Dispatch.library) w = .ok server w' ∧
        List.Forall₂ (Mount.Resolves {} (.object ⟨0⟩)) mixedBuilder.registrations
          server.mounts := by
  have added : ∃ w server w',
      (∀ r ∈ mixedBuilder.registrations, ∃ d, r.config = .descriptor d ∧ w.HasDescriptor d) ∧
      EStateM.run (mixedBuilder.build Dispatch.library) w = .ok server w' := by
    refine ⟨Action.left (EStateM.run
      (Registration.ofAdded Dispatch.library (.cls ⟨6⟩) (.text "/shop")) mixedStore), _, _, ?_, rfl⟩
    intro r hr
    simp only [mixedBuilder, List.mem_cons, List.not_mem_nil, or_false] at hr
    rcases hr with rfl | rfl
    · exact ⟨⟨0⟩, rfl, show 0 < 2 by decide⟩
    · exact ⟨⟨1⟩, rfl, show 1 < 2 by decide⟩
  obtain ⟨w, server, w', stored, hrun⟩ := added
  have respects : Dispatch.library.Respects World.Hardens :=
    Dispatch.discreet_library.respects_frame
  refine ⟨respects, assembled_mixedBuilder, w, server, w', stored, hrun, ?_⟩
  exact (build_resolves respects assembled_mixedBuilder stored hrun).1

end ServerBuilder

end AppMount
