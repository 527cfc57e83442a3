import AppMount.Proofs.ApplicationCode
import AppMount.Registration.Supply
import Mathlib.Data.List.DropRight

/-!
# What a registration builder was told

A registration builder is told things one call after the other, in any order and as often as one
likes. What it holds in the end is read off the calls: each field has its own rule on which of them
counts.

* `Setter`, `Telling`, `Told`: the calls, a call that came to an end, and the builders that calls
  lead to;
* `last?`, `settled`: the two rules -- the last call that says something; the last one that chooses
  something, or else the first one since that offers something (`settled_concat`);
* `Telling.descriptor?`, `Telling.speaker?`: the descriptor that a call brings, and the class whose
  metadata it reads;
* `heard`, `done_of_apply`: what one call does; `summary`, `Told.eq`: what all of them come to;
* `build_of_told`: the record that is built, in closed form;
* `appClassName_of_told`: when the class name on record belongs to the descriptor on record, and
  `appClassName_stale`: that it need not.
-/

namespace AppMount

/-- What a run hands back, if it comes to an end. -/
def Action.result? {α : Type} : EStateM.Result Fault World α → Option α
  | .ok a _ => some a
  | .error .. => none

namespace RegistrationBuilder

/-! ## 1. Calls -/

/-- **What a registration builder can be told.** -/
inductive Setter where
  | contextRoot (value : Datum)
  | routingName (name required : Datum)
  | config (config : Ref)
  | application (app : Ref)
  | applicationClass (app : Ref)
  | executor (executor : Ref)
  deriving DecidableEq, Repr

/-- Tells a builder something. -/
def Setter.apply (ρ : Dispatch) (b : RegistrationBuilder) :
    Setter → Action (RegistrationBuilder × Option Fault)
  | .contextRoot value => pure (b.withContextRoot value, none)
  | .routingName name required => pure (b.withRoutingName name required, none)
  | .config r => pure (b.withConfig r, none)
  | .application app => b.application ρ app
  | .applicationClass app => b.applicationClass ρ app
  | .executor r => pure (b.withExecutor r, none)

/-- Whether a call chooses the descriptor by an application. -/
def Setter.isApplication : Setter → Bool
  | .application _ | .applicationClass _ => true
  | .contextRoot _ | .routingName .. | .config _ | .executor _ => false

/-- Whether a call chooses the descriptor. -/
def Setter.isSource : Setter → Bool
  | .config _ | .application _ | .applicationClass _ => true
  | .contextRoot _ | .routingName .. | .executor _ => false

/-- **A call of a setter**, with the stores before and after it. -/
structure Telling where
  setter : Setter
  before : World
  after : World

/-- **The builders that calls lead to.** Every call comes to an end; anything may happen to the
    store between them. -/
inductive Told (ρ : Dispatch) : List Telling → RegistrationBuilder → Prop where
  | new : Told ρ [] {}
  | call {told : List Telling} {b b' : RegistrationBuilder} (h : Told ρ told b) (t : Telling)
    (run : EStateM.run (t.setter.apply ρ b) t.before = .ok (b', none) t.after) :
    Told ρ (told ++ [t]) b'

namespace Telling

/-- The context root that a call chooses. -/
def root? (t : Telling) : Option Datum :=
  match t.setter with
  | .contextRoot value => some value
  | _ => none

/-- The listener that a call chooses, and whether it has to be there. -/
def routing? (t : Telling) : Option (Datum × Datum) :=
  match t.setter with
  | .routingName name required => some (name, required)
  | _ => none

/-- The executor that a call chooses. -/
def executor? (t : Telling) : Option Ref :=
  match t.setter with
  | .executor r => some r
  | _ => none

/-- **The descriptor that a call brings**: the one that is given, or the one that the application or
    its class is adapted by. -/
def descriptor? (ρ : Dispatch) (t : Telling) : Option Ref :=
  match t.setter with
  | .config r => some r
  | .application (.descriptor d) => some (.descriptor d)
  | .application app =>
    Action.result? (EStateM.run (Action.adaptBy ρ ClassId.descriptor "for_application"
      (Action.forApplication ρ ClassId.descriptor app)) t.before)
  | .applicationClass app =>
    Action.result? (EStateM.run (Action.adaptBy ρ ClassId.descriptor "for_application_class"
      (Action.forApplicationClass ρ ClassId.descriptor app)) t.before)
  | .contextRoot _ | .routingName .. | .executor _ => none

/-- **The class whose metadata a call reads**, as it is then: that of the application, or the one
    that is given. -/
def speaker? (ρ : Dispatch) (t : Telling) : Option ClassDef :=
  match t.setter with
  | .application app => some (classFor t.after app)
  | .applicationClass app => Action.result? (EStateM.run (speakerOf ρ app) t.after)
  | .contextRoot _ | .routingName .. | .config _ | .executor _ => none

/-- The context root that the metadata of a class offer. -/
def offeredRoot? (ρ : Dispatch) (t : Telling) : Option Datum :=
  (t.speaker? ρ).map (·.metadata.read.path)

/-- The listener that the metadata of a class offer, and whether it has to be there. -/
def offeredRouting? (ρ : Dispatch) (t : Telling) : Option (Datum × Datum) :=
  (t.speaker? ρ).bind fun c => c.metadata.read.routing.map fun r => (r.value, r.required)

end Telling

/-! ## 2. Which call counts -/

section Counting

variable {α : Type}

/-- **What the last call brings** that brings anything. -/
def last? (f : Telling → Option α) (told : List Telling) : Option α :=
  told.reverse.findSome? f

/-- **What settles a field**: the value of the last call that chooses one, or, if there is none or
    it leaves the field open, the first value offered since that does not. -/
def settled (chosen offered : Telling → Option α) (closes : α → Bool) (told : List Telling) :
    Option α :=
  ((last? chosen told).filter closes).or
    (((told.rtakeWhile fun t => (chosen t).isNone).filterMap offered).find? closes)

variable {f chosen offered : Telling → Option α} {closes : α → Bool} {told : List Telling}
  {t : Telling}

theorem last?_concat : last? f (told ++ [t]) = (f t).or (last? f told) := by
  unfold last?
  rw [List.reverse_append, List.findSome?_append]
  cases h : f t <;> simp [h]

/-- **One call more**: a choice settles the field anew, an offer counts if the field is open. -/
theorem settled_concat :
    settled chosen offered closes (told ++ [t]) =
      match chosen t with
      | some value => (some value).filter closes
      | none => (settled chosen offered closes told).or ((offered t).filter closes) := by
  unfold settled
  rw [last?_concat, List.rtakeWhile_concat]
  cases h : chosen t with
  | some value => simp
  | none =>
    have found : ([t].filterMap offered).find? closes = (offered t).filter closes := by
      cases ho : offered t <;> simp [ho, List.find?_singleton, Option.filter_some]
    simp only [Option.isNone_none, if_true, Option.none_or, List.filterMap_append,
      List.find?_append, found, Option.or_assoc]

theorem getD_last?_concat (d : α) :
    (last? f (told ++ [t])).getD d = (f t).getD ((last? f told).getD d) := by
  rw [last?_concat]
  cases f t <;> rfl

/-- What settles a field does not leave it open. -/
theorem closes_of_settled {value : α} (h : settled chosen offered closes told = some value) :
    closes value = true := by
  unfold settled at h
  rcases Option.or_eq_some_iff.1 h with h | ⟨-, h⟩
  · exact (Option.filter_eq_some_iff.1 h).2
  · exact List.find?_some h

end Counting

section Fields

variable (ρ : Dispatch) (told : List Telling) (t : Telling)

/-- The last call that chooses the descriptor. -/
def lastSource? : Option Telling :=
  last? (fun t => if t.setter.isSource then some t else none) told

/-- The executor that was chosen. -/
def executorOf : Ref :=
  (last? Telling.executor? told).getD .none

/-- **The context root** that was chosen or offered, if any was. -/
def rootOf : Datum :=
  (settled Telling.root? (Telling.offeredRoot? ρ) (· ≠ .null) told).getD .null

/-- **The listener, and whether it has to be there.** The two are of the same call; while no call
    gives a name, the last one to say so tells whether it would have to be there. -/
def routingOf : Datum × Datum :=
  (settled Telling.routing? (Telling.offeredRouting? ρ) (·.1 ≠ .null) told).getD
    (.null, ((last? (fun t => t.routing?.or (t.offeredRouting? ρ)) told).map (·.2)).getD
      (.truth false))

/-- The name of the class whose metadata were read last. -/
def classNameOf : Datum :=
  ((last? (Telling.speaker? ρ) told).map fun c => .text c.fullName).getD .null

theorem rootOf_concat :
    rootOf ρ (told ++ [t]) =
      t.root?.getD ((t.offeredRoot? ρ).elim (rootOf ρ told) fun path =>
        if rootOf ρ told = .null then path else rootOf ρ told) := by
  unfold rootOf
  rw [settled_concat]
  cases t.root? with
  | some value => by_cases h : value = .null <;> simp [h, Option.filter_some]
  | none =>
    cases t.offeredRoot? ρ with
    | none => simp
    | some path =>
      cases hs : settled Telling.root? (Telling.offeredRoot? ρ) (· ≠ .null) told with
      | some value =>
        have : value ≠ .null := by simpa using closes_of_settled hs
        simp [this]
      | none => by_cases h : path = .null <;> simp [h, Option.filter_some]

theorem routingOf_concat :
    routingOf ρ (told ++ [t]) =
      t.routing?.getD ((t.offeredRouting? ρ).elim (routingOf ρ told) fun offered =>
        if (routingOf ρ told).1 = .null then offered else routingOf ρ told) := by
  unfold routingOf
  rw [settled_concat, last?_concat]
  cases t.routing? with
  | some p =>
    obtain ⟨name, required⟩ := p
    by_cases h : name = .null <;> simp [h, Option.filter_some]
  | none =>
    cases t.offeredRouting? ρ with
    | none => simp
    | some p =>
      obtain ⟨name, required⟩ := p
      cases hs : settled Telling.routing? (Telling.offeredRouting? ρ) (·.1 ≠ .null) told with
      | some value =>
        have : value.1 ≠ .null := by simpa using closes_of_settled hs
        simp [this]
      | none => by_cases h : name = .null <;> simp [h, Option.filter_some]

end Fields

/-! ## 3. One call -/

section Calls

variable {ρ : Dispatch} {b b' : RegistrationBuilder} {t : Telling}

/-- Nothing is changed by finding out what speaks for an application class. -/
theorem reads_speakerOf (ρ : Dispatch) (app : Ref) : Action.Reads (speakerOf ρ app) := by
  unfold speakerOf
  split
  · exact Action.Reads.get.bind fun _ => .pure _
  · refine Action.Reads.bind ?_ fun metadata => ?_
    · refine (Action.reads_checkAccess ρ _).bind fun _ => Action.Reads.get.bind fun w => ?_
      split
      · exact .pure _
      · exact .throw _
    · refine (Action.reads_access ρ _ _).bind fun found => ?_
      refine (Action.reads_foundDatum _ found).bind fun home => ?_
      exact (Action.reads_qualnameOf ρ _).bind fun _ => .pure _

theorem standIns_withConfig (hb : b.standIns = []) (r : Ref) :
    (b.withConfig r).standIns = [] := by
  show b.standIns.supply "_config" = []
  rw [hb]
  rfl

/-- **What filling from a class comes to** where nothing foreign is in the fields. -/
theorem infer_eq (hb : b.standIns = []) (c : ClassDef) :
    b.infer c =
      { b with
        contextRoot := if b.contextRoot = .null then c.metadata.read.path else b.contextRoot
        routingName :=
          if b.routingName = .null then
            (c.metadata.read.routing.map (·.value)).getD b.routingName
          else b.routingName
        routingRequired :=
          if b.routingName = .null then
            (c.metadata.read.routing.map (·.required)).getD b.routingRequired
          else b.routingRequired
        appClassName := .text c.fullName } := by
  obtain ⟨root, config, executor, appClassName, name, required, standIns⟩ := b
  obtain rfl : standIns = [] := hb
  have rooted (path : Datum) (m : AppMetadata) (hm : m.path = path) :
      inferRoot ⟨root, config, executor, appClassName, name, required, []⟩ m =
        ⟨if root = .null then path else root, config, executor, appClassName, name, required,
          []⟩ := by
    subst hm
    unfold inferRoot
    cases root <;> cases hp : m.path <;> rfl
  unfold infer
  rw [rooted _ _ rfl]
  unfold inferRouting
  cases name <;> cases c.metadata.read.routing <;> rfl

/-- **A builder after one call more.** -/
def heard (ρ : Dispatch) (b : RegistrationBuilder) (t : Telling) : RegistrationBuilder :=
  let routing := (t.offeredRouting? ρ).elim (b.routingName, b.routingRequired) fun offered =>
    if b.routingName = .null then offered else (b.routingName, b.routingRequired)
  { contextRoot := t.root?.getD ((t.offeredRoot? ρ).elim b.contextRoot fun path =>
      if b.contextRoot = .null then path else b.contextRoot)
    config := (t.descriptor? ρ).getD b.config
    executor := t.executor?.getD b.executor
    appClassName := ((t.speaker? ρ).map fun c => .text c.fullName).getD b.appClassName
    routingName := (t.routing?.getD routing).1
    routingRequired := (t.routing?.getD routing).2 }

/-- **What a call that comes to an end does**: it brings a descriptor if it is to choose one, and a
    class if it does so by an application; and the builder has heard it. -/
structure Telling.Done (ρ : Dispatch) (t : Telling) (b b' : RegistrationBuilder) : Prop where
  brings : (t.descriptor? ρ).isSome = t.setter.isSource
  speaks : (t.speaker? ρ).isSome = t.setter.isApplication
  heard : b' = b.heard ρ t

/-- A call with an application chooses the descriptor and nothing else. -/
theorem of_isApplication (ha : t.setter.isApplication = true) :
    t.setter.isSource = true ∧ t.root? = none ∧ t.routing? = none ∧ t.executor? = none := by
  obtain ⟨setter, before, after⟩ := t
  cases setter with
  | application | applicationClass => exact ⟨rfl, rfl, rfl, rfl⟩
  | contextRoot | routingName | config | executor => cases ha

/-- **Supplying a descriptor and a class that speaks for it.** -/
theorem done_of_inferred (hb : b.standIns = []) (ha : t.setter.isApplication = true) {r : Ref}
    {c : ClassDef} (hd : t.descriptor? ρ = some r) (hc : t.speaker? ρ = some c)
    (h : (b.withConfig r).inferred c = (b', none)) : t.Done ρ b b' := by
  obtain ⟨source, hroot, hrouting, hexecutor⟩ := of_isApplication ha
  refine ⟨by rw [hd, source]; rfl, by rw [hc, ha]; rfl, ?_⟩
  rw [inferred_of_standIns_nil (standIns_withConfig hb r),
    infer_eq (standIns_withConfig hb r)] at h
  obtain ⟨rfl, -⟩ := Prod.mk.inj h
  obtain ⟨root, config, executor, appClassName, name, required, foreign⟩ := b
  obtain rfl : foreign = [] := hb
  unfold heard Telling.offeredRoot? Telling.offeredRouting?
  rw [hd, hc, hroot, hrouting, hexecutor]
  by_cases hname : name = .null
  · cases hr : c.metadata.read.routing <;>
      simp [hname, hr, withConfig, supplied, StandIns.supply]
  · cases hr : c.metadata.read.routing <;>
      simp [hname, hr, withConfig, supplied, StandIns.supply]

theorem done_of_application {app : Ref} (hb : b.standIns = []) (ht : t.setter = .application app)
    (h : EStateM.run (b.application ρ app) t.before = .ok (b', none) t.after) :
    t.Done ρ b b' := by
  have applied : t.setter.isApplication = true := by rw [ht]; rfl
  have spoken : t.speaker? ρ = some (classFor t.after app) := by simp only [Telling.speaker?, ht]
  cases app with
  | descriptor d =>
    unfold application at h
    rw [Action.run_bind_of_ok (EStateM.run_get _)] at h
    obtain ⟨hr, hw⟩ := EStateM.Result.ok.inj h
    rw [hw] at hr
    exact done_of_inferred hb applied (by simp only [Telling.descriptor?, ht]) spoken hr
  | none | cls | object | datum =>
    unfold application at h
    obtain ⟨⟨⟩, w, hcheck, h⟩ := Action.run_bind_eq_ok_iff.1 h
    obtain rfl : t.before = w := (Action.reads_checkAccess ρ _).ok hcheck
    obtain ⟨r, w, hadapt, h⟩ := Action.run_bind_eq_ok_iff.1 h
    rw [Action.run_bind_of_ok (EStateM.run_get _)] at h
    obtain ⟨hr, rfl⟩ := EStateM.Result.ok.inj h
    refine done_of_inferred (r := r) hb applied ?_ spoken hr
    simp only [Telling.descriptor?, ht, hadapt, Action.result?]

theorem done_of_applicationClass {app : Ref} (hb : b.standIns = [])
    (ht : t.setter = .applicationClass app)
    (h : EStateM.run (b.applicationClass ρ app) t.before = .ok (b', none) t.after) :
    t.Done ρ b b' := by
  unfold applicationClass at h
  obtain ⟨r, w, hadapt, h⟩ := Action.run_bind_eq_ok_iff.1 h
  obtain ⟨spoken, w₁, hspeak, h⟩ := Action.run_bind_eq_ok_iff.1 h
  rw [Action.run_attempt] at hspeak
  have hreads := reads_speakerOf ρ app w
  cases hrun : EStateM.run (speakerOf ρ app) w with
  | error fault w₂ =>
    rw [hrun] at hspeak
    cases hspeak
    cases h
  | ok c w₂ =>
    rw [hrun] at hspeak hreads
    cases hspeak
    obtain rfl : w = w₁ := hreads
    obtain ⟨hr, rfl⟩ := EStateM.Result.ok.inj h
    refine done_of_inferred (r := r) hb (by rw [ht]; rfl) ?_ ?_ hr
    · simp only [Telling.descriptor?, ht, hadapt, Action.result?]
    · simp only [Telling.speaker?, ht, hrun, Action.result?]

theorem done_of_apply (hb : b.standIns = [])
    (h : EStateM.run (t.setter.apply ρ b) t.before = .ok (b', none) t.after) :
    t.Done ρ b b' := by
  obtain ⟨setter, before, after⟩ := t
  obtain ⟨root, config, executor, appClassName, name, required, standIns⟩ := b
  obtain rfl : standIns = [] := hb
  cases setter with
  | contextRoot | routingName | config | executor =>
    obtain ⟨hr, -⟩ := EStateM.Result.ok.inj h
    exact ⟨rfl, rfl, (congrArg Prod.fst hr).symm⟩
  | application app => exact done_of_application rfl rfl h
  | applicationClass app => exact done_of_applicationClass rfl rfl h

end Calls

/-! ## 4. Any calls -/

section Calls

variable {ρ : Dispatch} {b : RegistrationBuilder} {r : Registration} {told : List Telling}
  {t : Telling}

/-- **What calls come to.** -/
def summary (ρ : Dispatch) (told : List Telling) : RegistrationBuilder where
  contextRoot := rootOf ρ told
  config := (last? (Telling.descriptor? ρ) told).getD .none
  executor := executorOf told
  appClassName := classNameOf ρ told
  routingName := (routingOf ρ told).1
  routingRequired := (routingOf ρ told).2

theorem summary_concat : summary ρ (told ++ [t]) = (summary ρ told).heard ρ t := by
  unfold summary heard executorOf classNameOf
  rw [rootOf_concat, routingOf_concat, getD_last?_concat, getD_last?_concat, last?_concat]
  cases t.speaker? ρ <;> rfl

/-- **What a builder holds after any calls.** -/
theorem Told.eq (h : Told ρ told b) : b = summary ρ told := by
  induction h with
  | new => rfl
  | call h t run ih =>
    subst ih
    rw [summary_concat]
    exact (done_of_apply rfl run).heard

theorem Told.done (h : Told ρ told b) (ht : t ∈ told) : ∃ b b', t.Done ρ b b' := by
  induction h with
  | new => cases ht
  | call h t' run ih =>
    rcases List.mem_append.1 ht with ht | ht
    · exact ih ht
    · rw [List.mem_singleton.1 ht]
      exact ⟨_, _, done_of_apply (by rw [h.eq]; rfl) run⟩

theorem of_lastSource? (h : lastSource? told = some t) :
    t ∈ told ∧ t.setter.isSource = true := by
  obtain ⟨t', ht', hs⟩ := List.exists_of_findSome?_eq_some h
  split at hs
  · rename_i source
    obtain rfl := Option.some.inj hs
    exact ⟨List.mem_reverse.1 ht', source⟩
  · cases hs

/-- **What is brought last by the calls that choose a descriptor** comes from the last of them, if
    that brings any such thing. -/
theorem last?_of_lastSource? {α : Type} {f : Telling → Option α}
    (hf : ∀ t ∈ told, (f t).isSome → t.setter.isSource = true) (h : lastSource? told = some t)
    {a : α} (ha : f t = some a) : last? f told = some a := by
  induction told using List.reverseRecOn with
  | nil => cases h
  | append_singleton told t' ih =>
    unfold lastSource? at h ih
    rw [last?_concat] at h ⊢
    split at h
    · obtain rfl : t' = t := by simpa using h
      rw [ha, Option.some_or]
    · rename_i hs
      have silent : f t' = none :=
        Option.not_isSome_iff_eq_none.1 fun hn => hs (hf t' (by simp) hn)
      rw [Option.none_or] at h
      rw [silent, Option.none_or]
      exact ih (fun t ht => hf t (List.mem_append_left _ ht)) h

theorem result?_adaptBy (hρ : ρ.replaces = false) (factory : ClassId) (method : String)
    (own : Action DescriptorId) (w : World) :
    Action.result? (EStateM.run (Action.adaptBy ρ factory method own) w) ≠ some .none := by
  unfold Action.adaptBy
  rw [if_neg (by simp [hρ])]
  cases h : EStateM.run own w with
  | ok d w' =>
    rw [Action.run_bind_of_ok h]
    exact fun h => nomatch h
  | error fault w' =>
    rw [Action.run_bind_of_error h]
    exact fun h => nomatch h

/-- What an application is adapted by is something: only an explicit choice brings nothing. -/
theorem setter_of_descriptor?_eq_none (hρ : ρ.replaces = false)
    (h : t.descriptor? ρ = some .none) : t.setter = .config .none := by
  unfold Telling.descriptor? at h
  split at h
  · rename_i hs
    rw [hs, Option.some.inj h]
  · cases h
  · exact absurd h (result?_adaptBy hρ _ _ _ _)
  · exact absurd h (result?_adaptBy hρ _ _ _ _)
  · cases h
  · cases h
  · cases h

/-- The descriptor on record is that of the last call that chooses one. -/
theorem Told.descriptor? (h : Told ρ told b) (ht : lastSource? told = some t) :
    t.descriptor? ρ = some (summary ρ told).config := by
  obtain ⟨mem, source⟩ := of_lastSource? ht
  obtain ⟨_, _, done⟩ := h.done mem
  obtain ⟨r, hr⟩ := Option.isSome_iff_exists.1 (done.brings.trans source)
  have last := last?_of_lastSource? (f := Telling.descriptor? ρ) (fun t' ht' hd => ?_) ht hr
  · rw [hr]
    show _ = some ((last? (Telling.descriptor? ρ) told).getD .none)
    rw [last, Option.getD_some]
  · obtain ⟨_, _, done⟩ := h.done ht'
    exact done.brings.symm.trans hd

/-- Without a call that chooses a descriptor there is none. -/
theorem Told.config_of_lastSource?_eq_none (h : Told ρ told b) (hn : lastSource? told = none) :
    (summary ρ told).config = .none := by
  have silent : last? (Telling.descriptor? ρ) told = none := by
    refine List.findSome?_eq_none_iff.2 fun t ht => ?_
    have unchosen := List.findSome?_eq_none_iff.1 hn t ht
    obtain ⟨_, _, done⟩ := h.done (List.mem_reverse.1 ht)
    refine Option.not_isSome_iff_eq_none.1 fun hs => ?_
    rw [if_pos (done.brings.symm.trans hs)] at unchosen
    cases unchosen
  show (last? (Telling.descriptor? ρ) told).getD .none = .none
  rw [silent, Option.getD_none]

theorem Told.config_eq_none_iff (hρ : ρ.replaces = false) (h : Told ρ told b) :
    (summary ρ told).config = .none ↔
      lastSource? told = none ∨ ∃ t, lastSource? told = some t ∧ t.setter = .config .none := by
  constructor
  · intro hc
    cases hs : lastSource? told with
    | none => exact .inl rfl
    | some t => exact .inr ⟨t, rfl, setter_of_descriptor?_eq_none hρ (hc ▸ h.descriptor? hs)⟩
  · rintro (hn | ⟨t, ht, hset⟩)
    · exact h.config_of_lastSource?_eq_none hn
    · have given := h.descriptor? ht
      unfold Telling.descriptor? at given
      rw [hset] at given
      exact (Option.some.inj given).symm

theorem build_of_config_ne_none (hb : b.standIns = []) (hc : b.config ≠ .none) :
    b.build = .ok
      { contextRoot := if b.contextRoot = .null then .text defaultContextRoot else b.contextRoot
        config := b.config, executor := b.executor, appClassName := b.appClassName,
        routingName := b.routingName, routingRequired := b.routingRequired } := by
  have none_lacks : fields.find? b.standIns.lacks = none := by simp [hb]
  unfold build
  rw [if_neg (by simp [hb]), if_neg hc, none_lacks]

/-- **The record that calls lead to.** There is none if no call chose a descriptor, or the last one
    that did chose none. Otherwise the record is of the descriptor of the last one, and of the
    executor that was chosen last; the context root and the listener are those that were chosen
    last, or, if that left them open, those that were the first to be offered since; and whether the
    listener has to be there was said in the call that gives its name. -/
theorem build_of_told (hρ : ρ.replaces = false) (h : Told ρ told b) :
    ((∃ fault, b.build = .error fault) ↔
        lastSource? told = none ∨ ∃ t, lastSource? told = some t ∧ t.setter = .config .none) ∧
      (∀ fault, b.build = .error fault → fault.category = "ConfigurationError") ∧
      ∀ r, b.build = .ok r →
        (∃ t, lastSource? told = some t ∧ t.descriptor? ρ = some r.config) ∧
        r.executor = executorOf told ∧
        r.contextRoot = (if rootOf ρ told = .null then .text "/" else rootOf ρ told) ∧
        (r.routingName, r.routingRequired) = routingOf ρ told := by
  obtain rfl := h.eq
  have unchosen := h.config_eq_none_iff hρ
  by_cases hc : (summary ρ told).config = .none
  · have failed : (summary ρ told).build = .error .noApplication := (build_eq_error_iff rfl).2 hc
    rw [failed]
    refine ⟨⟨fun _ => unchosen.1 hc, fun _ => ⟨_, rfl⟩⟩, ?_, fun r hr => nomatch hr⟩
    rintro fault ⟨⟩
    rfl
  · rw [build_of_config_ne_none rfl hc]
    refine ⟨⟨fun ⟨_, he⟩ => (nomatch he), fun hn => absurd (unchosen.2 hn) hc⟩,
      fun fault he => (nomatch he), ?_⟩
    rintro r ⟨⟩
    refine ⟨?_, rfl, rfl, rfl⟩
    cases hs : lastSource? told with
    | none => exact absurd (h.config_of_lastSource?_eq_none hs) hc
    | some t => exact ⟨t, rfl, h.descriptor? hs⟩

/-- A store with a descriptor and a class of applications that would like a place of their own. -/
def toldStore : World :=
  { World.initial with
    classes := World.initial.classes.push
      { name := "ShopApp", qualname := "ShopApp", home := .text "shop",
        ancestors := [ClassId.application, ClassId.object],
        metadata := (MetadataSlot.absent.decorate (.path (.text "/shop"))).decorate
          (.routing (.text "admin") (.truth true)) }
    descriptors := #[{ cls := ClassId.descriptor }] }

/-- A call that touches nothing in this store. -/
def Telling.idle (setter : Setter) : Telling :=
  ⟨setter, toldStore, toldStore⟩

/-- The class is supplied. -/
def supplying : Telling :=
  ⟨.applicationClass (.cls ⟨6⟩), toldStore,
    Action.left (EStateM.run (Setter.apply Dispatch.library {} (.applicationClass (.cls ⟨6⟩)))
      toldStore)⟩

/-- A context root is chosen and given up, and the class is supplied and then a descriptor. -/
def wavering : List Telling :=
  [.idle (.routingName .null (.truth false)), .idle (.contextRoot (.text "")), supplying,
    .idle (.contextRoot .null), .idle (.application (.descriptor ⟨0⟩))]

theorem told_wavering : Told Dispatch.library wavering (summary Dispatch.library wavering) :=
  (((((Told.new.call (.idle (.routingName .null (.truth false))) rfl).call
    (.idle (.contextRoot (.text ""))) rfl).call supplying rfl).call
    (.idle (.contextRoot .null)) rfl).call (.idle (.application (.descriptor ⟨0⟩))) rfl)

/-- The class was heard when the context root was settled, and the listener was not. -/
theorem build_wavering :
    Dispatch.library.replaces = false ∧
      Told Dispatch.library wavering (summary Dispatch.library wavering) ∧
      ∃ r, (summary Dispatch.library wavering).build = .ok r ∧
        (∃ t, lastSource? wavering = some t ∧ t.descriptor? Dispatch.library = some r.config) ∧
        r.executor = .none ∧ r.contextRoot = .text "/" ∧
        (r.routingName, r.routingRequired) = (.text "admin", .truth true) := by
  obtain ⟨-, -, record⟩ := build_of_told (ρ := Dispatch.library) rfl told_wavering
  exact ⟨rfl, told_wavering, _, rfl, record _ rfl⟩

theorem classNameOf_eq_null_iff (h : Told ρ told b) :
    classNameOf ρ told = .null ↔ ∀ t ∈ told, t.setter.isApplication = false := by
  have unspoken : last? (Telling.speaker? ρ) told = none ↔ ∀ t ∈ told, t.speaker? ρ = none := by
    unfold last?
    simp
  have named : classNameOf ρ told = .null ↔ last? (Telling.speaker? ρ) told = none := by
    unfold classNameOf
    cases last? (Telling.speaker? ρ) told <;> simp
  rw [named, unspoken]
  refine forall₂_congr fun t ht => ?_
  obtain ⟨_, _, done⟩ := h.done ht
  rw [← done.speaks, Option.isSome_eq_false_iff, Option.isNone_iff_eq_none]

/-- **When the class name on record belongs to the descriptor on record.** If the last call that
    chose a descriptor did so by an application, the name is that of its class. If that call gave
    the descriptor as it is, no class belongs to it; the name on record is none then if and only if
    no application was ever supplied. -/
theorem appClassName_of_told (h : Told ρ told b) (hb : b.build = .ok r) :
    ∃ t, lastSource? told = some t ∧
      ((∃ c, t.speaker? ρ = some c ∧ r.appClassName = .text c.fullName) ∨
        (∃ d, t.setter = .config d) ∧
          (r.appClassName = .null ↔ ∀ t' ∈ told, t'.setter.isApplication = false)) := by
  obtain rfl := h.eq
  have hc : (summary ρ told).config ≠ .none := fun hc => by
    rw [(build_eq_error_iff rfl).2 hc] at hb
    cases hb
  rw [build_of_config_ne_none rfl hc] at hb
  cases hb
  cases hs : lastSource? told with
  | none => exact absurd (h.config_of_lastSource?_eq_none hs) hc
  | some t =>
    refine ⟨t, rfl, ?_⟩
    obtain ⟨mem, source⟩ := of_lastSource? hs
    cases ha : t.setter.isApplication with
    | true =>
      obtain ⟨_, _, done⟩ := h.done mem
      obtain ⟨c, hspeak⟩ := Option.isSome_iff_exists.1 (done.speaks.trans ha)
      refine .inl ⟨c, hspeak, ?_⟩
      show classNameOf ρ told = _
      have last := last?_of_lastSource? (f := Telling.speaker? ρ) (fun t' ht' hs' => ?_) hs hspeak
      · unfold classNameOf
        rw [last]
        rfl
      · obtain ⟨_, _, done⟩ := h.done ht'
        exact (of_isApplication (done.speaks.symm.trans hs')).1
    | false =>
      refine .inr ⟨?_, classNameOf_eq_null_iff h⟩
      cases hset : t.setter with
      | config d => exact ⟨d, rfl⟩
      | application | applicationClass =>
        rw [hset] at ha
        cases ha
      | contextRoot | routingName | executor =>
        rw [hset] at source
        cases source

/-- The class is supplied, and then the descriptor. -/
def replacing : List Telling :=
  [supplying, .idle (.config (.descriptor ⟨0⟩))]

theorem told_replacing : Told Dispatch.library replacing (summary Dispatch.library replacing) :=
  (Told.new.call supplying rfl).call (.idle (.config (.descriptor ⟨0⟩))) rfl

/-- The descriptor that was chosen last is on record, which no class belongs to. -/
theorem appClassName_replacing :
    Told Dispatch.library replacing (summary Dispatch.library replacing) ∧
      ∃ r, (summary Dispatch.library replacing).build = .ok r ∧
        ∃ t, lastSource? replacing = some t ∧
          ((∃ c, t.speaker? Dispatch.library = some c ∧ r.appClassName = .text c.fullName) ∨
            (∃ d, t.setter = .config d) ∧
              (r.appClassName = .null ↔
                ∀ t' ∈ replacing, t'.setter.isApplication = false)) :=
  ⟨told_replacing, _, rfl, appClassName_of_told told_replacing rfl⟩

/-- **A descriptor may go by the name of a class that it does not belong to**: that of the
    application that it has replaced. -/
theorem appClassName_stale :
    ∃ told b r, Told Dispatch.library told b ∧ b.build = .ok r ∧
      (∃ t, lastSource? told = some t ∧ t.setter = .config (.descriptor ⟨0⟩)) ∧
      r.config = .descriptor ⟨0⟩ ∧ r.appClassName = .text "shop.ShopApp" :=
  ⟨replacing, summary Dispatch.library replacing, _, told_replacing, rfl, ⟨_, rfl, rfl⟩, rfl, rfl⟩

end Calls

end RegistrationBuilder

end AppMount
