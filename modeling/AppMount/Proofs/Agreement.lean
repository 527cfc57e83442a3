import AppMount.Proofs.Adapting
import AppMount.Proofs.Constructing
import AppMount.Proofs.Completeness
import AppMount.Proofs.Sparing

/-!
# Two ways to adapt an application

An application is absorbed before a caller contributes to its descriptor, and an application class
when the descriptor is frozen, after all contributions. What the descriptor holds in the end is the
same, but for what is written under one key by both: there the later one counts.

* `Contribution`: what a caller may contribute; `Descriptor.contributed`: what contributions come to
  (`run_contributeAll`);
* `World.Uniform`: a class whose applications all offer the same;
* `Action.adaptedLater`, `Action.adaptedNow`: the two ways; `run_adaptedLater`, `run_adaptedNow`:
  what they come to;
* `Keyed.Overlaid`: two mappings that differ in who is written last;
* `adapted_agree`: the two ways agree.
-/

namespace AppMount

open AppMount.Action

/-! ## 1. Contributions -/

/-- **What a caller may contribute to a descriptor**, one call each. -/
inductive Contribution where
  | component (r : Ref)
  | provider (service factory : Ref)
  | property (name value : Datum)
  deriving DecidableEq, Repr

namespace Contribution

/-- Makes the call. -/
def make (ρ : Dispatch) (d : DescriptorId) : Contribution → Action Unit
  | .component r => register ρ d r
  | .provider service factory => provide ρ d service factory
  | .property name value => setProperty ρ d name value

/-- A class that is contributed. -/
def class? : Contribution → Option Ref
  | .component r => if r.class?.isSome then some r else none
  | _ => none

/-- A shared instance that is contributed. -/
def singleton? : Contribution → Option Ref
  | .component r => if r.class?.isSome then none else some r
  | _ => none

/-- A property that is contributed: its name has to be usable as a key. -/
def property? : Contribution → Option (Datum × Datum)
  | .property name value => if name.isKey then some (name, value) else none
  | _ => none

/-- A provider that is contributed: its service has to be usable as a key. -/
def provider? (w : World) : Contribution → Option (Ref × Ref)
  | .provider service factory =>
    if (w.keyFault? service).isNone then some (service, factory) else none
  | _ => none

/-- Whether the service of a contribution is in the store. -/
def Stored (w : World) : Contribution → Prop
  | .provider service _ => w.Stores service
  | _ => True

/-- What becomes of a descriptor by one contribution. One that is refused changes nothing. -/
def addTo (w : World) (y : Descriptor) : Contribution → Descriptor
  | .component r => y.addComponent w.like r
  | .provider service factory =>
    if (w.keyFault? service).isNone then y.putProviders w.like [(service, factory)] else y
  | .property name value => if name.isKey then y.putProperties [(name, value)] else y

end Contribution

/-- **A descriptor with contributions**, where things count as the same that are equal in a
    store. -/
def Descriptor.contributed (w : World) (xs : List Contribution) (y : Descriptor) : Descriptor :=
  { y with
    classes := Keyed.addAll w.like y.classes (xs.filterMap (·.class?))
    singletons := Keyed.addAll id y.singletons (xs.filterMap (·.singleton?))
    properties := Keyed.putAll Datum.key y.properties (xs.filterMap (·.property?))
    providers := Keyed.putAll w.like y.providers (xs.filterMap (·.provider? w)) }

/-- One contribution comes after the other. -/
theorem Descriptor.contributed_cons (w : World) (x : Contribution) (xs : List Contribution)
    (y : Descriptor) : y.contributed w (x :: xs) = (x.addTo w y).contributed w xs := by
  cases x with
  | component r => cases r <;> rfl
  | provider service factory =>
    simp only [Contribution.addTo]
    cases hkey : w.keyFault? service <;>
      simp [Descriptor.contributed, Contribution.class?, Contribution.singleton?,
        Contribution.property?, Contribution.provider?, hkey, Descriptor.putProviders,
        Keyed.putAll]
  | property name value =>
    simp only [Contribution.addTo]
    cases hname : name.isKey <;>
      simp [Descriptor.contributed, Contribution.class?, Contribution.singleton?,
        Contribution.property?, Contribution.provider?, hname, Descriptor.putProperties,
        Keyed.putAll]

theorem Contribution.filled_addTo (w : World) (x : Contribution) (y : Descriptor) :
    y.Filled (x.addTo w y) := by
  cases x with
  | component r => exact Action.filled_addComponent w.like r y
  | provider service factory =>
    simp only [addTo]
    split
    · exact ⟨_, _, _, _, rfl⟩
    · exact .refl y
  | property name value =>
    simp only [addTo]
    split
    · exact ⟨_, _, _, _, rfl⟩
    · exact .refl y

/-- A descriptor that holds nothing but classes where classes are meant, and nothing but what is in
    a store as services. -/
structure Descriptor.Known (w : World) (y : Descriptor) : Prop where
  classes : ∀ r ∈ y.classes, ∃ k, r = .cls k
  services : ∀ r ∈ y.providers.map (·.1), w.Stores r

namespace Descriptor.Known

variable {w : World} {y : Descriptor} {x : Contribution} {rep : Ref → Ref}

/-- Classes are the same in whichever store. -/
theorem addClasses_congr (h : y.Known w) (hrep : ∀ k, rep (.cls k) = w.like (.cls k))
    {new : List Ref} (hnew : ∀ r ∈ new, ∃ k, r = .cls k) :
    y.addClasses rep new = y.addClasses w.like new := by
  have same (r : Ref) (hr : ∃ k, r = .cls k) : rep r = w.like r := by
    obtain ⟨k, rfl⟩ := hr
    exact hrep k
  unfold Descriptor.addClasses
  rw [Keyed.addAll_congr (fun r hr => same r (h.classes r hr)) fun r hr => same r (hnew r hr)]

theorem addComponent_congr (h : y.Known w) (hrep : ∀ k, rep (.cls k) = w.like (.cls k)) {r : Ref} :
    y.addComponent rep r = y.addComponent w.like r := by
  unfold Descriptor.addComponent
  cases r with
  | cls k => exact h.addClasses_congr hrep fun r hr => ⟨k, List.mem_singleton.1 hr⟩
  | none | descriptor | object | datum => rfl

/-- What is in a store is the same in all later ones. -/
theorem putProviders_congr (h : y.Known w) (hrep : ∀ r, w.Stores r → rep r = w.like r)
    {new : List (Ref × Ref)} (hnew : ∀ r ∈ new.map (·.1), w.Stores r) :
    y.putProviders rep new = y.putProviders w.like new := by
  unfold Descriptor.putProviders
  rw [Keyed.putAll_congr (fun r hr => hrep r (h.services r hr)) fun r hr => hrep r (hnew r hr)]

theorem standFor (h : y.Known w) (app : Ref) : (y.standFor app).Known w :=
  ⟨h.classes, h.services⟩

theorem adopt (h : y.Known w) (app : Ref) : (y.adopt app).Known w :=
  ⟨h.classes, h.services⟩

theorem standForClass (h : y.Known w) (c : ClassId) : (y.standForClass c).Known w :=
  ⟨h.classes, h.services⟩

theorem addComponent (h : y.Known w) (r : Ref) : (y.addComponent w.like r).Known w := by
  cases r with
  | cls k =>
    refine ⟨fun r hr => ?_, h.services⟩
    exact (Keyed.mem_addAll hr).elim (h.classes r) fun hr => ⟨k, List.mem_singleton.1 hr⟩
  | none | descriptor | object | datum => exact ⟨h.classes, h.services⟩

theorem putProviders (h : y.Known w) {new : List (Ref × Ref)}
    (hnew : ∀ r ∈ new.map (·.1), w.Stores r) : (y.putProviders w.like new).Known w :=
  ⟨h.classes, fun r hr => (Keyed.mem_keys_putAll hr).elim (h.services r) (hnew r)⟩

theorem addTo (h : y.Known w) (stored : x.Stored w) : (x.addTo w y).Known w := by
  cases x with
  | component r => exact h.addComponent r
  | provider service factory =>
    simp only [Contribution.addTo]
    split
    · refine h.putProviders fun r hr => ?_
      obtain rfl : r = service := List.mem_singleton.1 hr
      exact stored
    · exact h
  | property name value =>
    simp only [Contribution.addTo]
    split
    · exact ⟨h.classes, h.services⟩
    · exact h

theorem contributed (h : y.Known w) {xs : List Contribution} (stored : ∀ x ∈ xs, x.Stored w) :
    (y.contributed w xs).Known w := by
  induction xs generalizing y with
  | nil => exact h
  | cons x xs ih =>
    rw [Descriptor.contributed_cons]
    exact ih (h.addTo (stored x List.mem_cons_self)) fun x hx =>
      stored x (List.mem_cons_of_mem _ hx)

/-- What is absorbed from an application with services of a store is the same in all later
    ones. -/
theorem absorbing_congr (h : y.Known w) (hcls : ∀ k, rep (.cls k) = w.like (.cls k))
    (hrep : ∀ r, w.Stores r → rep r = w.like r) {offer : Hook → Offer}
    (typed : (offer .classes).Typed .classes) {pairs : List (Datum × Datum)}
    {providers : List (Ref × Ref)} (services : ∀ r ∈ providers.map (·.1), w.Stores r) :
    y.absorbing rep offer pairs providers = y.absorbing w.like offer pairs providers := by
  have filled : (((y.addClasses w.like (offer .classes).elements.items).addSingletons
      (offer .singletons).elements.items).putProperties pairs).Known w :=
    ⟨fun r hr => (Keyed.mem_addAll hr).elim (h.classes r) (typed.2 r), h.services⟩
  unfold Descriptor.absorbing
  rw [h.addClasses_congr hcls typed.2, filled.putProviders_congr hrep services]

theorem absorbing (h : y.Known w) {offer : Hook → Offer}
    (typed : (offer .classes).Typed .classes) {pairs : List (Datum × Datum)}
    {providers : List (Ref × Ref)} (services : ∀ r ∈ providers.map (·.1), w.Stores r) :
    (y.absorbing w.like offer pairs providers).Known w :=
  ⟨fun r hr => (Keyed.mem_addAll hr).elim (h.classes r) (typed.2 r),
    fun r hr => (Keyed.mem_keys_putAll hr).elim (h.services r) (services r)⟩

end Descriptor.Known

namespace Action

variable {ρ : Dispatch} {c : ClassId} {d : DescriptorId} {w v : World} {x : Contribution}
  {xs : List Contribution}

theorem run_register_of_library (hρ : ρ.replaces = false) (hf : (v.descriptor d).frozen = false)
    (r : Ref) :
    EStateM.run (register ρ d r) v = .ok ⟨⟩ (v.changeDescriptor d (·.addComponent v.like r)) := by
  unfold register checkClasses checkSingletons
  simp only [standIn_of_library hρ, checkAccess_of_library hρ, pure_bind, ite_self]
  rw [run_bind_of_ok (checkChangeable_of_not_frozen hρ hf)]
  rfl

theorem run_provide_of_library (hρ : ρ.replaces = false) (hf : (v.descriptor d).frozen = false)
    (service factory : Ref) :
    EStateM.run (provide ρ d service factory) v =
      match v.keyFault? service with
      | some fault => .error fault v
      | none => .ok ⟨⟩ (v.changeDescriptor d (·.putProviders v.like [(service, factory)])) := by
  unfold provide checkKeyed
  simp only [standIn_of_library hρ, pure_bind, hρ, Bool.false_eq_true, if_false]
  rw [run_bind_of_ok (checkChangeable_of_not_frozen hρ hf), EStateM.run_bind,
    run_codeOf_of_library hρ]
  cases v.keyFault? service <;> rfl

theorem run_setProperty_of_library (hρ : ρ.replaces = false)
    (hf : (v.descriptor d).frozen = false) (name value : Datum) :
    EStateM.run (setProperty ρ d name value) v =
      if name.isKey then .ok ⟨⟩ (v.changeDescriptor d (·.putProperties [(name, value)]))
      else .error (.notKey name.typeWord) v := by
  unfold setProperty checkKeyed
  simp only [standIn_of_library hρ, pure_bind]
  rw [run_bind_of_ok (checkChangeable_of_not_frozen hρ hf)]
  split <;> rfl

/-- **What one contribution comes to**: it is accepted and added, or refused and nothing changes. -/
theorem run_make (hρ : ρ.replaces = false) (later : w.Later c v)
    (hf : (v.descriptor d).frozen = false) (known : (v.descriptor d).Known w)
    (stored : x.Stored w) :
    (∃ f : Descriptor → Descriptor, (∀ y, (f y).cls = y.cls) ∧
      EStateM.run (x.make ρ d) v = .ok ⟨⟩ (v.changeDescriptor d f) ∧
      f (v.descriptor d) = x.addTo w (v.descriptor d)) ∨
    ∃ fault, EStateM.run (x.make ρ d) v = .error fault v ∧
      x.addTo w (v.descriptor d) = v.descriptor d := by
  cases x with
  | component r =>
    refine .inl ⟨_, fun y => (filled_addComponent v.like r y).cls,
      run_register_of_library hρ hf r, ?_⟩
    have classes : ∀ k, v.like (.cls k) = w.like (.cls k) := fun _ => rfl
    exact known.addComponent_congr classes
  | provider service factory =>
    have key : v.keyFault? service = w.keyFault? service := later.grows.keyFault? stored
    have hrun := run_provide_of_library hρ hf service factory
    simp only [Contribution.addTo]
    rw [key] at hrun
    cases hkey : w.keyFault? service with
    | some fault =>
      rw [hkey] at hrun
      exact .inr ⟨fault, hrun, rfl⟩
    | none =>
      rw [hkey] at hrun
      refine .inl ⟨(·.putProviders v.like [(service, factory)]), fun _ => rfl, hrun, ?_⟩
      refine known.putProviders_congr (fun r hr => later.grows.like hr) fun r hr => ?_
      obtain rfl : r = service := List.mem_singleton.1 hr
      exact stored
  | property name value =>
    have hrun := run_setProperty_of_library hρ hf name value
    simp only [Contribution.addTo]
    cases hname : name.isKey with
    | true =>
      rw [hname] at hrun
      exact .inl ⟨(·.putProperties [(name, value)]), fun _ => rfl, hrun, rfl⟩
    | false =>
      rw [hname] at hrun
      exact .inr ⟨_, hrun, rfl⟩

/-- Makes contributions one after the other, whether they are accepted or not. -/
def contributeAll (ρ : Dispatch) (d : DescriptorId) (xs : List Contribution) : Action Unit :=
  xs.forM fun x => do
    let _ ← attempt (x.make ρ d)

/-- **What all contributions come to.** -/
theorem run_contributeAll (hρ : ρ.replaces = false) (later : w.Later c v)
    (free : w.HasDescriptor d → (w.descriptor d).applicationClass ≠ none)
    (hd : v.HasDescriptor d) (hf : (v.descriptor d).frozen = false)
    (known : (v.descriptor d).Known w) (stored : ∀ x ∈ xs, x.Stored w) :
    ∃ v', EStateM.run (contributeAll ρ d xs) v = .ok ⟨⟩ v' ∧ w.Later c v' ∧ v'.HasDescriptor d ∧
      v'.descriptor d = (v.descriptor d).contributed w xs := by
  induction xs generalizing v with
  | nil => exact ⟨v, rfl, later, hd, rfl⟩
  | cons x xs ih =>
    have one : ∃ r v', EStateM.run (attempt (x.make ρ d)) v = .ok r v' ∧ w.Later c v' ∧
        v'.HasDescriptor d ∧ v'.descriptor d = x.addTo w (v.descriptor d) := by
      have hx := stored x List.mem_cons_self
      rcases run_make hρ later hf known hx with ⟨f, hcls, hrun, same⟩ | ⟨fault, hrun, same⟩
      · refine ⟨.ok ⟨⟩, _, ?_, later.change free (hcls _), (World.hasDescriptor_change ..).2 hd,
          (World.descriptor_change_self hd f).trans same⟩
        rw [run_attempt, hrun]
      · refine ⟨.error fault, v, ?_, later, hd, same.symm⟩
        rw [run_attempt, hrun]
    obtain ⟨r, v₁, hone, later₁, hd₁, held₁⟩ := one
    have known₁ : (v₁.descriptor d).Known w :=
      held₁ ▸ known.addTo (stored x List.mem_cons_self)
    have hf₁ : (v₁.descriptor d).frozen = false := by
      rw [held₁, (Contribution.filled_addTo w x _).frozen, hf]
    obtain ⟨v₂, hrest, later₂, hd₂, held₂⟩ :=
      ih later₁ hd₁ hf₁ known₁ fun y hy => stored y (List.mem_cons_of_mem _ hy)
    refine ⟨v₂, ?_, later₂, hd₂, ?_⟩
    · show EStateM.run ((do let _ ← attempt (x.make ρ d)) >>= fun _ => contributeAll ρ d xs) v = _
      rw [run_bind_of_ok (by rw [run_bind_of_ok hone]; rfl)]
      exact hrest
    · rw [held₂, held₁, Descriptor.contributed_cons]

end Action

/-! ## 2. The two ways to adapt -/

/-- **An application class all of whose applications offer the same**: from now on it can be called
    without arguments, and what it makes are instances of it whose hooks always answer, all in one
    way, and that have the same providers. -/
structure World.Uniform (w : World) (ρ : Dispatch) (c : ClassId) (offer : Hook → Offer)
    (pairs : List (Datum × Datum)) (providers : List (Ref × Ref)) : Prop where
  pairs : (offer .properties).entries? = some pairs
  services : ∀ r ∈ providers.map (·.1), w.Stores r
  distinct : (providers.map (w.like ·.1)).Nodup
  makes : ∀ v, w.Later c v → ∃ app v', EStateM.run (Action.construct ρ c {}) v = .ok app v' ∧
    v'.classOf? app = some c ∧ (∀ h, Action.Yields ρ c app h v' (offer h)) ∧
    v'.providersOf app = providers

/-- A descriptor with a name and nothing else. -/
def Descriptor.named (name : Datum) : Descriptor :=
  { cls := ClassId.descriptor, name := name }

theorem Descriptor.known_named (w : World) (name : Datum) : (Descriptor.named name).Known w where
  classes _ hr := nomatch hr
  services _ hr := nomatch hr

namespace Action

variable {ρ : Dispatch} {c : ClassId} {d : DescriptorId} {w v v' : World} {app : Ref}
  {offer : Hook → Offer} {pairs : List (Datum × Datum)} {providers : List (Ref × Ref)}
  {xs : List Contribution}

/-- **Adapts an application class**, then makes contributions, and freezes the descriptor. -/
def adaptedLater (ρ : Dispatch) (c : ClassId) (xs : List Contribution) : Action DescriptorId := do
  let d ← forApplicationClass ρ ClassId.descriptor (.cls c)
  contributeAll ρ d xs
  freeze ρ d
  pure d

/-- **Adapts an application that a class makes**, then makes contributions, and freezes the
    descriptor. -/
def adaptedNow (ρ : Dispatch) (c : ClassId) (xs : List Contribution) : Action DescriptorId := do
  let app ← construct ρ c {}
  let d ← forApplication ρ ClassId.descriptor app
  contributeAll ρ d xs
  freeze ρ d
  pure d

/-- **An application of a class that offers the same each time**, and whose parameters are
    accepted. -/
structure Offering (ρ : Dispatch) (c : ClassId) (w : World) (offer : Hook → Offer)
    (providers : List (Ref × Ref)) (v : World) (app : Ref) (v' : World) : Prop where
  constructed : EStateM.run (construct ρ c {}) v = .ok app v'
  instantiated : EStateM.run (instantiate ρ c) v = .ok app v'
  made : World.Effect .none v v'
  later : w.Later c v'
  cls : v'.classOf? app = some c
  yields : ∀ h, Yields ρ c app h v' (offer h)
  providersOf : v'.providersOf app = providers
  own : ∀ e, app = .descriptor e → v'.HasDescriptor e ∧ c ∈ v'.lineage (v'.descriptor e).cls ∧
    (v'.descriptor e).applicationClass = none

/-- In every later store there is one. -/
theorem offering_of_uniform (hρ : ρ.Discreet) (accepted : w.parameterFault? c = none)
    (uniform : w.Uniform ρ c offer pairs providers) (later : w.Later c v) :
    ∃ app v', Offering ρ c w offer providers v app v' := by
  obtain ⟨app, v', hmade, hcls, yields, hproviders⟩ := uniform.makes v later
  have accepted' : v.parameterFault? c = none :=
    (World.parameterFault?_of_classes later.rule later.classes c).trans accepted
  have instantiated : EStateM.run (instantiate ρ c) v = .ok app v' := by
    rw [run_instantiate_of_accepted hρ.library accepted', hmade]
  have made : World.Effect .none v v' := (heeds_instantiate hρ c).ok instantiated
  refine ⟨app, v', hmade, instantiated, made, later.trans made.later_of_none, hcls, yields,
    hproviders, ?_⟩
  rintro e rfl
  obtain ⟨has, own⟩ := Course.own_of_instantiate hρ instantiated
  have hc : (v'.descriptor e).cls = c := Option.some.inj hcls
  exact ⟨has, hc ▸ List.mem_cons_self, own.unbacked⟩

/-- **Such an application is absorbed.** -/
theorem Offering.run_absorb (hρ : ρ.Discreet) (uniform : w.Uniform ρ c offer pairs providers)
    {u : World} (offering : Offering ρ c w offer providers v app v') (later : v'.Later c u)
    (free : v'.HasDescriptor d → (v'.descriptor d).applicationClass ≠ none)
    (hd : u.HasDescriptor d) (known : (u.descriptor d).Known w) :
    ∃ u', EStateM.run (absorb ρ d app) u = .ok ⟨⟩ u' ∧ w.Later c u' ∧ u'.HasDescriptor d ∧
      u'.descriptor d = (u.descriptor d).absorbing w.like offer pairs providers := by
  obtain ⟨u', u₁, hrun, later₁, later', hd', held⟩ :=
    run_absorb_of_yields hρ hd free later offering.yields uniform.pairs offering.own known.classes
  refine ⟨u', hrun, offering.later.trans later', hd', ?_⟩
  have classes : ∀ k, u₁.like (.cls k) = w.like (.cls k) := fun _ => rfl
  have kept : ∀ r, w.Stores r → u₁.like r = w.like r :=
    fun r hr => (offering.later.trans later₁).grows.like hr
  rw [held, offering.providersOf]
  exact known.absorbing_congr classes kept (offering.yields .classes).1 uniform.services

/-- A new descriptor with a name is in a later store. -/
theorem run_newNamed (hρ : ρ.Discreet) (h : v.Intact) (name : Datum) (field : String) :
    ∃ d v', EStateM.run (newNamed ρ ClassId.descriptor name field) v = .ok d v' ∧
      ¬ v.HasDescriptor d ∧ v.Later c v' ∧ v'.HasDescriptor d ∧
      v'.descriptor d = Descriptor.named name := by
  obtain ⟨d, v', hrun, has, -, held⟩ := run_newNamed_of_intact hρ.library h name field
  have made : World.Making World.nobody v v' :=
    (stays_newNamed hρ.respects ClassId.descriptor name field).ok hrun
  exact ⟨d, v', hrun, fresh_of_newNamed hρ.respects hrun, World.Effect.later_of_none made, has,
    held⟩

/-- **What an application class comes to that is adapted later.** -/
theorem run_adaptedLater (hρ : ρ.Discreet) (intact : w.Intact)
    (accepted : w.parameterFault? c = none) (uniform : w.Uniform ρ c offer pairs providers)
    (stored : ∀ x ∈ xs, x.Stored w) :
    ∃ d w' app, EStateM.run (adaptedLater ρ c xs) w = .ok d w' ∧
      w'.descriptor d = (((((Descriptor.named (.text (w.classDef c).qualname)).standForClass
        c).contributed w xs).standFor app).absorbing w.like offer pairs providers).marked := by
  obtain ⟨d, w₁, hnew, fresh, later₁, hd₁, held₁⟩ :=
    run_newNamed hρ intact (.text (w.classDef c).qualname) "_application_class"
  have hmade := run_forApplicationClass_of_named hρ.library hnew
  have held₂ := World.descriptor_change_self hd₁ (·.standForClass c)
  have later₂ : w.Later c (w₁.changeDescriptor d (·.standForClass c)) :=
    later₁.change (fun has => absurd has fresh) rfl
  rw [held₁] at held₂
  have known₂ := (Descriptor.known_named w (.text (w.classDef c).qualname)).standForClass c
  obtain ⟨w₃, hcontributed, later₃, hd₃, held₃⟩ := run_contributeAll hρ.library later₂
    (fun has => absurd has fresh) ((World.hasDescriptor_change ..).2 hd₁) (by rw [held₂]; rfl)
    (held₂ ▸ known₂) stored
  rw [held₂] at held₃
  have known₃ : (w₃.descriptor d).Known w := held₃ ▸ known₂.contributed stored
  have pending : (w₃.descriptor d).frozen = false ∧ (w₃.descriptor d).applicationClass = some c ∧
      (w₃.descriptor d).application = none := by
    rw [held₃]
    exact ⟨rfl, rfl, rfl⟩
  obtain ⟨app, w₄, offering⟩ := offering_of_uniform hρ accepted uniform later₃
  have hd₄ : w₄.HasDescriptor d := offering.made.has hd₃
  have held₄ : w₄.descriptor d = w₃.descriptor d := offering.made.same hd₃
  have free : w₄.HasDescriptor d → (w₄.descriptor d).applicationClass ≠ none := by
    rw [held₄, pending.2.1]
    exact fun _ => nofun
  have held₅ := World.descriptor_change_self hd₄ (·.standFor app)
  have later₅ : w₄.Later c (w₄.changeDescriptor d (·.standFor app)) :=
    (World.Later.refl w₄).change free rfl
  obtain ⟨w₆, habsorbed, -, hd₆, held₆⟩ := offering.run_absorb hρ uniform later₅ free
    ((World.hasDescriptor_change ..).2 hd₄) (by
      rw [held₅, held₄]
      exact known₃.standFor app)
  refine ⟨d, w₆.changeDescriptor d Descriptor.marked, app, ?_, ?_⟩
  · unfold adaptedLater
    rw [run_bind_of_ok hmade, run_bind_of_ok hcontributed, run_bind_of_ok
      ((run_freeze_pending_eq_ok_iff hρ.library pending.1 pending.2.1 pending.2.2).2
        ⟨app, w₄, w₆, offering.instantiated, habsorbed, rfl⟩)]
    rfl
  · rw [World.descriptor_change_self hd₆, held₆, held₅, held₄, held₃]

/-- **What an application comes to that is adapted now.** -/
theorem run_adaptedNow (hρ : ρ.Discreet) (intact : w.Intact)
    (accepted : w.parameterFault? c = none) (uniform : w.Uniform ρ c offer pairs providers)
    (stored : ∀ x ∈ xs, x.Stored w) :
    ∃ d w' app, EStateM.run (adaptedNow ρ c xs) w = .ok d w' ∧
      w'.descriptor d = ((((Descriptor.named (.text (w.classDef c).qualname)).adopt
        app).absorbing w.like offer pairs providers).contributed w xs).marked := by
  obtain ⟨app, w₁, offering⟩ := offering_of_uniform hρ accepted uniform (World.Later.refl w)
  have intact₁ : w₁.Intact := intact.of_classes offering.later.classes
  have qualname : w₁.typeQualname app = (w.classDef c).qualname := by
    unfold World.typeQualname World.classDef
    rw [offering.cls, offering.later.classes]
  obtain ⟨d, w₂, hnew, fresh₁, later₁₂, hd₂, held₂⟩ :=
    run_newNamed (c := c) hρ intact₁ (.text (w.classDef c).qualname) "_application"
  have held₃ := World.descriptor_change_self hd₂ (·.adopt app)
  have later₁₃ : w₁.Later c (w₂.changeDescriptor d (·.adopt app)) :=
    later₁₂.change (fun has => absurd has fresh₁) rfl
  rw [held₂] at held₃
  have known₃ := (Descriptor.known_named w (.text (w.classDef c).qualname)).adopt app
  obtain ⟨w₄, habsorbed, later₄, hd₄, held₄⟩ := offering.run_absorb hρ uniform later₁₃
    (fun has => absurd has fresh₁) ((World.hasDescriptor_change ..).2 hd₂) (held₃ ▸ known₃)
  rw [held₃] at held₄
  have fresh : ¬ w.HasDescriptor d := fun has => fresh₁ (offering.later.has d has)
  obtain ⟨w₅, hcontributed, later₅, hd₅, held₅⟩ := run_contributeAll hρ.library later₄
    (fun has => absurd has fresh) hd₄ (by rw [held₄]; rfl)
    (held₄ ▸ known₃.absorbing (offering.yields .classes).1 uniform.services) stored
  rw [held₄] at held₅
  have settled : (w₅.descriptor d).frozen = false ∧ (w₅.descriptor d).applicationClass = none := by
    rw [held₅]
    exact ⟨rfl, rfl⟩
  refine ⟨d, w₅.changeDescriptor d Descriptor.marked, app, ?_, ?_⟩
  · unfold adaptedNow
    rw [run_bind_of_ok offering.constructed,
      run_bind_of_ok (run_forApplication_of_named hρ.library (qualname ▸ hnew) habsorbed),
      run_bind_of_ok hcontributed,
      run_bind_of_ok (freeze_of_settled hρ.library settled.1 (.inl settled.2))]
    rfl
  · rw [World.descriptor_change_self hd₅, held₅]

end Action

/-! ## 3. Agreement -/

/-- **Two mappings that agree but for who is written last**: they have the same keys, and the same
    value under each that is not both the application's own and written by hand; under such a one
    the first holds the application's value, and the other the one that is written last. -/
structure Keyed.Overlaid {κ ν τ : Type} [DecidableEq τ] (rep : κ → τ) (own written : List (κ × ν))
    (deferred live : List (κ × ν)) : Prop where
  keys : ∀ r, (get? rep r deferred).isSome = (get? rep r live).isSome
  agree : ∀ r, get? rep r own = none ∨ last? rep r written = none →
    get? rep r deferred = get? rep r live
  both : ∀ r v v', get? rep r own = some v → last? rep r written = some v' →
    get? rep r deferred = some v ∧ get? rep r live = some v'

/-- **Writing in the one order and in the other** overlays two mappings. -/
theorem Keyed.overlaid_putAll {κ ν τ : Type} [DecidableEq τ] {rep : κ → τ}
    {own written : List (κ × ν)} (distinct : (own.map (rep ·.1)).Nodup) :
    Overlaid rep own written (putAll rep (putAll rep [] written) own)
      (putAll rep (putAll rep [] own) written) := by
  have deferred (r : τ) : get? rep r (putAll rep (putAll rep [] written) own) =
      (get? rep r own).or (last? rep r written) := by
    rw [get?_putAll_eq, get?_putAll_eq, last?_of_nodup distinct]
    exact congrArg _ (Option.or_none ..)
  have live (r : τ) : get? rep r (putAll rep (putAll rep [] own) written) =
      (last? rep r written).or (get? rep r own) := by
    rw [get?_putAll_eq, get?_putAll_eq, last?_of_nodup distinct]
    exact congrArg _ (Option.or_none ..)
  refine ⟨fun r => ?_, fun r h => ?_, fun r v v' hown hwritten => ?_⟩
  · rw [deferred, live, Option.isSome_or, Option.isSome_or, Bool.or_comm]
  · rw [deferred, live]
    rcases h with h | h
    · rw [h, Option.none_or, Option.or_none]
    · rw [h, Option.none_or, Option.or_none]
  · rw [deferred, live, hown, hwritten]
    exact ⟨rfl, rfl⟩

/-- **Two frozen descriptors that agree**, but for the properties and providers that are both the
    application's own and contributed. -/
structure Descriptor.Agrees (w : World) (pairs : List (Datum × Datum))
    (providers : List (Ref × Ref)) (xs : List Contribution) (deferred live : Descriptor) :
    Prop where
  frozen : deferred.frozen = true ∧ live.frozen = true
  name : deferred.name = live.name
  classes : ∀ r, r ∈ deferred.classes ↔ r ∈ live.classes
  singletons : ∀ r, r ∈ deferred.singletons ↔ r ∈ live.singletons
  distinct : deferred.singletons.Nodup ∧ live.singletons.Nodup
  properties : Keyed.Overlaid Datum.key pairs (xs.filterMap (·.property?)) deferred.properties
    live.properties
  providers : Keyed.Overlaid w.like providers (xs.filterMap (·.provider? w)) deferred.providers
    live.providers

namespace Descriptor

variable {w : World} {c : ClassId} {app app' : Ref} {offer : Hook → Offer}
  {pairs : List (Datum × Datum)} {providers : List (Ref × Ref)} {xs : List Contribution}
  {name : Datum}

theorem cls_of_mem_contributed {r : Ref} (hr : r ∈ xs.filterMap (·.class?)) : ∃ k, r = .cls k := by
  obtain ⟨x, -, hx⟩ := List.mem_filterMap.1 hr
  cases x with
  | provider | property => exact nomatch hx
  | component r' =>
    cases r' with
    | cls k => exact ⟨k, (Option.some.inj hx).symm⟩
    | none | descriptor | object | datum => exact nomatch hx

/-- **Absorbing after all contributions or before them** makes descriptors that agree. -/
theorem agrees_of_order (typed : ∀ h, (offer h).Typed h)
    (hpairs : (offer .properties).entries? = some pairs)
    (distinct : (providers.map (w.like ·.1)).Nodup) :
    Agrees w pairs providers xs
      (((((named name).standForClass c).contributed w xs).standFor app).absorbing w.like offer
        pairs providers).marked
      ((((named name).adopt app').absorbing w.like offer pairs providers).contributed w
        xs).marked where
  frozen := ⟨rfl, rfl⟩
  name := rfl
  classes r := by
    have fixed (new : List Ref) (hnew : ∀ r ∈ new, ∃ k, r = .cls k) (ys : List Ref)
        (hys : ∀ r ∈ ys, ∃ k, r = .cls k) :
        Keyed.addAll w.like (Keyed.addAll w.like [] ys) new =
          Keyed.addAll id (Keyed.addAll id [] ys) new := by
      have same (r : Ref) (hr : ∃ k, r = .cls k) : w.like r = id r := by
        obtain ⟨k, rfl⟩ := hr
        rfl
      rw [Keyed.addAll_congr (fun _ hr => absurd hr List.not_mem_nil) fun r hr =>
        same r (hys r hr)]
      refine Keyed.addAll_congr (fun r hr => same r ?_) fun r hr => same r (hnew r hr)
      exact (Keyed.mem_addAll hr).elim (fun hr => absurd hr List.not_mem_nil) (hys r)
    have offered := (typed .classes).2
    have contributed (r : Ref) (hr : r ∈ xs.filterMap (·.class?)) := cls_of_mem_contributed hr
    show r ∈ Keyed.addAll w.like (Keyed.addAll w.like [] (xs.filterMap (·.class?)))
        (offer .classes).elements.items ↔
      r ∈ Keyed.addAll w.like (Keyed.addAll w.like [] (offer .classes).elements.items)
        (xs.filterMap (·.class?))
    rw [fixed _ offered _ contributed, fixed _ contributed _ offered]
    simp only [Keyed.mem_addAll_id, List.not_mem_nil, false_or, or_comm]
  singletons r := by
    show r ∈ Keyed.addAll id (Keyed.addAll id [] (xs.filterMap (·.singleton?)))
        (offer .singletons).elements.items ↔
      r ∈ Keyed.addAll id (Keyed.addAll id [] (offer .singletons).elements.items)
        (xs.filterMap (·.singleton?))
    simp only [Keyed.mem_addAll_id, List.not_mem_nil, false_or, or_comm]
  distinct := by
    have once (ys new : List Ref) : (Keyed.addAll id (Keyed.addAll id [] ys) new).Nodup := by
      rw [← List.map_id (Keyed.addAll ..)]
      exact Keyed.nodup_map_addAll (Keyed.nodup_map_addAll List.nodup_nil)
    exact ⟨once .., once ..⟩
  properties := by
    obtain ⟨pairs', hpairs', nodup⟩ := typed .properties
    obtain rfl : pairs' = pairs := Option.some.inj (hpairs'.symm.trans hpairs)
    exact Keyed.overlaid_putAll nodup
  providers := Keyed.overlaid_putAll distinct

end Descriptor

namespace Action

variable {ρ : Dispatch} {c : ClassId} {w : World} {offer : Hook → Offer}
  {pairs : List (Datum × Datum)} {providers : List (Ref × Ref)} {xs : List Contribution}

/-- **The two ways to adapt agree.** If the parameters of an application class are accepted and all
    its applications offer the same, both come to an end with a frozen descriptor, whatever is
    contributed; and the two descriptors have the same name, the same classes, the same singletons,
    each once, and the same properties and providers, but for those that are both the application's
    own and contributed. -/
theorem adapted_agree (hρ : ρ.Discreet) (intact : w.Intact)
    (accepted : w.parameterFault? c = none) (uniform : w.Uniform ρ c offer pairs providers)
    (stored : ∀ x ∈ xs, x.Stored w) :
    ∃ d w₁ e w₂, EStateM.run (adaptedLater ρ c xs) w = .ok d w₁ ∧
      EStateM.run (adaptedNow ρ c xs) w = .ok e w₂ ∧
      (w₁.descriptor d).Agrees w pairs providers xs (w₂.descriptor e) := by
  obtain ⟨d, w₁, app, hlater, held₁⟩ := run_adaptedLater hρ intact accepted uniform stored
  obtain ⟨e, w₂, app', hnow, held₂⟩ := run_adaptedNow hρ intact accepted uniform stored
  obtain ⟨_, _, _, _, yields, _⟩ := uniform.makes w (.refl w)
  refine ⟨d, w₁, e, w₂, hlater, hnow, ?_⟩
  rw [held₁, held₂]
  exact Descriptor.agrees_of_order (fun h => (yields h).1) uniform.pairs uniform.distinct

end Action

namespace World

open AppMount.Action

variable {a : Answer} {w : World}

/-- The parameters of the shop are accepted. -/
theorem Stocked.accepted (hw : Stocked a w) : w.parameterFault? shopApp = none := by
  have accepted : (shopStore a).parameterFault? shopApp = none := rfl
  exact (parameterFault?_of_classes hw.rule hw.classes shopApp).trans accepted

/-- **All applications of the shop offer the same** if its answer is always the same. -/
theorem Stocked.uniform (hw : Stocked a w) {properties : Offer} {pairs : List (Datum × Datum)}
    (typed : properties.Typed .properties) (hpairs : properties.entries? = some pairs)
    (answers : ∀ v, ∃ v', EStateM.run (Dispatch.library.run a) v = .ok properties v') :
    w.Uniform Dispatch.library shopApp (shopOffer properties) pairs [] where
  pairs := hpairs
  services _ hr := absurd hr List.not_mem_nil
  distinct := List.nodup_nil
  makes v later := by
    have stocked := hw.later later
    obtain ⟨o, v', hmade, hcontent⟩ := stocked.instantiate
    have stocked' : Stocked a v' := stocked.later (c := shopApp)
      ((heeds_instantiate Dispatch.discreet_library shopApp).ok hmade).later_of_none
    rw [run_instantiate_of_accepted rfl stocked.accepted] at hmade
    refine ⟨.object o, v', hmade, ?_, fun h => ?_, rfl⟩
    · simp only [classOf?, hcontent]
    · by_cases hh : h = .properties
      · subst hh
        refine ⟨typed, fun u hu => ?_⟩
        rw [stocked'.ask_properties hcontent hu]
        exact answers _
      · exact stocked'.yields_of_ne hcontent hh properties

/-- What is contributed to the shop: its own class once more, nothing, another currency, and a
    factory for something that cannot be a service. -/
def dollars : List Contribution :=
  [.component (.cls ⟨6⟩), .component .none, .property (.text "currency") (.text "USD"),
    .provider (.datum (.list .nil) 0) .none]

/-- **The shop in another currency**: adapted later, it deals in euros, and adapted now, in
    dollars. -/
theorem adapted_agree_shop :
    (∃ d w₁ e w₂,
      EStateM.run (adaptedLater Dispatch.library shopApp dollars) (shopStore euros) = .ok d w₁ ∧
      EStateM.run (adaptedNow Dispatch.library shopApp dollars) (shopStore euros) = .ok e w₂ ∧
      (w₁.descriptor d).Agrees (shopStore euros) [(.text "currency", .text "EUR")] [] dollars
        (w₂.descriptor e)) ∧
    (((left (EStateM.run (adaptedLater Dispatch.library shopApp dollars)
      (shopStore euros))).descriptor ⟨0⟩).properties = [(.text "currency", .text "EUR")] ∧
    ((left (EStateM.run (adaptedNow Dispatch.library shopApp dollars)
      (shopStore euros))).descriptor ⟨0⟩).properties = [(.text "currency", .text "USD")]) := by
  have stocked : Stocked euros (shopStore euros) := ⟨rfl, rfl, rfl, rfl⟩
  have typed : Offer.Typed (.entries [(.text "currency", .text "EUR")] 0) .properties :=
    ⟨_, rfl, by decide⟩
  have uniform := stocked.uniform typed rfl fun w => ⟨_, rfl⟩
  refine ⟨adapted_agree Dispatch.discreet_library ⟨rfl, rfl, rfl⟩ stocked.accepted uniform ?_,
    rfl, rfl⟩
  intro x hx
  simp only [dollars, List.mem_cons, List.not_mem_nil, or_false] at hx
  rcases hx with rfl | rfl | rfl | rfl <;> trivial

/-- A store with a class of applications that says that it wraps a method. -/
def wrappedStore : World :=
  { World.initial with
    classes := World.initial.classes ++
      #[{ name := "ShopApp", qualname := "ShopApp", home := .text "shop",
          ancestors := [ClassId.application, ClassId.object],
          members := [("__wrapped__",
            .method (.within "ShopApp" "__wrapped__" (.answer (.datum (.whole 1) 0))))] }] }

/-- Applications of that class answer as all applications do that have nothing to offer, even where
    calls look at the class first. -/
theorem ask_wrapped {o : ObjectId} (hc : w.classes = wrappedStore.classes)
    (ha : w.assigned = []) (ho : w.content? (.object o) = some (.made ⟨6⟩ none)) (h : Hook) :
    EStateM.run (ask Dispatch.replaceable (.object o) h) w =
      EStateM.run (runHook Dispatch.replaceable (.object o) (.cls ClassId.application) h
        (.within "Application" h.word .empty)) w := by
  have cls : w.classOf? (.object o) = some ⟨6⟩ := by simp only [classOf?, ho]
  have plain : w.overfullCall? (w.classOf? (.object o)) "__getattribute__" 1 = none := by
    obtain ⟨rule, classes, descriptors, things, scope, assigned, kinds, places, calls, log⟩ := w
    obtain rfl : classes = _ := hc
    rw [cls]
    rfl
  have found : w.find? (.object o) h.word = some (.method (.cls ClassId.application)
      (.within "Application" h.word .empty)) := by
    obtain ⟨rule, classes, descriptors, things, scope, assigned, kinds, places, calls, log⟩ := w
    obtain rfl : classes = _ := hc
    obtain rfl : assigned = _ := ha
    unfold World.find? objectMember? writtenIn? classOf? assigned? namespaceOf
    simp only [ho]
    cases h <;> rfl
  have checked : EStateM.run (checkAccess Dispatch.replaceable (.object o)) w = .ok ⟨⟩ w := by
    unfold checkAccess
    rw [if_pos Dispatch.replaces_replaceable, run_bind_of_ok (EStateM.run_get w), plain]
    rfl
  unfold Action.ask access
  rw [bind_assoc, run_bind_of_ok checked, bind_assoc, run_bind_of_ok (EStateM.run_get w), found]
  rfl

/-- **A class may be called without arguments and show something else.** Its applications offer the
    same, nothing, and adapted now, one comes to an end; adapted later, the class is refused for
    the parameters that what it wraps shows. -/
theorem adapted_disagree :
    (∃ app w₁, EStateM.run (construct Dispatch.replaceable ⟨6⟩ {}) wrappedStore = .ok app w₁ ∧
      w₁.classOf? app = some ⟨6⟩ ∧ ∀ h, ∃ offer,
        Yields Dispatch.replaceable ⟨6⟩ app h w₁ offer) ∧
    (∃ e w₂, EStateM.run (adaptedNow Dispatch.replaceable ⟨6⟩ []) wrappedStore = .ok e w₂ ∧
      (w₂.descriptor e).frozen = true) ∧
    ∃ w₃, EStateM.run (adaptedLater Dispatch.replaceable ⟨6⟩ []) wrappedStore =
      .error (.unconstructible "ShopApp" (.missing "self")) w₃ := by
  refine ⟨⟨.object ⟨0⟩, _, rfl, rfl, fun h => ?_⟩, ⟨_, _, rfl, rfl⟩, _, rfl⟩
  have asked (v : World) (hv : (left (EStateM.run (construct Dispatch.replaceable ⟨6⟩ {})
      wrappedStore)).Later ⟨6⟩ v) :=
    ask_wrapped hv.classes hv.assigned
      (Option.map_eq_some_iff.2 ⟨_, hv.thing ⟨0⟩ _ rfl, rfl⟩) h
  cases h with
  | classes => exact ⟨.set [] [], ⟨rfl, nofun⟩, fun v hv => ⟨v, asked v hv⟩⟩
  | singletons => exact ⟨.list [], rfl, fun v hv => ⟨v, asked v hv⟩⟩
  | properties =>
    exact ⟨.entries [] 0, ⟨[], rfl, List.nodup_nil⟩, fun v hv => ⟨v, asked v hv⟩⟩

end World

end AppMount
