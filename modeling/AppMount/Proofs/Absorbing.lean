import AppMount.Proofs.Freezing

/-!
# Absorbing an application that answers

What a descriptor holds after it absorbed an application all of whose hooks answer. An application
is only as steady as the store it lives in, so its answers are compared in a store and all later
ones.

* `World.InstanceOf`: the instances of a class;
* `World.Later`: the stores that may follow, as the applications of a class see it (`later_freeze`,
  `later_absorb`);
* `Offer.Typed`: the answers that a hook is meant to give; `Action.Yields`, `Action.Raises`: hooks
  that always answer, and hooks that never do;
* `Descriptor.Covers`, `Descriptor.Provides`: what it means that a descriptor holds an answer;
* `Descriptor.absorbing`: a descriptor with all that an application offers;
  `run_absorb_of_yields`: an application all of whose hooks answer is absorbed;
  `holds_of_absorbing`: then the descriptor holds everything.
-/

namespace AppMount

/-! ## 1. Later stores -/

namespace World

/-- **Whether a thing is an instance of a class**, itself or by descent. -/
def InstanceOf (w : World) (r : Ref) (c : ClassId) : Prop :=
  ∃ k, w.classOf? r = some k ∧ c ∈ w.lineage k

/-- **A later store**, as applications of a class see it: classes, names and namespaces are the
    same, nothing is lost, and descriptors of the class that stand for no application class hold
    what they held. -/
structure Later (c : ClassId) (w w' : World) : Prop where
  rule : w'.rule = w.rule
  classes : w'.classes = w.classes
  scope : w'.scope = w.scope
  assigned : w'.assigned = w.assigned
  has : ∀ e, w.HasDescriptor e → w'.HasDescriptor e
  thing : ∀ o x, w.thing? o = some x → w'.thing? o = some x
  cls : ∀ e, w.HasDescriptor e → (w'.descriptor e).cls = (w.descriptor e).cls
  held : ∀ e, w.HasDescriptor e → c ∈ w.lineage (w.descriptor e).cls →
    (w.descriptor e).applicationClass = none →
    ∃ frozen, w'.descriptor e = { w.descriptor e with frozen := frozen }

namespace Later

variable {c : ClassId} {w w' w'' : World} {L : Licence} {r : Ref}

theorem refl (w : World) : w.Later c w where
  rule := rfl
  classes := rfl
  scope := rfl
  assigned := rfl
  has _ h := h
  thing _ _ h := h
  cls _ _ := rfl
  held _ _ _ _ := ⟨_, rfl⟩

theorem grows (h : w.Later c w') : w.Grows w' :=
  ⟨h.rule, h.classes, h.scope, h.assigned, h.has, h.thing, h.cls⟩

theorem lineage (h : w.Later c w') (k : ClassId) : w'.lineage k = w.lineage k :=
  h.grows.lineage k

theorem trans (h : w.Later c w') (h' : w'.Later c w'') : w.Later c w'' where
  rule := h'.rule.trans h.rule
  classes := h'.classes.trans h.classes
  scope := h'.scope.trans h.scope
  assigned := h'.assigned.trans h.assigned
  has e he := h'.has e (h.has e he)
  thing o x hx := h'.thing o x (h.thing o x hx)
  cls e he := (h'.cls e (h.has e he)).trans (h.cls e he)
  held e he hk ha := by
    obtain ⟨frozen, hsame⟩ := h.held e he hk ha
    have hk' : c ∈ w'.lineage (w'.descriptor e).cls := by
      rw [h.lineage, h.cls e he]
      exact hk
    have ha' : (w'.descriptor e).applicationClass = none := by
      rw [hsame]
      exact ha
    obtain ⟨frozen', hsame'⟩ := h'.held e (h.has e he) hk' ha'
    rw [hsame] at hsame'
    exact ⟨frozen', hsame'⟩

theorem stores (h : w.Later c w') (hr : w.Stores r) : w'.Stores r :=
  h.grows.stores hr

theorem classOf? (h : w.Later c w') (hr : w.Stores r) : w'.classOf? r = w.classOf? r :=
  h.grows.classOf? hr

/-- A descriptor may be changed that is new, or stands for an application class. -/
theorem change {d : DescriptorId} {f : Descriptor → Descriptor} (h : w.Later c w')
    (free : w.HasDescriptor d → (w.descriptor d).applicationClass ≠ none)
    (hf : (f (w'.descriptor d)).cls = (w'.descriptor d).cls) :
    w.Later c (w'.changeDescriptor d f) where
  rule := h.rule
  classes := h.classes
  scope := h.scope
  assigned := h.assigned
  has e he := (hasDescriptor_change ..).2 (h.has e he)
  thing := h.thing
  cls e he := by
    by_cases hde : d = e
    · subst hde
      rw [descriptor_change_self (h.has d he), hf, h.cls d he]
    · rw [descriptor_change_of_ne hde, h.cls e he]
  held e he hk ha := by
    have hde : d ≠ e := by
      rintro rfl
      exact free he ha
    rw [descriptor_change_of_ne hde]
    exact h.held e he hk ha

/-- **What is an instance of a class stays one**, and nothing else becomes one. -/
theorem instanceOf_iff (h : w.Later c w') (hr : w.Stores r) (k : ClassId) :
    w'.InstanceOf r k ↔ w.InstanceOf r k := by
  unfold InstanceOf
  rw [h.classOf? hr]
  simp only [h.lineage]

end Later

/-- **What steps lead to is later**, if that can be said of the descriptors that there is a licence
    for. -/
theorem Effect.later {L : Licence} {c : ClassId} {w w' : World} (h : Effect L w w')
    (self : ∀ e, w.HasDescriptor e → L.builds e ∨ L.changes e →
      (w'.descriptor e).cls = (w.descriptor e).cls ∧
        ((w.descriptor e).applicationClass = none →
          ∃ frozen, w'.descriptor e = { w.descriptor e with frozen := frozen })) :
    w.Later c w' where
  rule := h.keeps.rule
  classes := h.keeps.classes
  scope := h.keeps.scope
  assigned := h.keeps.assigned
  has e he := h.has he
  thing o x hx := h.keeps.thing o x hx
  cls e he := by
    by_cases hL : L.builds e ∨ L.changes e
    · exact (self e he hL).1
    · rw [h.descriptor he (fun hb => hL (.inl hb)) fun hc => hL (.inr hc)]
  held e he _ ha := by
    by_cases hL : L.builds e ∨ L.changes e
    · exact (self e he hL).2 ha
    · exact ⟨_, h.descriptor he (fun hb => hL (.inl hb)) fun hc => hL (.inr hc)⟩

theorem Effect.later_of_none {c : ClassId} {w w' : World} (h : Effect .none w w') :
    w.Later c w' :=
  h.later fun _ _ hL => (hL.elim id id).elim

end World

namespace Action

variable {ρ : Dispatch} {c : ClassId} {w w' : World} {d : DescriptorId}

/-- **Freezing any descriptor leads to a later store**, whether it fails or not: a descriptor that
    stands for no application class is marked at most. -/
theorem later_freeze (hρ : ρ.Discreet) (d : DescriptorId) :
    Within (World.Later c) (freeze ρ d) := by
  intro w
  refine (heeds_freeze hρ d w).later fun e he hL => ?_
  obtain rfl : e = d := hL.elim False.elim id
  refine ⟨(backing_of_freeze hρ he).1, fun hnone => ?_⟩
  cases hf : (w.descriptor e).frozen with
  | true =>
    rw [freeze_of_frozen hρ.library hf]
    exact ⟨_, rfl⟩
  | false =>
    rw [freeze_of_settled hρ.library hf (.inl hnone), left_ok, World.descriptor_change_self he]
    exact ⟨true, rfl⟩

/-- A change of a descriptor that stands for an application class leads to a later store. -/
theorem later_change {f : Descriptor → Descriptor} {k : ClassId} (hd : w.HasDescriptor d)
    (backed : (w.descriptor d).applicationClass = some k)
    (hf : (f (w.descriptor d)).cls = (w.descriptor d).cls) :
    w.Later c (w.changeDescriptor d f) := by
  have changed : World.Effect (.changing (· = d)) w (w.changeDescriptor d f) :=
    (World.Step.change w f rfl).effect
  refine changed.later fun e _ hL => ?_
  obtain rfl : e = d := hL.elim False.elim id
  rw [World.descriptor_change_self hd]
  exact ⟨hf, fun hnone => nomatch backed.symm.trans hnone⟩

theorem later_absorb (hρ : ρ.Discreet) {app : Ref} {k : ClassId} (hd : w.HasDescriptor d)
    (backed : (w.descriptor d).applicationClass = some k) :
    w.Later c (left (EStateM.run (absorb ρ d app) w)) := by
  refine (heeds_absorb hρ d app w).later fun e _ hL => ?_
  obtain rfl : e = d := hL.elim False.elim id
  exact ⟨((fills_absorb hρ e app w).filled hd).cls, fun hnone => nomatch backed.symm.trans hnone⟩

end Action

/-! ## 2. Steady answers -/

/-- **The answers that a hook is meant to give**: classes, things, and a mapping. The keys of a
    mapping are different from each other. -/
def Offer.Typed (o : Offer) : Hook → Prop
  | .classes => o.elements.ending = none ∧ ∀ r ∈ o.elements.items, ∃ c, r = .cls c
  | .singletons => o.elements.ending = none
  | .properties => ∃ pairs, o.entries? = some pairs ∧ (pairs.map (·.1.key)).Nodup

namespace Action

variable {ρ : Dispatch} {c : ClassId} {app : Ref} {h : Hook} {w w' : World} {offer : Offer}

/-- **A hook that always answers**, from now on, and always the same. -/
def Yields (ρ : Dispatch) (c : ClassId) (app : Ref) (h : Hook) (w : World) (offer : Offer) : Prop :=
  offer.Typed h ∧ ∀ w₁, w.Later c w₁ → ∃ w₂, EStateM.run (ask ρ app h) w₁ = .ok offer w₂

/-- **A hook that never answers**, from now on. -/
def Raises (ρ : Dispatch) (c : ClassId) (app : Ref) (h : Hook) (w : World) : Prop :=
  ∀ w₁, w.Later c w₁ → ∃ fault w₂, EStateM.run (ask ρ app h) w₁ = .error fault w₂

theorem Yields.later (hy : Yields ρ c app h w offer) (hl : w.Later c w') :
    Yields ρ c app h w' offer :=
  ⟨hy.1, fun w₁ h₁ => hy.2 w₁ (hl.trans h₁)⟩

theorem Raises.later (hr : Raises ρ c app h w) (hl : w.Later c w') : Raises ρ c app h w' :=
  fun w₁ h₁ => hr w₁ (hl.trans h₁)

theorem Yields.run (hy : Yields ρ c app h w offer) :
    ∃ w', EStateM.run (ask ρ app h) w = .ok offer w' :=
  hy.2 w (.refl w)

/-- A hook that never answers does not answer. -/
theorem Raises.not_ok (hr : Raises ρ c app h w) :
    ¬ ∃ offer w', EStateM.run (ask ρ app h) w = .ok offer w' := by
  rintro ⟨offer, w', hok⟩
  obtain ⟨fault, w₂, hfail⟩ := hr w (.refl w)
  exact nomatch hok.symm.trans hfail

end Action

/-! ## 3. What a descriptor holds -/

namespace Descriptor

/-- **A descriptor holds an answer**: every class, every instance by identity, and every key of the
    mapping with its value. -/
def Covers (x : Descriptor) (o : Offer) : Hook → Prop
  | .classes => ∀ r ∈ o.elements.items, r ∈ x.classes
  | .singletons => ∀ r ∈ o.elements.items, r ∈ x.singletons
  | .properties => ∀ pairs, o.entries? = some pairs →
    ∀ p ∈ pairs, Keyed.get? Datum.key p.1.key x.properties = some p.2

/-- What a descriptor holds, it holds when it is marked as frozen. -/
theorem Covers.marked {x : Descriptor} {o : Offer} {h : Hook} (hx : x.Covers o h) :
    x.marked.Covers o h := by
  cases h with
  | classes | singletons | properties => exact hx

/-- **A descriptor holds providers**: under every service its factory. -/
def Provides (x : Descriptor) (providers : List (Ref × Ref)) : Prop :=
  ∀ p ∈ providers, Keyed.get? id p.1 x.providers = some p.2

/-- A descriptor that holds nothing but classes where classes are meant. -/
structure Plain (x : Descriptor) : Prop where
  classes : ∀ r ∈ x.classes, ∃ c, r = .cls c
  services : ∀ r ∈ x.providers.map (·.1), ∃ c, r = .cls c

variable {x : Descriptor} {o : Offer} {w : World}

theorem covers_addClasses (hx : ∀ r ∈ x.classes, ∃ c, r = .cls c) (ho : o.Typed .classes)
    {r : Ref} (hr : r ∈ o.elements.items) :
    r ∈ (x.addClasses w.like o.elements.items).classes := by
  have present : w.like r ∈ (x.addClasses w.like o.elements.items).classes.map w.like :=
    Keyed.mem_map_addAll_iff.2 (.inr (List.mem_map_of_mem hr))
  obtain ⟨s, hs, hlike⟩ := List.mem_map.1 present
  -- Both are classes, so that nothing else is equal to them.
  obtain ⟨k, rfl⟩ : ∃ k, s = .cls k := (Keyed.mem_addAll hs).elim (hx s) (ho.2 s)
  obtain ⟨k', rfl⟩ := ho.2 r hr
  rw [World.like_cls, World.like_cls] at hlike
  rwa [← hlike]

theorem covers_addSingletons {r : Ref} (hr : r ∈ o.elements.items) :
    r ∈ (x.addSingletons o.elements.items).singletons := by
  have present : id r ∈ (x.addSingletons o.elements.items).singletons.map id :=
    Keyed.mem_map_addAll_iff.2 (.inr (List.mem_map_of_mem hr))
  rwa [List.map_id] at present

theorem covers_putProperties (ho : o.Typed .properties) {pairs : List (Datum × Datum)}
    (hpairs : o.entries? = some pairs) : (x.putProperties pairs).Covers o .properties := by
  obtain ⟨pairs', hpairs', distinct⟩ := ho
  obtain rfl : pairs' = pairs := Option.some.inj (hpairs'.symm.trans hpairs)
  intro pairs'' hpairs'' p hp
  obtain rfl : pairs' = pairs'' := Option.some.inj (hpairs.symm.trans hpairs'')
  exact Keyed.get?_putAll distinct hp

theorem provides_putProviders (hx : ∀ r ∈ x.providers.map (·.1), ∃ c, r = .cls c)
    {providers : List (Ref × Ref)} (hp : ∀ r ∈ providers.map (·.1), ∃ c, r = .cls c)
    (distinct : (providers.map (·.1)).Nodup) :
    (x.putProviders w.like providers).Provides providers := by
  have fixed (r : Ref) (hr : ∃ c, r = .cls c) : w.like r = r := by
    obtain ⟨c, rfl⟩ := hr
    rfl
  have distinct' : (providers.map (w.like ·.1)).Nodup := by
    have : providers.map (w.like ·.1) = providers.map (·.1) :=
      List.map_congr_left fun p hp' => fixed p.1 (hp p.1 (List.mem_map_of_mem hp'))
    rwa [this]
  intro p hp'
  have found : Keyed.get? w.like (w.like p.1) (x.putProviders w.like providers).providers
      = some p.2 := Keyed.get?_putAll distinct' hp'
  rw [fixed p.1 (hp p.1 (List.mem_map_of_mem hp'))] at found
  have keys : ∀ r ∈ (x.putProviders w.like providers).providers.map (·.1), w.like r = r :=
    fun r hr => fixed r ((Keyed.mem_keys_putAll hr).elim (hx r) (hp r))
  rwa [Keyed.get?_of_fixed keys]

end Descriptor

/-- **A descriptor that is itself an application of a class**: it stands for no application class,
    its services are classes, and no two of them are the same. -/
structure World.Serves (w : World) (c : ClassId) (e : DescriptorId) : Prop where
  has : w.HasDescriptor e
  cls : c ∈ w.lineage (w.descriptor e).cls
  unbacked : (w.descriptor e).applicationClass = none
  services : ∀ r ∈ (w.descriptor e).providers.map (·.1), ∃ k, r = .cls k
  distinct : ((w.descriptor e).providers.map (·.1)).Nodup

theorem World.Serves.held {w w' : World} {c : ClassId} {e : DescriptorId} (h : w.Serves c e)
    (later : w.Later c w') : ∃ frozen, w'.descriptor e = { w.descriptor e with frozen := frozen } :=
  later.held e h.has h.cls h.unbacked

/-- It is one in every later store. -/
theorem World.Serves.later {w w' : World} {c : ClassId} {e : DescriptorId} (h : w.Serves c e)
    (later : w.Later c w') : w'.Serves c e := by
  obtain ⟨frozen, hsame⟩ := h.held later
  refine ⟨later.has e h.has, ?_, ?_, ?_, ?_⟩
  · rw [later.lineage, later.cls e h.has]
    exact h.cls
  · rw [hsame]
    exact h.unbacked
  · rw [hsame]
    exact h.services
  · rw [hsame]
    exact h.distinct

/-! ## 4. Absorbing -/

/-- **A descriptor with all that an application offers**, where things count as the same whose
    representatives are. -/
def Descriptor.absorbing (rep : Ref → Ref) (offer : Hook → Offer) (pairs : List (Datum × Datum))
    (providers : List (Ref × Ref)) (x : Descriptor) : Descriptor :=
  ((((x.addClasses rep (offer .classes).elements.items).addSingletons
    (offer .singletons).elements.items).putProperties pairs).putProviders rep providers)

/-- The providers that an application has: those of a descriptor. -/
def World.providersOf (w : World) (app : Ref) : List (Ref × Ref) :=
  app.descriptor?.elim [] fun e => (w.descriptor e).providers

namespace Action

variable {ρ : Dispatch} {c k : ClassId} {app : Ref} {h : Hook} {w w₁ : World} {d : DescriptorId}
  {α : Type}

/-- **A stage at which the application answers** comes to an end and puts all of the answer into the
    descriptor. -/
theorem run_taking_of_yields (hρ : ρ.Discreet) {offer : Offer} (hd : w₁.HasDescriptor d)
    (free : w.HasDescriptor d → (w.descriptor d).applicationClass ≠ none)
    (yields : Yields ρ c app h w offer) (later : w.Later c w₁) (read : World → Offer → Reading α)
    (put : World → List α → Descriptor → Descriptor) {items : List α}
    (sound : ∀ v, read v offer = ⟨items, none⟩)
    (hput : ∀ v items x, Descriptor.Filled x (put v items x)) :
    ∃ w₂ v, EStateM.run (taking ρ d app h read put) w₁ = .ok ⟨⟩ w₂ ∧ w.Later c v ∧
      w.Later c w₂ ∧ w₂.HasDescriptor d ∧ w₂.descriptor d = put v items (w₁.descriptor d) := by
  obtain ⟨v, hask⟩ := yields.2 w₁ later
  have asked := (heeds_ask hρ app h).ok hask
  have laterv : w.Later c v := later.trans asked.later_of_none
  refine ⟨v.changeDescriptor d (put v items), v, ?_, laterv, ?_, ?_, ?_⟩
  · refine run_taking_eq_ok_iff.2 ⟨offer, v, hask, ?_, ?_⟩
    · rw [sound v]
    · rw [sound v]
  · exact laterv.change free (hput _ _ _).cls
  · exact (World.hasDescriptor_change ..).2 (asked.has hd)
  · rw [World.descriptor_change_self (asked.has hd), asked.same hd]

theorem readClasses_of_typed {o : Offer} (ho : o.Typed .classes) (v : World) :
    readClasses v o = ⟨o.elements.items, none⟩ := by
  unfold readClasses
  rw [Reading.upToFault_of_sound, ho.1]
  intro r hr
  obtain ⟨k, rfl⟩ := ho.2 r hr
  rfl

/-- **An application all of whose hooks answer is absorbed**, and the descriptor holds all that it
    offers. -/
theorem run_absorb_of_yields (hρ : ρ.Discreet) {offer : Hook → Offer}
    {pairs : List (Datum × Datum)} (hd : w₁.HasDescriptor d)
    (free : w.HasDescriptor d → (w.descriptor d).applicationClass ≠ none)
    (later : w.Later c w₁) (yields : ∀ h, Yields ρ c app h w (offer h))
    (hpairs : (offer .properties).entries? = some pairs)
    (own : ∀ e, app = .descriptor e → w.HasDescriptor e ∧ c ∈ w.lineage (w.descriptor e).cls ∧
      (w.descriptor e).applicationClass = none)
    (classes : ∀ r ∈ (w₁.descriptor d).classes, ∃ k, r = .cls k) :
    ∃ w₂ v, EStateM.run (absorb ρ d app) w₁ = .ok ⟨⟩ w₂ ∧ w.Later c v ∧ w.Later c w₂ ∧
      w₂.HasDescriptor d ∧
      w₂.descriptor d = (w₁.descriptor d).absorbing v.like offer pairs (w.providersOf app) := by
  have readPairs (v : World) : (offer .properties).pairs v = ⟨pairs, none⟩ := by
    unfold Offer.pairs
    rw [hpairs]
  obtain ⟨w₂, v, hclasses, laterv, later₂, has₂, held₂⟩ :=
    run_taking_of_yields hρ hd free (yields .classes) later readClasses
      (fun v items x => x.addClasses v.like items)
      (readClasses_of_typed (yields .classes).1) fun _ _ _ => ⟨_, _, _, _, rfl⟩
  obtain ⟨w₃, -, hsingletons, -, later₃, has₃, held₃⟩ :=
    run_taking_of_yields hρ has₂ free (yields .singletons) later₂ (fun _ o => o.elements)
      (fun _ items x => x.addSingletons items)
      (fun _ => congrArg (Reading.mk _) (yields .singletons).1) fun _ _ _ => ⟨_, _, _, _, rfl⟩
  obtain ⟨w₄, -, hproperties, -, later₄, has₄, held₄⟩ :=
    run_taking_of_yields hρ has₃ free (yields .properties) later₃ (fun v o => o.pairs v)
      (fun _ items x => x.putProperties items) readPairs fun _ _ _ => ⟨_, _, _, _, rfl⟩
  have hrun : EStateM.run (absorb ρ d app) w₁ = EStateM.run (absorbProviders ρ d app) w₄ := by
    unfold absorb
    rw [absorbClasses_of_library hρ.library, absorbSingletons_of_library hρ.library,
      absorbProperties_of_library hρ.library, run_bind_of_ok hclasses, run_bind_of_ok hsingletons,
      run_bind_of_ok hproperties]
  -- All classes stand for themselves, in whichever store.
  have classesOf : (w₁.descriptor d).addClasses v.like (offer .classes).elements.items =
      (w₁.descriptor d).addClasses w₄.like (offer .classes).elements.items := by
    have fixed (r : Ref) (hr : ∃ k, r = .cls k) : v.like r = w₄.like r := by
      obtain ⟨k, rfl⟩ := hr
      rfl
    unfold Descriptor.addClasses
    rw [Keyed.addAll_congr (fun r hr => fixed r (classes r hr))
      fun r hr => fixed r ((yields .classes).1.2 r hr)]
  rw [hrun, run_absorbProviders_of_library hρ.library]
  unfold World.providersOf
  cases app with
  | descriptor e =>
    obtain ⟨hase, hcls, unbacked⟩ := own e rfl
    obtain ⟨frozen, hsame⟩ := later₄.held e hase hcls unbacked
    have providers : (w₄.descriptor e).providers = (w.descriptor e).providers := by
      rw [hsame]
    refine ⟨w₄.changeDescriptor d (·.putProviders w₄.like (w₄.descriptor e).providers), w₄, rfl,
      later₄, later₄.change free rfl, (World.hasDescriptor_change ..).2 has₄, ?_⟩
    rw [World.descriptor_change_self has₄, providers, held₄, held₃, held₂, classesOf]
    rfl
  | none | cls | object | datum =>
    refine ⟨w₄, w₄, rfl, later₄, later₄, has₄, ?_⟩
    rw [held₄, held₃, held₂, classesOf]
    rfl

/-- **What a descriptor has absorbed, it holds**: all answers and all providers. -/
theorem holds_of_absorbing {x : Descriptor} {v : World} {offer : Hook → Offer}
    {pairs : List (Datum × Datum)} (plain : x.Plain) (typed : ∀ h, (offer h).Typed h)
    (hpairs : (offer .properties).entries? = some pairs)
    (serves : ∀ e, app = .descriptor e → w.Serves c e) :
    (∀ h, (x.absorbing v.like offer pairs (w.providersOf app)).Covers (offer h) h) ∧
      ∀ e, app = .descriptor e →
        (x.absorbing v.like offer pairs (w.providersOf app)).Provides
            (w.descriptor e).providers := by
  refine ⟨fun h => ?_, ?_⟩
  · cases h with
    | classes => exact fun r hr => Descriptor.covers_addClasses plain.classes (typed .classes) hr
    | singletons => exact fun r hr => Descriptor.covers_addSingletons hr
    | properties => exact Descriptor.covers_putProperties (typed .properties) hpairs
  · rintro e rfl
    exact Descriptor.provides_putProviders plain.services (serves e rfl).services
      (serves e rfl).distinct

end Action

end AppMount
