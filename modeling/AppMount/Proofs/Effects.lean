import AppMount.Proofs.Computation

/-!
# What computations may do to the store

A computation changes the store in small steps: it notes a call, writes to the log, adds an object
or a descriptor, or changes a descriptor. A licence says which descriptors may be set up, which may
be changed in any way, and whether the log may be written; what a computation adds itself it may
always set up.

* `Descriptor.SetUp`: how a descriptor changes while it is set up;
* `Licence`, `World.Step`, `World.Reaches`: the steps that a licence allows, and their closure;
* `World.Keeps`: what such steps leave as it was (`Reaches.keeps`); `World.Stores`: what is there;
* `World.Grows`: stores that grew out of another one;
* `Reaches.invariant`: what holds of every descriptor that is set up;
* `Effect.adds`: where nothing that was there may be touched, there are additions only;
* `World.Effect`: steps that may also set up what they add; `Action.Heeds`: a computation that does
  nothing but such steps, whether it fails or not.
-/

namespace AppMount

/-! ## 1. Steps -/

/-- **How a descriptor changes while it is set up**, where things count as the same whose
    representatives are. -/
inductive Descriptor.SetUp (rep : Ref → Ref) : (Descriptor → Descriptor) → Prop where
  | initialized (name : Datum) : SetUp rep (·.initialized name)
  | component (r : Ref) : SetUp rep (·.addComponent rep r)
  | provider (service factory : Ref) : SetUp rep (·.putProviders rep [(service, factory)])
  | property (name value : Datum) : SetUp rep (·.putProperties [(name, value)])
  | frozen : SetUp rep ({ · with frozen := true })

/-- **What a computation may touch**: the descriptors that it may set up, those that it may change
    in any way, and the log. -/
structure Licence where
  builds : DescriptorId → Prop := fun _ => False
  changes : DescriptorId → Prop := fun _ => False
  logs : Prop := False

namespace Licence

/-- The licence to touch nothing that is there. -/
def none : Licence := {}

/-- The licence to set up a thing, if it is a descriptor. -/
def building (self : Ref) : Licence := { builds := fun d => self.descriptor? = some d }

/-- The licence to change some descriptors. -/
def changing (ds : DescriptorId → Prop) : Licence := { changes := ds }

/-- A licence, and the one to set up what is not in a store. -/
def beyond (L : Licence) (w : World) : Licence :=
  { L with builds := fun d => L.builds d ∨ ¬ w.HasDescriptor d }

end Licence

namespace World

/-- **A step under a licence.** -/
inductive Step (L : Licence) : World → World → Prop where
  | called (w : World) (c : Call) : Step L w { w with calls := w.calls ++ [c] }
  | logged (w : World) (entry : LogEntry) (hl : L.logs) :
      Step L w { w with log := w.log ++ [entry] }
  | thing (w : World) (x : Content) : Step L w (w.newThing x).2
  | descriptor (w : World) (c : ClassId) : Step L w (w.newDescriptor { cls := c }).2
  | setUp (w : World) {d : DescriptorId} {f : Descriptor → Descriptor} (hd : L.builds d)
      (hf : Descriptor.SetUp w.like f) : Step L w (w.changeDescriptor d f)
  | change (w : World) {d : DescriptorId} (f : Descriptor → Descriptor) (hd : L.changes d) :
      Step L w (w.changeDescriptor d f)

/-- **The stores that steps under a licence lead to.** -/
inductive Reaches (L : Licence) (w : World) : World → Prop where
  | refl : Reaches L w w
  | step {w' w'' : World} (h : Reaches L w w') (hs : Step L w' w'') : Reaches L w w''

/-! ## 2. What steps leave as it was -/

/-- **What steps under a licence leave as it was**: classes, names and namespaces; every object;
    every descriptor without a licence for it; and what was noted before. -/
structure Keeps (L : Licence) (w w' : World) : Prop where
  rule : w'.rule = w.rule
  classes : w'.classes = w.classes
  scope : w'.scope = w.scope
  assigned : w'.assigned = w.assigned
  has : ∀ d, w.HasDescriptor d → w'.HasDescriptor d
  descriptor : ∀ d, w.HasDescriptor d → ¬ L.builds d → ¬ L.changes d →
    w'.descriptor d = w.descriptor d
  cls : ∀ d, w.HasDescriptor d → ¬ L.changes d → (w'.descriptor d).cls = (w.descriptor d).cls
  thing : ∀ o x, w.thing? o = some x → w'.thing? o = some x
  calls : w.calls <+: w'.calls
  log : ¬ L.logs → w'.log = w.log

variable {L L' : Licence} {w w' w'' : World}

theorem Keeps.refl (w : World) : Keeps L w w where
  rule := rfl
  classes := rfl
  scope := rfl
  assigned := rfl
  has _ h := h
  descriptor _ _ _ _ := rfl
  cls _ _ _ := rfl
  thing _ _ h := h
  calls := List.prefix_rfl
  log _ := rfl

theorem Keeps.trans (h : Keeps L w w') (h' : Keeps L w' w'') : Keeps L w w'' where
  rule := h'.rule.trans h.rule
  classes := h'.classes.trans h.classes
  scope := h'.scope.trans h.scope
  assigned := h'.assigned.trans h.assigned
  has d hd := h'.has d (h.has d hd)
  descriptor d hd hb hc := (h'.descriptor d (h.has d hd) hb hc).trans (h.descriptor d hd hb hc)
  cls d hd hc := (h'.cls d (h.has d hd) hc).trans (h.cls d hd hc)
  thing o x hx := h'.thing o x (h.thing o x hx)
  calls := h.calls.trans h'.calls
  log hl := (h'.log hl).trans (h.log hl)

theorem hasDescriptor_change (w : World) (d e : DescriptorId) (f : Descriptor → Descriptor) :
    (w.changeDescriptor d f).HasDescriptor e ↔ w.HasDescriptor e := by
  simp [HasDescriptor, changeDescriptor]

theorem hasDescriptor_new {d : DescriptorId} (h : w.HasDescriptor d) (x : Descriptor) :
    (w.newDescriptor x).2.HasDescriptor d := by
  have h' : d.index < w.descriptors.size := h
  simp only [HasDescriptor, newDescriptor, Array.size_push]
  omega

theorem hasDescriptor_new_iff (w : World) (x : Descriptor) (d : DescriptorId) :
    (w.newDescriptor x).2.HasDescriptor d ↔ w.HasDescriptor d ∨ d = (w.newDescriptor x).1 := by
  cases d with
  | mk i =>
    simp only [HasDescriptor, newDescriptor, Array.size_push, DescriptorId.mk.injEq]
    omega

theorem not_hasDescriptor_new (w : World) (x : Descriptor) :
    ¬ w.HasDescriptor (w.newDescriptor x).1 := by
  simp [HasDescriptor, newDescriptor]

/-- What is not in the store is as if it had just been made. -/
theorem descriptor_of_not_has {d : DescriptorId} (h : ¬ w.HasDescriptor d) :
    w.descriptor d = { cls := ClassId.descriptor } := by
  unfold World.descriptor
  rw [Array.getElem?_eq_none (Nat.le_of_not_lt h)]
  rfl

/-- What is not in a store is not changed either. -/
theorem changeDescriptor_of_not_has {d : DescriptorId} (h : ¬ w.HasDescriptor d)
    (f : Descriptor → Descriptor) : w.changeDescriptor d f = w := by
  have beyond : w.descriptors.size ≤ d.index := Nat.le_of_not_lt h
  have same : w.descriptors.modify d.index f = w.descriptors := by
    refine Array.ext (Array.size_modify ..) fun i hi hi' => ?_
    have other : d.index ≠ i := by omega
    simp [Array.getElem_modify, other]
  unfold changeDescriptor
  rw [same]

theorem thing?_new {o : ObjectId} {t : Thing} (h : w.thing? o = some t) (x : Content) :
    (w.newThing x).2.thing? o = some t := by
  obtain ⟨hlt, -⟩ := Array.getElem?_eq_some_iff.1 h
  simp only [thing?, newThing, Array.getElem?_push, Nat.ne_of_lt hlt, if_false]
  exact h

theorem cls_of_setUp {rep : Ref → Ref} {f : Descriptor → Descriptor}
    (hf : Descriptor.SetUp rep f) (x : Descriptor) : (f x).cls = x.cls := by
  cases hf with
  | initialized | provider | property | frozen => rfl
  | component r =>
    show (x.addComponent rep r).cls = x.cls
    unfold Descriptor.addComponent
    split <;> rfl

/-- A change of a descriptor keeps all that it has no licence for. -/
theorem Keeps.change {d : DescriptorId} {f : Descriptor → Descriptor}
    (hd : L.builds d ∨ L.changes d) (hf : ¬ L.changes d → ∀ x, (f x).cls = x.cls) :
    Keeps L w (w.changeDescriptor d f) where
  rule := rfl
  classes := rfl
  scope := rfl
  assigned := rfl
  has e he := (hasDescriptor_change ..).2 he
  descriptor e _ hb hc := by
    refine descriptor_change_of_ne (fun h => ?_) f
    subst h
    exact hd.elim hb hc
  cls e he hc := by
    by_cases h : d = e
    · subst h
      rw [descriptor_change_self he, hf hc]
    · rw [descriptor_change_of_ne h]
  thing _ _ h := h
  calls := List.prefix_rfl
  log _ := rfl

theorem Step.keeps (h : Step L w w') : Keeps L w w' := by
  cases h with
  | called c => exact { Keeps.refl w with calls := List.prefix_append .. }
  | logged entry hl => exact { Keeps.refl w with log := fun h => absurd hl h }
  | thing x => exact { Keeps.refl w with thing := fun _ _ h => thing?_new h x }
  | descriptor c =>
    exact { Keeps.refl w with
      has := fun _ h => hasDescriptor_new h _
      descriptor := fun _ h _ _ => descriptor_new_of_has h _
      cls := fun _ h _ => by rw [descriptor_new_of_has h] }
  | setUp hd hf => exact Keeps.change (.inl hd) fun _ x => cls_of_setUp hf x
  | change f hd => exact Keeps.change (.inr hd) fun hc => absurd hd hc

/-- **What steps under a licence keep, all that they lead to keeps.** -/
theorem Reaches.keeps (h : Reaches L w w') : Keeps L w w' := by
  induction h with
  | refl => exact Keeps.refl w
  | step _ hs ih => exact ih.trans hs.keeps

/-- **Whether a thing is in the store.** What is neither a descriptor nor an object always is. -/
def Stores (w : World) : Ref → Prop
  | .descriptor d => w.HasDescriptor d
  | .object o => ∃ x, w.thing? o = some x
  | .none | .cls _ | .datum .. => True

/-- What takes no descriptor and no thing from a store takes nothing from it. -/
theorem stores_of_kept (has : ∀ d, w.HasDescriptor d → w'.HasDescriptor d)
    (things : ∀ o x, w.thing? o = some x → w'.thing? o = some x) {r : Ref} (hr : w.Stores r) :
    w'.Stores r := by
  cases r with
  | none | cls | datum => trivial
  | descriptor d => exact has d hr
  | object o =>
    obtain ⟨x, hx⟩ := hr
    exact ⟨x, things o x hx⟩

theorem Keeps.stores {r : Ref} (h : Keeps L w w') (hr : w.Stores r) : w'.Stores r :=
  stores_of_kept h.has h.thing hr

/-- What keeps its things and the classes of its descriptors has the same instances of classes. -/
theorem classOf?_of_kept (things : ∀ o x, w.thing? o = some x → w'.thing? o = some x)
    (classes : ∀ d, w.HasDescriptor d → (w'.descriptor d).cls = (w.descriptor d).cls) {r : Ref}
    (hr : w.Stores r) : w'.classOf? r = w.classOf? r := by
  cases r with
  | none | cls => rfl
  | datum d place => cases d <;> rfl
  | descriptor d => exact congrArg some (classes d hr)
  | object o =>
    obtain ⟨x, hx⟩ := hr
    simp only [World.classOf?, World.content?, hx, things o x hx]

theorem stores_newThing (w : World) (x : Content) :
    (w.newThing x).2.Stores (.object (w.newThing x).1) := by
  refine ⟨⟨x, w.representative ⟨w.things.size⟩ x, w.keylessWord? x⟩, ?_⟩
  simp [thing?, newThing]

theorem stores_ofDatum (w : World) (place : Nat) (d : Datum) : w.Stores (.ofDatum place d) := by
  cases d <;> trivial

/-! ## 3. Stores that grew -/

/-- **A store that grew out of another one**: classes, names and namespaces are the same, nothing is
    lost, and descriptors stay of their classes. -/
structure Grows (w w' : World) : Prop where
  rule : w'.rule = w.rule
  classes : w'.classes = w.classes
  scope : w'.scope = w.scope
  assigned : w'.assigned = w.assigned
  has : ∀ d, w.HasDescriptor d → w'.HasDescriptor d
  thing : ∀ o x, w.thing? o = some x → w'.thing? o = some x
  cls : ∀ d, w.HasDescriptor d → (w'.descriptor d).cls = (w.descriptor d).cls

section Grows

variable {d : DescriptorId} {r : Ref}

theorem Grows.refl (w : World) : w.Grows w :=
  ⟨rfl, rfl, rfl, rfl, fun _ h => h, fun _ _ h => h, fun _ _ => rfl⟩

theorem Grows.trans (h : w.Grows w') (h' : w'.Grows w'') : w.Grows w'' where
  rule := h'.rule.trans h.rule
  classes := h'.classes.trans h.classes
  scope := h'.scope.trans h.scope
  assigned := h'.assigned.trans h.assigned
  has d hd := h'.has d (h.has d hd)
  thing o x hx := h'.thing o x (h.thing o x hx)
  cls d hd := (h'.cls d (h.has d hd)).trans (h.cls d hd)

/-- Where descriptors may be set up only, the store grows. -/
theorem Keeps.grows (h : Keeps L w w') (hL : ∀ d, ¬ L.changes d) : w.Grows w' :=
  ⟨h.rule, h.classes, h.scope, h.assigned, h.has, h.thing, fun d hd => h.cls d hd (hL d)⟩

theorem Grows.stores (h : w.Grows w') (hr : w.Stores r) : w'.Stores r :=
  stores_of_kept h.has h.thing hr

theorem Grows.classOf? (h : w.Grows w') (hr : w.Stores r) : w'.classOf? r = w.classOf? r :=
  classOf?_of_kept h.thing h.cls hr

theorem Grows.like (h : w.Grows w') (hr : w.Stores r) : w'.like r = w.like r := by
  cases r with
  | none | cls | descriptor | datum => rfl
  | object o =>
    obtain ⟨x, hx⟩ := hr
    simp only [World.like, hx, h.thing o x hx]

theorem Grows.keyFault? (h : w.Grows w') (hr : w.Stores r) :
    w'.keyFault? r = w.keyFault? r := by
  cases r with
  | none | cls | descriptor | datum => rfl
  | object o =>
    obtain ⟨x, hx⟩ := hr
    simp only [World.keyFault?, hx, h.thing o x hx]

theorem Grows.value? (h : w.Grows w') (hr : w.Stores r) : w'.value? r = w.value? r := by
  cases r with
  | none | cls | descriptor | datum => rfl
  | object o =>
    obtain ⟨x, hx⟩ := hr
    simp only [World.value?, World.content?, hx, h.thing o x hx]

theorem Grows.change (w : World) {f : Descriptor → Descriptor} (hf : ∀ x, (f x).cls = x.cls) :
    w.Grows (w.changeDescriptor d f) where
  rule := rfl
  classes := rfl
  scope := rfl
  assigned := rfl
  has _ he := (hasDescriptor_change ..).2 he
  thing _ _ h := h
  cls e he := by
    by_cases hde : d = e
    · subst hde
      rw [descriptor_change_self he, hf]
    · rw [descriptor_change_of_ne hde]

theorem Grows.of_change (w : World) {f : Descriptor → Descriptor} (hf : ∀ x, (f x).cls = x.cls) :
    (w.changeDescriptor d f).Grows w where
  rule := rfl
  classes := rfl
  scope := rfl
  assigned := rfl
  has _ he := (hasDescriptor_change ..).1 he
  thing _ _ h := h
  cls e he := ((Grows.change w hf).cls e ((hasDescriptor_change ..).1 he)).symm

theorem Grows.lineage (h : w.Grows w') (c : ClassId) : w'.lineage c = w.lineage c := by
  unfold World.lineage classDef
  rw [h.classes]

end Grows

/-! ## 4. Runs of steps -/

theorem Step.reaches (h : Step L w w') : Reaches L w w' :=
  .step .refl h

theorem Reaches.trans (h : Reaches L w w') (h' : Reaches L w' w'') : Reaches L w w'' := by
  induction h' with
  | refl => exact h
  | step _ hs ih => exact .step ih hs

theorem Step.mono (h : Step L w w') (hb : ∀ d, L.builds d → L'.builds d)
    (hc : ∀ d, L.changes d → L'.changes d) (hl : L.logs → L'.logs) : Step L' w w' := by
  cases h with
  | called c => exact .called w c
  | logged entry h => exact .logged w entry (hl h)
  | thing x => exact .thing w x
  | descriptor c => exact .descriptor w c
  | setUp hd hf => exact .setUp w (hb _ hd) hf
  | change f hd => exact .change w f (hc _ hd)

/-- A wider licence allows more. -/
theorem Reaches.mono (h : Reaches L w w') (hb : ∀ d, L.builds d → L'.builds d)
    (hc : ∀ d, L.changes d → L'.changes d) (hl : L.logs → L'.logs) : Reaches L' w w' := by
  induction h with
  | refl => exact .refl
  | step _ hs ih => exact .step ih (hs.mono hb hc hl)

/-- The notes that steps leave could be left by steps that do nothing else. -/
theorem Reaches.notes (h : Reaches L w w') : Reaches L w (w.noting w'.calls w'.log) := by
  induction h with
  | refl => exact .refl
  | step _ hs ih =>
    cases hs with
    | called c => exact .step ih (.called _ c)
    | logged entry hl => exact .step ih (.logged _ entry hl)
    | thing | descriptor | setUp | change => exact ih

/-- **What holds of a new descriptor, and is kept while one is set up**, holds of every descriptor
    that nobody may change otherwise. -/
theorem Reaches.invariant {P : Descriptor → Prop} (bare : ∀ c, P { cls := c })
    (setUp : ∀ (v : World) (f : Descriptor → Descriptor) (x : Descriptor),
      Descriptor.SetUp v.like f → P x → P (f x))
    (h : Reaches L w w') {d : DescriptorId} (hd : ¬ L.changes d) (hw : P (w.descriptor d)) :
    P (w'.descriptor d) := by
  induction h with
  | refl => exact hw
  | @step v v' _ hs ih =>
    cases hs with
    | called | logged | thing => exact ih
    | descriptor c =>
      by_cases hv : v.HasDescriptor d
      · rwa [descriptor_new_of_has hv]
      · by_cases he : d = (v.newDescriptor { cls := c }).1
        · subst he
          rw [descriptor_new_self]
          exact bare c
        · have : ¬ (v.newDescriptor { cls := c }).2.HasDescriptor d := by
            rw [hasDescriptor_new_iff]
            exact fun h => h.elim hv he
          rw [descriptor_of_not_has this]
          exact bare _
    | @setUp e f he hf =>
      by_cases hed : e = d
      · subst hed
        by_cases hv : v.HasDescriptor e
        · rw [descriptor_change_self hv]
          exact setUp v f _ hf ih
        · have : ¬ (v.changeDescriptor e f).HasDescriptor e := by rwa [hasDescriptor_change]
          rw [descriptor_of_not_has this]
          exact bare _
      · rwa [descriptor_change_of_ne hed]
    | @change e f he =>
      have hed : e ≠ d := fun h => hd (h ▸ he)
      rwa [descriptor_change_of_ne hed]

/-! ## 5. Additions -/

/-- A list that another one begins with is still its beginning after a change further on. -/
theorem prefix_modify {α : Type} {xs ys : List α} (h : xs <+: ys) {i : Nat} (hi : xs.length ≤ i)
    (f : α → α) : xs <+: ys.modify i f := by
  rw [List.prefix_iff_getElem?] at h ⊢
  intro j hj
  rw [List.getElem?_modify_ne f ys (by omega : i ≠ j)]
  exact h j hj

theorem Adds.refl (w : World) : w.Adds w :=
  ⟨rfl, List.prefix_rfl, List.prefix_rfl⟩

theorem Adds.newDescriptor (w : World) (x : Descriptor) : w.Adds (w.newDescriptor x).2 :=
  ⟨rfl, by simp [World.newDescriptor], List.prefix_rfl⟩

theorem Adds.newThing (w : World) (x : Content) : w.Adds (w.newThing x).2 :=
  ⟨rfl, List.prefix_rfl, by simp [World.newThing]⟩

/-- A step that changes nothing from before `w` adds to `w`. -/
theorem Step.adds (h : Step L w' w'') (hb : ∀ d, L.builds d → ¬ w.HasDescriptor d)
    (hc : ∀ d, ¬ L.changes d) (hw : w.Adds w') : w.Adds w'' := by
  obtain ⟨same, descriptors, things⟩ := hw
  cases h with
  | called c =>
    refine ⟨?_, descriptors, things⟩
    rw [same]
  | logged entry =>
    refine ⟨?_, descriptors, things⟩
    rw [same]
  | thing x =>
    refine ⟨?_, descriptors, things.trans ?_⟩
    · rw [same]
      rfl
    · simp [newThing]
  | descriptor c =>
    refine ⟨?_, descriptors.trans ?_, things⟩
    · rw [same]
      rfl
    · simp [newDescriptor]
  | @setUp d f hd =>
    refine ⟨?_, ?_, things⟩
    · rw [same]
      rfl
    · have new : ¬ d.index < w.descriptors.size := hb d hd
      rw [changeDescriptor, Array.toList_modify]
      exact prefix_modify descriptors (by simpa using new) f
  | change f hd => exact absurd hd (hc _)

/-! ## 6. Computations under a licence -/

/-- **Steps that may also set up what they add.** -/
def Effect (L : Licence) (w w' : World) : Prop :=
  Reaches (L.beyond w) w w'

theorem Effect.refl (w : World) : Effect L w w :=
  Reaches.refl

theorem Effect.keeps (h : Effect L w w') : Keeps (L.beyond w) w w' :=
  Reaches.keeps h

/-- **What may set up and change nothing that was there** makes additions only. -/
theorem Effect.adds (h : Effect L w w') (hb : ∀ d, ¬ L.builds d) (hc : ∀ d, ¬ L.changes d) :
    w.Adds w' := by
  have reaches : Reaches (L.beyond w) w w' := h
  induction reaches with
  | refl => exact .refl w
  | step hr hs ih => exact hs.adds (fun d hd => hd.resolve_left (hb d)) hc (ih hr)

theorem Effect.has {d : DescriptorId} (h : Effect L w w') (hd : w.HasDescriptor d) :
    w'.HasDescriptor d :=
  h.keeps.has d hd

/-- **A descriptor that was there is as it was**, unless there is a licence for it. -/
theorem Effect.descriptor {d : DescriptorId} (h : Effect L w w') (hd : w.HasDescriptor d)
    (hb : ¬ L.builds d) (hc : ¬ L.changes d) : w'.descriptor d = w.descriptor d :=
  h.keeps.descriptor d hd (fun hb' => hb'.elim hb fun hn => hn hd) hc

/-- What may set up and change nothing leaves every descriptor that was there as it stood. -/
theorem Effect.same {d : DescriptorId} (h : Effect .none w w') (hd : w.HasDescriptor d) :
    w'.descriptor d = w.descriptor d :=
  h.descriptor hd (fun hb => hb) fun hc => hc

theorem Effect.grows (h : Effect .none w w') : w.Grows w' :=
  h.keeps.grows fun _ => id

theorem Effect.mono (h : Effect L w w') (hb : ∀ d, L.builds d → L'.builds d)
    (hc : ∀ d, L.changes d → L'.changes d) (hl : L.logs → L'.logs) : Effect L' w w' := by
  have h' : Reaches (L.beyond w) w w' := h
  exact h'.mono (fun d hd => hd.imp (hb d) id) hc hl

/-- What steps add, later steps may set up as well. -/
theorem Effect.trans_beyond {L₁ : Licence} (h : Effect L w w') (h' : Effect L₁ w' w'')
    (hb : ∀ d, L₁.builds d → L.builds d ∨ ¬ w.HasDescriptor d)
    (hc : ∀ d, L₁.changes d → L.changes d) (hl : L₁.logs → L.logs) : Effect L w w'' := by
  have later : Reaches (L₁.beyond w') w' w'' := h'
  refine Reaches.trans h (later.mono (fun d hd => ?_) hc hl)
  rcases hd with hd | hd
  · exact hb d hd
  · exact .inr fun hw => hd (h.has hw)

theorem Effect.trans (h : Effect L w w') (h' : Effect L w' w'') : Effect L w w'' :=
  h.trans_beyond h' (fun _ hd => .inl hd) (fun _ hd => hd) id

theorem Step.effect (h : Step L w w') : Effect L w w' :=
  h.reaches.mono (fun _ hd => .inl hd) (fun _ hd => hd) id

end World

namespace Action

variable {α β : Type} {L L' : Licence} {x : Action α} {f : α → Action β}

/-- **A computation that keeps to a licence**, whether it fails or not. What it adds it may set
    up. -/
def Heeds (L : Licence) (x : Action α) : Prop :=
  Within (World.Effect L) x

namespace Heeds

theorem throw (fault : Fault) : Heeds L (throw fault : Action α) :=
  Within.throw World.Effect.refl fault

theorem bind (hx : Heeds L x) (hf : ∀ a, Heeds L (f a)) : Heeds L (x >>= f) :=
  Within.bind World.Effect.trans hx hf

theorem modify {change : World → World} (h : ∀ w, World.Step L w (change w)) :
    Heeds L (modify change : Action PUnit) :=
  Within.modify fun w => (h w).effect

/-- A wider licence allows more. -/
theorem mono (hx : Heeds L x) (hb : ∀ d, L.builds d → L'.builds d)
    (hc : ∀ d, L.changes d → L'.changes d) (hl : L.logs → L'.logs) : Heeds L' x :=
  Within.mono hx fun _ _ h => h.mono hb hc hl

/-- What is heeded without a licence is heeded with any. -/
theorem of_none (hx : Heeds .none x) : Heeds L x :=
  hx.mono (fun _ h => h.elim) (fun _ h => h.elim) False.elim

end Heeds

end Action

end AppMount
