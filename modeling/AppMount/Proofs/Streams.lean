import AppMount.Proofs.Agreement
import AppMount.Proofs.ApplicationCalls
import AppMount.Proofs.Listening

/-!
# What is written to a descriptor

A descriptor is filled by components that it is made with, by calls, and by the application that it
absorbs, now or when it is frozen. All of this is one stream of entries, in the order in which they
take effect, and what the descriptor holds in the end can be read off the stream: the classes among
its entries, the singletons in order of their first occurrence, and under each key the value that
was written last, in order of the first.

* `Keyed.Overwritten`: what a mapping is after some writes (`overwritten_putAll`);
  `addAll_nil`: a collection without repetitions after some additions;
* `Entry`, `Descriptor.recording`: entries, and a descriptor that holds what they write;
* `World.Apart`: what happens elsewhere; `World.Beside`: what leaves one descriptor alone;
  `World.Records`: a descriptor that holds a stream;
* `Action.absorbed`: what an application says while it is absorbed (`records_absorb`);
* `World.Stream`: the streams of a descriptor, from the call that makes it on;
* `Descriptor.Shows`: what can be read off a stream; `World.Stream.shows`: a descriptor shows its
  stream.
-/

namespace AppMount

/-! ## 1. Collections in closed form -/

namespace Keyed

variable {κ ν τ : Type} [DecidableEq τ]

/-- **What is there after some additions** are the things added, each where it came first. -/
theorem addAll_nil (xs : List τ) : addAll id [] xs = xs.eraseDups := by
  -- The induction is on the last addition, which is the one made to all others.
  induction xs using List.reverseRecOn with
  | nil => rfl
  | append_singleton xs x ih =>
    have step : addAll id [] (xs ++ [x]) = add id (addAll id [] xs) x := by
      simp [addAll]
    have present : x ∈ xs.eraseDups ↔ x ∈ xs := List.mem_eraseDups
    rw [step, ih, List.eraseDups_append]
    by_cases hx : x ∈ xs
    · rw [add_of_present ⟨x, present.2 hx, rfl⟩]
      simp [List.removeAll, hx]
    · have absent : ∀ y ∈ xs.eraseDups, id y ≠ id x := by
        rintro y hy rfl
        exact hx (present.1 hy)
      rw [add_of_absent absent]
      simp [List.removeAll, hx, List.eraseDups_cons]

/-- **A mapping after some writes**: its keys are those that were written, in the order in which
    each was written first and spelled as then, and under each is the value written last. -/
structure Overwritten (rep : κ → τ) (written entries : List (κ × ν)) : Prop where
  keys : entries.map (rep ·.1) = (written.map (rep ·.1)).eraseDups
  spelled : ∀ e ∈ entries, ∃ v, written.find? (rep ·.1 = rep e.1) = some (e.1, v)
  values : ∀ e ∈ entries, last? rep (rep e.1) written = some e.2

variable {rep : κ → τ} {entries written : List (κ × ν)}

theorem map_rep_putAll :
    (putAll rep entries written).map (rep ·.1) =
      addAll id (entries.map (rep ·.1)) (written.map (rep ·.1)) := by
  induction written generalizing entries with
  | nil => rfl
  | cons e written ih =>
    have step : add id (entries.map (rep ·.1)) (rep e.1) =
        (put rep e.1 e.2 entries).map (rep ·.1) := by
      have same : (add id (entries.map (rep ·.1)) (rep e.1)).map id = _ := map_rep_add
      rw [List.map_id, List.map_id] at same
      rw [same, map_rep_put]
      rfl
    show (putAll rep (put rep e.1 e.2 entries) written).map (rep ·.1) =
      addAll id (add id (entries.map (rep ·.1)) (rep e.1)) (written.map (rep ·.1))
    rw [ih, step]

/-- An entry is found under its key, if no other has that. -/
theorem get?_of_mem (distinct : (entries.map (rep ·.1)).Nodup) {e : κ × ν} (he : e ∈ entries) :
    get? rep (rep e.1) entries = some e.2 := by
  induction entries with
  | nil => cases he
  | cons first rest ih =>
    rw [List.map_cons, List.nodup_cons] at distinct
    unfold get?
    rcases List.mem_cons.1 he with rfl | he
    · exact if_pos rfl
    · rw [if_neg, ih distinct.2 he]
      intro same
      exact distinct.1 (same ▸ List.mem_map_of_mem he)

/-- A key is spelled as it was when it was written first. -/
theorem spelled_putAll {e : κ × ν} (he : e ∈ putAll rep entries written) :
    e.1 ∈ entries.map (·.1) ∨ rep e.1 ∉ entries.map (rep ·.1) ∧
      ∃ v, written.find? (rep ·.1 = rep e.1) = some (e.1, v) := by
  induction written generalizing entries with
  | nil => exact .inl (List.mem_map_of_mem he)
  | cons first written ih =>
    have step : e ∈ putAll rep (put rep first.1 first.2 entries) written := he
    rw [List.find?_cons]
    rcases ih step with old | ⟨absent, v, found⟩
    · rw [map_fst_put] at old
      split at old
      · exact .inl old
      · rename_i new
        rcases List.mem_append.1 old with old | old
        · exact .inl old
        · have same : e.1 = first.1 := List.mem_singleton.1 old
          rw [same, decide_eq_true rfl]
          exact .inr ⟨new, first.2, rfl⟩
    · have apart : rep first.1 ≠ rep e.1 ∧ rep e.1 ∉ entries.map (rep ·.1) := by
        rw [map_rep_put] at absent
        split at absent
        · rename_i present
          exact ⟨fun same => absent (same ▸ present), absent⟩
        · rw [List.mem_append, not_or, List.mem_singleton] at absent
          exact ⟨fun same => absent.2 same.symm, absent.1⟩
      rw [decide_eq_false apart.1]
      exact .inr ⟨apart.2, v, found⟩

/-- **Writing all of something into nothing** makes such a mapping. -/
theorem overwritten_putAll (written : List (κ × ν)) :
    Overwritten rep written (putAll rep [] written) where
  keys := map_rep_putAll.trans (addAll_nil _)
  spelled e he := ((spelled_putAll he).resolve_left List.not_mem_nil).2
  values e he := by
    have distinct : ((putAll rep [] written).map (rep ·.1)).Nodup := by
      rw [map_rep_putAll, List.map_nil, addAll_nil]
      exact nodup_eraseDups _
    have found := get?_of_mem distinct he
    rw [get?_putAll_eq] at found
    rwa [show get? rep (rep e.1) ([] : List (κ × ν)) = none from rfl, Option.or_none] at found

end Keyed

/-! ## 2. Entries -/

/-- **What may be written to a descriptor**: a class, a shared instance, a property, or a
    provider. -/
inductive Entry where
  | cls (r : Ref)
  | singleton (r : Ref)
  | property (name value : Datum)
  | provider (service factory : Ref)
  deriving DecidableEq, Repr

namespace Entry

/-- The class that is written. -/
@[simp] def cls? : Entry → Option Ref
  | .cls r => some r
  | _ => none

/-- The instance that is written. -/
@[simp] def singleton? : Entry → Option Ref
  | .singleton r => some r
  | _ => none

/-- The property that is written. -/
@[simp] def property? : Entry → Option (Datum × Datum)
  | .property name value => some (name, value)
  | _ => none

/-- The provider that is written. -/
@[simp] def provider? : Entry → Option (Ref × Ref)
  | .provider service factory => some (service, factory)
  | _ => none

/-- What is written for a component: a class if it is one, or else an instance. -/
def ofComponent (r : Ref) : Entry :=
  if r.class?.isSome then .cls r else .singleton r

/-- Whether an entry that is under a class or a service names a class there. -/
def namesClass : Entry → Bool
  | .cls r | .provider r _ => r.class?.isSome
  | .singleton _ | .property .. => true

/-- What the providers of an application write. -/
def ofProviders (providers : List (Ref × Ref)) : List Entry :=
  providers.map fun p => .provider p.1 p.2

end Entry

/-- What a caller's contribution writes. -/
def Contribution.entry : Contribution → Entry
  | .component r => .ofComponent r
  | .provider service factory => .provider service factory
  | .property name value => .property name value

/-- What an answer to a hook writes. -/
def Offer.written (w : World) (o : Offer) : Hook → List Entry
  | .classes => o.elements.items.map .cls
  | .singletons => o.elements.items.map .singleton
  | .properties => (o.pairs w).items.map fun p => .property p.1 p.2

namespace Descriptor

/-- **A descriptor that holds what entries write**, where things count as the same whose
    representatives are. -/
def recording (rep : Ref → Ref) (es : List Entry) (x : Descriptor) : Descriptor :=
  { x with
    classes := Keyed.addAll rep [] (es.filterMap (·.cls?))
    singletons := Keyed.addAll id [] (es.filterMap (·.singleton?))
    properties := Keyed.putAll Datum.key [] (es.filterMap (·.property?))
    providers := Keyed.putAll rep [] (es.filterMap (·.provider?)) }

variable {rep : Ref → Ref} {es : List Entry} {x : Descriptor}

/-- More entries write to what is there already. -/
theorem recording_append (new : List Entry) :
    x.recording rep (es ++ new) =
      { x with
        classes := Keyed.addAll rep (x.recording rep es).classes (new.filterMap (·.cls?))
        singletons :=
          Keyed.addAll id (x.recording rep es).singletons (new.filterMap (·.singleton?))
        properties :=
          Keyed.putAll Datum.key (x.recording rep es).properties (new.filterMap (·.property?))
        providers :=
          Keyed.putAll rep (x.recording rep es).providers (new.filterMap (·.provider?)) } := by
  simp [recording, Keyed.addAll, Keyed.putAll, List.filterMap_append, List.foldl_append]

theorem addClasses_recording (new : List Ref) :
    (x.recording rep es).addClasses rep new = x.recording rep (es ++ new.map .cls) := by
  rw [recording_append]
  simp [addClasses, recording, Keyed.addAll, Keyed.putAll]

theorem addSingletons_recording (new : List Ref) :
    (x.recording rep es).addSingletons new = x.recording rep (es ++ new.map .singleton) := by
  rw [recording_append]
  simp [addSingletons, recording, Keyed.addAll, Keyed.putAll]

theorem putProperties_recording (new : List (Datum × Datum)) :
    (x.recording rep es).putProperties new =
      x.recording rep (es ++ new.map fun p => .property p.1 p.2) := by
  rw [recording_append]
  simp [putProperties, recording, Keyed.addAll, Keyed.putAll]

theorem putProviders_recording (new : List (Ref × Ref)) :
    (x.recording rep es).putProviders rep new =
      x.recording rep (es ++ Entry.ofProviders new) := by
  rw [recording_append]
  simp [putProviders, recording, Keyed.addAll, Keyed.putAll, Entry.ofProviders]

theorem addComponent_recording (r : Ref) :
    (x.recording rep es).addComponent rep r = x.recording rep (es ++ [.ofComponent r]) := by
  unfold addComponent Entry.ofComponent
  split
  · exact addClasses_recording [r]
  · exact addSingletons_recording [r]

end Descriptor

/-- **Entries that can be written in a store**: classes are classes, and services are there. -/
structure World.Admits (w : World) (es : List Entry) : Prop where
  classes : ∀ r, Entry.cls r ∈ es → ∃ k, r = .cls k
  services : ∀ service factory, Entry.provider service factory ∈ es → w.Stores service

/-- What such entries write is the same in all stores in which their services count as the same. -/
theorem World.Admits.recording_congr {w w' : World} {es : List Entry} (h : w.Admits es)
    (like : ∀ r, w.Stores r → w'.like r = w.like r) (x : Descriptor) :
    x.recording w'.like es = x.recording w.like es := by
  unfold Descriptor.recording
  have classes : ∀ r ∈ es.filterMap (·.cls?), w'.like r = w.like r := by
    intro r hr
    obtain ⟨e, he, hcls⟩ := List.mem_filterMap.1 hr
    cases e with
    | cls r' =>
      obtain rfl := Option.some.inj hcls
      obtain ⟨k, rfl⟩ := h.classes _ he
      rfl
    | singleton | property | provider => exact nomatch hcls
  have services : ∀ r ∈ (es.filterMap (·.provider?)).map (·.1), w'.like r = w.like r := by
    intro r hr
    obtain ⟨p, hp, rfl⟩ := List.mem_map.1 hr
    obtain ⟨e, he, hprovider⟩ := List.mem_filterMap.1 hp
    cases e with
    | provider service factory =>
      obtain rfl := Option.some.inj hprovider
      exact like _ (h.services _ _ he)
    | cls | singleton | property => exact nomatch hprovider
  rw [Keyed.addAll_congr (fun _ hr => absurd hr List.not_mem_nil) classes,
    Keyed.putAll_congr (fun _ hr => absurd hr List.not_mem_nil) services]

/-! ## 3. Streams of a descriptor -/

namespace World

variable {d : DescriptorId} {w w' w'' : World} {es new : List Entry}

/-- **What happens elsewhere**: nothing is taken from a store, a descriptor stays as it is, and what
    is there counts as the same as before. -/
structure Apart (d : DescriptorId) (w w' : World) : Prop where
  has : w.HasDescriptor d → w'.HasDescriptor d
  same : w.HasDescriptor d → w'.descriptor d = w.descriptor d
  stores : ∀ r, w.Stores r → w'.Stores r
  like : ∀ r, w.Stores r → w'.like r = w.like r

/-- What leaves a descriptor alone, unless it may be set up, and takes nothing from a store. -/
structure Beside (d : DescriptorId) (B : DescriptorId → Prop) (w w' : World) : Prop where
  same : w.HasDescriptor d → ¬ B d → w'.descriptor d = w.descriptor d
  stores : ∀ r, w.Stores r → w'.Stores r
  like : ∀ r, w.Stores r → w'.like r = w.like r

theorem Beside.apart (h : Beside d nobody w w') : Apart d w w' :=
  ⟨h.stores (.descriptor d), fun hd => h.same hd id, h.stores, h.like⟩

instance : Frame (Beside d) where
  refl w := ⟨fun _ _ => rfl, fun _ hr => hr, fun _ _ => rfl⟩
  trans h h' hB := by
    refine ⟨fun hd hb => ?_, fun r hr => h'.stores r (h.stores r hr),
      fun r hr => (h'.like r (h.stores r hr)).trans (h.like r hr)⟩
    refine (h'.same (h.stores (.descriptor d) hd) fun hb' => ?_).trans (h.same hd hb)
    exact (hB d hb').elim hb fun hn => hn hd
  step h := by
    have grows := h.keeps.grows fun _ => id
    exact ⟨fun hd hb => h.keeps.descriptor d hd hb id, fun _ => grows.stores, fun _ => grows.like⟩
  stores h := h.stores _
  notes {_ w _} _ _ := by
    refine ⟨fun _ _ => rfl, fun r hr => ?_, fun r _ => ?_⟩ <;> cases r <;> first | exact hr | rfl

theorem stores_change (w : World) (d : DescriptorId) (f : Descriptor → Descriptor) (r : Ref) :
    (w.changeDescriptor d f).Stores r ↔ w.Stores r := by
  cases r with
  | descriptor e => exact hasDescriptor_change ..
  | none | cls | object | datum => rfl

/-- What can be written does not depend on what was. -/
theorem admits_change (w : World) (d : DescriptorId) (f : Descriptor → Descriptor)
    (es : List Entry) : (w.changeDescriptor d f).Admits es ↔ w.Admits es := by
  constructor
  · exact fun h => ⟨h.classes, fun s f' hs => (stores_change ..).1 (h.services s f' hs)⟩
  · exact fun h => ⟨h.classes, fun s f' hs => (stores_change ..).2 (h.services s f' hs)⟩

theorem Admits.append (h : w.Admits es) (hnew : w.Admits new) : w.Admits (es ++ new) where
  classes r hr := (List.mem_append.1 hr).elim (h.classes r) (hnew.classes r)
  services s f hs := (List.mem_append.1 hs).elim (h.services s f) (hnew.services s f)

theorem Admits.of_append (h : w.Admits (es ++ new)) : w.Admits es ∧ w.Admits new :=
  ⟨⟨fun r hr => h.classes r (List.mem_append_left _ hr),
      fun s f hs => h.services s f (List.mem_append_left _ hs)⟩,
    fun r hr => h.classes r (List.mem_append_right _ hr),
      fun s f hs => h.services s f (List.mem_append_right _ hs)⟩

/-- **A descriptor that holds what a stream of entries writes.** -/
structure Records (w : World) (d : DescriptorId) (es : List Entry) : Prop where
  has : w.HasDescriptor d
  admits : w.Admits es
  held : w.descriptor d = (w.descriptor d).recording w.like es

namespace Records

/-- What happens elsewhere changes nothing. -/
theorem apart (h : w.Records d es) (elsewhere : Apart d w w') : w'.Records d es where
  has := elsewhere.has h.has
  admits := ⟨h.admits.classes, fun s f hs => elsewhere.stores s (h.admits.services s f hs)⟩
  held := by
    rw [h.admits.recording_congr elsewhere.like, elsewhere.same h.has]
    exact h.held

/-- More may be written. -/
theorem write (h : w.Records d es) {f : Descriptor → Descriptor} (hnew : w.Admits new)
    (hf : ∀ x : Descriptor,
      f (x.recording w.like es) = x.recording w.like (es ++ new)) :
    (w.changeDescriptor d f).Records d (es ++ new) where
  has := (hasDescriptor_change ..).2 h.has
  admits := (admits_change ..).2 (h.admits.append hnew)
  held := by
    have written := hf (w.descriptor d)
    rw [← h.held] at written
    rw [descriptor_change_self h.has, written]
    rfl

/-- What a descriptor stands for, and whether it is frozen, is not written. -/
theorem adjust (h : w.Records d es) {f : Descriptor → Descriptor}
    (hf : ∀ x : Descriptor, f (x.recording w.like es) = (f x).recording w.like es) :
    (w.changeDescriptor d f).Records d es where
  has := (hasDescriptor_change ..).2 h.has
  admits := (admits_change ..).2 h.admits
  held := by
    have kept := hf (w.descriptor d)
    rw [← h.held] at kept
    rw [descriptor_change_self h.has]
    exact kept

end Records

end World

/-! ## 4. Absorbing -/

namespace Action

variable {ρ : Dispatch} {d : DescriptorId} {app : Ref} {h : Hook} {w w' : World}
  {es : List Entry}

/-- What the answer of an application to a hook writes, if it answers. -/
def answered (ρ : Dispatch) (app : Ref) (h : Hook) (w : World) : List Entry :=
  match EStateM.run (ask ρ app h) w with
  | .ok o v => o.written v h
  | .error .. => []

/-- **What an application says while a descriptor absorbs it**: what it answers to each hook when it
    is asked, and its providers. -/
def absorbed (ρ : Dispatch) (d : DescriptorId) (app : Ref) (w : World) : List Entry :=
  let w₁ := left (EStateM.run (absorbClasses ρ d app) w)
  let w₂ := left (EStateM.run (absorbSingletons ρ d app) w₁)
  let w₃ := left (EStateM.run (absorbProperties ρ d app) w₂)
  answered ρ app .classes w ++ answered ρ app .singletons w₁ ++ answered ρ app .properties w₂ ++
    Entry.ofProviders (w₃.providersOf app)

theorem answered_of_run {o : Offer} {v : World} (hrun : EStateM.run (ask ρ app h) w = .ok o v) :
    answered ρ app h w = o.written v h := by
  unfold answered
  rw [hrun]

/-- No answer to a hook writes providers. -/
theorem provider_not_mem_answered (service factory : Ref) :
    Entry.provider service factory ∉ answered ρ app h w := by
  unfold answered
  split
  · cases h <;> simp [Offer.written]
  · exact List.not_mem_nil

/-- **A stage that comes to an end** writes what the application answered. -/
theorem records_taking {α : Type} {read : World → Offer → Reading α}
    {put : World → List α → Descriptor → Descriptor} (hρ : ρ.Respects (World.Beside d))
    (held : w.Records d es)
    (hrun : EStateM.run (taking ρ d app h read put) w = .ok ⟨⟩ w') (entry : α → Entry)
    (hput : ∀ v items (x : Descriptor),
      put v items (x.recording v.like es) = x.recording v.like (es ++ items.map entry))
    (hread : ∀ o v, EStateM.run (ask ρ app h) w = .ok o v →
      (read v o).items.map entry = o.written v h)
    (classes : ∀ r, Entry.cls r ∈ answered ρ app h w → ∃ k, r = .cls k) :
    w'.Records d (es ++ answered ρ app h w) := by
  obtain ⟨o, v, hask, -, rfl⟩ := run_taking_eq_ok_iff.1 hrun
  have later : World.Apart d w v := ((stays_ask hρ app h).ok hask).apart
  refine (held.apart later).write ⟨classes, fun s f hs => ?_⟩ fun x => ?_
  · exact absurd hs (provider_not_mem_answered s f)
  · rw [answered_of_run hask, ← hread o v hask]
    exact hput v _ x

/-- **What is absorbed is written.** -/
theorem records_absorb (hρ : ρ.Respects (World.Beside d)) (held : w.Records d es)
    (hrun : EStateM.run (absorb ρ d app) w = .ok ⟨⟩ w')
    (admits : w'.Admits (absorbed ρ d app w)) :
    w'.Records d (es ++ absorbed ρ d app w) := by
  unfold absorb at hrun
  obtain ⟨⟨⟩, w₁, hclasses, hrun⟩ := run_bind_eq_ok_iff.1 hrun
  obtain ⟨⟨⟩, w₂, hsingletons, hrun⟩ := run_bind_eq_ok_iff.1 hrun
  obtain ⟨⟨⟩, w₃, hproperties, hproviders⟩ := run_bind_eq_ok_iff.1 hrun
  have said : absorbed ρ d app w = answered ρ app .classes w ++ answered ρ app .singletons w₁ ++
      answered ρ app .properties w₂ ++ Entry.ofProviders (w₃.providersOf app) := by
    unfold absorbed
    dsimp only
    rw [hclasses, left_ok, hsingletons, left_ok, hproperties, left_ok]
  rw [said] at admits ⊢
  have classes (r : Ref) (hr : Entry.cls r ∈ answered ρ app .classes w) : ∃ k, r = .cls k :=
    admits.classes r (by simp [hr])
  have other {h : Hook} (hne : h ≠ .classes) {v : World} (r : Ref) :
      Entry.cls r ∉ answered ρ app h v := by
    unfold answered
    split
    · cases h <;> simp_all [Offer.written]
    · exact List.not_mem_nil
  rw [absorbClasses_of_library hρ.library] at hclasses
  have held₁ : w₁.Records d (es ++ answered ρ app .classes w) := by
    refine records_taking hρ held hclasses .cls
      (fun v items x => Descriptor.addClasses_recording items) (fun o v hask => ?_) classes
    have usable : readClasses v o = ⟨o.elements.items, o.elements.ending⟩ := by
      refine Reading.upToFault_of_sound fun r hr => ?_
      obtain ⟨k, rfl⟩ := classes r (by
        rw [answered_of_run hask]
        exact List.mem_map_of_mem hr)
      rfl
    rw [usable]
    rfl
  rw [absorbSingletons_of_library hρ.library] at hsingletons
  have held₂ := records_taking hρ held₁ hsingletons .singleton
    (fun v items x => Descriptor.addSingletons_recording items) (fun o v _ => rfl)
    fun r hr => absurd hr (other Hook.noConfusion r)
  rw [absorbProperties_of_library hρ.library] at hproperties
  have held₃ := records_taking hρ held₂ hproperties (fun p => .property p.1 p.2)
    (fun v items x => Descriptor.putProperties_recording items) (fun o v _ => rfl)
    fun r hr => absurd hr (other Hook.noConfusion r)
  rw [run_absorbProviders_of_library hρ.library] at hproviders
  rw [← List.append_assoc, ← List.append_assoc, ← List.append_assoc]
  cases app with
  | descriptor e =>
    cases hproviders
    refine held₃.write ((World.admits_change ..).1 admits).of_append.2 fun x => ?_
    exact Descriptor.putProviders_recording _
  | none | cls | object | datum =>
    cases hproviders
    show w₃.Records d (_ ++ [])
    rwa [List.append_nil]

/-! ## 5. New descriptors -/

/-- A descriptor that has just been made holds nothing. -/
theorem records_new (w : World) :
    (w.newDescriptor { cls := ClassId.descriptor }).2.Records
      (w.newDescriptor { cls := ClassId.descriptor }).1 [] where
  has := (World.hasDescriptor_new_iff ..).2 (.inr rfl)
  admits := ⟨nofun, nofun⟩
  held := by
    rw [World.descriptor_new_self]
    rfl

/-- **Components are written one after the other.** -/
theorem records_registerAll (hρ : ρ.replaces = false) (components : List Ref)
    (held : w.Records d es) (unfrozen : (w.descriptor d).frozen = false) :
    ∃ w', EStateM.run (components.forM fun component => do
        let _ ← orReplaced ρ (.descriptor d) "register" 1 (register ρ d component)) w = .ok ⟨⟩ w' ∧
      w'.Records d (es ++ components.map .ofComponent) := by
  induction components generalizing w es with
  | nil => exact ⟨w, rfl, by simpa using held⟩
  | cons r rest ih =>
    have admits : w.Admits [Entry.ofComponent r] := by
      unfold Entry.ofComponent
      cases r <;> exact ⟨by simp [Ref.class?], by simp [Ref.class?]⟩
    have next := held.write admits fun x => Descriptor.addComponent_recording r
    have unfrozen' : ((w.changeDescriptor d (·.addComponent w.like r)).descriptor d).frozen =
        false := by
      rw [World.descriptor_change_self held.has, (filled_addComponent w.like r _).frozen, unfrozen]
    obtain ⟨w', hrun, held'⟩ := ih next unfrozen'
    have first : EStateM.run (do
        let _ ← orReplaced ρ (.descriptor d) "register" 1 (register ρ d r)) w =
          .ok ⟨⟩ (w.changeDescriptor d (·.addComponent w.like r)) := by
      rw [orReplaced_of_library hρ, bind_assoc,
        run_bind_of_ok (run_register_of_library hρ unfrozen r)]
      rfl
    refine ⟨w', ?_, ?_⟩
    · exact (run_bind_of_ok first).trans hrun
    · rwa [List.map_cons, List.append_cons]

/-- **A descriptor that is made with components** holds them. -/
theorem records_construct (hρ : ρ.replaces = false) (intact : w.Intact) (components : List Ref)
    (name : Option Datum)
    (hrun : EStateM.run (construct ρ ClassId.descriptor ⟨components, name⟩) w =
      .ok (.descriptor d) w') : w'.Records d (components.map .ofComponent) := by
  have later := intact.newDescriptor { cls := ClassId.descriptor }
  have initialized := (records_new w).adjust (f := (·.initialized (name.getD .null))) fun _ => rfl
  obtain ⟨w₁, hfill, held⟩ := records_registerAll hρ components initialized (by
    rw [World.descriptor_change_self (records_new w).has]
    rfl)
  have filled : EStateM.run (fillDescriptor ρ
      (w.newDescriptor { cls := ClassId.descriptor }).1 ⟨components, name⟩)
      (w.newDescriptor { cls := ClassId.descriptor }).2 = .ok ⟨⟩ w₁ := by
    unfold fillDescriptor
    rw [run_bind_of_ok (run_claimAll_of_library hρ _ _ _), run_bind_of_ok (EStateM.run_modify _ _)]
    exact hfill
  have made : EStateM.run (construct ρ ClassId.descriptor ⟨components, name⟩) w =
      .ok (.descriptor (w.newDescriptor { cls := ClassId.descriptor }).1) w₁ := by
    unfold construct
    rw [run_discarding, run_bind_of_ok (EStateM.run_get w), intact.allocator,
      run_bind_of_ok (run_fitBare_of_intact intact _)]
    unfold makeInstance
    rw [run_bind_of_ok (run_checkNoOpenMethods_of_intact intact),
      run_bind_of_ok (run_allocate_of_intact hρ intact _), run_bind_of_ok (EStateM.run_get _),
      EStateM.run_bind, run_runInitializers_of_intact later, filled]
    rfl
  rw [made] at hrun
  cases hrun
  exact held

/-- What an application says when a descriptor is made for it. -/
def adaptedEntries (ρ : Dispatch) (app : Ref) (w : World) : List Entry :=
  match EStateM.run
      (newNamed ρ ClassId.descriptor (.text (w.typeQualname app)) "_application") w with
  | .ok d v => absorbed ρ d app (v.changeDescriptor d (·.adopt app))
  | .error .. => []

theorem records_newNamed (hρ : ρ.replaces = false) (intact : w.Intact) {name : Datum}
    {field : String} (hrun : EStateM.run (newNamed ρ ClassId.descriptor name field) w = .ok d w') :
    w'.Records d [] := by
  unfold newNamed at hrun
  obtain ⟨made, w₁, hmake, hrun⟩ := run_bind_eq_ok_iff.1 hrun
  cases made with
  | descriptor e =>
    cases hrun
    exact records_construct hρ intact [] (some name) hmake
  | none | cls | object | datum =>
    obtain ⟨_, _, _, hrun⟩ := run_bind_eq_ok_iff.1 hrun
    cases hrun

/-- **A descriptor that is made for an application** holds what that said. -/
theorem records_forApplication (hρ : ρ.Respects (World.Beside d)) (intact : w.Intact)
    (hrun : EStateM.run (forApplication ρ ClassId.descriptor app) w = .ok d w')
    (admits : w'.Admits (adaptedEntries ρ app w)) : w'.Records d (adaptedEntries ρ app w) := by
  unfold forApplication absorbInto at hrun
  rw [run_discarding_eq_ok_iff, run_bind_of_ok (EStateM.run_get w)] at hrun
  obtain ⟨e, v, hnamed, hrun⟩ := run_bind_eq_ok_iff.1 hrun
  rw [claim_of_library hρ.library, pure_bind, run_bind_of_ok (EStateM.run_modify _ v),
    orReplaced_of_library hρ.library] at hrun
  simp only [bind_assoc, pure_bind] at hrun
  obtain ⟨⟨⟩, w₁, habsorb, hend⟩ := run_bind_eq_ok_iff.1 hrun
  cases hend
  have said : adaptedEntries ρ app w =
      absorbed ρ d app (v.changeDescriptor d (·.adopt app)) := by
    unfold adaptedEntries
    rw [hnamed]
  rw [said] at admits ⊢
  have stands := (records_newNamed hρ.library intact hnamed).adjust (f := (·.adopt app))
    fun _ => rfl
  exact records_absorb hρ stands habsorb admits

/-- **A descriptor that is made for an application class** holds nothing. -/
theorem records_forApplicationClass (hρ : ρ.replaces = false) (intact : w.Intact) {c : ClassId}
    (hrun : EStateM.run (forApplicationClass ρ ClassId.descriptor (.cls c)) w = .ok d w') :
    w'.Records d [] := by
  unfold forApplicationClass at hrun
  dsimp only at hrun
  rw [run_discarding_eq_ok_iff, run_bind_of_ok (EStateM.run_get w)] at hrun
  obtain ⟨e, v, hnamed, hrun⟩ := run_bind_eq_ok_iff.1 hrun
  rw [claim_of_library hρ, pure_bind, run_bind_of_ok (EStateM.run_modify _ v)] at hrun
  cases hrun
  exact (records_newNamed hρ intact hnamed).adjust fun _ => rfl

/-! ## 6. Calls and freezing -/

/-- **A contribution that is accepted** is written. -/
theorem records_make (hρ : ρ.replaces = false) (held : w.Records d es) {x : Contribution}
    (hrun : EStateM.run (x.make ρ d) w = .ok ⟨⟩ w') (admits : w.Admits [x.entry]) :
    w'.Records d (es ++ [x.entry]) := by
  have unfrozen : (w.descriptor d).frozen = false := by
    by_contra frozen
    rw [Bool.not_eq_false] at frozen
    cases x with
    | component r => exact nomatch (register_of_frozen hρ frozen r).symm.trans hrun
    | provider service factory =>
      exact nomatch (provide_of_frozen hρ frozen service factory).symm.trans hrun
    | property name value =>
      exact nomatch (setProperty_of_frozen hρ frozen name value).symm.trans hrun
  cases x with
  | component r =>
    have ran := (run_register_of_library hρ unfrozen r).symm.trans hrun
    cases ran
    exact held.write admits fun x => Descriptor.addComponent_recording r
  | provider service factory =>
    have ran := (run_provide_of_library hρ unfrozen service factory).symm.trans hrun
    cases hkey : w.keyFault? service with
    | some fault => simp [hkey] at ran
    | none =>
      rw [hkey] at ran
      cases ran
      exact held.write admits fun x => Descriptor.putProviders_recording [(service, factory)]
  | property name value =>
    have ran := (run_setProperty_of_library hρ unfrozen name value).symm.trans hrun
    cases hname : name.isKey with
    | false => simp [hname] at ran
    | true =>
      rw [hname] at ran
      cases ran
      exact held.write admits fun x => Descriptor.putProperties_recording [(name, value)]

/-- What freezing a descriptor writes: what its application says, if it waits for one. -/
def frozenEntries (ρ : Dispatch) (d : DescriptorId) (w : World) : List Entry :=
  match (w.descriptor d).awaited? with
  | none => []
  | some c =>
    match EStateM.run (instantiate ρ c) w with
    | .ok app v => absorbed ρ d app (v.changeDescriptor d (·.standFor app))
    | .error .. => []

/-- **Freezing a descriptor** writes what its application says. -/
theorem records_freeze (hρ : ρ.Respects (World.Beside d)) (held : w.Records d es)
    (hrun : EStateM.run (freeze ρ d) w = .ok ⟨⟩ w') (admits : w'.Admits (frozenEntries ρ d w)) :
    w'.Records d (es ++ frozenEntries ρ d w) := by
  rcases frozen_or_settled_or_pending (w.descriptor d) with hf | ⟨hf, hs⟩ | ⟨hf, ha, c, hc⟩
  · have none : frozenEntries ρ d w = [] := by
      unfold frozenEntries
      rw [Descriptor.awaited?_of_frozen hf]
    rw [freeze_of_frozen hρ.library hf] at hrun
    cases hrun
    rwa [none, List.append_nil]
  · have none : frozenEntries ρ d w = [] := by
      unfold frozenEntries
      rw [Descriptor.awaited?_of_not_isPending]
      unfold Descriptor.isPending
      rcases hs with hs | hs <;> simp [hs]
    rw [freeze_of_settled hρ.library hf hs] at hrun
    cases hrun
    rw [none, List.append_nil]
    exact held.adjust fun _ => rfl
  · obtain ⟨app, v, w₁, hmake, habsorb, rfl⟩ :=
      (run_freeze_pending_eq_ok_iff hρ.library hf hc ha).1 hrun
    have said : frozenEntries ρ d w =
        absorbed ρ d app (v.changeDescriptor d (·.standFor app)) := by
      unfold frozenEntries
      rw [Descriptor.awaited?_eq_some_iff.2 ⟨hf, ha, hc⟩]
      dsimp only
      rw [hmake]
    rw [said] at admits ⊢
    have made : World.Apart d w v := ((stays_instantiate hρ c).ok hmake).apart
    have stands := (held.apart made).adjust (f := (·.standFor app)) fun _ => rfl
    exact (records_absorb hρ stands habsorb ((World.admits_change ..).1 admits)).adjust fun _ => rfl

end Action

/-! ## 7. Streams -/

/-- **The streams of a descriptor**, from the call that makes it on: what it is made with, what
    callers contribute, and what its application says, in the order in which this takes effect.
    Anything may happen elsewhere between the calls. -/
inductive World.Stream (ρ : Dispatch) (d : DescriptorId) (w : World) :
    List Entry → World → Prop where
  | constructed (components : List Ref) (name : Option Datum) {w' : World}
    (made : EStateM.run (Action.construct ρ ClassId.descriptor ⟨components, name⟩) w =
      .ok (.descriptor d) w') : Stream ρ d w (components.map .ofComponent) w'
  | adapted (app : Ref) {w' : World}
    (made : EStateM.run (Action.forApplication ρ ClassId.descriptor app) w = .ok d w')
    (admits : w'.Admits (Action.adaptedEntries ρ app w)) :
    Stream ρ d w (Action.adaptedEntries ρ app w) w'
  | adaptedClass (c : ClassId) {w' : World}
    (made : EStateM.run (Action.forApplicationClass ρ ClassId.descriptor (.cls c)) w = .ok d w') :
    Stream ρ d w [] w'
  | contributed {es : List Entry} {v w' : World} (before : Stream ρ d w es v) (x : Contribution)
    (made : EStateM.run (x.make ρ d) v = .ok ⟨⟩ w') (admits : v.Admits [x.entry]) :
    Stream ρ d w (es ++ [x.entry]) w'
  | frozen {es : List Entry} {v w' : World} (before : Stream ρ d w es v)
    (made : EStateM.run (Action.freeze ρ d) v = .ok ⟨⟩ w')
    (admits : w'.Admits (Action.frozenEntries ρ d v)) :
    Stream ρ d w (es ++ Action.frozenEntries ρ d v) w'
  | elsewhere {es : List Entry} {v w' : World} (before : Stream ρ d w es v)
    (apart : v.Apart d w') : Stream ρ d w es w'

/-- **A descriptor records its stream.** -/
theorem World.Stream.records {ρ : Dispatch} {d : DescriptorId} {w w' : World} {es : List Entry}
    (hρ : ρ.Respects (World.Beside d)) (intact : w.Intact) (h : w.Stream ρ d es w') :
    w'.Records d es := by
  induction h with
  | constructed components name made =>
    exact Action.records_construct hρ.library intact components name made
  | adapted app made admits => exact Action.records_forApplication hρ intact made admits
  | adaptedClass c made => exact Action.records_forApplicationClass hρ.library intact made
  | contributed _ x made admits ih => exact Action.records_make hρ.library ih made admits
  | frozen _ made admits ih => exact Action.records_freeze hρ ih made admits
  | elsewhere _ apart ih => exact ih.apart apart

/-- **What can be read off a stream**: the classes of a descriptor are those among the entries, each
    once; its singletons are those among the entries, each where it came first; and its properties
    and its providers are those that were written, each key in the place where it was written first
    and with the value that was written last. -/
structure Descriptor.Shows (rep : Ref → Ref) (es : List Entry) (x : Descriptor) : Prop where
  classes : ∀ r, r ∈ x.classes ↔ Entry.cls r ∈ es
  distinct : x.classes.Nodup
  singletons : x.singletons = (es.filterMap (·.singleton?)).eraseDups
  properties : Keyed.Overwritten Datum.key (es.filterMap (·.property?)) x.properties
  providers : Keyed.Overwritten rep (es.filterMap (·.provider?)) x.providers

/-- **A descriptor shows its stream**, however it was made, whatever was contributed to it, and
    whether it was frozen, as long as application code leaves it alone. -/
theorem World.Stream.shows {ρ : Dispatch} {d : DescriptorId} {w w' : World} {es : List Entry}
    (hρ : ρ.Respects (World.Beside d)) (intact : w.Intact) (h : w.Stream ρ d es w') :
    (w'.descriptor d).Shows w'.like es := by
  obtain ⟨-, admits, held⟩ := h.records hρ intact
  have written (r : Ref) : r ∈ es.filterMap (·.cls?) ↔ Entry.cls r ∈ es := by
    rw [List.mem_filterMap]
    constructor
    · rintro ⟨e, he, hcls⟩
      cases e with
      | cls r' => exact Option.some.inj hcls ▸ he
      | singleton | property | provider => exact nomatch hcls
    · exact fun he => ⟨_, he, rfl⟩
  have classes : (w'.descriptor d).classes = (es.filterMap (·.cls?)).eraseDups := by
    rw [held, ← Keyed.addAll_nil]
    refine Keyed.addAll_congr (fun _ hr => absurd hr List.not_mem_nil) fun r hr => ?_
    obtain ⟨k, rfl⟩ := admits.classes r ((written r).1 hr)
    rfl
  refine ⟨fun r => ?_, ?_, ?_, ?_, ?_⟩
  · rw [classes, List.mem_eraseDups]
    exact written r
  · rw [classes]
    exact nodup_eraseDups _
  · rw [held]
    exact Keyed.addAll_nil _
  · rw [held]
    exact Keyed.overwritten_putAll _
  · rw [held]
    exact Keyed.overwritten_putAll _

namespace World

/-- Entries that name nothing but classes, as classes and as services, can be written in any
    store. -/
theorem Admits.of_classes {es : List Entry} (h : es.all Entry.namesClass = true) (w : World) :
    w.Admits es := by
  rw [List.all_eq_true] at h
  have named (r : Ref) (hr : r.class?.isSome = true) : ∃ k, r = .cls k := by
    cases r with
    | cls k => exact ⟨k, rfl⟩
    | none | object | descriptor | datum => cases hr
  refine ⟨fun r hr => named r (h _ hr), fun service factory hs => ?_⟩
  obtain ⟨k, rfl⟩ := named service (h _ hs)
  trivial

/-- The shop, with two things that are equal and can be no keys. -/
def equalsStore : World :=
  { shopStore euros with
    things := #[⟨.stock .equal, .object ⟨0⟩, some "Equal"⟩,
      ⟨.stock .equal, .object ⟨0⟩, some "Equal"⟩] }

/-- What is written there: a thing, the one that is equal to it, the first again, two properties and
    a provider; and then, by the application, a class and its own currency. -/
def equalsEntries : List Entry :=
  [.singleton (.object ⟨0⟩), .singleton (.object ⟨1⟩), .singleton (.object ⟨0⟩),
    .property (.text "currency") (.text "USD"), .property (.text "lang") (.text "en"),
    .provider (.cls ⟨6⟩) (.object ⟨0⟩), .cls (.cls ⟨6⟩),
    .property (.text "currency") (.text "EUR")]

/-- **A descriptor that shows its stream**: it keeps the two equal things apart, and the currency
    stays in its place. -/
theorem shows_equalsEntries :
    Dispatch.library.Respects (World.Beside ⟨0⟩) ∧ equalsStore.Intact ∧
      equalsStore.like (.object ⟨0⟩) = equalsStore.like (.object ⟨1⟩) ∧
      ∃ w', equalsStore.Stream Dispatch.library ⟨0⟩ equalsEntries w' ∧
        (w'.descriptor ⟨0⟩).Shows w'.like equalsEntries ∧
        (w'.descriptor ⟨0⟩).singletons = [.object ⟨0⟩, .object ⟨1⟩] ∧
        (w'.descriptor ⟨0⟩).properties =
          [(.text "currency", .text "EUR"), (.text "lang", .text "en")] := by
  have intact : equalsStore.Intact := ⟨rfl, rfl, rfl⟩
  have waiting : equalsStore.Stream Dispatch.library ⟨0⟩ [] _ := .adaptedClass shopApp rfl
  have kept := ((waiting.contributed (.component (.object ⟨0⟩)) rfl (.of_classes rfl _)).contributed
    (.component (.object ⟨1⟩)) rfl (.of_classes rfl _)).contributed
    (.component (.object ⟨0⟩)) rfl (.of_classes rfl _)
  have told := ((kept.contributed (.property (.text "currency") (.text "USD")) rfl
    (.of_classes rfl _)).contributed (.property (.text "lang") (.text "en")) rfl
    (.of_classes rfl _)).contributed (.provider (.cls ⟨6⟩) (.object ⟨0⟩)) rfl (.of_classes rfl _)
  have stream := told.frozen rfl (.of_classes rfl _)
  have respects : Dispatch.library.Respects (World.Beside ⟨0⟩) :=
    Dispatch.discreet_library.respects_frame
  exact ⟨respects, intact, rfl, _, stream, stream.shows respects intact, rfl, rfl⟩

end World

end AppMount
