import AppMount.Offer
import AppMount.Proofs.Effects
import Mathlib.Logic.Function.Basic

/-!
# Stores with a copy of what another one added

Application code that is called in two stores makes new things in both, and these are different
things. That it does the same nevertheless means that there is a renaming: what is in the first
store goes to something in the other one that is like it, and new things go to new things.

* `Offer.rename`, `Descriptor.rename`: other things in the same places; `Descriptor.Mentions`: the
  things that a descriptor holds;
* `World.Copies`: a store with a copy of what another one added; `Copies.change`, `Copies.noting`,
  `Copies.newInstance`: what may be done on both sides; `Copies.later`: what may be done on one;
* `World.Carries`: a copy in which a descriptor also holds the copies of what it holds.
-/

namespace AppMount

/-! ## 1. Renaming -/

/-- What becomes of a reading when each item is replaced. -/
def Reading.map {α β : Type} (f : α → β) (r : Reading α) : Reading β :=
  ⟨r.items.map f, r.ending⟩

theorem Reading.upToFault_map {α β : Type} {faultOf : α → Option Fault}
    {faultOf' : β → Option Fault} {f : α → β} {items : List α} {ending : Option Fault}
    (h : ∀ a ∈ items, faultOf' (f a) = faultOf a) :
    upToFault faultOf' (items.map f) ending = (upToFault faultOf items ending).map f := by
  induction items with
  | nil => rfl
  | cons a rest ih =>
    have hrest := ih fun b hb => h b (List.mem_cons_of_mem _ hb)
    rw [List.map_cons, upToFault, upToFault, h a List.mem_cons_self, hrest]
    cases faultOf a <;> rfl

/-- What is read up to a fault is part of what was there. -/
theorem Reading.mem_upToFault {α : Type} {faultOf : α → Option Fault} {items : List α}
    {ending : Option Fault} {a : α} (h : a ∈ (upToFault faultOf items ending).items) :
    a ∈ items := by
  induction items with
  | nil => exact h
  | cons b rest ih =>
    rw [upToFault] at h
    cases hb : faultOf b with
    | some fault =>
      rw [hb] at h
      cases h
    | none =>
      rw [hb] at h
      rcases List.mem_cons.1 h with rfl | h
      · exact List.mem_cons_self
      · exact List.mem_cons_of_mem _ (ih h)

namespace Keyed

variable {α β γ δ κ τ : Type} [DecidableEq κ] [DecidableEq τ] {rep : α → κ} {rep' : β → τ}
  {f : α → β} {g : γ → δ} {P : α → Prop}

/-- **Adding renamed things** renames what is there, if the same ones count as the same. -/
theorem addAll_map (same : ∀ x y, P x → P y → (rep' (f x) = rep' (f y) ↔ rep x = rep y))
    {xs new : List α} (hxs : ∀ x ∈ xs, P x) (hnew : ∀ x ∈ new, P x) :
    addAll rep' (xs.map f) (new.map f) = (addAll rep xs new).map f := by
  induction new generalizing xs with
  | nil => rfl
  | cons x new ih =>
    have hx := hnew x List.mem_cons_self
    have step : add rep' (xs.map f) (f x) = (add rep xs x).map f := by
      by_cases h : ∃ y ∈ xs, rep y = rep x
      · obtain ⟨y, hy, he⟩ := h
        rw [add_of_present ⟨y, hy, he⟩,
          add_of_present ⟨f y, List.mem_map_of_mem hy, (same y x (hxs y hy) hx).2 he⟩]
      · rw [add_of_absent fun y hy he => h ⟨y, hy, he⟩, add_of_absent, List.map_append,
          List.map_singleton]
        intro y hy he
        obtain ⟨z, hz, rfl⟩ := List.mem_map.1 hy
        exact h ⟨z, hz, (same z x (hxs z hz) hx).1 he⟩
    have there : ∀ y ∈ add rep xs x, P y := by
      intro y hy
      have added : y ∈ addAll rep xs [x] := hy
      rcases mem_addAll added with hy | hy
      · exact hxs y hy
      · exact List.mem_singleton.1 hy ▸ hx
    show addAll rep' (add rep' (xs.map f) (f x)) (new.map f) = (addAll rep (add rep xs x) new).map f
    rw [step]
    exact ih there fun y hy => hnew y (List.mem_cons_of_mem _ hy)

theorem put_map (same : ∀ x y, P x → P y → (rep' (f x) = rep' (f y) ↔ rep x = rep y)) {k : α}
    {v : γ} {entries : List (α × γ)} (hk : P k) (he : ∀ e ∈ entries, P e.1) :
    put rep' (f k) (g v) (entries.map (Prod.map f g)) =
      (put rep k v entries).map (Prod.map f g) := by
  induction entries with
  | nil => rfl
  | cons e rest ih =>
    have hrest := ih fun e' he' => he e' (List.mem_cons_of_mem _ he')
    have heq := same e.1 k (he e List.mem_cons_self) hk
    obtain ⟨k', v'⟩ := e
    simp only [List.map_cons, Prod.map_apply, put]
    by_cases h : rep k' = rep k
    · rw [if_pos h, if_pos (heq.2 h)]
      rfl
    · rw [if_neg h, if_neg (h ∘ heq.1), hrest]
      rfl

/-- **Writing renamed entries** renames what is there. -/
theorem putAll_map (same : ∀ x y, P x → P y → (rep' (f x) = rep' (f y) ↔ rep x = rep y))
    {entries new : List (α × γ)} (he : ∀ e ∈ entries, P e.1) (hnew : ∀ e ∈ new, P e.1) :
    putAll rep' (entries.map (Prod.map f g)) (new.map (Prod.map f g)) =
      (putAll rep entries new).map (Prod.map f g) := by
  induction new generalizing entries with
  | nil => rfl
  | cons e new ih =>
    have hk := hnew e List.mem_cons_self
    have there : ∀ e' ∈ put rep e.1 e.2 entries, P e'.1 := by
      intro e' he'
      have written : e'.1 ∈ (putAll rep entries [e]).map (·.1) := List.mem_map_of_mem he'
      rcases mem_keys_putAll written with h | h
      · obtain ⟨e'', he'', heq⟩ := List.mem_map.1 h
        exact heq ▸ he e'' he''
      · exact List.mem_singleton.1 h ▸ hk
    show putAll rep' (put rep' (f e.1) (g e.2) (entries.map (Prod.map f g)))
      (new.map (Prod.map f g)) = (putAll rep (put rep e.1 e.2 entries) new).map (Prod.map f g)
    rw [put_map same hk he]
    exact ih there fun e' he' => hnew e' (List.mem_cons_of_mem _ he')

end Keyed

/-- An offer with other things in the same places. -/
def Offer.rename (σ : Ref → Ref) : Offer → Offer
  | .list items => .list (items.map σ)
  | .set items codes => .set (items.map σ) codes
  | .stream reading => .stream (reading.map σ)
  | .entries pairs place => .entries pairs place
  | .datum d place => .datum d place

/-- **A descriptor with other things in the same places.** -/
def Descriptor.rename (σ : Ref → Ref) (x : Descriptor) : Descriptor :=
  { x with
    classes := x.classes.map σ
    singletons := x.singletons.map σ
    providers := x.providers.map (Prod.map σ σ)
    application := x.application.map σ
    given := x.given.map σ }

/-- **The things that a descriptor holds**, or that were made for it. -/
def Descriptor.Mentions (x : Descriptor) (r : Ref) : Prop :=
  r ∈ x.classes ∨ r ∈ x.singletons ∨ r ∈ x.providers.map (·.1) ∨ r ∈ x.providers.map (·.2) ∨
    x.application = some r ∨ r ∈ x.given

namespace Descriptor

variable {x : Descriptor} {σ τ : Ref → Ref}

theorem rename_congr (h : ∀ r, x.Mentions r → σ r = τ r) : x.rename σ = x.rename τ := by
  have classes : x.classes.map σ = x.classes.map τ :=
    List.map_congr_left fun r hr => h r (.inl hr)
  have singletons : x.singletons.map σ = x.singletons.map τ :=
    List.map_congr_left fun r hr => h r (.inr (.inl hr))
  have providers : x.providers.map (Prod.map σ σ) = x.providers.map (Prod.map τ τ) :=
    List.map_congr_left fun p hp => Prod.ext
      (h _ (.inr (.inr (.inl (List.mem_map_of_mem hp)))))
      (h _ (.inr (.inr (.inr (.inl (List.mem_map_of_mem hp))))))
  have application : x.application.map σ = x.application.map τ :=
    Option.map_congr fun r hr => h r (.inr (.inr (.inr (.inr (.inl hr)))))
  have given : x.given.map σ = x.given.map τ :=
    List.map_congr_left fun r hr => h r (.inr (.inr (.inr (.inr (.inr hr)))))
  unfold rename
  rw [classes, singletons, providers, application, given]

theorem rename_of_fixed (h : ∀ r, x.Mentions r → σ r = r) : x.rename σ = x := by
  have same : x.rename σ = x.rename id := rename_congr h
  rw [same]
  simp [rename]

theorem rename_rename : (x.rename σ).rename τ = x.rename (τ ∘ σ) := by
  simp [rename, Function.comp_def]

theorem mentions_rename {r : Ref} (h : (x.rename σ).Mentions r) : ∃ s, x.Mentions s ∧ σ s = r := by
  rcases h with h | h | h | h | h | h
  · obtain ⟨s, hs, rfl⟩ := List.mem_map.1 h
    exact ⟨s, .inl hs, rfl⟩
  · obtain ⟨s, hs, rfl⟩ := List.mem_map.1 h
    exact ⟨s, .inr (.inl hs), rfl⟩
  · obtain ⟨_, hq, rfl⟩ := List.mem_map.1 h
    obtain ⟨p, hp, rfl⟩ := List.mem_map.1 hq
    exact ⟨p.1, .inr (.inr (.inl (List.mem_map_of_mem hp))), rfl⟩
  · obtain ⟨_, hq, rfl⟩ := List.mem_map.1 h
    obtain ⟨p, hp, rfl⟩ := List.mem_map.1 hq
    exact ⟨p.2, .inr (.inr (.inr (.inl (List.mem_map_of_mem hp)))), rfl⟩
  · obtain ⟨s, hs, rfl⟩ := Option.map_eq_some_iff.1 h
    exact ⟨s, .inr (.inr (.inr (.inr (.inl hs)))), rfl⟩
  · obtain ⟨s, hs, rfl⟩ := List.mem_map.1 h
    exact ⟨s, .inr (.inr (.inr (.inr (.inr hs)))), rfl⟩

end Descriptor

theorem Ref.mem_ofData {place : Nat} {data : List Datum} {r : Ref} (h : r ∈ ofData place data) :
    ∃ place d, r = ofDatum place d := by
  induction data generalizing place with
  | nil => cases h
  | cons d rest ih =>
    rcases List.mem_cons.1 h with rfl | h
    · exact ⟨_, d, rfl⟩
    · exact ih h

namespace Offer

variable {o : Offer} {σ : Ref → Ref}

/-- **A renamed offer is read as before**, with the other things, if data stay what they are. -/
theorem elements_rename (data : ∀ place d, σ (.ofDatum place d) = .ofDatum place d) :
    (o.rename σ).elements = o.elements.map σ := by
  have fixed (place : Nat) (ds : List Datum) :
      (Ref.ofData place ds).map σ = Ref.ofData place ds := by
    have same : (Ref.ofData place ds).map σ = (Ref.ofData place ds).map id :=
      List.map_congr_left fun r hr => by
        obtain ⟨place, d, rfl⟩ := Ref.mem_ofData hr
        exact data place d
    rw [same, List.map_id]
  cases o with
  | list | set | stream => rfl
  | entries pairs place =>
    exact congrArg (Reading.mk · none) (fixed place _).symm
  | datum d place =>
    unfold rename elements
    dsimp only
    cases d.elements? with
    | none => rfl
    | some ds => exact congrArg (Reading.mk · none) (fixed place ds).symm

theorem rename_of_fixed (h : ∀ r ∈ o.elements.items, σ r = r) : o.rename σ = o := by
  have same {items : List Ref} (h : ∀ r ∈ items, σ r = r) : items.map σ = items :=
    (List.map_congr_left h).trans (List.map_id _)
  cases o with
  | list items => exact congrArg Offer.list (same h)
  | set items codes => exact congrArg (Offer.set · codes) (same h)
  | stream reading =>
    exact congrArg (fun items => Offer.stream ⟨items, reading.ending⟩) (same h)
  | entries | datum => rfl

theorem entries?_rename : (o.rename σ).entries? = o.entries? := by
  cases o <;> rfl

end Offer

/-! ## 2. Stores -/

namespace World

variable {w v u u' u'' u₁ w' w'' : World} {σ τ : Ref → Ref} {d : DescriptorId} {r : Ref}

/-- **A store in which what things are equal to is there as well.** -/
def Closed (w : World) : Prop :=
  ∀ r, w.Stores r → w.Stores (w.like r)

theorem Closed.of_grows (h : w.Closed) (forth : w.Grows w') (back : w'.Grows w) : w'.Closed := by
  intro r hr
  have hr := back.stores hr
  rw [forth.like hr]
  exact forth.stores (h r hr)

/-- **A store with a copy of what another one added.** One store grew out of `w` to `u`, and the
    other one, out of `v` to `u'`; `σ` leads from the first to the second. What was in `w` leads to
    itself, and what was added to it, to things that were added to `v`, no two to the same. What a
    thing leads to is of the same kind and class, has the same value, can be a key or not for the
    same reason, and is equal to what is led to by what the thing is equal to; a descriptor leads to
    one that holds what is led to by what it holds. -/
structure Copies (w v : World) (σ : Ref → Ref) (u u' : World) : Prop where
  base : w.Grows v
  grows : w.Grows u
  grows' : v.Grows u'
  closed : u.Closed
  closed' : u'.Closed
  fixed : ∀ r, w.Stores r → σ r = r
  stores : ∀ r, u.Stores r → u'.Stores (σ r)
  fresh : ∀ r, u.Stores r → ¬ w.Stores r → ¬ v.Stores (σ r)
  injective : ∀ r s, u.Stores r → u.Stores s → σ r = σ s → r = s
  kind : ∀ r, u.Stores r → ((σ r).descriptor? = none ↔ r.descriptor? = none)
  classOf? : ∀ r, u.Stores r → u'.classOf? (σ r) = u.classOf? r
  value? : ∀ r, u.Stores r → u'.value? (σ r) = u.value? r
  keyFault? : ∀ r, u.Stores r → u'.keyFault? (σ r) = u.keyFault? r
  like : ∀ r s, u.Stores r → u.Stores s → (u'.like (σ r) = u'.like (σ s) ↔ u.like r = u.like s)
  descriptor : ∀ e, u.HasDescriptor e → ¬ w.HasDescriptor e →
    (∀ r, (u.descriptor e).Mentions r → u.Stores r) ∧
    ∃ e', σ (.descriptor e) = .descriptor e' ∧ u'.descriptor e' = (u.descriptor e).rename σ

/-- Where nothing was added, everything leads to itself. -/
theorem Copies.refl (h : w.Grows v) (closed : w.Closed) (closed' : v.Closed) :
    w.Copies v id w v where
  base := h
  grows := .refl w
  grows' := .refl v
  closed := closed
  closed' := closed'
  fixed _ _ := rfl
  stores _ hr := h.stores hr
  fresh _ hr hn := absurd hr hn
  injective _ _ _ _ he := he
  kind _ _ := Iff.rfl
  classOf? _ hr := h.classOf? hr
  value? _ hr := h.value? hr
  keyFault? _ hr := h.keyFault? hr
  like r s hr hs := by rw [id, id, h.like hr, h.like hs]
  descriptor _ hd hn := absurd hd hn

/-- Data lead to themselves. -/
theorem Copies.ofDatum (h : w.Copies v σ u u') (place : Nat) (x : Datum) :
    σ (.ofDatum place x) = .ofDatum place x :=
  h.fixed _ (stores_ofDatum w place x)

theorem Copies.eq_none_iff (h : w.Copies v σ u u') (hr : u.Stores r) : σ r = .none ↔ r = .none := by
  have none : σ .none = .none := h.fixed .none trivial
  refine ⟨fun he => h.injective r .none hr trivial (he.trans none.symm), ?_⟩
  rintro rfl
  exact none

/-- What is a copy is one next to all that was added. -/
theorem Copies.rebase (h : w.Copies v σ u u') : w.Copies w σ u u' :=
  { h with
    base := .refl w
    grows' := h.base.trans h.grows'
    fresh := fun r hr hn hw => h.fresh r hr hn (h.base.stores hw) }

/-- **A copy remains one**, if the descriptors that were added are left as they are. -/
theorem Copies.later (h : w.Copies v σ u u') (later : u'.Grows u'') (closed : u''.Closed)
    (kept : ∀ e, u'.HasDescriptor e → ¬ w.HasDescriptor e → u''.descriptor e = u'.descriptor e) :
    w.Copies v σ u u'' :=
  { h with
    grows' := h.grows'.trans later
    closed' := closed
    stores := fun r hr => later.stores (h.stores r hr)
    classOf? := fun r hr => (later.classOf? (h.stores r hr)).trans (h.classOf? r hr)
    value? := fun r hr => (later.value? (h.stores r hr)).trans (h.value? r hr)
    keyFault? := fun r hr => (later.keyFault? (h.stores r hr)).trans (h.keyFault? r hr)
    like := fun r s hr hs => by
      rw [later.like (h.stores r hr), later.like (h.stores s hs), h.like r s hr hs]
    descriptor := fun e he hn => by
      obtain ⟨held, e', hσ, same⟩ := h.descriptor e he hn
      have stored := h.stores (.descriptor e) he
      have fresh := h.fresh (.descriptor e) he hn
      rw [hσ] at stored fresh
      exact ⟨held, e', hσ, (kept e' stored fun hw => fresh (h.base.has e' hw)).trans same⟩ }

/-- **What is copied may be changed** as long as nothing is added, and what was added is left as it
    is. -/
theorem Copies.of_source (h : w.Copies v σ u u') (forth : u.Grows u₁) (back : u₁.Grows u)
    (kept : ∀ e, ¬ w.HasDescriptor e → u₁.descriptor e = u.descriptor e) : w.Copies v σ u₁ u' :=
  { h with
    grows := h.grows.trans forth
    closed := h.closed.of_grows forth back
    stores := fun r hr => h.stores r (back.stores hr)
    fresh := fun r hr => h.fresh r (back.stores hr)
    injective := fun r s hr hs => h.injective r s (back.stores hr) (back.stores hs)
    kind := fun r hr => h.kind r (back.stores hr)
    classOf? := fun r hr => (h.classOf? r (back.stores hr)).trans (back.classOf? hr)
    value? := fun r hr => (h.value? r (back.stores hr)).trans (back.value? hr)
    keyFault? := fun r hr => (h.keyFault? r (back.stores hr)).trans (back.keyFault? hr)
    like := fun r s hr hs => by
      rw [h.like r s (back.stores hr) (back.stores hs), back.like hr, back.like hs]
    descriptor := fun e he hn => by
      obtain ⟨held, e', hσ, same⟩ := h.descriptor e (back.has e he) hn
      rw [kept e hn]
      exact ⟨fun r hr => forth.stores (held r hr), e', hσ, same⟩ }

/-- What was there before may be changed on both sides. -/
theorem Copies.change (h : w.Copies v σ u u') (hd : w.HasDescriptor d)
    {f f' : Descriptor → Descriptor} (hf : ∀ x, (f x).cls = x.cls) (hf' : ∀ x, (f' x).cls = x.cls) :
    w.Copies v σ (u.changeDescriptor d f) (u'.changeDescriptor d f') := by
  have other {e : DescriptorId} (hn : ¬ w.HasDescriptor e) : d ≠ e := fun hde => hn (hde ▸ hd)
  have changed := h.of_source (Grows.change (d := d) u hf) (Grows.of_change u hf)
    fun e hn => descriptor_change_of_ne (other hn) f
  exact changed.later (Grows.change u' hf')
    (h.closed'.of_grows (Grows.change u' hf') (Grows.of_change u' hf'))
    fun e _ hn => descriptor_change_of_ne (other hn) f'

theorem Grows.noting (w : World) (calls : List Call) : w.Grows { w with calls := calls } :=
  ⟨rfl, rfl, rfl, rfl, fun _ h => h, fun _ _ h => h, fun _ _ => rfl⟩

theorem Grows.of_noting (w : World) (calls : List Call) :
    ({ w with calls := calls } : World).Grows w :=
  ⟨rfl, rfl, rfl, rfl, fun _ h => h, fun _ _ h => h, fun _ _ => rfl⟩

/-- That application code was called may be noted on both sides. -/
theorem Copies.noting (h : w.Copies v σ u u') (calls calls' : List Call) :
    w.Copies v σ { u with calls := calls } { u' with calls := calls' } := by
  have noted := h.of_source (Grows.noting u calls) (Grows.of_noting u calls) fun _ _ => rfl
  exact noted.later (Grows.noting u' calls')
    (h.closed'.of_grows (Grows.noting u' calls') (Grows.of_noting u' calls')) fun _ _ _ => rfl

/-! ## 3. New instances -/

theorem not_stores_newThing (w : World) (x : Content) : ¬ w.Stores (.object (w.newThing x).1) := by
  rintro ⟨t, ht⟩
  obtain ⟨hlt, -⟩ := Array.getElem?_eq_some_iff.1 ht
  exact Nat.lt_irrefl _ hlt

/-- What is there after an object was added was there before, or is that object. -/
theorem stores_newThing_iff (w : World) (x : Content) (r : Ref) :
    (w.newThing x).2.Stores r ↔ w.Stores r ∨ r = .object (w.newThing x).1 := by
  constructor
  · intro hr
    cases r with
    | none | cls | descriptor | datum => exact .inl hr
    | object o =>
      obtain ⟨t, ht⟩ := hr
      simp only [thing?, newThing, Array.getElem?_push] at ht
      split at ht
      · rename_i ho
        exact .inr (congrArg Ref.object (congrArg ObjectId.mk ho))
      · exact .inl ⟨t, ht⟩
  · rintro (hr | rfl)
    · exact ((Step.thing w x).effect (L := .none)).grows.stores hr
    · exact stores_newThing w x

theorem Grows.newThing (w : World) (x : Content) : w.Grows (w.newThing x).2 :=
  ((Step.thing w x).effect (L := .none)).grows

/-- **A store with one more instance of a class**, which is equal to itself only, has no value and
    can be a key. -/
structure NewInstance (u : World) (c : ClassId) (o : ObjectId) (u₁ : World) : Prop where
  grows : u.Grows u₁
  absent : ¬ u.Stores (.object o)
  there : ∀ r, u₁.Stores r ↔ u.Stores r ∨ r = .object o
  descriptor : ∀ e, u₁.descriptor e = u.descriptor e
  like : u₁.like (.object o) = .object o
  classOf? : u₁.classOf? (.object o) = some c
  value? : u₁.value? (.object o) = none
  keyFault? : u₁.keyFault? (.object o) = none

theorem newInstance_newThing {c : ClassId} (hc : ClassId.mapping ∉ u.lineage c) :
    u.NewInstance c (u.newThing (.made c none)).1 (u.newThing (.made c none)).2 := by
  have keyed : u.keylessWord? (.made c none) = none :=
    if_neg fun h => hc (List.contains_iff_mem.1 h)
  have made : (u.newThing (.made c none)).2.thing? (u.newThing (.made c none)).1 =
      some ⟨.made c none, .object (u.newThing (.made c none)).1, none⟩ := by
    simp only [thing?, newThing, keyed, Array.getElem?_push_size]
    rfl
  refine
    { grows := .newThing u _
      absent := not_stores_newThing u _
      there := stores_newThing_iff u _
      descriptor := fun _ => rfl
      like := ?_
      classOf? := ?_
      value? := ?_
      keyFault? := ?_ }
  · simp only [World.like, made, Option.elim_some]
  · simp only [World.classOf?, content?, made, Option.map_some]
  · simp only [World.value?, content?, made, Option.map_some]
  · simp only [World.keyFault?, made, Option.bind_some, Option.map_none]

namespace NewInstance

variable {c : ClassId} {o o' : ObjectId} {u₁' : World}

/-- What is there is the new instance or was there before. -/
theorem each {P : Ref → Prop} (n : u.NewInstance c o u₁) (before : ∀ r, u.Stores r → P r)
    (added : P (.object o)) (r : Ref) (hr : u₁.Stores r) : P r :=
  ((n.there r).1 hr).elim (before r) fun he => he ▸ added

theorem both {P : Ref → Ref → Prop} (n : u.NewInstance c o u₁)
    (before : ∀ r s, u.Stores r → u.Stores s → P r s)
    (first : ∀ s, u.Stores s → P (.object o) s) (second : ∀ r, u.Stores r → P r (.object o))
    (added : P (.object o) (.object o)) (r s : Ref) (hr : u₁.Stores r) (hs : u₁.Stores s) : P r s :=
  n.each (P := fun r => P r s)
    (fun r hr => n.each (fun s hs => before r s hr hs) (second r hr) s hs)
    (n.each first added s hs) r hr

theorem stores (n : u.NewInstance c o u₁) : u₁.Stores (.object o) :=
  (n.there _).2 (.inr rfl)

theorem closed (n : u.NewInstance c o u₁) (h : u.Closed) : u₁.Closed := by
  refine n.each (fun r hr => ?_) ?_
  · rw [n.grows.like hr]
    exact n.grows.stores (h r hr)
  · rw [n.like]
    exact n.stores

theorem ne (n : u.NewInstance c o u₁) (hr : u.Stores r) : r ≠ .object o :=
  fun he => n.absent (he ▸ hr)

/-- Nothing that was there before is equal to it. -/
theorem like_ne (n : u.NewInstance c o u₁) (h : u.Closed) (hr : u.Stores r) :
    u₁.like r ≠ u₁.like (.object o) := by
  rw [n.grows.like hr, n.like]
  exact n.ne (h r hr)

end NewInstance

/-- **Instances of the same class may be made on both sides**; one leads to the other. -/
theorem Copies.newInstance (h : w.Copies v σ u u') {c : ClassId} {o o' : ObjectId} {u₁' : World}
    (n : u.NewInstance c o u₁) (n' : u'.NewInstance c o' u₁') :
    w.Copies v (Function.update σ (.object o) (.object o')) u₁ u₁' := by
  have old {r : Ref} (hr : u.Stores r) : Function.update σ (.object o) (.object o') r = σ r :=
    Function.update_of_ne (n.ne hr) ..
  have new : Function.update σ (.object o) (.object o') (.object o) = .object o' :=
    Function.update_self ..
  have led {r : Ref} (hr : u.Stores r) : u'.Stores (σ r) := h.stores r hr
  refine
    { base := h.base
      grows := h.grows.trans n.grows
      grows' := h.grows'.trans n'.grows
      closed := n.closed h.closed
      closed' := n'.closed h.closed'
      fixed := fun r hr => (old (h.grows.stores hr)).trans (h.fixed r hr)
      stores := n.each (fun r hr => ?_) ?_
      fresh := n.each (fun r hr hn => ?_) fun _ hv => ?_
      injective := n.both (fun r s hr hs he => ?_) (fun s hs he => ?_) (fun r hr he => ?_)
        fun _ => rfl
      kind := n.each (fun r hr => ?_) ?_
      classOf? := n.each (fun r hr => ?_) ?_
      value? := n.each (fun r hr => ?_) ?_
      keyFault? := n.each (fun r hr => ?_) ?_
      like := n.both (fun r s hr hs => ?_) (fun s hs => ?_) (fun r hr => ?_) (iff_of_true rfl rfl)
      descriptor := fun e he hn => ?_ }
  · rw [old hr]
    exact n'.grows.stores (led hr)
  · rw [new]
    exact n'.stores
  · rw [old hr]
    exact h.fresh r hr hn
  · rw [new] at hv
    exact n'.absent (h.grows'.stores hv)
  · rw [old hr, old hs] at he
    exact h.injective r s hr hs he
  · rw [old hs, new] at he
    exact absurd he.symm (n'.ne (led hs))
  · rw [old hr, new] at he
    exact absurd he (n'.ne (led hr))
  · rw [old hr]
    exact h.kind r hr
  · rw [new]
    exact Iff.rfl
  · rw [old hr, n'.grows.classOf? (led hr), n.grows.classOf? hr, h.classOf? r hr]
  · rw [new, n.classOf?, n'.classOf?]
  · rw [old hr, n'.grows.value? (led hr), n.grows.value? hr, h.value? r hr]
  · rw [new, n.value?, n'.value?]
  · rw [old hr, n'.grows.keyFault? (led hr), n.grows.keyFault? hr, h.keyFault? r hr]
  · rw [new, n.keyFault?, n'.keyFault?]
  · rw [old hr, old hs, n'.grows.like (led hr), n'.grows.like (led hs), n.grows.like hr,
      n.grows.like hs]
    exact h.like r s hr hs
  · rw [old hs, new]
    exact iff_of_false (n'.like_ne h.closed' (led hs)).symm (n.like_ne h.closed hs).symm
  · rw [old hr, new]
    exact iff_of_false (n'.like_ne h.closed' (led hr)) (n.like_ne h.closed hr)
  · have he : u.HasDescriptor e := ((n.there (.descriptor e)).1 he).resolve_right nofun
    obtain ⟨held, e', hσ, same⟩ := h.descriptor e he hn
    rw [n.descriptor e]
    refine ⟨fun r hr => n.grows.stores (held r hr), e', (old (r := .descriptor e) he).trans hσ, ?_⟩
    rw [n'.descriptor e', same]
    exact Descriptor.rename_congr fun r hr => (old (held r hr)).symm

/-! ## 4. Descriptors that are carried over -/

/-- **A copy in which a descriptor holds the copies of what it holds in the other store.** -/
structure Carries (w v : World) (d : DescriptorId) (σ : Ref → Ref) (u u' : World) : Prop where
  copies : w.Copies v σ u u'
  held : ∀ r, (u.descriptor d).Mentions r → u.Stores r
  same : u'.descriptor d = (u.descriptor d).rename σ

theorem Carries.rebase (h : w.Carries v d σ u u') : w.Carries w d σ u u' :=
  { h with copies := h.copies.rebase }

theorem Carries.later (h : w.Carries v d σ u u') (later : u'.Grows u'') (closed : u''.Closed)
    (kept : ∀ e, u'.HasDescriptor e → e = d ∨ ¬ w.HasDescriptor e →
      u''.descriptor e = u'.descriptor e) (hd : w.HasDescriptor d) : w.Carries v d σ u u'' where
  copies := h.copies.later later closed fun e he hn => kept e he (.inr hn)
  held := h.held
  same := (kept d (h.copies.grows'.has d (h.copies.base.has d hd)) (.inl rfl)).trans h.same

/-- A descriptor may be changed on both sides in the same way. -/
theorem Carries.change (h : w.Carries v d σ u u') (hd : w.HasDescriptor d)
    {f f' : Descriptor → Descriptor} (hf : ∀ x, (f x).cls = x.cls) (hf' : ∀ x, (f' x).cls = x.cls)
    (held : ∀ r, (f (u.descriptor d)).Mentions r → u.Stores r)
    (same : f' ((u.descriptor d).rename σ) = (f (u.descriptor d)).rename σ) :
    w.Carries v d σ (u.changeDescriptor d f) (u'.changeDescriptor d f') where
  copies := h.copies.change hd hf hf'
  held r hr := by
    rw [descriptor_change_self (h.copies.grows.has d hd)] at hr
    exact (Grows.change u hf).stores (held r hr)
  same := by
    rw [descriptor_change_self (h.copies.grows.has d hd),
      descriptor_change_self (h.copies.grows'.has d (h.copies.base.has d hd)), h.same, same]

end World

end AppMount
