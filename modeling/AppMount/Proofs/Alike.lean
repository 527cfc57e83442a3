import AppMount.Proofs.Copies
import AppMount.Proofs.Freezing

/-!
# Freezing in two stores

What freezing a descriptor comes to does not depend on what else was added to the store before, if
the application code does the same whenever it is called.

* `Action.Alike`: two runs that come to the same, up to a renaming (`Alike.bind`);
* `World.Regular`: application classes whose code does the same whenever it is called;
  `World.Repeatable`: descriptors that wait for an application of such a class, if for any;
* `alike_taking`: one stage of absorbing (`alike_absorbClasses` and its companions);
* `alike_freeze`: freezing a repeatable descriptor comes to the same, whatever was added before;
* `FixedAnswers.regular`: classes whose instances always give the same answers are regular.
-/

namespace AppMount

/-! ## 1. Two runs -/

namespace Action

open World (Copies Carries)

variable {α β : Type} {R : (Ref → Ref) → World → World → Prop} {σ τ : Ref → Ref}
  {w v u u' u₁ u₁' : World}

/-- **Two runs that come to the same**, up to a renaming: either both fail, or both come to an end,
    and a renaming that goes further than the one at the start relates the stores after them and
    what they hand back. -/
inductive Alike (R : (Ref → Ref) → World → World → Prop) (σ : Ref → Ref) (u : World)
    (post : (Ref → Ref) → World → α → α → Prop) :
    EStateM.Result Fault World α → EStateM.Result Fault World α → Prop where
  | ok {τ : Ref → Ref} {a a' : α} {u₁ u₁' : World}
    (further : ∀ r, u.Stores r → u₁.Stores r ∧ τ r = σ r) (related : R τ u₁ u₁')
    (hpost : post τ u₁ a a') : Alike R σ u post (.ok a u₁) (.ok a' u₁')
  | error {fault fault' : Fault} {u₁ u₁' : World} :
    Alike R σ u post (.error fault u₁) (.error fault' u₁')

variable {post : (Ref → Ref) → World → α → α → Prop} {r r' : EStateM.Result Fault World α}

/-- Both runs come to an end, or neither does. -/
theorem Alike.ok_iff (h : Alike R σ u post r r') :
    (∃ a w, r = .ok a w) ↔ ∃ a w, r' = .ok a w := by
  cases h with
  | ok => exact ⟨fun _ => ⟨_, _, rfl⟩, fun _ => ⟨_, _, rfl⟩⟩
  | error => simp

/-- The runs may be said to start from an earlier store. -/
theorem Alike.of_later {u₀ : World} (h : Alike R σ u post r r')
    (hu : ∀ r, u₀.Stores r → u.Stores r) : Alike R σ u₀ post r r' := by
  cases h with
  | ok further related hpost => exact .ok (fun r hr => further r (hu r hr)) related hpost
  | error => exact .error

/-- What is known of the first run may be used. -/
theorem Alike.and {Q : World → α → Prop} (h : Alike R σ u post r r')
    (hQ : ∀ a u₁, r = .ok a u₁ → Q u₁ a) :
    Alike R σ u (fun τ u₁ a a' => post τ u₁ a a' ∧ Q u₁ a) r r' := by
  cases h with
  | ok further related hpost => exact .ok further related ⟨hpost, hQ _ _ rfl⟩
  | error => exact .error

/-- **One part after another**: the renaming goes further from one to the next. -/
theorem Alike.bind {R' : (Ref → Ref) → World → World → Prop}
    {post' : (Ref → Ref) → World → β → β → Prop} {x x' : Action α} {f f' : α → Action β}
    (hx : Alike R σ u post (EStateM.run x u) (EStateM.run x' u'))
    (hf : ∀ τ u₁ u₁' a a', (∀ r, u.Stores r → u₁.Stores r ∧ τ r = σ r) → R τ u₁ u₁' →
      post τ u₁ a a' → Alike R' τ u₁ post' (EStateM.run (f a) u₁) (EStateM.run (f' a') u₁')) :
    Alike R' σ u post' (EStateM.run (x >>= f) u) (EStateM.run (x' >>= f') u') := by
  rw [EStateM.run_bind, EStateM.run_bind]
  generalize EStateM.run x u = r at hx
  generalize EStateM.run x' u' = r' at hx
  cases hx with
  | error => exact .error
  | @ok τ a a' u₁ u₁' further related hpost =>
    have rest := hf τ u₁ u₁' a a' further related hpost
    dsimp only
    generalize EStateM.run (f a) u₁ = s at rest
    generalize EStateM.run (f' a') u₁' = s' at rest
    cases rest with
    | error => exact .error
    | ok further' related' hpost' =>
      refine .ok (fun r hr => ?_) related' hpost'
      obtain ⟨stored, same⟩ := further r hr
      obtain ⟨stored', same'⟩ := further' r stored
      exact ⟨stored', same'.trans same⟩

/-- **What makes new things only leaves a descriptor alone** that is carried over. -/
theorem Alike.carries {x x' : Action α} {d : DescriptorId} (hd : w.HasDescriptor d)
    (h : w.Carries v d σ u u') (hx : Heeds .none x) (hx' : Heeds .none x')
    (alike : Alike (w.Copies v) σ u post (EStateM.run x u) (EStateM.run x' u')) :
    Alike (w.Carries v d) σ u post (EStateM.run x u) (EStateM.run x' u') := by
  have same := (hx u).same (h.copies.grows.has d hd)
  have same' := (hx' u').same (h.copies.grows'.has d (h.copies.base.has d hd))
  generalize EStateM.run x u = r at alike same
  generalize EStateM.run x' u' = r' at alike same'
  cases alike with
  | error => exact .error
  | @ok τ a a' u₁ u₁' further copies hpost =>
    rw [left_ok] at same same'
    refine .ok further ⟨copies, fun r hr => ?_, ?_⟩ hpost
    · rw [same] at hr
      exact (further r (h.held r hr)).1
    · rw [same, same', h.same]
      exact Descriptor.rename_congr fun r hr => (further r (h.held r hr)).2.symm

end Action

/-! ## 2. Regular application code -/

namespace World

open AppMount.Action (Alike)

/-- **An application that a class made** in some store that grew out of `w`, as it is there in a
    later one. -/
def Made (w : World) (ρ : Dispatch) (c : ClassId) (app : Ref) (u : World) : Prop :=
  ∃ u₀ u₁, w.Grows u₀ ∧ EStateM.run (Action.instantiate ρ c) u₀ = .ok app u₁ ∧ u₁.Grows u

/-- **An application class whose code does the same whenever it is called**: in a store with a copy
    of what was added to another one, it makes an application that is a copy, and applications that
    are copies answer with copies. -/
structure Regular (w : World) (ρ : Dispatch) (c : ClassId) : Prop where
  makes : ∀ v σ u u', w.Copies v σ u u' → Alike (w.Copies v) σ u (fun τ _ a a' => a' = τ a)
    (EStateM.run (Action.instantiate ρ c) u) (EStateM.run (Action.instantiate ρ c) u')
  answers : ∀ v σ u u' app h, w.Copies v σ u u' → w.Made ρ c app u →
    Alike (w.Copies v) σ u
      (fun τ u₁ o o' => o' = o.rename τ ∧ ∀ r ∈ o.elements.items, u₁.Stores r)
      (EStateM.run (Action.ask ρ app h) u) (EStateM.run (Action.ask ρ (σ app) h) u')

/-- **A descriptor that may be frozen at any time**: the class of the application that it waits for,
    if it waits for one, is regular. -/
def Repeatable (w : World) (ρ : Dispatch) (d : DescriptorId) : Prop :=
  (w.descriptor d).isPending = true → ∀ c, (w.descriptor d).applicationClass = some c →
    w.Regular ρ c

variable {w v u u' u₁ : World} {ρ : Dispatch} {c : ClassId} {app : Ref}

theorem Made.later (h : w.Made ρ c app u) (later : u.Grows u₁) : w.Made ρ c app u₁ := by
  obtain ⟨u₀, made, grows, run, kept⟩ := h
  exact ⟨u₀, made, grows, run, kept.trans later⟩

theorem Made.stores (hρ : ρ.Discreet) (h : w.Made ρ c app u) : u.Stores app := by
  obtain ⟨u₀, made, -, run, kept⟩ := h
  exact kept.stores ((Action.makes_instantiate hρ.respects c).new run).1

/-- An application that is a descriptor was not there before. -/
theorem Made.fresh (hρ : ρ.Discreet) {e : DescriptorId} (h : w.Made ρ c (.descriptor e) u) :
    ¬ w.HasDescriptor e := by
  obtain ⟨u₀, made, grows, run, -⟩ := h
  exact fun he => ((Action.makes_instantiate hρ.respects c).new run).2 e rfl (grows.has e he)

/-- **A descriptor that absorbs an application, and a copy of both**: `σ` leads from the application
    to the one that the copy absorbs. -/
structure Absorbs (w v : World) (ρ : Dispatch) (c : ClassId) (d : DescriptorId) (app app' : Ref)
    (σ : Ref → Ref) (u u' : World) : Prop where
  carries : w.Carries v d σ u u'
  made : w.Made ρ c app u
  same : σ app = app'

end World

/-! ## 3. Absorbing and freezing -/

theorem World.readPairs_map {w w' : World} {f : Ref → Ref} {items : List Ref}
    (h : ∀ r ∈ items, w'.value? (f r) = w.value? r) (index : Nat) (ending : Option Fault) :
    w'.readPairs index (items.map f) ending = w.readPairs index items ending := by
  induction items generalizing index with
  | nil => rfl
  | cons r rest ih =>
    have elements : w'.elementsOf? (f r) = w.elementsOf? r :=
      congrArg (Option.bind · Datum.elements?) (h r List.mem_cons_self)
    have others := ih (fun s hs => h s (List.mem_cons_of_mem _ hs)) (index + 1)
    rw [List.map_cons, readPairs, readPairs, elements]
    split
    · rfl
    · rw [others]
    · rfl

namespace Action

open World (Copies Carries Absorbs Grows)

variable {α : Type} {ρ : Dispatch} {w v u u' : World} {c : ClassId} {d : DescriptorId}
  {app app' : Ref} {σ : Ref → Ref}

/-- **A stage of absorbing comes to the same** for a copy, if what is read of an answer, and what is
    put into a descriptor, is the same up to the renaming. -/
theorem alike_taking (hρ : ρ.Discreet) (hd : w.HasDescriptor d) (regular : w.Regular ρ c) (h : Hook)
    {read : World → Offer → Reading α} {put : World → List α → Descriptor → Descriptor}
    (filled : ∀ w items x, Descriptor.Filled x (put w items x))
    (same : ∀ τ u u' (o : Offer) (x : Descriptor), w.Copies v τ u u' →
      (∀ r ∈ o.elements.items, u.Stores r) → (∀ r, x.Mentions r → u.Stores r) →
      (read u' (o.rename τ)).ending = (read u o).ending ∧
        put u' (read u' (o.rename τ)).items (x.rename τ) = (put u (read u o).items x).rename τ ∧
        ∀ r, (put u (read u o).items x).Mentions r → u.Stores r)
    (absorbs : w.Absorbs v ρ c d app app' σ u u') :
    Alike (w.Absorbs v ρ c d app app') σ u (fun _ _ _ _ => True)
      (EStateM.run (taking ρ d app h read put) u)
      (EStateM.run (taking ρ d app' h read put) u') := by
  obtain ⟨carries, made, rfl⟩ := absorbs
  have asked := Alike.carries hd carries (heeds_ask hρ app h) (heeds_ask hρ (σ app) h)
    (regular.answers v σ u u' app h carries.copies made)
  have grown := asked.and (Q := fun u₁ _ => u.Grows u₁) fun o u₁ hrun =>
    ((heeds_ask hρ app h).ok hrun).grows
  unfold taking
  refine grown.bind fun τ u₁ u₁' o o' further carries₁ ⟨⟨renamed, offered⟩, grows⟩ => ?_
  subst renamed
  obtain ⟨ending, put_eq, held⟩ := same τ u₁ u₁' o _ carries₁.copies offered carries₁.held
  have changed := Grows.change (d := d) u₁ fun x => (filled u₁ (read u₁ o).items x).cls
  rw [run_bind_of_ok (EStateM.run_get u₁), run_bind_of_ok (EStateM.run_modify _ u₁), run_finish,
    run_bind_of_ok (EStateM.run_get u₁'), run_bind_of_ok (EStateM.run_modify _ u₁'), run_finish,
    ending]
  cases (read u₁ o).ending with
  | some fault => exact .error
  | none =>
    refine .ok (fun r hr => ⟨changed.stores hr, rfl⟩) ⟨?_, ?_, ?_⟩ trivial
    · exact carries₁.change hd (fun x => (filled _ _ x).cls) (fun x => (filled _ _ x).cls) held
        put_eq
    · exact made.later (grows.trans changed)
    · exact (further app (made.stores hρ)).2

theorem alike_absorbClasses (hρ : ρ.Discreet) (hd : w.HasDescriptor d) (regular : w.Regular ρ c)
    (absorbs : w.Absorbs v ρ c d app app' σ u u') :
    Alike (w.Absorbs v ρ c d app app') σ u (fun _ _ _ _ => True)
      (EStateM.run (absorbClasses ρ d app) u) (EStateM.run (absorbClasses ρ d app') u') := by
  rw [absorbClasses_of_library hρ.library, absorbClasses_of_library hρ.library]
  refine alike_taking hρ hd regular .classes (fun _ _ _ => ⟨_, _, _, _, rfl⟩) ?_ absorbs
  intro τ u u' o x copies offered held
  have reading : readClasses u' (o.rename τ) = (readClasses u o).map τ := by
    unfold readClasses
    rw [Offer.elements_rename copies.ofDatum]
    exact Reading.upToFault_map fun r hr => copies.keyFault? r (offered r hr)
  have read : ∀ r ∈ (readClasses u o).items, u.Stores r := fun r hr =>
    offered r (Reading.mem_upToFault hr)
  refine ⟨by rw [reading]; rfl, ?_, fun r hr => ?_⟩
  · have added : Keyed.addAll u'.like (x.classes.map τ) ((readClasses u o).items.map τ) =
        (Keyed.addAll u.like x.classes (readClasses u o).items).map τ :=
      Keyed.addAll_map (P := u.Stores) copies.like (fun r hr => held r (.inl hr)) read
    rw [reading]
    unfold Descriptor.addClasses Descriptor.rename
    dsimp only
    exact congrArg (fun classes => { x.rename τ with classes := classes }) added
  · rcases hr with hr | hr
    · exact (Keyed.mem_addAll hr).elim (fun hr => held r (.inl hr)) (read r)
    · exact held r (.inr hr)

theorem alike_absorbSingletons (hρ : ρ.Discreet) (hd : w.HasDescriptor d)
    (regular : w.Regular ρ c) (absorbs : w.Absorbs v ρ c d app app' σ u u') :
    Alike (w.Absorbs v ρ c d app app') σ u (fun _ _ _ _ => True)
      (EStateM.run (absorbSingletons ρ d app) u) (EStateM.run (absorbSingletons ρ d app') u') := by
  rw [absorbSingletons_of_library hρ.library, absorbSingletons_of_library hρ.library]
  refine alike_taking hρ hd regular .singletons (fun _ _ _ => ⟨_, _, _, _, rfl⟩) ?_ absorbs
  intro τ u u' o x copies offered held
  rw [Offer.elements_rename copies.ofDatum]
  refine ⟨rfl, ?_, fun r hr => ?_⟩
  · have apart (r s : Ref) (hr : u.Stores r) (hs : u.Stores s) :
        id (τ r) = id (τ s) ↔ id r = id s :=
      ⟨copies.injective r s hr hs, congrArg τ⟩
    have added : Keyed.addAll id (x.singletons.map τ) (o.elements.items.map τ) =
        (Keyed.addAll id x.singletons o.elements.items).map τ :=
      Keyed.addAll_map (P := u.Stores) apart (fun r hr => held r (.inr (.inl hr))) offered
    exact congrArg (fun singletons => { x.rename τ with singletons := singletons }) added
  · rcases hr with hr | hr | hr
    · exact held r (.inl hr)
    · exact (Keyed.mem_addAll hr).elim (fun hr => held r (.inr (.inl hr))) (offered r)
    · exact held r (.inr (.inr hr))

theorem alike_absorbProperties (hρ : ρ.Discreet) (hd : w.HasDescriptor d)
    (regular : w.Regular ρ c) (absorbs : w.Absorbs v ρ c d app app' σ u u') :
    Alike (w.Absorbs v ρ c d app app') σ u (fun _ _ _ _ => True)
      (EStateM.run (absorbProperties ρ d app) u) (EStateM.run (absorbProperties ρ d app') u') := by
  rw [absorbProperties_of_library hρ.library, absorbProperties_of_library hρ.library]
  refine alike_taking hρ hd regular .properties (fun _ _ _ => ⟨_, _, _, _, rfl⟩) ?_ absorbs
  intro τ u u' o x copies offered held
  have reading : (o.rename τ).pairs u' = o.pairs u := by
    unfold Offer.pairs
    rw [Offer.entries?_rename, Offer.elements_rename copies.ofDatum]
    cases o.entries? with
    | some pairs => rfl
    | none => exact World.readPairs_map (fun r hr => copies.value? r (offered r hr)) 0 _
  rw [reading]
  exact ⟨rfl, rfl, held⟩

/-- **The providers of a copy are the copies of the providers.** -/
theorem alike_absorbProviders (hρ : ρ.Discreet) (hd : w.HasDescriptor d)
    (absorbs : w.Absorbs v ρ c d app app' σ u u') :
    Alike (w.Carries v d) σ u (fun _ _ _ _ => True)
      (EStateM.run (absorbProviders ρ d app) u) (EStateM.run (absorbProviders ρ d app') u') := by
  obtain ⟨carries, made, rfl⟩ := absorbs
  rw [run_absorbProviders_of_library hρ.library, run_absorbProviders_of_library hρ.library]
  have kind := carries.copies.kind app (made.stores hρ)
  cases app with
  | descriptor e =>
    obtain ⟨held, e', he', same⟩ := carries.copies.descriptor e (made.stores hρ) (made.fresh hρ)
    rw [he']
    dsimp only [Ref.descriptor?]
    have providers : (u'.descriptor e').providers =
        (u.descriptor e).providers.map (Prod.map σ σ) := by
      rw [same]
      rfl
    have written : Keyed.putAll u'.like ((u.descriptor d).providers.map (Prod.map σ σ))
        ((u.descriptor e).providers.map (Prod.map σ σ)) =
        (Keyed.putAll u.like (u.descriptor d).providers (u.descriptor e).providers).map
          (Prod.map σ σ) :=
      Keyed.putAll_map (P := u.Stores) carries.copies.like
        (fun p hp => carries.held _ (.inr (.inr (.inl (List.mem_map_of_mem hp)))))
        fun p hp => held _ (.inr (.inr (.inl (List.mem_map_of_mem hp))))
    have changed := Grows.change (d := d) u
      (f := (·.putProviders u.like (u.descriptor e).providers)) fun _ => rfl
    refine .ok (fun r hr => ⟨changed.stores hr, rfl⟩) ?_ trivial
    refine carries.change hd (fun _ => rfl) (fun _ => rfl) (fun r hr => ?_) ?_
    · rcases hr with hr | hr | hr | hr | hr
      · exact carries.held r (.inl hr)
      · exact carries.held r (.inr (.inl hr))
      · exact (Keyed.mem_keys_putAll hr).elim (fun hr => carries.held r (.inr (.inr (.inl hr))))
          fun hr => held r (.inr (.inr (.inl hr)))
      · exact (Keyed.mem_values_putAll hr).elim
          (fun hr => carries.held r (.inr (.inr (.inr (.inl hr)))))
          fun hr => held r (.inr (.inr (.inr (.inl hr))))
      · exact carries.held r (.inr (.inr (.inr (.inr hr))))
    · rw [providers]
      exact congrArg (fun providers => { (u.descriptor d).rename σ with providers := providers })
        written
  | none | cls | object | datum =>
    have none' : (σ _).descriptor? = none := kind.2 rfl
    rw [none']
    exact .ok (fun r hr => ⟨hr, rfl⟩) carries trivial

/-- **Absorbing comes to the same** for a copy. -/
theorem alike_absorb (hρ : ρ.Discreet) (hd : w.HasDescriptor d) (regular : w.Regular ρ c)
    (absorbs : w.Absorbs v ρ c d app app' σ u u') :
    Alike (w.Carries v d) σ u (fun _ _ _ _ => True) (EStateM.run (absorb ρ d app) u)
      (EStateM.run (absorb ρ d app') u') := by
  unfold absorb
  refine (alike_absorbClasses hρ hd regular absorbs).bind fun _ _ _ _ _ _ absorbs _ => ?_
  refine (alike_absorbSingletons hρ hd regular absorbs).bind fun _ _ _ _ _ _ absorbs _ => ?_
  refine (alike_absorbProperties hρ hd regular absorbs).bind fun _ _ _ _ _ _ absorbs _ => ?_
  exact alike_absorbProviders hρ hd absorbs

/-- A descriptor that is marked on both sides is still a copy. -/
theorem alike_markFrozen (hρ : ρ.Discreet) (hd : w.HasDescriptor d)
    (carries : w.Carries v d σ u u') :
    Alike (w.Carries v d) σ u (fun _ _ _ _ => True) (EStateM.run (markFrozen ρ d) u)
      (EStateM.run (markFrozen ρ d) u') := by
  rw [run_markFrozen_of_library hρ.library, run_markFrozen_of_library hρ.library]
  have changed := Grows.change (d := d) u (f := Descriptor.marked) fun _ => rfl
  refine .ok (fun r hr => ⟨changed.stores hr, rfl⟩) ?_ trivial
  exact carries.change hd (fun _ => rfl) (fun _ => rfl) carries.held rfl

/-- An application that is given to a descriptor, and its copy to the copy. -/
theorem Absorbs.standFor (hρ : ρ.Discreet) (hd : w.HasDescriptor d)
    (carries : w.Carries v d σ u u') (made : w.Made ρ c app u) :
    w.Absorbs v ρ c d app (σ app) σ (u.changeDescriptor d (·.standFor app))
      (u'.changeDescriptor d (·.standFor (σ app))) := by
  have stored := made.stores hρ
  have present (r : Ref) (hr : (if app = .none then none else some app) = some r) : u.Stores r := by
    split at hr
    · exact nomatch hr
    · exact Option.some.inj hr ▸ stored
  refine ⟨carries.change hd (fun _ => rfl) (fun _ => rfl) (fun r hr => ?_) ?_,
    made.later (Grows.change u fun _ => rfl), rfl⟩
  · rcases hr with hr | hr | hr | hr | hr | hr
    · exact carries.held r (.inl hr)
    · exact carries.held r (.inr (.inl hr))
    · exact carries.held r (.inr (.inr (.inl hr)))
    · exact carries.held r (.inr (.inr (.inr (.inl hr))))
    · exact present r hr
    · rcases List.mem_append.1 hr with hr | hr
      · exact carries.held r (.inr (.inr (.inr (.inr (.inr hr)))))
      · exact present r (Option.mem_toList.1 hr)
  · have copied : (if σ app = .none then none else some (σ app)) =
        (if app = .none then none else some app).map σ := by
      by_cases h : app = .none
      · rw [if_pos h, if_pos ((carries.copies.eq_none_iff stored).2 h)]
        rfl
      · rw [if_neg h, if_neg fun he => h ((carries.copies.eq_none_iff stored).1 he)]
        rfl
    unfold Descriptor.standFor Descriptor.rename
    dsimp only
    rw [copied, List.map_append, Option.toList_map]

/-- **Freezing a descriptor comes to the same**, whatever was added to the store before, if its
    class is regular. -/
theorem alike_freeze (hρ : ρ.Discreet) (hd : w.HasDescriptor d)
    (held : ∀ r, (w.descriptor d).Mentions r → w.Stores r) (closed : w.Closed) (closed' : v.Closed)
    (grows : w.Grows v) (same : v.descriptor d = w.descriptor d) (repeatable : w.Repeatable ρ d) :
    Alike (w.Carries v d) id w (fun _ _ _ _ => True) (EStateM.run (freeze ρ d) w)
      (EStateM.run (freeze ρ d) v) := by
  have copies : w.Copies v id w v := .refl grows closed closed'
  have carries : w.Carries v d id w v :=
    ⟨copies, held, same.trans (Descriptor.rename_of_fixed fun _ _ => rfl).symm⟩
  rcases frozen_or_settled_or_pending (w.descriptor d) with hf | ⟨hf, hs⟩ | ⟨hf, ha, c, hc⟩
  · rw [freeze_of_frozen hρ.library hf, freeze_of_frozen hρ.library (same ▸ hf)]
    exact .ok (fun r hr => ⟨hr, rfl⟩) carries trivial
  · have marked := alike_markFrozen hρ hd carries
    rw [run_markFrozen_of_library hρ.library, run_markFrozen_of_library hρ.library] at marked
    rw [freeze_of_settled hρ.library hf hs,
      freeze_of_settled hρ.library (same ▸ hf) (same ▸ hs)]
    exact marked
  · have regular := repeatable (by simp [Descriptor.isPending, hf, hc, ha]) c hc
    rw [freeze_of_pending hρ.library hf hc ha,
      freeze_of_pending hρ.library (same ▸ hf) (same ▸ hc) (same ▸ ha)]
    have instantiated := (Alike.carries hd carries (heeds_instantiate hρ c) (heeds_instantiate hρ c)
      (regular.makes v id w v copies)).and (Q := fun u₁ app => w.Made ρ c app u₁)
      fun app u₁ hrun => ⟨w, u₁, .refl w, hrun, .refl u₁⟩
    refine instantiated.bind fun τ u₁ u₁' app app' _ carries ⟨happ, made⟩ => ?_
    subst happ
    rw [run_bind_of_ok (EStateM.run_modify _ u₁), run_bind_of_ok (EStateM.run_modify _ u₁')]
    have absorbed := alike_absorb hρ hd regular (Absorbs.standFor hρ hd carries made)
    have frozen : Alike (w.Carries v d) τ (u₁.changeDescriptor d (·.standFor app))
        (fun _ _ _ _ => True)
        (EStateM.run (absorb ρ d app >>= fun _ => markFrozen ρ d)
          (u₁.changeDescriptor d (·.standFor app)))
        (EStateM.run (absorb ρ d (τ app) >>= fun _ => markFrozen ρ d)
          (u₁'.changeDescriptor d (·.standFor (τ app)))) :=
      absorbed.bind fun _ _ _ _ _ _ carries _ => alike_markFrozen hρ hd carries
    have given := Grows.change (d := d) u₁ (f := (·.standFor app)) fun _ => rfl
    exact frozen.of_later fun r hr => given.stores hr

end Action

/-! ## 4. Classes with fixed answers -/

namespace World

open AppMount.Action (Alike)

/-- **A class whose instances always give the same answers**: a call of it makes a bare instance,
    and what instances answer was there before. -/
structure FixedAnswers (w : World) (ρ : Dispatch) (c : ClassId) (offer : Hook → Offer) : Prop where
  plain : ClassId.mapping ∉ w.lineage c
  makes : ∀ u, w.Grows u → EStateM.run (Action.instantiate ρ c) u =
    .ok (.object (u.newThing (.made c none)).1) (u.newThing (.made c none)).2
  answers : ∀ u o h, w.Grows u → u.classOf? (.object o) = some c → u.value? (.object o) = none →
    ∃ calls, EStateM.run (Action.ask ρ (.object o) h) u = .ok (offer h) { u with calls := calls }
  offered : ∀ h, ∀ r ∈ (offer h).elements.items, w.Stores r

variable {w v u u' : World} {ρ : Dispatch} {c : ClassId} {offer : Hook → Offer} {app : Ref}
  {σ : Ref → Ref}

theorem FixedAnswers.newInstance (h : w.FixedAnswers ρ c offer) (grows : w.Grows u) :
    u.NewInstance c (u.newThing (.made c none)).1 (u.newThing (.made c none)).2 :=
  newInstance_newThing fun hc => h.plain (grows.lineage c ▸ hc)

/-- An application that was made is a bare instance. -/
theorem FixedAnswers.of_made (h : w.FixedAnswers ρ c offer) (made : w.Made ρ c app u) :
    ∃ o, app = .object o ∧ u.Stores app ∧ u.classOf? app = some c ∧ u.value? app = none := by
  obtain ⟨u₀, u₁, grows, run, kept⟩ := made
  rw [h.makes u₀ grows] at run
  obtain ⟨rfl, rfl⟩ := EStateM.Result.ok.inj run
  have new := h.newInstance grows
  exact ⟨_, rfl, kept.stores new.stores, (kept.classOf? new.stores).trans new.classOf?,
    (kept.value? new.stores).trans new.value?⟩

/-- What is of a class, has no value and is no descriptor is an object. -/
theorem exists_object {r : Ref} (hr : r.descriptor? = none) (hc : u.classOf? r = some c)
    (hv : u.value? r = none) : ∃ o, r = .object o := by
  cases r with
  | object o => exact ⟨o, rfl⟩
  | none | cls => exact nomatch hc
  | descriptor => exact nomatch hr
  | datum => exact nomatch hv

/-- **A class with fixed answers is regular.** -/
theorem FixedAnswers.regular (h : w.FixedAnswers ρ c offer) : w.Regular ρ c where
  makes v σ u u' copies := by
    have new := h.newInstance copies.grows
    have new' := h.newInstance (copies.base.trans copies.grows')
    rw [h.makes u copies.grows, h.makes u' (copies.base.trans copies.grows')]
    refine .ok (fun r hr => ⟨new.grows.stores hr, ?_⟩) (copies.newInstance new new') ?_
    · exact Function.update_of_ne (new.ne hr) ..
    · exact (Function.update_self (f := σ) ..).symm
  answers v σ u u' app hook copies made := by
    obtain ⟨o, rfl, stored, hc, hv⟩ := h.of_made made
    have hc' := (copies.classOf? _ stored).trans hc
    have hv' := (copies.value? _ stored).trans hv
    obtain ⟨o', ho'⟩ := exists_object ((copies.kind _ stored).2 rfl) hc' hv'
    rw [ho'] at hc' hv' ⊢
    obtain ⟨calls, run⟩ := h.answers u o hook copies.grows hc hv
    obtain ⟨calls', run'⟩ := h.answers u' o' hook (copies.base.trans copies.grows') hc' hv'
    rw [run, run']
    have noted := Grows.noting u calls
    refine .ok (fun r hr => ⟨noted.stores hr, rfl⟩) (copies.noting calls calls')
      ⟨?_, fun r hr => ?_⟩
    · exact (Offer.rename_of_fixed fun r hr => copies.fixed r (h.offered hook r hr)).symm
    · exact (copies.grows.trans noted).stores (h.offered hook r hr)

end World

end AppMount
