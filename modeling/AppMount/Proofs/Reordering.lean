import AppMount.Proofs.Alike
import AppMount.Proofs.Completeness
import AppMount.Proofs.Mounting
import Mathlib.Data.List.FinRange

/-!
# Builders with their registrations in another order

What building comes to does not depend on the order of the registrations. What the first pass
refuses is a matter of single registrations and of pairs of them, and not of their order. The second
pass freezes descriptors one after the other, and each of them comes out as if it alone had been
frozen, up to a renaming of the things that application code made.

* `World.Accessible`: the things that descriptors lead to; `World.SameUpTo`: stores in which the
  descriptors are in the same state, up to a renaming of what is new;
* `World.Advanced`: a store in which some descriptors were frozen, each as if it were the only one;
* `Advanced.freeze`, `mountAll_of_freezes`: one more descriptor, and a whole second pass;
* `Advanced.sameUpTo`: two such stores are the same up to a renaming;
* `accepted_perm`: what is refused in one order is refused in any;
* `build_succeeds_iff`, `advanced_of_build`: when building comes to an end, and what it leaves;
* `build_reorder`: the result.
-/

namespace AppMount

open AppMount.Action

/-! ## 1. Stores in the same state -/

namespace World

/-- **A store that refers to nothing outside it**: what its descriptors hold is there, and what
    things are equal to. -/
structure Sound (w : World) : Prop where
  held : ∀ d, w.HasDescriptor d → ∀ r, (w.descriptor d).Mentions r → w.Stores r
  closed : w.Closed

/-- **The things that the descriptors of a store lead to** in a later one, also by way of
    descriptors that were added. -/
inductive Accessible (w u : World) : Ref → Prop where
  | held {d : DescriptorId} {r : Ref} (hd : w.HasDescriptor d) (hr : (u.descriptor d).Mentions r) :
    Accessible w u r
  | further {e : DescriptorId} {r : Ref} (he : Accessible w u (.descriptor e))
    (hr : (u.descriptor e).Mentions r) : Accessible w u r

/-- **Two later stores in which the descriptors are in the same state**, up to a renaming `θ` of the
    things that were added and that they lead to. Each of these goes to another one that was added,
    of the same class and with the same value, and descriptors among them go to descriptors in the
    same state. -/
structure SameUpTo (w : World) (θ : Ref → Ref) (u u' : World) : Prop where
  fixed : ∀ r, w.Stores r → θ r = r
  descriptor : ∀ d, w.HasDescriptor d → u'.descriptor d = (u.descriptor d).rename θ
  added : ∀ e, w.Accessible u (.descriptor e) → ¬ w.HasDescriptor e →
    ∃ e', θ (.descriptor e) = .descriptor e' ∧ u'.descriptor e' = (u.descriptor e).rename θ
  new : ∀ r, w.Accessible u r → ¬ w.Stores r →
    u.Stores r ∧ u'.Stores (θ r) ∧ ¬ w.Stores (θ r)
  injective : ∀ r s, w.Accessible u r → w.Accessible u s → θ r = θ s → r = s
  classOf? : ∀ r, w.Accessible u r → u'.classOf? (θ r) = u.classOf? r
  value? : ∀ r, w.Accessible u r → u'.value? (θ r) = u.value? r

/-! ## 2. Descriptors that were frozen one after the other -/

/-- The store after one descriptor was frozen. -/
def after (w : World) (ρ : Dispatch) (d : DescriptorId) : World :=
  left (EStateM.run (Action.freeze ρ d) w)

/-- Whether a descriptor can be frozen. -/
def Freezes (w : World) (ρ : Dispatch) (d : DescriptorId) : Prop :=
  EStateM.run (Action.freeze ρ d) w = .ok ⟨⟩ (w.after ρ d)

variable {w v v' u : World} {ρ : Dispatch} {d : DescriptorId} {done : DescriptorId → Prop}
  {σ τ : DescriptorId → Ref → Ref}

theorem freezes_of_ok {a : Unit} (h : EStateM.run (Action.freeze ρ d) w = .ok a u) :
    w.Freezes ρ d ∧ w.after ρ d = u := by
  unfold Freezes after
  rw [h]
  exact ⟨rfl, rfl⟩

/-- **A store in which some descriptors of another one were frozen**: each of them is as if it alone
    had been frozen, where `σ d` leads from what was added then to what was added for it here. -/
structure Advanced (w : World) (ρ : Dispatch) (done : DescriptorId → Prop)
    (σ : DescriptorId → Ref → Ref) (v : World) : Prop where
  grows : w.Grows v
  closed : v.Closed
  has : ∀ d, done d → w.HasDescriptor d
  freezes : ∀ d, done d → w.Freezes ρ d
  kept : ∀ d, w.HasDescriptor d → ¬ done d → v.descriptor d = w.descriptor d
  copied : ∀ d, done d → w.Carries w d (σ d) (w.after ρ d) v
  apart : ∀ d e r s, done d → done e → (w.after ρ d).Stores r → ¬ w.Stores r →
    (w.after ρ e).Stores s → ¬ w.Stores s → σ d r = σ e s → d = e

theorem Grows.logging (w : World) (entries : List LogEntry) : w.Grows (w.logging entries) :=
  ⟨rfl, rfl, rfl, rfl, fun _ h => h, fun _ _ h => h, fun _ _ => rfl⟩

theorem Grows.of_logging (w : World) (entries : List LogEntry) : (w.logging entries).Grows w :=
  ⟨rfl, rfl, rfl, rfl, fun _ h => h, fun _ _ h => h, fun _ _ => rfl⟩

theorem Closed.logging (h : w.Closed) (entries : List LogEntry) : (w.logging entries).Closed :=
  h.of_grows (Grows.logging w entries) (Grows.of_logging w entries)

/-- At first no descriptor was frozen. -/
theorem Advanced.start (closed : w.Closed) : w.Advanced ρ (fun _ => False) (fun _ => id) w where
  grows := .refl w
  closed := closed
  has _ h := h.elim
  freezes _ h := h.elim
  kept _ _ _ := rfl
  copied _ h := h.elim
  apart _ _ _ _ h := h.elim

/-- The log does not matter. -/
theorem Advanced.logging (h : w.Advanced ρ done σ v) (entries : List LogEntry) :
    w.Advanced ρ done σ (v.logging entries) :=
  { h with
    grows := h.grows.trans (Grows.logging v entries)
    closed := h.closed.logging entries
    kept := h.kept
    copied := fun d hd => (h.copied d hd).later (Grows.logging v entries) (h.closed.logging entries)
      (fun _ _ _ => rfl) (h.has d hd) }

/-- What was frozen stays frozen. -/
theorem Advanced.frozen (hρ : ρ.Discreet) (h : w.Advanced ρ done σ v) (hd : done d) :
    (v.descriptor d).frozen = true := by
  rw [(h.copied d hd).same]
  exact frozen_of_freeze hρ.respects (h.has d hd) (h.freezes d hd)

/-- **One more descriptor is frozen as if it were the only one.** -/
theorem Advanced.alike (hρ : ρ.Discreet) (sound : w.Sound) (h : w.Advanced ρ done σ v)
    (hd : w.HasDescriptor d) (hn : ¬ done d) (repeatable : w.Repeatable ρ d) :
    Alike (w.Carries v d) id w (fun _ _ _ _ => True) (EStateM.run (Action.freeze ρ d) w)
      (EStateM.run (Action.freeze ρ d) v) :=
  alike_freeze hρ hd (sound.held d hd) sound.closed h.closed h.grows (h.kept d hd hn) repeatable

/-- **One more descriptor**, which was not among them, and what was added for it. -/
theorem Advanced.extend (h : w.Advanced ρ done σ v) (hd : w.HasDescriptor d)
    (freezes : w.Freezes ρ d) {τ : Ref → Ref} (carries : w.Carries v d τ (w.after ρ d) v')
    (kept : ∀ e, v.HasDescriptor e → e ≠ d → v'.descriptor e = v.descriptor e) :
    w.Advanced ρ (fun e => done e ∨ e = d) (Function.update σ d τ) v' := by
  have beyond {e : DescriptorId} {r s : Ref} (he : done e) (hr : (w.after ρ d).Stores r)
      (hrn : ¬ w.Stores r) (hs : (w.after ρ e).Stores s) : τ r ≠ σ e s := fun heq =>
    carries.copies.fresh r hr hrn (heq ▸ (h.copied e he).copies.stores s hs)
  refine
    { grows := h.grows.trans carries.copies.grows'
      closed := carries.copies.closed'
      has := fun e he => he.elim (h.has e) fun he => he ▸ hd
      freezes := fun e he => he.elim (h.freezes e) fun he => he ▸ freezes
      kept := fun e he hne => ?_
      copied := fun e he => ?_
      apart := fun e e' r s he he' hr hrn hs hsn heq => ?_ }
  · rw [kept e (h.grows.has e he) fun hed => hne (.inr hed)]
    exact h.kept e he fun hed => hne (.inl hed)
  · by_cases hed : e = d
    · subst hed
      rw [Function.update_self]
      exact carries.rebase
    · have he := he.resolve_right hed
      rw [Function.update_of_ne hed]
      refine (h.copied e he).later carries.copies.grows' carries.copies.closed'
        (fun e' he' hor => kept e' he' ?_) (h.has e he)
      rintro rfl
      exact hor.elim (fun h => hed h.symm) fun h => h hd
  · by_cases hed : e = d
    · by_cases hed' : e' = d
      · exact hed.trans hed'.symm
      · subst hed
        rw [Function.update_self, Function.update_of_ne hed'] at heq
        exact absurd heq (beyond (he'.resolve_right hed') hr hrn hs)
    · by_cases hed' : e' = d
      · subst hed'
        rw [Function.update_self, Function.update_of_ne hed] at heq
        exact absurd heq.symm (beyond (he.resolve_right hed) hs hsn hr)
      · rw [Function.update_of_ne hed, Function.update_of_ne hed'] at heq
        exact h.apart e e' r s (he.resolve_right hed) (he'.resolve_right hed') hr hrn hs hsn heq

/-- **One step of the second pass**: a descriptor that can be frozen is. -/
theorem Advanced.freeze (hρ : ρ.Discreet) (sound : w.Sound) (h : w.Advanced ρ done σ v)
    (hd : w.HasDescriptor d) (repeatable : w.Repeatable ρ d) (freezes : w.Freezes ρ d) :
    ∃ v' τ, EStateM.run (Action.freeze ρ d) v = .ok ⟨⟩ v' ∧
      w.Advanced ρ (fun e => done e ∨ e = d) τ v' := by
  by_cases hn : done d
  · -- Frozen before, it is left as it is.
    have same : (fun e => done e ∨ e = d) = done := by
      funext e
      exact propext ⟨fun he => he.elim id fun he => he ▸ hn, .inl⟩
    rw [same]
    exact ⟨v, σ, freeze_of_frozen hρ.library (h.frozen hρ hn), h⟩
  · have alike := h.alike hρ sound hd hn repeatable
    unfold Freezes at freezes
    rw [freezes] at alike
    cases hrun : EStateM.run (Action.freeze ρ d) v with
    | error fault v' =>
      rw [hrun] at alike
      cases alike
    | ok _ v' =>
      rw [hrun] at alike
      cases alike with
      | @ok τ _ _ _ _ _ carries _ =>
        have effect := (heeds_freeze hρ d).ok hrun
        exact ⟨v', Function.update σ d τ, rfl, h.extend hd freezes carries fun e he hed =>
          effect.descriptor he (fun hb => hb) hed⟩

/-- A descriptor that is frozen now could have been frozen at first. -/
theorem Advanced.freezes_of_ok (hρ : ρ.Discreet) (sound : w.Sound) (h : w.Advanced ρ done σ v)
    (hd : w.HasDescriptor d) (repeatable : w.Repeatable ρ d) {a : Unit}
    (hrun : EStateM.run (Action.freeze ρ d) v = .ok a v') : w.Freezes ρ d := by
  by_cases hn : done d
  · exact h.freezes d hn
  · obtain ⟨a, u, hu⟩ := (h.alike hρ sound hd hn repeatable).ok_iff.2 ⟨_, _, hrun⟩
    exact (World.freezes_of_ok hu).1

/-! ## 3. Comparing two of them -/

/-- **What descriptors lead to was there, or was added for one that was frozen.** -/
theorem Advanced.of_accessible (sound : w.Sound) (h : w.Advanced ρ done σ v) {r : Ref}
    (hr : w.Accessible v r) :
    w.Stores r ∨ ∃ d s, done d ∧ (w.after ρ d).Stores s ∧ ¬ w.Stores s ∧ σ d s = r := by
  have of_renamed {d : DescriptorId} {x : Descriptor} {r : Ref} (hd : done d)
      (held : ∀ s, x.Mentions s → (w.after ρ d).Stores s) (hr : (x.rename (σ d)).Mentions r) :
      w.Stores r ∨ ∃ d s, done d ∧ (w.after ρ d).Stores s ∧ ¬ w.Stores s ∧ σ d s = r := by
    obtain ⟨s, hs, rfl⟩ := Descriptor.mentions_rename hr
    by_cases hw : w.Stores s
    · rw [(h.copied d hd).copies.fixed s hw]
      exact .inl hw
    · exact .inr ⟨d, s, hd, held s hs, hw, rfl⟩
  have of_there {d : DescriptorId} {r : Ref} (hd : w.HasDescriptor d)
      (hr : (v.descriptor d).Mentions r) :
      w.Stores r ∨ ∃ d s, done d ∧ (w.after ρ d).Stores s ∧ ¬ w.Stores s ∧ σ d s = r := by
    by_cases hn : done d
    · rw [(h.copied d hn).same] at hr
      exact of_renamed hn (h.copied d hn).held hr
    · rw [h.kept d hd hn] at hr
      exact .inl (sound.held d hd r hr)
  -- The induction is on the way from descriptor to descriptor.
  induction hr with
  | held hd hr => exact of_there hd hr
  | @further e r _ hr ih =>
    rcases ih with he | ⟨d, s, hd, hs, hsn, heq⟩
    · exact of_there he hr
    · obtain ⟨copies, -, -⟩ := h.copied d hd
      have kind := copies.kind s hs
      rw [heq] at kind
      cases s with
      | descriptor e₀ =>
        obtain ⟨held, e', he', same⟩ := copies.descriptor e₀ hs hsn
        obtain rfl : e' = e := Ref.descriptor.inj (he'.symm.trans heq)
        rw [same] at hr
        exact of_renamed hd held hr
      | none | cls | object | datum => exact nomatch kind.2 rfl

/-- **A renaming that leads from what was added in one store to what was added in the other.** -/
theorem Advanced.exists_renaming (h : w.Advanced ρ done σ v) (h' : w.Advanced ρ done τ v') :
    ∃ θ : Ref → Ref, (∀ r, w.Stores r → θ r = r) ∧
      ∀ d s, done d → (w.after ρ d).Stores s → θ (σ d s) = τ d s := by
  classical
  let added (r : Ref) (p : DescriptorId × Ref) : Prop :=
    done p.1 ∧ (w.after ρ p.1).Stores p.2 ∧ ¬ w.Stores p.2 ∧ σ p.1 p.2 = r
  let θ (r : Ref) : Ref :=
    if h : ∃ p, added r p then τ h.choose.1 h.choose.2 else r
  have fixed (r : Ref) (hr : w.Stores r) : θ r = r := by
    refine dif_neg ?_
    rintro ⟨⟨d, s⟩, hd, hs, hsn, rfl⟩
    exact (h.copied d hd).copies.fresh s hs hsn hr
  refine ⟨θ, fixed, fun d s hd hs => ?_⟩
  by_cases hsn : w.Stores s
  · rw [(h.copied d hd).copies.fixed s hsn, (h'.copied d hd).copies.fixed s hsn]
    exact fixed s hsn
  · have found : ∃ p, added (σ d s) p := ⟨(d, s), hd, hs, hsn, rfl⟩
    have chosen : θ (σ d s) = τ found.choose.1 found.choose.2 := dif_pos found
    -- Only `s`, made for `d`, leads to where it leads.
    obtain ⟨he, ht, htn, heq⟩ := found.choose_spec
    have hed : found.choose.1 = d := h.apart _ d _ s he hd ht htn hs hsn heq
    rw [hed] at ht heq
    rw [chosen, hed, (h.copied d hd).copies.injective _ s ht hs heq]

/-- **Where the same descriptors were frozen, all descriptors are in the same state**, up to a
    renaming of what was added. -/
theorem Advanced.sameUpTo (sound : w.Sound) (h : w.Advanced ρ done σ v)
    (h' : w.Advanced ρ done τ v') : ∃ θ, w.SameUpTo θ v v' := by
  obtain ⟨θ, fixed, leads⟩ := h.exists_renaming h'
  refine ⟨θ, ?_⟩
  have renamed {d : DescriptorId} {x : Descriptor} (hd : done d)
      (held : ∀ s, x.Mentions s → (w.after ρ d).Stores s) :
      x.rename (τ d) = (x.rename (σ d)).rename θ := by
    rw [Descriptor.rename_rename]
    exact Descriptor.rename_congr fun s hs => (leads d s hd (held s hs)).symm
  have of_new (r : Ref) (hr : w.Accessible v r) (hrn : ¬ w.Stores r) :
      ∃ d s, done d ∧ (w.after ρ d).Stores s ∧ ¬ w.Stores s ∧ σ d s = r ∧ θ r = τ d s := by
    obtain ⟨d, s, hd, hs, hsn, rfl⟩ := (h.of_accessible sound hr).resolve_left hrn
    exact ⟨d, s, hd, hs, hsn, rfl, leads d s hd hs⟩
  have new (r : Ref) (hr : w.Accessible v r) (hrn : ¬ w.Stores r) :
      v.Stores r ∧ v'.Stores (θ r) ∧ ¬ w.Stores (θ r) := by
    obtain ⟨d, s, hd, hs, hsn, rfl, hθ⟩ := of_new r hr hrn
    rw [hθ]
    exact ⟨(h.copied d hd).copies.stores s hs, (h'.copied d hd).copies.stores s hs,
      (h'.copied d hd).copies.fresh s hs hsn⟩
  refine
    { fixed := fixed
      descriptor := fun d hd => ?_
      added := fun e he hn => ?_
      new := new
      injective := fun r s hr hs heq => ?_
      classOf? := fun r hr => ?_
      value? := fun r hr => ?_ }
  · by_cases hn : done d
    · rw [(h.copied d hn).same, (h'.copied d hn).same]
      exact renamed hn (h.copied d hn).held
    · rw [h.kept d hd hn, h'.kept d hd hn]
      exact (Descriptor.rename_of_fixed fun r hr => fixed r (sound.held d hd r hr)).symm
  · obtain ⟨d, s, hd, hs, hsn, heq, hθ⟩ := of_new _ he hn
    have kind := (h.copied d hd).copies.kind s hs
    rw [heq] at kind
    cases s with
    | descriptor e₀ =>
      obtain ⟨held, e₁, he₁, same⟩ := (h.copied d hd).copies.descriptor e₀ hs hsn
      obtain ⟨-, e₂, he₂, same'⟩ := (h'.copied d hd).copies.descriptor e₀ hs hsn
      obtain rfl : e₁ = e := Ref.descriptor.inj (he₁.symm.trans heq)
      refine ⟨e₂, hθ.trans he₂, ?_⟩
      rw [same, same']
      exact renamed hd held
    | none | cls | object | datum => exact nomatch kind.2 rfl
  · by_cases hrw : w.Stores r
    · by_cases hsw : w.Stores s
      · rwa [fixed r hrw, fixed s hsw] at heq
      · rw [fixed r hrw] at heq
        exact absurd (heq ▸ hrw) (new s hs hsw).2.2
    · by_cases hsw : w.Stores s
      · rw [fixed s hsw] at heq
        exact absurd (heq ▸ hsw) (new r hr hrw).2.2
      · obtain ⟨d, r₀, hd, hr₀, hrn, rfl, hθ⟩ := of_new r hr hrw
        obtain ⟨e, s₀, he, hs₀, hsn, rfl, hθ'⟩ := of_new s hs hsw
        rw [hθ, hθ'] at heq
        obtain rfl : d = e := h'.apart d e r₀ s₀ hd he hr₀ hrn hs₀ hsn heq
        rw [(h'.copied d hd).copies.injective r₀ s₀ hr₀ hs₀ heq]
  · by_cases hrw : w.Stores r
    · rw [fixed r hrw, h.grows.classOf? hrw, h'.grows.classOf? hrw]
    · obtain ⟨d, s, hd, hs, -, rfl, hθ⟩ := of_new r hr hrw
      rw [hθ, (h.copied d hd).copies.classOf? s hs, (h'.copied d hd).copies.classOf? s hs]
  · by_cases hrw : w.Stores r
    · rw [fixed r hrw, h.grows.value? hrw, h'.grows.value? hrw]
    · obtain ⟨d, s, hd, hs, -, rfl, hθ⟩ := of_new r hr hrw
      rw [hθ, (h.copied d hd).copies.value? s hs, (h'.copied d hd).copies.value? s hs]

end World

/-! ## 4. The two passes -/

namespace ServerBuilder

variable {ρ : Dispatch} {b : ServerBuilder} {config : ServerConfig} {members : List Ref}
  {rs rs' : List Registration} {w v v' : World} {done : DescriptorId → Prop}
  {σ : DescriptorId → Ref → Ref}

/-- Whether a registration in a list is of a descriptor. -/
def Registers (rs : List Registration) (d : DescriptorId) : Prop :=
  ∃ r ∈ rs, r.config = .descriptor d

theorem registers_cons {r : Registration} {d e : DescriptorId} (hd : r.config = .descriptor d) :
    Registers (r :: rs) e ↔ e = d ∨ Registers rs e := by
  unfold Registers
  rw [List.exists_mem_cons_iff, hd]
  exact or_congr_left ⟨fun h => (Ref.descriptor.inj h).symm, fun h => congrArg _ h.symm⟩

/-- **The second pass over descriptors that can be frozen** freezes all of them. -/
theorem mountAll_of_freezes (config : ServerConfig) (hρ : ρ.Discreet) (hb : b.standIns = [])
    (sound : w.Sound)
    (located : ∀ r ∈ rs, ∃ d, r.config = .descriptor d ∧ w.HasDescriptor d)
    (repeatable : ∀ d, Registers rs d → w.Repeatable ρ d)
    (freezes : ∀ d, Registers rs d → w.Freezes ρ d) (h : w.Advanced ρ done σ v) :
    ∃ mounts v' τ, EStateM.run (b.mountAll ρ (rs.map (resolved config))) v = .ok mounts v' ∧
      w.Advanced ρ (fun d => done d ∨ Registers rs d) τ v' := by
  induction rs generalizing v done σ with
  | nil =>
    refine ⟨[], v, σ, rfl, ?_⟩
    have same : (fun d => done d ∨ Registers [] d) = done := by
      funext d
      simp [Registers]
    rwa [same]
  | cons r rs ih =>
    obtain ⟨d, hd, has⟩ := located r List.mem_cons_self
    have first : Registers (r :: rs) d := (registers_cons hd).2 (.inl rfl)
    have rest {e : DescriptorId} (he : Registers rs e) : Registers (r :: rs) e :=
      (registers_cons hd).2 (.inr he)
    obtain ⟨v₁, τ, hfreeze, advanced⟩ :=
      h.freeze hρ sound has (repeatable d first) (freezes d first)
    obtain ⟨mounts, v₂, τ', hrest, advanced⟩ :=
      ih (fun q hq => located q (List.mem_cons_of_mem _ hq)) (fun e he => repeatable e (rest he))
        (fun e he => freezes e (rest he))
        (advanced.logging [.mounted (r.label v₁.describe) r.contextRoot
          (config.resolve r.routingName)])
    have same : (fun e => done e ∨ Registers (r :: rs) e) =
        fun e => (done e ∨ e = d) ∨ Registers rs e := by
      funext e
      rw [registers_cons hd, or_assoc]
    rw [same]
    refine ⟨mountOf b.defaultExecutor (config.resolve r.routingName) r :: mounts, v₂, τ', ?_,
      advanced⟩
    have step := mountAll_cons hρ.library hb hd (config.resolve r.routingName)
      (rs.map (resolved config))
    rw [List.map_cons, resolved, step, run_bind_of_ok hfreeze,
      run_bind_of_ok (run_labelOf_of_library hρ.library r v₁), run_bind_of_ok (run_logged _ v₁),
      run_bind_of_ok hrest]
    rfl

/-- **A second pass that comes to an end** was over descriptors that can be frozen. -/
theorem freezes_of_mountAll (hρ : ρ.Discreet) (hb : b.standIns = []) (sound : w.Sound)
    (located : ∀ r ∈ rs, ∃ d, r.config = .descriptor d ∧ w.HasDescriptor d)
    (repeatable : ∀ d, Registers rs d → w.Repeatable ρ d) (h : w.Advanced ρ done σ v)
    {mounts : List Mount}
    (hrun : EStateM.run (b.mountAll ρ (rs.map (resolved config))) v = .ok mounts v') :
    ∀ d, Registers rs d → w.Freezes ρ d := by
  induction rs generalizing v v' done σ mounts with
  | nil => exact fun d ⟨r, hr, _⟩ => nomatch hr
  | cons r rs ih =>
    obtain ⟨d, hd, has⟩ := located r List.mem_cons_self
    have repeats := repeatable d ((registers_cons hd).2 (.inl rfl))
    have step := mountAll_cons hρ.library hb hd (config.resolve r.routingName)
      (rs.map (resolved config))
    rw [List.map_cons, resolved, step] at hrun
    obtain ⟨⟨⟩, v₁, hfreeze, hrun⟩ := run_bind_eq_ok_iff.1 hrun
    rw [run_bind_of_ok (run_labelOf_of_library hρ.library r v₁), run_bind_of_ok (run_logged _ v₁)]
      at hrun
    obtain ⟨others, v₂, hrest, -⟩ := run_bind_eq_ok_iff.1 hrun
    have freezes := h.freezes_of_ok hρ sound has repeats hfreeze
    obtain ⟨v₁', τ, hfreeze', advanced⟩ := h.freeze hρ sound has repeats freezes
    obtain ⟨-, rfl⟩ := EStateM.Result.ok.inj (hfreeze.symm.trans hfreeze')
    have later := ih (fun q hq => located q (List.mem_cons_of_mem _ hq))
      (fun e he => repeatable e ((registers_cons hd).2 (.inr he))) (advanced.logging _) hrest
    intro e he
    rcases (registers_cons hd).1 he with rfl | he
    · exact freezes
    · exact later e he

/-- What is refused is a matter of single registrations and of pairs of them. -/
theorem accepted_perm (h : rs.Perm rs') :
    (∀ i, w.refusalAt? config rs i = none) ↔ ∀ i, w.refusalAt? config rs' i = none := by
  have symm {q r : Registration} (h : config.placeOf q ≠ config.placeOf r) :
      config.placeOf r ≠ config.placeOf q := h.symm
  rw [accepted_iff, accepted_iff, h.pairwise_iff symm]
  simp only [h.mem_iff]

theorem registers_perm (h : rs.Perm rs') : Registers rs = Registers rs' := by
  unfold Registers
  simp only [h.mem_iff]

/-- **The first pass fails** exactly if something is refused. -/
theorem validate_fails_iff (hρ : ρ.replaces = false) (hb : b.Holds config members w) :
    (∃ fault v, EStateM.run (b.validate ρ [] b.registrations) w = .error fault v) ↔
      ¬ ∀ i, w.refusalAt? config b.registrations i = none := by
  rcases w.refused_first config b.registrations with hall | ⟨i, fault, hi, first⟩
  · rw [run_validate_of_all hρ hb hall]
    simp [hall]
  · rw [run_validate_of_first hρ hb hi first]
    refine iff_of_true ⟨_, _, rfl⟩ fun h => ?_
    exact nomatch (h i).symm.trans hi

section Build

variable (hρ : ρ.Discreet) (hb : b.Holds config members w) (sound : w.Sound)
  (repeatable : ∀ d, Registers b.registrations d → w.Repeatable ρ d)

include hρ hb sound repeatable

/-- **Building comes to an end** exactly if nothing is refused and every descriptor can be frozen at
    the start. -/
theorem build_succeeds_iff :
    (∃ server v, EStateM.run (b.build ρ) w = .ok server v) ↔
      (∀ i, w.refusalAt? config b.registrations i = none) ∧
        ∀ d, Registers b.registrations d → w.Freezes ρ d := by
  have start := (World.Advanced.start (ρ := ρ) sound.closed).logging
    (w.fallBacks config b.registrations)
  constructor
  · rintro ⟨server, v, hrun⟩
    obtain ⟨accepted, hmount, -⟩ := run_build_eq_ok hρ.library hb hrun
    exact ⟨accepted,
      freezes_of_mountAll hρ hb.standIns sound hb.stored repeatable start hmount⟩
  · rintro ⟨accepted, freezes⟩
    obtain ⟨mounts, v, -, hmount, -⟩ := mountAll_of_freezes config hρ hb.standIns sound hb.stored
      repeatable freezes start
    rw [build_of_nil hb.standIns, run_bind_of_ok (run_validate_of_all hρ.library hb accepted)]
    exact ⟨_, v, run_bind_of_ok hmount⟩

/-- **What building leaves**: every registered descriptor as if it alone had been frozen. -/
theorem advanced_of_build {server : Server} (hrun : EStateM.run (b.build ρ) w = .ok server v) :
    ∃ σ, w.Advanced ρ (Registers b.registrations) σ v := by
  have start := (World.Advanced.start (ρ := ρ) sound.closed).logging
    (w.fallBacks config b.registrations)
  obtain ⟨-, freezes⟩ := (build_succeeds_iff hρ hb sound repeatable).1 ⟨server, v, hrun⟩
  obtain ⟨mounts, v', σ, hmount, advanced⟩ := mountAll_of_freezes config hρ hb.standIns sound
    hb.stored repeatable freezes start
  obtain ⟨-, hmount', -⟩ := run_build_eq_ok hρ.library hb hrun
  obtain ⟨-, rfl⟩ := EStateM.Result.ok.inj (hmount.symm.trans hmount')
  simp only [false_or] at advanced
  exact ⟨σ, advanced⟩

end Build

/-! ## 5. Another order -/

/-- A builder with these registrations. -/
def listing (b : ServerBuilder) (rs : List Registration) : ServerBuilder :=
  { b with registrations := rs }

/-- The mounts of a server that was built from registrations. -/
theorem mounts_of_build (hρ : ρ.Discreet) (hb : (b.listing rs).Holds config members w)
    {server : Server} (hrun : EStateM.run ((b.listing rs).build ρ) w = .ok server v) :
    server.mounts = rs.map fun r =>
      mountOf b.defaultExecutor (config.resolve r.routingName) r := by
  obtain ⟨-, hmount, -⟩ := run_build_eq_ok hρ.library hb hrun
  have located : ∀ e ∈ (b.listing rs).registrations.map (resolved config),
      ∃ d, e.2.config = .descriptor d ∧ (w.validated config rs).HasDescriptor d := by
    intro e he
    obtain ⟨r, hr, rfl⟩ := List.mem_map.1 he
    exact hb.stored r hr
  obtain ⟨hmounts, -⟩ := run_mountAll_eq_ok hρ.respects_frame hb.standIns located hmount
  rw [hmounts, List.map_map]
  rfl

/-- **The outcome of building does not depend on the order of the registrations.** Building comes
    to an end in both orders or in neither; the mounts are in the order of the registrations, and
    every descriptor is in the same state, up to a renaming of what application code made; and what
    the first pass refuses in one order, it refuses in the other. -/
theorem build_reorder (hρ : ρ.Discreet) {n : Nat} (r : Fin n → Registration)
    (π : Equiv.Perm (Fin n)) (hb : (b.listing (List.ofFn r)).Holds config members w)
    (sound : w.Sound) (repeatable : ∀ i d, (r i).config = .descriptor d → w.Repeatable ρ d) :
    ((∃ server v, EStateM.run ((b.listing (List.ofFn r)).build ρ) w = .ok server v) ↔
      ∃ server v, EStateM.run ((b.listing (List.ofFn (r ∘ π))).build ρ) w = .ok server v) ∧
    (∀ server v server' v',
      EStateM.run ((b.listing (List.ofFn r)).build ρ) w = .ok server v →
      EStateM.run ((b.listing (List.ofFn (r ∘ π))).build ρ) w = .ok server' v' →
      server'.setting = server.setting ∧
        (∃ m : Fin n → Mount, server.mounts = List.ofFn m ∧ server'.mounts = List.ofFn (m ∘ π)) ∧
        ∃ θ, w.SameUpTo θ v v') ∧
    ((∃ fault v, EStateM.run ((b.listing (List.ofFn r)).validate ρ [] (List.ofFn r)) w =
        .error fault v) ↔
      ∃ fault v, EStateM.run ((b.listing (List.ofFn (r ∘ π))).validate ρ [] (List.ofFn (r ∘ π))) w =
        .error fault v) := by
  have perm : (List.ofFn r).Perm (List.ofFn (r ∘ π)) := (π.ofFn_comp_perm r).symm
  have hb' : (b.listing (List.ofFn (r ∘ π))).Holds config members w :=
    ⟨hb.setting, hb.standIns, fun q hq => hb.stored q (perm.mem_iff.2 hq)⟩
  have repeats : ∀ d, Registers (List.ofFn r) d → w.Repeatable ρ d := by
    rintro d ⟨q, hq, hd⟩
    obtain ⟨i, rfl⟩ := (List.mem_ofFn' r q).1 hq
    exact repeatable i d hd
  have same : Registers (b.listing (List.ofFn (r ∘ π))).registrations =
      Registers (b.listing (List.ofFn r)).registrations := (registers_perm perm).symm
  have repeats' : ∀ d, Registers (List.ofFn (r ∘ π)) d → w.Repeatable ρ d := by
    rwa [← registers_perm perm]
  refine ⟨?_, fun server v server' v' hrun hrun' => ?_, ?_⟩
  · rw [build_succeeds_iff hρ hb sound repeats, build_succeeds_iff hρ hb' sound repeats', same]
    exact and_congr_left' (accepted_perm perm)
  · obtain ⟨σ, advanced⟩ := advanced_of_build hρ hb sound repeats hrun
    obtain ⟨τ, advanced'⟩ := advanced_of_build hρ hb' sound repeats' hrun'
    rw [same] at advanced'
    refine ⟨?_,
      ⟨fun i => mountOf b.defaultExecutor (config.resolve (r i).routingName) (r i), ?_, ?_⟩,
      advanced.sameUpTo sound advanced'⟩
    · rw [(run_build_eq_ok hρ.library hb hrun).2.2, (run_build_eq_ok hρ.library hb' hrun').2.2]
      rfl
    · rw [mounts_of_build hρ hb hrun, List.map_ofFn]
      rfl
    · rw [mounts_of_build hρ hb' hrun', List.map_ofFn]
      rfl
  · have fails := validate_fails_iff hρ.library hb
    have fails' := validate_fails_iff hρ.library hb'
    exact fails.trans ((not_congr (accepted_perm perm)).trans fails'.symm)

end ServerBuilder

/-! ## 6. Two shops -/

namespace World

variable {a : Answer} {w u : World}

theorem Stocked.grows (hw : Stocked a w) (grows : w.Grows u) : Stocked a u :=
  ⟨grows.rule.trans hw.rule, grows.classes.trans hw.classes, grows.scope.trans hw.scope,
    grows.assigned.trans hw.assigned⟩

/-- An object of a class that has no value is a bare instance of it. -/
theorem content?_of_classOf? {o : ObjectId} {c : ClassId} (hc : u.classOf? (.object o) = some c)
    (hv : u.value? (.object o) = none) : u.content? (.object o) = some (.made c none) := by
  unfold World.classOf? at hc
  unfold World.value? at hv
  dsimp only at hc hv
  split at hc
  · rename_i k value hcontent
    rw [hcontent] at hv ⊢
    cases Option.some.inj hc
    cases hv
    rfl
  · exact nomatch hc

/-- **The shop has fixed answers.** -/
theorem Stocked.fixedAnswers (hw : Stocked euros w) :
    w.FixedAnswers Dispatch.library shopApp
      (shopOffer (.entries [(.text "currency", .text "EUR")] 0)) where
  plain := by
    unfold lineage classDef
    rw [hw.classes]
    decide
  makes u grows := (hw.grows grows).run_instantiate
  answers u o h grows hc hv := by
    have stocked := hw.grows grows
    rw [stocked.ask (content?_of_classOf? hc hv) h]
    cases h with
    | classes => exact ⟨_, stocked.runHook_classes _⟩
    | singletons => exact ⟨u.calls, rfl⟩
    | properties => exact ⟨_, rfl⟩
  offered h r hr := by
    cases h with
    | classes =>
      obtain rfl := List.mem_singleton.1 hr
      trivial
    | singletons => exact nomatch hr
    | properties =>
      obtain rfl := List.mem_singleton.1 hr
      trivial

/-- A descriptor that waits for an application of the shop. -/
def forShop : Descriptor :=
  { cls := ClassId.descriptor, applicationClass := some shopApp }

/-- The shop with two descriptors that wait for an application each. -/
def twoShops : World :=
  { shopStore euros with descriptors := #[forShop, forShop] }

theorem descriptor_twoShops {d : DescriptorId} (hd : twoShops.HasDescriptor d) :
    twoShops.descriptor d = forShop := by
  obtain ⟨i⟩ := d
  have hi : i < 2 := hd
  match i, hi with
  | 0, _ | 1, _ => rfl

theorem sound_twoShops : twoShops.Sound where
  held d hd r hr := by
    rw [descriptor_twoShops hd] at hr
    simp [Descriptor.Mentions, forShop] at hr
  closed r hr := by
    cases r with
    | none | cls | datum => trivial
    | descriptor => exact hr
    | object o =>
      obtain ⟨x, hx⟩ := hr
      simp [thing?, twoShops, shopStore, initial] at hx

theorem repeatable_twoShops {d : DescriptorId} (hd : twoShops.HasDescriptor d) :
    twoShops.Repeatable Dispatch.library d := by
  intro _ c hc
  rw [descriptor_twoShops hd] at hc
  obtain rfl : shopApp = c := Option.some.inj hc
  have stocked : Stocked euros twoShops := ⟨rfl, rfl, rfl, rfl⟩
  exact stocked.fixedAnswers.regular

end World

namespace ServerBuilder

/-- The first shop, the second one, and the first one again. -/
def shops : Fin 3 → Registration
  | 0 => { contextRoot := .text "/", config := .descriptor ⟨0⟩ }
  | 1 => { contextRoot := .text "/outlet", config := .descriptor ⟨1⟩ }
  | 2 => { contextRoot := .text "/old", config := .descriptor ⟨0⟩ }

/-- The application of the first shop is made first in one order and second in the other one. -/
theorem build_swapped_shops :
    ∃ server v server' v',
      EStateM.run ((listing {} (List.ofFn shops)).build Dispatch.library) World.twoShops =
        .ok server v ∧
      EStateM.run ((listing {} (List.ofFn (shops ∘ Equiv.swap 0 1))).build Dispatch.library)
        World.twoShops = .ok server' v' ∧
      (v.descriptor ⟨0⟩).application = some (.object ⟨0⟩) ∧
      (v'.descriptor ⟨0⟩).application = some (.object ⟨1⟩) ∧
      ∃ θ, World.twoShops.SameUpTo θ v v' := by
  have located (r : Registration) (hr : r ∈ List.ofFn shops) :
      ∃ d, r.config = .descriptor d ∧ World.twoShops.HasDescriptor d := by
    obtain ⟨i, rfl⟩ := (List.mem_ofFn' shops r).1 hr
    match i with
    | 0 | 2 => exact ⟨⟨0⟩, rfl, show 0 < 2 by decide⟩
    | 1 => exact ⟨⟨1⟩, rfl, show 1 < 2 by decide⟩
  have repeatable (i : Fin 3) (d : DescriptorId) (hd : (shops i).config = .descriptor d) :
      World.twoShops.Repeatable Dispatch.library d := by
    obtain ⟨e, he, has⟩ := located (shops i) ((List.mem_ofFn' shops _).2 ⟨i, rfl⟩)
    obtain rfl : d = e := Ref.descriptor.inj (hd.symm.trans he)
    exact World.repeatable_twoShops has
  have holds : (listing {} (List.ofFn shops)).Holds {} [] World.twoShops := ⟨rfl, rfl, located⟩
  obtain ⟨-, same, -⟩ := build_reorder Dispatch.discreet_library shops (Equiv.swap 0 1) holds
    World.sound_twoShops repeatable
  obtain ⟨-, -, similar⟩ := same _ _ _ _ rfl rfl
  exact ⟨_, _, _, _, rfl, rfl, rfl, rfl, similar⟩

end ServerBuilder

end AppMount
