import AppMount.Dispatch
import AppMount.Proofs.Effects

/-!
# Relations that steps stay within

What computations do to the store is said in different ways: that they take certain steps, or that
they leave certain things alone. Those ways have in common what is needed to go through the library
once for all of them: that the steps of setting up belong to them, and one thing after another.

* `Ref.only`, `World.nobody`: which descriptors may be set up; `Descriptor.Once`: those for which an
  application was made once at most;
* `World.Frame`: what a relation on stores has to allow; `World.Making`: the narrowest one in use;
  `World.Malleable`: relations that allow more;
* `Action.Stays`: a computation that stays within such a relation;
* `Dispatch.Respects`: application code that does.
-/

namespace AppMount

/-- The descriptor that a thing is, as the only one that may be set up. -/
def Ref.only (self : Ref) (d : DescriptorId) : Prop :=
  self.descriptor? = some d

/-- **A descriptor that an application was made for once at most**, which it still has. -/
def Descriptor.Once (x : Descriptor) : Prop :=
  x.given = [] ∨ ∃ app, x.given = [app] ∧ x.application = some app

theorem Descriptor.Once.congr {x y : Descriptor} (h : x.Once) (given : y.given = x.given)
    (application : y.application = x.application) : y.Once := by
  unfold Once
  rwa [given, application]

/-! ## 1. Relations -/

namespace World

/-- That no descriptor may be set up. -/
def nobody (_ : DescriptorId) : Prop := False

/-- **A relation on stores that allows steps of setting up**, given the descriptors that may be set
    up. Nothing is taken from a store; what one computation adds, the next one may set up; and mere
    additions need not be kept, but for the notes. -/
class Frame (R : (DescriptorId → Prop) → World → World → Prop) : Prop where
  refl {B : DescriptorId → Prop} (w : World) : R B w w
  trans {B B' : DescriptorId → Prop} {w w' w'' : World} (h : R B w w') (h' : R B' w' w'')
    (hB : ∀ d, B' d → B d ∨ ¬ w.HasDescriptor d) : R B w w''
  step {B : DescriptorId → Prop} {w w' : World} (h : Step { builds := B } w w') : R B w w'
  stores {B : DescriptorId → Prop} {w w' : World} (h : R B w w') {r : Ref} (hr : w.Stores r) :
    w'.Stores r
  notes {B : DescriptorId → Prop} {w w' : World} (h : R B w w') (additions : w.Adds w') :
    R B w (w.noting w'.calls w'.log)

/-- **A relation that also allows any change** of what may be set up, as long as that stays of its
    class and no second application is made for it. -/
class Malleable (R : (DescriptorId → Prop) → World → World → Prop) : Prop extends Frame R where
  change {B : DescriptorId → Prop} {d : DescriptorId} (w : World) {f : Descriptor → Descriptor}
    (hd : B d) (hf : ∀ x, (f x).cls = x.cls) (once : ∀ x, x.Once → (f x).Once) :
    R B w (w.changeDescriptor d f)

theorem Frame.has {R : (DescriptorId → Prop) → World → World → Prop} [Frame R]
    {B : DescriptorId → Prop} {w w' : World} (h : R B w w') {d : DescriptorId}
    (hd : w.HasDescriptor d) : w'.HasDescriptor d :=
  Frame.stores (r := .descriptor d) h hd

/-- **Every such relation allows whatever sets up some descriptors at most**, and what it adds. -/
theorem Frame.of_effect {R : (DescriptorId → Prop) → World → World → Prop} [Frame R]
    {B : DescriptorId → Prop} {w w' : World} (h : Effect { builds := B } w w') : R B w w' := by
  have reaches : Reaches (({ builds := B } : Licence).beyond w) w w' := h
  induction reaches with
  | refl => exact Frame.refl w
  | step hr hs ih => exact Frame.trans (ih hr) (Frame.step hs) fun _ hd => hd

/-- **Steps that set up some descriptors**, and whatever they add. -/
def Making (B : DescriptorId → Prop) : World → World → Prop :=
  Effect { builds := B }

instance : Frame Making where
  refl := Effect.refl
  trans h h' hB := Effect.trans_beyond h h' hB (fun _ hd => hd.elim) False.elim
  step := Step.effect
  stores h _ := Keeps.stores (Effect.keeps h)
  notes h _ := Reaches.notes h

end World

/-! ## 2. Computations -/

namespace Action

open World (Frame nobody)

variable {α β : Type} {R : (DescriptorId → Prop) → World → World → Prop} [Frame R]
  {B B' : DescriptorId → Prop} {x : Action α} {f : α → Action β}

/-- **A computation that stays within a relation** and sets up some descriptors at most, whether it
    fails or not. -/
def Stays (R : (DescriptorId → Prop) → World → World → Prop) (B : DescriptorId → Prop)
    (x : Action α) : Prop :=
  Within (R B) x

theorem Reads.stays (hx : Reads x) : Stays R B x :=
  hx.within Frame.refl

namespace Stays

theorem pure (a : α) : Stays R B (pure a : Action α) :=
  Within.pure Frame.refl a

theorem throw (fault : Fault) : Stays R B (throw fault : Action α) :=
  Within.throw Frame.refl fault

theorem bind (hx : Stays R B x) (hf : ∀ a, Stays R B (f a)) : Stays R B (x >>= f) :=
  Within.bind (fun h h' => Frame.trans h h' fun _ => .inl) hx hf

theorem forM {items : List β} {g : β → Action PUnit} (hg : ∀ b ∈ items, Stays R B (g b)) :
    Stays R B (items.forM g) :=
  Within.forM Frame.refl (fun h h' => Frame.trans h h' fun _ => .inl) hg

theorem modify {change : World → World} (h : ∀ w, World.Step { builds := B } w (change w)) :
    Stays R B (modify change : Action PUnit) :=
  Within.modify fun w => Frame.step (h w)

/-- More may be set up than is. -/
theorem mono (hx : Stays R B x) (hB : ∀ d, B d → B' d) : Stays R B' x :=
  fun w => Frame.trans (Frame.refl w) (hx w) fun d hd => .inl (hB d hd)

theorem of_nobody (hx : Stays R nobody x) : Stays R B x :=
  hx.mono fun _ hd => hd.elim

/-- What is not kept of a failed computation are additions, which it might not have made. -/
theorem left_discarding {w : World} (hw : R B w (left (EStateM.run x w))) :
    R B w (left (EStateM.run (discarding x) w)) := by
  rcases Action.left_discarding x w with same | ⟨additions, same⟩
  · rwa [same]
  · rw [same]
    exact Frame.notes hw additions

end Stays

end Action

/-- **Application code that stays within a relation**, and replaces no method of the library. -/
structure Dispatch.Respects (ρ : Dispatch) (R : (DescriptorId → Prop) → World → World → Prop) :
    Prop where
  library : ρ.replaces = false
  run : ∀ answer, Action.Stays R World.nobody (ρ.run answer)

end AppMount
