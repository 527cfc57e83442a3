import AppMount.Adaptation
import AppMount.Declaration

/-!
# Applications that do things

The code of an application may use the library itself before it answers: it may fill and freeze
descriptors, whichever it mentions, and put declarations on classes. Freezing a descriptor holds its
lock, for which code that runs meanwhile would wait forever.

* `Action.takeStep`: a step of setting up, on anything; `Deed.perform`: what comes before an answer;
* `Dispatch.acting`: calls of code that does such things, while some descriptors are being frozen.
-/

namespace AppMount

/-! ## 1. Deeds -/

/-- Takes a step of setting up on anything, given how to freeze. -/
def Action.takeStep (ρ : Dispatch) (freezing : DescriptorId → Action Unit) (r : Ref)
    (step : SetupStep) : Action Unit := do
  let scope := (← get).scope
  match step with
  | .register component =>
    let component ← ofExcept (scope.resolve component)
    let _ ← callMethod ρ r step.word 1 "component" (register ρ · component)
  | .provide service factory =>
    let service ← ofExcept (scope.resolve service)
    let factory ← ofExcept (scope.resolve factory)
    let _ ← callMethod ρ r step.word 2 "factory" (provide ρ · service factory)
  | .setProperty name value =>
    let _ ← callMethod ρ r step.word 2 "value" (setProperty ρ · name value)
  | .freeze =>
    let _ ← callMethod ρ r step.word 0 "self" freezing

/-- **Does what comes before an answer**, given how to freeze. -/
def Deed.perform (ρ : Dispatch) (freezing : DescriptorId → Action Unit) : Deed → Action Unit
  | .use m step => do
    let r ← Action.ofExcept ((← get).scope.resolve m)
    Action.takeStep ρ freezing r step
  | .decorate m x => do
    let r ← Action.ofExcept ((← get).scope.resolve m)
    Action.mark ρ r [x]

/-! ## 2. Dispatches -/

namespace Dispatch

/-- A dispatch under which answers and what they do lead to each other down to a depth, while the
    descriptors `held` are being frozen. -/
def actingTo (replaces : Bool) : Nat → List DescriptorId → Dispatch
  | 0, _ => ⟨replaces, fun _ => throw .endlessCall⟩
  | depth + 1, held =>
    ⟨replaces, Action.answer (actingTo replaces depth held)
      (Deed.perform (actingTo replaces depth held) fun d =>
        if d ∈ held then throw .endlessCall
        else Action.freeze (actingTo replaces depth (d :: held)) d)⟩

/-- **Calls of application code that uses the library itself**, while the descriptors `held` are
    being frozen. -/
def acting (replaces : Bool) (held : List DescriptorId) : Dispatch :=
  actingTo replaces depth held

@[simp] theorem replaces_acting (replaces : Bool) (held : List DescriptorId) :
    (acting replaces held).replaces = replaces := rfl

end Dispatch

end AppMount
