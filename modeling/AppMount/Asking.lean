import AppMount.Construction

/-!
# Asking applications

How the code of an application is run when it is asked for something. What is mentioned in the code
is looked up when the code runs.

* `Action.answer`: running a written answer;
* `Action.ownOffer`: what a descriptor offers by itself;
* `Action.ask`: asking an application for its classes, singletons or properties;
* `Dispatch.library`, `Dispatch.replaceable`: the two ways in which calls find their code, where
  that does nothing but answer.
-/

namespace AppMount

namespace Action

/-! ## 1. Running answers -/

/-- Looks up each of these and calls it for one instance, one after the other. -/
def freshInstances (ρ : Dispatch) : List Mention → Action (List Ref)
  | [] => pure []
  | m :: rest => do
    let r ← ofExcept ((← get).scope.resolve m)
    let made ← callThing ρ r {}
    let others ← freshInstances ρ rest
    pure (made :: others)

/-- Runs a written answer, given how to run those that it leads to, and how to do what comes before
    it. -/
def answer (ρ : Dispatch) (act : Deed → Action Unit) : Answer → Action Offer
  | .list ms => do
    let items ← ofExcept ((← get).scope.resolveAll ms)
    pure (.list items)
  | .set ms => do
    let items ← ofExcept ((← get).scope.resolveAll ms)
    let (items, codes) ← setOf ρ items
    pure (.set items codes)
  | .stream ms failure => do
    let items ← ofExcept ((← get).scope.resolveAll ms)
    pure (.stream ⟨items, failure.map .raised⟩)
  | .fresh ms => return .list (← freshInstances ρ ms)
  | .mapping entries place =>
    match entries.find? fun e => !e.1.isKey with
    | some (k, _) => throw (.notKey k.typeWord)
    | none => pure (.entries (Keyed.putAll Datum.key [] entries) place)
  | .datum value place => pure (.datum value place)
  | .fail error => throw (.raised error)
  | .after deed next => do
    act deed
    answer ρ act next

end Action

/-! ## 2. The two dispatches -/

namespace Dispatch

/-- A dispatch under which answers lead to each other down to a depth, and nothing else is done. -/
def ofDepth (replaces : Bool) : Nat → Dispatch
  | 0 => ⟨replaces, fun _ => throw .endlessCall⟩
  | depth + 1 => ⟨replaces, Action.answer (ofDepth replaces depth) fun _ => pure ()⟩

/-- How deep answers may lead to each other. -/
def depth : Nat := 512

/-- **The library by itself**: applications answer its questions and replace none of its methods. -/
def library : Dispatch :=
  ofDepth false depth

/-- **Calls that look at the class of a thing first**, which may replace methods of the library. -/
def replaceable : Dispatch :=
  ofDepth true depth

@[simp] theorem replaces_library : library.replaces = false := rfl

@[simp] theorem replaces_replaceable : replaceable.replaces = true := rfl

end Dispatch

/-! ## 3. Asking -/

namespace Action

/-- The classes of a descriptor that has something foreign in their place. -/
def foreignClasses (ρ : Dispatch) (r : Ref) : Found → Action Offer
  | .thing (.datum d place) =>
    match d.elements? with
    | some data => do
      let (items, codes) ← setOf ρ (Ref.ofData place data)
      pure (.set items codes)
    | none => throw (.notIterable d.typeWord)
  | found => do throw (.notIterable ((← get).foundTypeName r found))

/-- The singletons of a descriptor that has something foreign in their place. Only a mapping has
    values, and what was added to it comes after them. -/
def foreignSingletons (r : Ref) (added : List Ref) : Found → Action Offer
  | .thing (.datum (.mapping fields) place) =>
    pure (.list (Ref.ofValues place fields.toList ++ added))
  | found => do throw (← lacking r found "values")

/-- The entries of what a descriptor has in the place of a mapping. -/
def foreignEntries (ρ : Dispatch) (r : Ref) : Found → Action (List (Datum × Datum))
  | .thing found => entriesOf ρ found
  | found => do throw (.notIterable ((← get).foundTypeName r found))

/-- **What a descriptor offers**: what it holds. -/
def ownOffer (ρ : Dispatch) (d : DescriptorId) (h : Hook) : Action Offer := do
  let r := Ref.descriptor d
  match ← standIn ρ d (fieldOf h) with
  | none => return ((← get).descriptor d).offer h
  | some found =>
    match h with
    | .classes => foreignClasses ρ r found
    | .singletons => foreignSingletons r ((← get).descriptor d).singletons found
    | .properties => return .entries (Keyed.putAll Datum.key [] (← foreignEntries ρ r found)) 0
where
  /-- The field that a hook reads. -/
  fieldOf : Hook → String
    | .classes => "_classes"
    | .singletons => "_singletons"
    | .properties => "_properties"

/-- By itself a descriptor offers what it holds. -/
theorem run_ownOffer_of_library {ρ : Dispatch} (hρ : ρ.replaces = false) (d : DescriptorId)
    (h : Hook) (w : World) : (ownOffer ρ d h).run w = .ok ((w.descriptor d).offer h) w := by
  simp only [ownOffer, standIn, hρ]
  rfl

/-- Runs a hook that is written in `k` on the application `app`. -/
def runHook (ρ : Dispatch) (app : Ref) (k : Ref) (h : Hook) (m : Method) : Action Offer := do
  match m.code with
  | .empty => pure (match h with | .classes => .set [] [] | .singletons => .list []
                                 | .properties => .entries [] 0)
  | .own =>
    match app with
    | .descriptor d => ownOffer ρ d h
    | _ => throw ((← get).missingMember app h.word)
  | .answer answer =>
    note k h.word
    ρ.run answer
  | _ => pure (.datum .null 0)

/-- **Asks an application.** A class in the place of an application has the method, but nothing
    to call it on. -/
def ask (ρ : Dispatch) (app : Ref) (h : Hook) : Action Offer := do
  match app, ← access ρ app h.word with
  | .cls _, .method _ m => throw (.call m.callee (.missing false ["self"]))
  | app, .method k m => runHook ρ app k h m
  | app, found => callWritten ρ app found 0

end Action

end AppMount
