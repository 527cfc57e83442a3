import AppMount.Session.Definitions
import AppMount.Session.Descriptors
import AppMount.Session.Listeners
import AppMount.Session.Registrations
import AppMount.Session.Servers
import AppMount.Session.Things

/-!
# Running a session

What becomes of a script. A step looks up what it refers to before it does anything; a step that
fails does not keep the script from going on.

* `Step`: the steps, by what they are about; `Step.perform`: what they do;
* `Report`: what is said about a step;
* `Session.step`: one step with its report; `Session.run`: a whole script;
* `Session.final`: the descriptors that names stand for in the end;
* `Session.transcript`: all of it.
-/

namespace AppMount

/-! ## 1. Steps -/

/-- **What a session can be asked to do.** -/
inductive Step where
  | definition (x : DefinitionStep)
  | descriptor (x : DescriptorStep)
  | listener (x : ListenerStep)
  | registration (x : RegistrationStep)
  | server (x : ServerStep)
  | thing (x : ThingStep)
  deriving Repr

namespace Step

/-- **A step as a computation.** -/
def perform : Step → Action Reply
  | .definition x => Session.performDefinition x
  | .descriptor x => Session.performOnDescriptor x
  | .listener x => Session.performOnListener x
  | .registration x => Session.performOnRegistration x
  | .server x => Session.performOnServer x
  | .thing x => Session.performOnThing x

/-- The descriptor whose state the report of a step shows. -/
def subject : Step → Option Mention
  | .descriptor x => x.subject
  | _ => none

end Step

/-- **The report of a step**: its answer or fault, the state of the descriptor it worked on if it
    shows one, the calls it made into application code, and what it logged. -/
structure Report where
  outcome : Except Fault Reply
  state : Option ConfigView := none
  calls : List String := []
  log : List LogEntry := []
  deriving Repr

/-! ## 2. Scripts -/

namespace Session

/-- The names every session starts with. -/
def builtinNames : List (String × ClassId) :=
  [("Application", ClassId.application), ("ResourceConfig", ClassId.descriptor),
    ("object", ClassId.object), ("int", ClassId.whole), ("str", ClassId.text),
    ("dict", ClassId.mapping)]

/-- **The store before the first step.** Of a session, a class's own constructor methods show its
    parameters. -/
def initial : World :=
  { World.initial with
    rule := .ownFirst
    scope := ⟨builtinNames.map fun e => (e.1, .cls e.2)⟩ }

/-- The state that the report of a step shows. Nothing is known of what is not bound. -/
def stateAfter (x : Step) (outcome : Except Fault Reply) : Action (Option ConfigView) := do
  match x.subject, outcome with
  | _, .error (.unbound _) | none, _ => pure none
  | some m, _ => return some (← viewConfig (← lookUp m))

/-- **A step with the state after it.** That the state cannot be shown is a fault of a step that
    went well. -/
def performAndView (x : Step) : Action (Except Fault Reply × Option ConfigView) := do
  let outcome ← Action.attempt x.perform
  match ← Action.attempt (stateAfter x outcome), outcome with
  | .ok state, _ => pure (outcome, state)
  | .error fault, .ok _ => pure (.error fault, none)
  | .error _, .error fault => pure (.error fault, none)

/-- The calls of a step, each with the label of the class or thing for which the code is written. -/
def callTexts (w : World) : List String :=
  w.calls.map fun c => Text.plainOrNone (w.label c.definer) ++ "." ++ c.method

/-- Runs a computation with empty records of calls and of the log. -/
def runAfresh {α : Type} (w : World) (x : Action α) : Except Fault α × World :=
  match EStateM.run x { w with calls := [], log := [] } with
  | .ok a w' => (.ok a, w')
  | .error fault w' => (.error fault, w')

/-- **One step.** -/
def step (w : World) (x : Step) : Report × World :=
  match runAfresh w (performAndView x) with
  | (.ok (outcome, state), w') =>
    (⟨outcome, state, callTexts w', w'.log⟩, w')
  | (.error fault, w') => (⟨.error fault, none, callTexts w', w'.log⟩, w')

/-- **A script**: its steps in order, whatever becomes of each. -/
def run (w : World) : List Step → List Report × World
  | [] => ([], w)
  | x :: rest =>
    let (report, w') := step w x
    let (reports, last) := run w' rest
    (report :: reports, last)

/-! ## 3. The end -/

/-- Views of those of these names that stand for descriptors, as far as they can be shown. -/
def viewNames : List String → Action (List (String × DescriptorView))
  | [] => pure []
  | n :: rest => do
    let view? : Option DescriptorView ←
      match (← get).scope.find? n with
      | some (.descriptor d) =>
        match ← Action.attempt (viewDescriptor d) with
        | .ok view => pure (some view)
        | .error _ => pure none
      | _ => pure none
    let views ← viewNames rest
    pure (view?.elim views fun view => (n, view) :: views)

/-- **What the names stand for in the end**, as far as they stand for descriptors, and the calls
    that showing them made. -/
def final (w : World) : List (String × DescriptorView) × List String :=
  match runAfresh w (viewNames w.scope.names) with
  | (.ok views, w') => (views, callTexts w')
  | (.error _, w') => ([], callTexts w')

/-- **All that is said about a script.** -/
structure Transcript where
  reports : List Report
  final : List (String × DescriptorView)
  deriving Repr

/-- The last report with the calls that were made after it. The records of a step that made no
    calls are closed. -/
def extendLast (later : List String) : List Report → List Report
  | [] => []
  | [r] => [if r.calls.isEmpty then r else { r with calls := r.calls ++ later }]
  | r :: rest => r :: extendLast later rest

/-- **A script from its first step to the views in the end.** The records of the last step stay open
    until then. -/
def transcript (steps : List Step) : Transcript :=
  let (reports, last) := run initial steps
  let (views, later) := final last
  ⟨extendLast later reports, views⟩

end Session

end AppMount
