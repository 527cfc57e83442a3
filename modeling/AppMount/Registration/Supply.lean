import AppMount.Adaptation
import AppMount.Declaration

/-!
# Supplying applications

How a registration builder comes by its descriptor: from a descriptor as it is, from a live
application, which is adapted at once, or from an application class, which waits until the
descriptor is frozen. Supplying may run application code and may fail; then the builder stays as it
was. Once it has its descriptor, it keeps what it was supplied with up to a fault.

* `RegistrationBuilder.application`, `applicationClass`: the two ways;
* `RegistrationBuilder.supply`: either of them, by what is supplied;
* `Registration.create`: an application with all defaults.
-/

namespace AppMount

namespace RegistrationBuilder

/-- The class whose metadata speak for an application. What has no class of the store has one that
    is named for its kind and says nothing. -/
def classFor (w : World) (app : Ref) : ClassDef :=
  (w.classOf? app).elim (ClassDef.primitive (w.typeName app) []) w.classDef

/-- **Supplies a live application.** A descriptor is used as it is; anything else is adapted. -/
def application (ρ : Dispatch) (b : RegistrationBuilder) (app : Ref) :
    Action (RegistrationBuilder × Option Fault) := do
  match app with
  | .descriptor d => return (b.withConfig (.descriptor d)).inferred (classFor (← get) app)
  | app =>
    Action.checkAccess ρ app
    let config ← Action.adaptBy ρ ClassId.descriptor "for_application"
      (Action.forApplication ρ ClassId.descriptor app)
    return (b.withConfig config).inferred (classFor (← get) app)

/-- What speaks for an application class: the class itself. Anything else in the place of one has to
    have metadata, a place where it is defined and a qualified name of its own. -/
def speakerOf (ρ : Dispatch) (app : Ref) : Action ClassDef := do
  match app with
  | .cls c => return (← get).classDef c
  | app =>
    let metadata ← Action.readMetadata ρ app
    let home ← Action.foundDatum app (← Action.access ρ app ClassDef.homeMember)
    let qualname := (← Action.qualnameOf ρ app).plain
    return { name := qualname, qualname := qualname, home := home, metadata := .own metadata }

/-- **Supplies an application class**, to be instantiated when the descriptor is frozen. -/
def applicationClass (ρ : Dispatch) (b : RegistrationBuilder) (app : Ref) :
    Action (RegistrationBuilder × Option Fault) := do
  let config ← Action.adaptBy ρ ClassId.descriptor "for_application_class"
    (Action.forApplicationClass ρ ClassId.descriptor app)
  let supplied := b.withConfig config
  match ← Action.attempt (speakerOf ρ app) with
  | .ok c => return supplied.inferred c
  | .error fault => return (supplied, some fault)

/-- Supplies an application or an application class. -/
def supply (ρ : Dispatch) (b : RegistrationBuilder) (app : Ref) :
    Action (RegistrationBuilder × Option Fault) :=
  if app.class?.isSome then applicationClass ρ b app else application ρ b app

end RegistrationBuilder

namespace Action

/-- A builder that got to the end, or the fault that it ran into. -/
def finished (b : RegistrationBuilder × Option Fault) : Action RegistrationBuilder :=
  match b with
  | (b, none) => pure b
  | (_, some fault) => throw fault

end Action

/-- **Registers an application or an application class with all defaults.** -/
def Registration.create (ρ : Dispatch) (app : Ref) : Action Registration := do
  Action.checkAccess ρ app
  let b ← Action.finished (← RegistrationBuilder.supply ρ {} app)
  Action.ofExcept b.build

end AppMount
