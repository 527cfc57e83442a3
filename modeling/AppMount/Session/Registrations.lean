import AppMount.Session.Servers

/-!
# Steps on registrations

The steps that put registrations together, with a builder or directly, and make mounts directly.

* `RegistrationStep`: the steps; `Session.performOnRegistration`: what they do;
* `Session.setBuilder`: a setter of a builder; one that fails leaves the builder as it was;
* `Session.callHeld`: what becomes of the setter of a builder on anything else;
* `Session.requireFields`: the fields that a record made directly cannot do without.
-/

namespace AppMount

/-! ## 1. The steps -/

/-- **The steps on registrations.** A step that makes something binds it to the name `result`. -/
inductive RegistrationStep where
  | builder (result : String)
  | withContextRoot (builder : Mention) (value : Datum)
  | withRoutingName (builder : Mention) (name : Datum) (required : Option Datum)
  | withConfig (builder config : Mention)
  | withApplication (builder app : Mention)
  | withApplicationClass (builder app : Mention)
  | withExecutor (builder executor : Mention)
  | buildRegistration (result : String) (builder : Mention)
  | create (result : String) (app : Mention)
  | registration (result : String) (contextRoot : Option Datum) (config : Option Mention)
      (executor : Mention) (appClassName routingName routingRequired : Datum)
  | mount (result : String) (listener contextRoot : Option Datum) (config : Option Mention)
      (executor : Mention) (appClassName : Datum)
  | registrationConfig (result : String) (registration : Mention)
  deriving Repr

/-! ## 2. What they do -/

namespace Session

/-- The fault of leaving out required fields of a record, if any is left out. -/
def requireFields (typeName : String) (missing : List String) : Action Unit :=
  match missing with
  | [] => pure ()
  | names => throw (.call (typeName ++ ".__init__") (.missing false names))

/-- **Calls what a thing that is no registration builder has under the name of a setter.** What it
    holds there may be called itself. -/
def callHeld (r : Ref) (argument : Ref) (found : Found) : Action Reply := do
  match found with
  | .thing held =>
    let made ← call held ⟨[argument], none⟩
    return .fluent (made = r)
  | found =>
    let _ ← Action.callFound dispatch r found 1 "self" fun _ => pure ()
    return .fluent false

/-- Whether a thing is a registration builder. -/
def isRegistrationBuilder (w : World) (r : Ref) : Bool :=
  match w.content? r with
  | some (.registrationBuilder _) => true
  | _ => false

/-- Applies a setter to a registration builder, given what was found under the name of the
    setter. -/
def setBuilder (r argument : Ref) (found : Found)
    (f : RegistrationBuilder → Action (RegistrationBuilder × Option Fault)) : Action Reply := do
  match (← get).content? r with
  | some (.registrationBuilder b) =>
    supplyBuilder r (← f b)
    return .fluent true
  | _ => callHeld r argument found

/-- Keeps a registration under a name and shows it. -/
def keepRegistration (result : String) (x : Registration) : Action Reply := do
  let _ ← keepAs result (.registration x)
  return .registration (← viewRegistration x)

/-- The descriptor that a registration or a mount is for. -/
def configOf (r : Ref) : Action Ref := do
  match ← Action.access dispatch r "resource_config" with
  | .thing config => pure config
  | found => Action.keepOffer (.datum (← Action.foundDatum r found) 0)

/-- Builds what a builder is for and shows it as a registration, which a server is not. -/
def buildRegistration (result : String) (r : Ref) : Action Reply := do
  let w ← get
  match w.content? r with
  | some (.registrationBuilder b) => keepRegistration result (← Action.ofExcept b.build)
  | some (.serverBuilder b) =>
    let server ← keepServer result b
    throw ((← get).missingMember server "context_root")
  | _ =>
    let made ← Action.keepOffer (← Action.callOther dispatch r "build" 0)
    name result made
    throw ((← get).missingMember made "context_root")

/-- **What a step on registrations does.** -/
def performOnRegistration : RegistrationStep → Action Reply
  | .builder result => do
    let _ ← keepAs result (.registrationBuilder {})
    return .truth true
  | .withContextRoot builder value => do
    let r ← lookUp builder
    let found ← Action.access dispatch r "context_root"
    setBuilder r (.ofDatum 0 value) found fun b => pure (b.withContextRoot value, none)
  | .withRoutingName builder routingName required => do
    let r ← lookUp builder
    let found ← Action.access dispatch r "routing_name"
    let named := required.isSome && !isRegistrationBuilder (← get) r
    if named then Action.refuseKeyword dispatch r "routing_name" "required"
    setBuilder r (.ofDatum 0 routingName) found fun b =>
      pure (b.withRoutingName routingName (required.getD (.truth false)), none)
  | .withConfig builder config => do
    let r ← lookUp builder
    let found ← Action.access dispatch r "config"
    let config ← lookUp config
    setBuilder r config found fun b => pure (b.withConfig config, none)
  | .withApplication builder app => do
    let r ← lookUp builder
    let found ← Action.access dispatch r "application"
    let app ← lookUp app
    setBuilder r app found fun b => b.application dispatch app
  | .withApplicationClass builder app => do
    let r ← lookUp builder
    let found ← Action.access dispatch r "application_class"
    let app ← lookUp app
    setBuilder r app found fun b => b.applicationClass dispatch app
  | .withExecutor builder executor => do
    let r ← lookUp builder
    let found ← Action.access dispatch r "executor"
    let executor ← lookUp executor
    setBuilder r executor found fun b => pure (b.withExecutor executor, none)
  | .buildRegistration result builder => do
    buildRegistration result (← lookUp builder)
  | .create result app => do
    keepRegistration result (← Registration.create dispatch (← lookUp app))
  | .registration result contextRoot config executor appClassName routingName required => do
    let r ← lookUp (config.getD none)
    let executor ← lookUp executor
    requireFields "ApplicationRegistration"
      ((if contextRoot.isNone then ["context_root"] else [])
        ++ if config.isNone then ["resource_config"] else [])
    keepRegistration result
      { contextRoot := contextRoot.getD .null, config := r, executor := executor,
        appClassName := appClassName, routingName := routingName, routingRequired := required }
  | .mount result listener contextRoot config executor appClassName => do
    let r ← lookUp (config.getD none)
    let executor ← lookUp executor
    requireFields "Mount"
      ((if listener.isNone then ["listener"] else [])
        ++ (if contextRoot.isNone then ["context_root"] else [])
        ++ if config.isNone then ["resource_config"] else [])
    let m : Mount :=
      { listener := listener.getD .null, contextRoot := contextRoot.getD .null, config := r,
        executor := executor, appClassName := appClassName }
    let _ ← keepAs result (.mount m)
    return .mount (← viewMount m)
  | .registrationConfig result registration => do
    let config ← configOf (← lookUp registration)
    name result config
    configReply config

end Session

end AppMount
