import AppMount.Registration.Supply

/-!
# Building servers

How registrations become mounts. Building first validates all of them -- where each one listens,
that no two share a place, that its application can be constructed -- and then freezes and mounts
them in order.

* `World.settingOf`: what a thing means as a configuration; `Action.route`: looking for a listener;
* `ServerBuilder.validate`: the first pass; `ServerBuilder.mountAll`: the second;
* `ServerBuilder.build`: the two together.
-/

namespace AppMount

/-! ## 1. Looking for a listener -/

namespace World

/-- The listener that an object is, if it is a sound one. -/
def listenerOf? (w : World) (r : Ref) : Option Listener :=
  match w.content? r with
  | some (.listener x) => x.listener?
  | _ => none

/-- **What a thing means as the configuration of a server.** A configuration is sound if its host is
    a text, its port a whole number, and all it lists are sound listeners. -/
def settingOf (w : World) (r : Ref) : Setting :=
  match w.content? r with
  | some (.serverConfig (.text host) (.whole port) members) =>
    match members.mapM w.listenerOf? with
    | some listeners => .config ⟨host, port, listeners⟩ members
    | none => .other r
  | _ => .other r

/-- The name of something that is listed as a listener. -/
def listedName (w : World) (r : Ref) : Except Fault Found :=
  match w.find? r "name" with
  | some found => .ok found
  | none => .error (w.missingMember r "name")

/-- Whether what is found is a name. -/
def isNamed (w : World) (found : Found) (name : Datum) : Bool :=
  match found with
  | .thing r => w.like r = w.like (.ofDatum 0 name)
  | _ => false

/-- The first of a name among what is listed as listeners, if all before it have names. -/
def listed (w : World) (name : Datum) : List Ref → Except Fault (Option Ref)
  | [] => .ok none
  | r :: rest => do
    let own ← w.listedName r
    if w.isNamed own name then .ok (some r) else w.listed name rest

/-- The name of something that is listed as a listener, which has to be usable as a key. -/
def keyedName (w : World) (r : Ref) : Except Fault Found := do
  match ← w.listedName r with
  | .thing (.datum d place) =>
    if d.isKey then .ok (.thing (.datum d place)) else .error (.notKey d.typeWord)
  | found => .ok found

/-- A name as far as it can be put in order with texts. -/
def orderedName (w : World) (r : Ref) : Found → Except Fault String
  | .thing (.datum (.text s) _) => .ok s
  | found => .error (.notOrdered (w.foundTypeName r found) "str")

/-- The names of all that is listed as listeners. Names have to be there before they can be put in
    order. -/
def listedNames (w : World) (members : List Ref) : Except Fault (List String) := do
  let found ← members.mapM w.keyedName
  (members.zip found).mapM fun e => w.orderedName e.1 e.2

/-- The names of the listeners of a configuration, each once and in code point order. -/
def namesOf (w : World) (members : List Ref) : Except Fault (List String) := do
  let names := (defaultRouting :: (← w.listedNames members)).eraseDups
  return names.mergeSort fun a b => decide (a ≤ b)

end World

namespace Action

/-- Writes to the server's log. -/
def logged (entry : LogEntry) : Action Unit :=
  modify fun w => { w with log := w.log ++ [entry] }

/-- **Whether something that is no sound configuration has a listener of a name.** -/
def hasListener (ρ : Dispatch) (r : Ref) (name : Datum) : Action Bool := do
  let w ← get
  match w.content? r with
  | some (.serverConfig _ _ members) => return (← ofExcept (w.listed name members)).isSome
  | _ =>
    match ← callOther ρ r "listener" 1 with
    | .datum .null _ => pure false
    | _ => pure true

/-- Where a routing name leads under a setting that is no sound configuration. -/
def routeUnder (ρ : Dispatch) (r : Ref) (name : Datum) (required : Bool) : Action Routing := do
  if isDefaultName name then pure .default
  else return .named name (← hasListener ρ r name) required

/-- **Where a routing name leads under a setting.** -/
def route (ρ : Dispatch) (setting : Setting) (name : Datum) (required : Bool) : Action Routing :=
  match setting with
  | .config c _ => pure (c.route name required)
  | .other r => routeUnder ρ r name required

/-- A thing as a datum that can be put in order. -/
def orderedDatum (r : Ref) : Action Datum := do
  match r.datum? with
  | some d => pure d
  | none => throw (.notOrdered ((← get).typeName r) "str")

/-- What something that is no configuration has as the names of its listeners, in order. -/
def foreignNames (ρ : Dispatch) (r : Ref) : Action (List Datum) := do
  match ← access ρ r "listener_names" with
  | .thing t =>
    let read ← elementsOf ρ t
    finish read
    ofExcept (Sorting.sorted Datum.before (← read.items.mapM orderedDatum))
  | found => throw (.notIterable ((← get).foundTypeName r found))

/-- The names of the listeners under a setting. -/
def listenerNames (ρ : Dispatch) (setting : Setting) : Action (List String) := do
  match setting with
  | .config c _ => pure c.listenerNames
  | .other r =>
    match (← get).content? r with
    | some (.serverConfig _ _ members) => ofExcept ((← get).namesOf members)
    | _ => ofExcept (namesIn 0 (← foreignNames ρ r))

/-- **The listener of a registration.** Falling back is logged. -/
def resolveListener (ρ : Dispatch) (setting : Setting) (r : Registration) : Action Datum := do
  match ← route ρ setting r.routingName r.routingRequired.isTrue with
  | .to listener => pure listener
  | .fallBack name => do
    logged (.fellBack (← labelOf ρ r) name)
    pure (.text defaultRouting)
  | .refused name =>
    let label ← labelOf ρ r
    throw (.missingListener label name (← listenerNames ρ setting))

end Action

/-! ## 2. Adding applications -/

namespace ServerBuilder

/-- Adds a finished registration to what a builder holds, if it takes any. -/
def append (b : ServerBuilder) (r : Registration) : Action ServerBuilder := do
  match b.addFault? (← get).typeName with
  | some fault => throw fault
  | none => pure { b with registrations := b.registrations ++ [r] }

/-- **Adds an application or an application class**, perhaps on another context root. -/
def addApplication (ρ : Dispatch) (b : ServerBuilder) (app : Ref) (contextRoot : Datum) :
    Action ServerBuilder := do
  Action.checkAccess ρ app
  let supplied ← Action.finished (← RegistrationBuilder.supply ρ {} app)
  let placed := if contextRoot = .null then supplied else supplied.withContextRoot contextRoot
  b.append (← Action.ofExcept placed.build)

/-- A builder in which a field is given a datum from some place. Only an empty list is one of
    registrations. -/
def assigned (w : World) (field : String) (value : Datum) (place : Nat) (b : ServerBuilder) :
    ServerBuilder :=
  let owned := { b with standIns := b.standIns.supply field }
  match field, value with
  | "_config", value => { owned with setting := w.settingOf (.ofDatum place value) }
  | "_default_executor", value => { owned with defaultExecutor := .ofDatum place value }
  | "_registrations", .list .nil => { owned with registrations := [] }
  | field, value => { b with standIns := b.standIns.put field (.ofDatum place value) }

/-! ## 3. Validation -/

/-- A place on a server: a listener and a context root. -/
abbrev Place := Datum × Datum

/-- The place of a registration on a listener, which has to be usable as a key. -/
def placeOf (listener : Datum) (r : Registration) : Action Place :=
  match [listener, r.contextRoot].find? (!·.isKey) with
  | some d => throw (.notKey d.typeWord)
  | none => pure (listener.key, r.contextRoot.key)

/-- Refuses a builder in which a field has no value. -/
def checkField (b : ServerBuilder) (field : String) : Action Unit :=
  if b.standIns.lacks field then throw (noValue field) else pure ()

/-- **The first pass**: finds the listener of each registration and refuses the first one that has
    none, that wants a place taken before it, or whose application cannot be constructed. `taken`
    are the places of the registrations seen so far, with their labels. -/
def validate (ρ : Dispatch) (b : ServerBuilder) :
    List (Place × String) → List Registration → Action (List (Datum × Registration))
  | _, [] => pure []
  | taken, r :: rest => do
    if !isDefaultName r.routingName then b.checkField "_config"
    let listener ← Action.resolveListener ρ b.setting r
    let label ← Action.labelOf ρ r
    let place ← placeOf listener r
    match taken.find? (·.1 = place) with
    | some (_, other) => throw (.samePlace label other r.contextRoot listener)
    | none =>
      let _ ← Action.callMethod ρ r.config "check_constructible" 0 "self"
        (Action.checkConstructible ρ)
      let resolved ← validate ρ b (taken ++ [(place, label)]) rest
      pure ((listener, r) :: resolved)

/-! ## 4. Mounting -/

/-- The mount of a registration. An application without an executor of its own gets the
    server's. -/
def mountOf (defaultExecutor : Ref) (listener : Datum) (r : Registration) : Mount :=
  { listener := listener, contextRoot := r.contextRoot, config := r.config,
    executor := if r.executor = .none then defaultExecutor else r.executor,
    appClassName := r.appClassName }

/-- **The second pass**: freezes and mounts, in order. -/
def mountAll (ρ : Dispatch) (b : ServerBuilder) :
    List (Datum × Registration) → Action (List Mount)
  | [] => pure []
  | (listener, r) :: rest => do
    let _ ← Action.callMethod ρ r.config "freeze" 0 "self" (Action.freeze ρ)
    if r.executor = .none then b.checkField "_default_executor"
    Action.logged (.mounted (← Action.labelOf ρ r) r.contextRoot listener)
    let mounts ← mountAll ρ b rest
    pure (mountOf b.defaultExecutor listener r :: mounts)

/-- The registrations of a builder. Nothing that stands in their place is one, so that it has to be
    empty. -/
def toMount (b : ServerBuilder) : Action (List Registration) := do
  match b.standIns.at? "_registrations" with
  | none => pure b.registrations
  | some none => throw (noValue "_registrations")
  | some (some r) =>
    let w ← get
    match w.elementsOf? r with
    | none => throw (.notIterable (w.typeName r))
    | some [] => pure []
    | some (d :: _) => throw (.noMember d.typeWord "routing_name")

/-- **Builds the server.** -/
def build (ρ : Dispatch) (b : ServerBuilder) : Action Server := do
  let resolved ← validate ρ b [] (← b.toMount)
  let mounts ← mountAll ρ b resolved
  b.checkField "_config"
  pure { setting := b.setting, mounts := mounts }

end ServerBuilder

/-- A server in which a field is given a datum from some place. -/
def Server.assigned (w : World) (field : String) (value : Datum) (place : Nat) (s : Server) :
    Server :=
  if field = "config" then
    { s with setting := w.settingOf (.ofDatum place value), standIns := s.standIns.supply field }
  else { s with standIns := s.standIns.put field (.ofDatum place value) }

end AppMount
