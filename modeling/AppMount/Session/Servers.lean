import AppMount.Session.Reply

/-!
# Steps on servers

The steps that collect applications for a server, build it, and look at its mounts.

* `ServerStep`: the steps; `Session.performOnServer`: what they do;
* `Session.keepMounts`: the objects that stand for the mounts of a server; `Session.mountAt`: what
  is at a position among them.
-/

namespace AppMount

/-! ## 1. The steps -/

/-- **The steps on servers.** A step that makes something binds it to the name `result`. -/
inductive ServerStep where
  | serverBuilder (result : String) (config : Mention)
  | add (builder app : Mention) (contextRoot : Datum)
  | withDefaultExecutor (builder executor : Mention)
  | build (result : String) (builder : Mention)
  | mountsFor (server : Mention) (listener : Datum)
  | mountAt (server : Mention) (index : Datum) (result : Option String)
  | mountConfig (result : String) (server : Mention) (index : Datum)
  deriving Repr

/-! ## 2. What they do -/

namespace Session

/-- Keeps an object for each mount of a server. -/
def keepMounts : List Mount → Action (List Ref)
  | [] => pure []
  | m :: rest => do
    let r ← Action.newThing (.mount m)
    let rs ← keepMounts rest
    pure (r :: rs)

/-- Builds a server and keeps it under a name. -/
def keepServer (result : String) (b : ServerBuilder) : Action Ref := do
  let server ← b.build (holding (b.registrations.filterMap (·.config.descriptor?)))
  keepAs result (.server server (← keepMounts server.mounts))

/-- Shows a server, or finds that a thing is none. -/
def serverReply (r : Ref) : Action Reply := do
  let w ← get
  match w.content? r with
  | some (.server s _) =>
    let config ← viewSetting s.setting
    return .server config (← s.mounts.mapM viewMount)
  | _ => throw (w.missingMember r "config")

/-- Builds what a builder is for and keeps it under a name, shown as a server. -/
def buildServer (result : String) (r : Ref) : Action Reply := do
  let w ← get
  match w.content? r with
  | some (.registrationBuilder b) =>
    serverReply (← keepAs result (.registration (← Action.ofExcept b.build)))
  | some (.serverBuilder b) => serverReply (← keepServer result b)
  | _ =>
    let made ← Action.keepOffer (← Action.callOther dispatch r "build" 0)
    name result made
    serverReply made

/-- A datum as a position in a sequence of a kind: whole numbers of a moderate size are some. -/
def positionOf (kind : String) (index : Datum) : Except Fault Int :=
  match World.whole? index with
  | some n => if isMachineWord n then .ok n else .error .hugePosition
  | none => .error (.noTextIndex kind index.typeWord)

/-- What is at a position of something that stands in the place of the mounts of a server, or under
    a key of it. -/
def foreignMountAt (r : Ref) (index : Datum) : Action Ref := do
  let w ← get
  match w.value? r with
  | some (.list items) =>
    let n ← Action.ofExcept (positionOf "list" index)
    let things := Ref.ofData r.place items.toList
    match (position? things.length n).bind fun i => things[i]? with
    | some item => pure item
    | none => throw (.noSuchPosition "list")
  | some (.text s) =>
    return .ofDatum 0 (← Action.ofExcept (Action.characterAt s index index.typeWord))
  | some (.mapping fields) =>
    if !index.isKey then throw (.notKey index.typeWord)
    match Keyed.get? Datum.key index fields.toList with
    | some value => pure (.ofDatum 0 value)
    | none => throw (.noSuchKey index.describe)
  | _ => throw (.noItems (w.typeName r))

/-- What is at a position of a server: the object that stands for a mount, and the mount. -/
def mountAt (r : Ref) (index : Datum) : Action (Ref × Option Mount) := do
  let found ← Action.access dispatch r "mounts"
  let w ← get
  match w.content? r, found with
  | some (.server _ _), .thing t => return (← foreignMountAt t index, none)
  | some (.server s mounts), _ =>
    let n ← Action.ofExcept (positionOf "tuple" index)
    match (position? s.mounts.length n).bind fun i =>
        s.mounts[i]?.bind fun m => mounts[i]?.map (·, some m) with
    | some found => pure found
    | none => throw (.noSuchPosition "tuple")
  | _, .thing t => return (← foreignMountAt t index, none)
  | _, found => throw (.noItems (w.foundTypeName r found))

/-- The mounts of a server on a listener. Nothing that stands in the place of the mounts is one. -/
def mountsFor (s : Server) (listener : Datum) : Action (List Mount) := do
  match s.standIns.at? "_mounts" with
  | none => pure (s.mountsFor listener)
  | some none => throw (.noValue "Server" "_mounts")
  | some (some r) =>
    let w ← get
    match w.elementsOf? r with
    | none => throw (.notIterable (w.typeName r))
    | some [] => pure []
    | some (d :: _) => throw (.noMember d.typeWord "listener")

/-- Adds to a builder a finished registration, an application or an application class. -/
def add (b : ServerBuilder) (app : Ref) (contextRoot : Datum) : Action ServerBuilder := do
  match (← get).content? app with
  | some (.registration x) => b.append (b.placed x contextRoot)
  | _ => b.addApplication dispatch app contextRoot

/-- **What a step on servers does.** -/
def performOnServer : ServerStep → Action Reply
  | .serverBuilder result config => do
    let r ← lookUp config
    let given ← Action.truthOf dispatch r
    let w ← get
    let b : ServerBuilder := if given then { setting := w.settingOf r } else {}
    let _ ← keepAs result (.serverBuilder b)
    return .truth true
  | .add builder app contextRoot => do
    let r ← lookUp builder
    let _ ← Action.access dispatch r "add_application"
    let app ← lookUp app
    match (← get).content? r with
    | some (.serverBuilder b) =>
      store r (.serverBuilder (← add b app contextRoot))
      return .fluent true
    | _ =>
      if contextRoot ≠ .null then
        Action.refuseKeyword dispatch r "add_application" "context_root"
      let _ ← Action.callOther dispatch r "add_application" 1
      return .fluent false
  | .withDefaultExecutor builder executor => do
    let r ← lookUp builder
    let _ ← Action.access dispatch r "default_executor"
    let executor ← lookUp executor
    match (← get).content? r with
    | some (.serverBuilder b) =>
      store r (.serverBuilder (b.withDefaultExecutor executor))
      return .fluent true
    | _ =>
      let _ ← Action.callOther dispatch r "default_executor" 1
      return .fluent false
  | .build result builder => do
    buildServer result (← lookUp builder)
  | .mountsFor server listener => do
    let r ← lookUp server
    let w ← get
    match w.content? r with
    | some (.server s _) =>
      return .places ((← mountsFor s listener).map fun m => (m.contextRoot, m.appClassName))
    | _ =>
      let offer ← Action.callOther dispatch r "mounts_for" 1
      throw (.notIterable offer.typeWord)
  | .mountAt server index result => do
    let (r, m) ← mountAt (← lookUp server) index
    nameIf result r
    match m with
    | some m => return .mount (← viewMount m)
    | none => throw ((← get).missingMember r "listener")
  | .mountConfig result server index => do
    match ← mountAt (← lookUp server) index with
    | (_, some m) =>
      name result m.config
      configReply m.config
    | (r, none) => throw ((← get).missingMember r "resource_config")

end Session

end AppMount
