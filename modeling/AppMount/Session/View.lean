import AppMount.Deeds
import AppMount.Server.Build
import AppMount.Session.Labels

/-!
# Views

What a session shows of its things: descriptors, registrations, mounts, listeners and
configurations, with everything they refer to shown by its label.

* `DescriptorView`, `ConfigView`: a descriptor, or the label of what stands in its place;
* `RegistrationView`, `MountView`, `ListenerView`, `ServerConfigView`;
* `Session.dispatch`: how calls of a session find their code;
* `Session.viewConfig` and its companions make the views; what is listed as a listener, or stands
  for a server's configuration, and is none cannot be viewed, nor can a descriptor that nothing has
  initialized.
-/

namespace AppMount

/-! ## 1. The views -/

/-- **What is shown of a descriptor.** -/
structure DescriptorView where
  label : Label
  name : Datum
  classes : List Label
  singletons : List Label
  properties : List (Datum × Datum)
  providers : List (Label × Label)
  application : Label
  applicationClass : Label
  frozen : Datum
  description : String
  deriving Repr

/-- A descriptor, or the label of what stands in its place. -/
inductive ConfigView where
  | descriptor (v : DescriptorView)
  | other (label : Label)
  deriving Repr

/-- What is shown of a registration. -/
structure RegistrationView where
  contextRoot : Datum
  config : ConfigView
  executor : Label
  appClassName : Datum
  routingName : Datum
  routingRequired : Datum
  deriving Repr

/-- What is shown of a mount. -/
structure MountView where
  listener : Datum
  contextRoot : Datum
  config : ConfigView
  executor : Label
  appClassName : Datum
  deriving Repr

/-- What is shown of a listener. -/
structure ListenerView where
  label : Label
  name : Datum
  host : Datum
  port : Datum
  description : String
  deriving Repr

/-- What is shown of a server's configuration. -/
structure ServerConfigView where
  host : Datum
  port : Datum
  listeners : List (Option ListenerView)
  description : String
  deriving Repr

namespace Session

/-! ## 2. Descriptors, registrations and mounts -/

/-- How calls find their code while some descriptors are being frozen. -/
def holding (held : List DescriptorId) : Dispatch :=
  Dispatch.acting true held

/-- **How calls of a session find their code**: classes may replace methods of the library, and
    their own may use it. -/
def dispatch : Dispatch :=
  holding []

/-- A view of the store as it is now. -/
def viewed {α : Type} (f : World → α) : Action α := do
  return f (← get)

/-- A view that may fail. -/
def viewedOr {α : Type} (f : World → Except Fault α) : Action α := do
  Action.ofExcept (f (← get))

/-- The label of what is found on a thing. -/
def foundLabel (w : World) (r : Ref) : Found → Label
  | .thing r => w.label r
  | found => some ("?" ++ w.foundTypeName r found)

/-- The label of a member of a descriptor. -/
def labelIn (r : Ref) (member : String) : Action Label := do
  let found ← Action.access dispatch r member
  return foundLabel (← get) r found

/-- The labels of the classes that a descriptor holds. -/
def viewClasses (d : DescriptorId) : Action (List Label) := do
  let offer ← Action.ownOffer dispatch d .classes
  viewedOr (·.sortedLabels offer.elements.items)

/-- The labels of the singletons that a descriptor holds. -/
def viewSingletons (d : DescriptorId) : Action (List Label) := do
  let offer ← Action.ownOffer dispatch d .singletons
  viewed fun w => offer.elements.items.map w.label

/-- The properties that a descriptor holds. -/
def viewProperties (d : DescriptorId) : Action (List (Datum × Datum)) := do
  return (← Action.ownOffer dispatch d .properties).entries?.getD []

/-- The labels of the providers of a descriptor. -/
def viewProviders (d : DescriptorId) : Action (List (Label × Label)) := do
  let r := Ref.descriptor d
  let found ← Action.access dispatch r "providers"
  let w ← get
  let entries ← match w.member? (w.descriptor d).cls "providers", found with
    | some (_, .computed), _ => return (← labelled (← Action.providersOf dispatch d).1)
    | _, .thing (.datum (.mapping fields) _) =>
      pure (fields.toList.map fun f => (Ref.ofDatum 0 f.1, Ref.ofDatum 0 f.2))
    | _, found => throw (← Action.lacking r found "items")
  labelled entries
where
  /-- Entries by their labels. -/
  labelled (entries : List (Ref × Ref)) : Action (List (Label × Label)) :=
    viewed fun w => entries.map fun e => (w.label e.1, w.label e.2)

/-- **The view of a descriptor**, of which all that is shown has to be there. -/
def viewDescriptor (d : DescriptorId) : Action DescriptorView := do
  let r := Ref.descriptor d
  let name ← Action.foundDatum r (← Action.access dispatch r "name")
  let classes ← viewClasses d
  let singletons ← viewSingletons d
  let properties ← viewProperties d
  let providers ← viewProviders d
  let application ← labelIn r "application"
  let applicationClass ← labelIn r "application_class"
  let frozen ← Action.foundDatum r (← Action.access dispatch r "frozen")
  let description ← Action.describe dispatch r
  return {
    label := ← viewed (·.label r), name := name, classes := classes, singletons := singletons,
    properties := properties, providers := providers, application := application,
    applicationClass := applicationClass, frozen := frozen, description := description }

/-- **The view of what should be a descriptor.** -/
def viewConfig (r : Ref) : Action ConfigView := do
  match r with
  | .descriptor d => return .descriptor (← viewDescriptor d)
  | r =>
    Action.checkAccess dispatch r
    return .other (← viewed (·.label r))

/-- The view of a registration. -/
def viewRegistration (r : Registration) : Action RegistrationView := do
  let config ← viewConfig r.config
  return {
    contextRoot := r.contextRoot, config := config, executor := ← viewed (·.label r.executor),
    appClassName := r.appClassName, routingName := r.routingName,
    routingRequired := r.routingRequired }

/-- The view of a mount. -/
def viewMount (m : Mount) : Action MountView := do
  let config ← viewConfig m.config
  return {
    listener := m.listener, contextRoot := m.contextRoot, config := config,
    executor := ← viewed (·.label m.executor), appClassName := m.appClassName }

/-! ## 3. Listeners and configurations -/

/-- What a thing has under a member, as a datum. -/
def datumIn (r : Ref) (member : String) : Action Datum := do
  Action.foundDatum r (← Action.access dispatch r member)

/-- **The view of what is listed as a listener.** Nothing may be listed. -/
def viewListed (r : Ref) : Action (Option ListenerView) := do
  if r = .none then return none
  else
    let name ← datumIn r "name"
    let host ← datumIn r "host"
    let port ← datumIn r "port"
    let description ← Action.describe dispatch r
    return some ⟨← viewed (·.label r), name, host, port, description⟩

/-- The view of a listener that a configuration makes up. -/
def viewMadeUp (x : ListenerRecord) : ListenerView :=
  ⟨some ("?" ++ ((Content.listener x).typeWord?.getD "")), x.name, x.host, x.port, x.describe⟩

/-- What is listed under the listeners of a thing. -/
def listedIn (r : Ref) : Action (List Ref) := do
  let found ← Action.access dispatch r "listeners"
  let w ← get
  match w.content? r, found with
  | some (.serverConfig _ _ members), _ => pure members
  | _, .thing t =>
    let read ← Action.elementsOf dispatch t
    Action.finish read
    pure read.items
  | _, found => throw (.notIterable (w.foundTypeName r found))

/-- **The view of what should be the configuration of a server.** -/
def viewServerConfig (r : Ref) : Action ServerConfigView := do
  let host ← datumIn r "host"
  let port ← datumIn r "port"
  let listeners ← (← listedIn r).mapM viewListed
  return ⟨host, port, listeners, ← Action.describe dispatch r⟩

/-- The view of what a server is configured with. -/
def viewSetting : Setting → Action ServerConfigView
  | .config c members => do
    let listeners ← members.mapM viewListed
    return ⟨.text c.host, .whole c.port, listeners, c.describe⟩
  | .other r => viewServerConfig r

end Session

end AppMount
