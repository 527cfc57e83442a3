import AppMount.Session.Reply

/-!
# Steps on listeners

The steps that make the configuration of a server and look listeners up in it.

* `ListenerStep`: the steps; `Session.performOnListener`: what they do.
-/

namespace AppMount

/-- **The steps on listeners.** A step that makes a record binds it to the name `result`. -/
inductive ListenerStep where
  | listenerConfig (result : String) (listener : ListenerRecord)
  | serverConfig (result : String) (host port : Datum) (listeners : List Mention)
  | listener (config : Mention) (name : Datum)
  | listenerNames (config : Mention)
  deriving Repr

namespace Session

/-- The listener of a name under a configuration: the default one is made up, and any other is the
    first of its name that is listed. -/
def viewListener (r : Ref) (listenerName : Datum) : Action (Option ListenerView) := do
  let w ← get
  match w.content? r with
  | some (.serverConfig host port members) =>
    if listenerName = .text defaultRouting then
      return some (viewMadeUp ⟨listenerName, host, port⟩)
    else
      match ← Action.ofExcept (w.listed listenerName members) with
      | some found => viewListed found
      | none => return none
  | _ => viewListed (← Action.keepOffer (← Action.callOther dispatch r "listener" 1))

/-- **What a step on listeners does.** -/
def performOnListener : ListenerStep → Action Reply
  | .listenerConfig result listener => do
    let r ← keepAs result (.listener listener)
    return .listener (← viewListed r)
  | .serverConfig result host port listeners => do
    let r ← keepAs result (.serverConfig host port (← lookUpAll listeners))
    return .serverConfig (← viewServerConfig r)
  | .listener config listenerName => do
    return .listener (← viewListener (← lookUp config) listenerName)
  | .listenerNames config => do
    let r ← lookUp config
    let w ← get
    match w.content? r with
    | some (.serverConfig _ _ members) =>
      return .names ((← Action.ofExcept (w.namesOf members)).map .text)
    | _ => return .names (← Action.foreignNames dispatch r)

end Session

end AppMount
