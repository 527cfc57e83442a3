import AppMount.Listener
import AppMount.Registration

/-!
# Servers

A builder collects registrations for a server; a server has a mount for each of them.

* `Mount`, `Server`: the result; `Server.mountsFor`, `position?`: looking at it;
* `Setting`: what stands in for the configuration of a server that is to be built;
* `ServerBuilder`: the collection;
* `Routing`, `ServerConfig.route`: where a routing name leads under a configuration.
-/

namespace AppMount

/-! ## 1. Mounts -/

/-- **An application on a listener.** -/
structure Mount where
  listener : Datum
  contextRoot : Datum
  config : Ref
  executor : Ref := .none
  appClassName : Datum := .null
  deriving DecidableEq, Repr

/-- The description of a mount, given how references are described. -/
def Mount.describe (ref : Ref → String) (m : Mount) : String :=
  Text.headed "Mount"
    ["listener=" ++ m.listener.describe, "context_root=" ++ m.contextRoot.describe,
      "resource_config=" ++ ref m.config, "executor=" ++ ref m.executor,
      "app_class_name=" ++ m.appClassName.describe]

/-! ## 2. Servers -/

/-- **What a server is configured with**: a configuration, together with the objects that its
    further listeners are, or something that is no sound configuration. -/
inductive Setting where
  | config (c : ServerConfig) (members : List Ref)
  | other (r : Ref)
  deriving DecidableEq, Repr

/-- **A resolved server.** -/
structure Server where
  setting : Setting
  mounts : List Mount
  standIns : StandIns := []
  deriving DecidableEq, Repr

namespace Server

/-- The mounts on one listener, in order. -/
def mountsFor (s : Server) (listener : Datum) : List Mount :=
  s.mounts.filter (·.listener.key = listener.key)

end Server

/-- A position among so many, counted from the front, or from the back when it is negative. -/
def position? (length : Nat) (index : Int) : Option Nat :=
  let i := if index < 0 then index + length else index
  if 0 ≤ i ∧ i < length then some i.toNat else none

/-- Whether a position fits into a machine word. -/
def isMachineWord (index : Int) : Bool :=
  -Int.pow 2 63 ≤ index && index < Int.pow 2 63

/-! ## 3. The builder -/

/-- **The registrations collected for a server.** -/
structure ServerBuilder where
  setting : Setting := .config {} []
  registrations : List Registration := []
  defaultExecutor : Ref := .none
  standIns : StandIns := []
  deriving DecidableEq, Repr

namespace ServerBuilder

/-- A registration as a builder takes it, perhaps on another context root. -/
def placed (_ : ServerBuilder) (r : Registration) (contextRoot : Datum) : Registration :=
  if contextRoot = .null then r else { r with contextRoot := contextRoot }

/-- Adds a finished registration, perhaps on another context root. -/
def addRegistration (b : ServerBuilder) (r : Registration) (contextRoot : Datum) : ServerBuilder :=
  { b with registrations := b.registrations ++ [b.placed r contextRoot] }

/-- Chooses the executor of applications that do not bring their own. -/
def withDefaultExecutor (b : ServerBuilder) (executor : Ref) : ServerBuilder :=
  { b with
    defaultExecutor := executor, standIns := b.standIns.supply "_default_executor" }

/-- The fault of reading a field that has no value. -/
def noValue (field : String) : Fault :=
  .noValue "ServerBuilder" field

/-- **Why nothing can be added to a builder**, if nothing can: what it holds in the place of its
    registrations has to be a list. -/
def addFault? (b : ServerBuilder) (typeName : Ref → String) : Option Fault :=
  match b.standIns.at? "_registrations" with
  | none => none
  | some none => some (noValue "_registrations")
  | some (some r) =>
    if typeName r = "list" then none else some (.noMember (typeName r) "append")

end ServerBuilder

/-! ## 4. Where a routing name leads -/

/-- **The outcome of looking for a listener.** -/
inductive Routing where
  | to (listener : Datum)
  | fallBack (name : Datum)
  | refused (name : Datum)
  deriving DecidableEq, Repr

/-- The default listener, as what a routing name leads to. -/
def Routing.default : Routing :=
  .to (.text defaultRouting)

/-- What becomes of a name, by whether there is a listener of that name. -/
def Routing.named (name : Datum) (found required : Bool) : Routing :=
  if found then .to name else if required then .refused name else .fallBack name

/-- Whether a routing name leads to the default listener by itself: no name does, and the default
    name. -/
def isDefaultName (name : Datum) : Bool :=
  name = .null || name = .text defaultRouting

/-- Whether a configuration has a listener of a name. Only texts are names of listeners. -/
def ServerConfig.has (config : ServerConfig) : Datum → Bool
  | .text name => (config.listener? name).isSome
  | _ => false

/-- **Where a routing name leads**: no name and the default name lead to the default listener, the
    name of a listener leads there, and any other name falls back to the default listener or is
    refused if it is required. -/
def ServerConfig.route (config : ServerConfig) (name : Datum) (required : Bool) : Routing :=
  if isDefaultName name then .default else .named name (config.has name) required

end AppMount
