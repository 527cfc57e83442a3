import AppMount.Metadata

/-!
# Listeners

The sockets a server listens on: its own one, known as `@default`, and any number of further ones
with names. The list of further listeners may repeat a name, and may even use the name of the
default one; a look-up then gives the first of the name, and the default name always means the
server's own host and port.

* `Listener`, `ServerConfig`: the configuration; `ListenerRecord`: a listener as it is written, and
  `ListenerRecord.listener?` what it means;
* `ServerConfig.listener?`: look-up by name; `ServerConfig.listenerNames`: the names, sorted;
* `listener?_isSome_iff`: the two agree.
-/

namespace AppMount

/-! ## 1. Configuration -/

/-- **A further listener of a server.** Port 0 leaves the choice to the system. -/
structure Listener where
  name : String
  host : String := "127.0.0.1"
  port : Int := 0
  deriving DecidableEq, Repr

/-- **A listener as it is written**, where a field may hold anything. -/
structure ListenerRecord where
  name : Datum
  host : Datum := .text "127.0.0.1"
  port : Datum := .whole 0
  deriving DecidableEq, Repr

namespace ListenerRecord

/-- The listener that a record means: its fields have to be of the right kinds. -/
def listener? (x : ListenerRecord) : Option Listener :=
  match x.name, x.host, x.port with
  | .text name, .text host, .whole port => some ⟨name, host, port⟩
  | _, _, _ => none

/-- The description of a listener. -/
def describe (x : ListenerRecord) : String :=
  Text.headed "ListenerConfig"
    ["name=" ++ x.name.describe, "host=" ++ x.host.describe, "port=" ++ x.port.describe]

end ListenerRecord

/-- The record of a listener. -/
def Listener.record (l : Listener) : ListenerRecord :=
  ⟨.text l.name, .text l.host, .whole l.port⟩

@[simp] theorem Listener.listener?_record (l : Listener) : l.record.listener? = some l := rfl

/-- **The configuration of a server**: where its default listener is bound, and what further
    listeners it has. -/
structure ServerConfig where
  host : String := "127.0.0.1"
  port : Int := 8080
  listeners : List Listener := []
  deriving DecidableEq, Repr

namespace ServerConfig

/-- The description of a server's configuration. -/
def describe (config : ServerConfig) : String :=
  Text.headed "ServerConfig"
    ["host=" ++ Text.quoted config.host, "port=" ++ toString config.port,
      "listeners=" ++ Text.bracketed (config.listeners.map (·.record.describe))]

/-! ## 2. Look-up -/

/-- The server's own listener. -/
def defaultListener (config : ServerConfig) : Listener :=
  ⟨defaultRouting, config.host, config.port⟩

/-- **The listener of a name.** -/
def listener? (config : ServerConfig) (name : String) : Option Listener :=
  if name = defaultRouting then some config.defaultListener
  else config.listeners.find? (·.name = name)

/-- The names of all listeners, each once. -/
def names (config : ServerConfig) : List String :=
  (defaultRouting :: config.listeners.map (·.name)).eraseDups

/-- **The names of all listeners**, each once and in code point order. -/
def listenerNames (config : ServerConfig) : List String :=
  config.names.mergeSort fun a b => decide (a ≤ b)

theorem mem_names_iff (config : ServerConfig) (name : String) :
    name ∈ config.names ↔ name = defaultRouting ∨ ∃ l ∈ config.listeners, l.name = name := by
  simp [names]

theorem mem_listenerNames_iff (config : ServerConfig) (name : String) :
    name ∈ config.listenerNames ↔ name ∈ config.names := by
  simp [listenerNames]

/-- **A name can be looked up exactly when it is among the names.** -/
theorem listener?_isSome_iff (config : ServerConfig) (name : String) :
    (config.listener? name).isSome ↔ name ∈ config.listenerNames := by
  rw [mem_listenerNames_iff, mem_names_iff]
  unfold listener?
  split
  · simp_all
  · simp_all

end ServerConfig

end AppMount
