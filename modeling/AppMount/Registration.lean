import AppMount.ClassDef
import AppMount.StandIn

/-!
# Registrations

What a server mounts: a descriptor, and the settings that belong to the mount and not to the
descriptor. A registration is put together by a builder. What a builder is told explicitly always
counts; the metadata of an application class only fill what is still open when the application is
supplied.

* `Registration`: the finished record;
* `RegistrationBuilder` and its setters, one structure update each;
* `RegistrationBuilder.infer`: filling what is open from a class; `RegistrationBuilder.inferred`:
  how far that goes;
* `RegistrationBuilder.build`: the record, for which a descriptor is needed;
* `Registration.label`: how a registration is named in messages.
-/

namespace AppMount

/-- The context root of a registration that nobody chose one for. -/
def defaultContextRoot : String := "/"

/-- **An application ready to be mounted.** -/
structure Registration where
  contextRoot : Datum
  config : Ref
  executor : Ref := .none
  appClassName : Datum := .null
  routingName : Datum := .null
  routingRequired : Datum := .truth false
  deriving DecidableEq, Repr

/-- The description of a registration, given how references are described. -/
def Registration.describe (ref : Ref → String) (r : Registration) : String :=
  Text.headed "ApplicationRegistration"
    ["context_root=" ++ r.contextRoot.describe, "resource_config=" ++ ref r.config,
      "executor=" ++ ref r.executor, "app_class_name=" ++ r.appClassName.describe,
      "routing_name=" ++ r.routingName.describe,
      "routing_name_required=" ++ r.routingRequired.describe]

/-! ## 1. The builder -/

/-- **A registration in the making.** -/
structure RegistrationBuilder where
  contextRoot : Datum := .null
  config : Ref := .none
  executor : Ref := .none
  appClassName : Datum := .null
  routingName : Datum := .null
  routingRequired : Datum := .truth false
  standIns : StandIns := []
  deriving DecidableEq, Repr

namespace RegistrationBuilder

/-- The fields of a builder, in the order in which building reads them. -/
def fields : List String :=
  ["_config", "_context_root", "_executor", "_app_class_name", "_routing_name",
    "_routing_name_required"]

/-- A builder in which a field has a value. -/
def supplied (field : String) (b : RegistrationBuilder) : RegistrationBuilder :=
  { b with standIns := b.standIns.supply field }

/-- A builder in which a field has no value. -/
def without (field : String) (b : RegistrationBuilder) : RegistrationBuilder :=
  { b with standIns := b.standIns.drop field }

/-- A builder in which a field is given a datum from some place. -/
def assigned (field : String) (value : Datum) (place : Nat) (b : RegistrationBuilder) :
    RegistrationBuilder :=
  let b := b.supplied field
  match field with
  | "_context_root" => { b with contextRoot := value }
  | "_config" => { b with config := .ofDatum place value }
  | "_executor" => { b with executor := .ofDatum place value }
  | "_app_class_name" => { b with appClassName := value }
  | "_routing_name" => { b with routingName := value }
  | "_routing_name_required" => { b with routingRequired := value }
  | _ => b

/-- The fault of reading a field that has no value. -/
def noValue (field : String) : Fault :=
  .noValue "ApplicationRegistrationBuilder" field

/-- Chooses the context root. -/
def withContextRoot (b : RegistrationBuilder) (value : Datum) : RegistrationBuilder :=
  { b.supplied "_context_root" with contextRoot := value }

/-- Chooses the listener. -/
def withRoutingName (b : RegistrationBuilder) (name required : Datum) : RegistrationBuilder :=
  { (b.supplied "_routing_name").supplied "_routing_name_required" with
    routingName := name, routingRequired := required }

/-- Chooses the descriptor, in place of any earlier application. -/
def withConfig (b : RegistrationBuilder) (config : Ref) : RegistrationBuilder :=
  { b.supplied "_config" with config := config }

/-- Chooses the executor. -/
def withExecutor (b : RegistrationBuilder) (executor : Ref) : RegistrationBuilder :=
  { b.supplied "_executor" with executor := executor }

/-- Fills from metadata the context root, if it is open. -/
def inferRoot (b : RegistrationBuilder) (m : AppMetadata) : RegistrationBuilder :=
  match b.contextRoot, m.path with
  | .null, .null => b
  | .null, path => b.withContextRoot path
  | _, _ => b

/-- Fills from metadata the listener's name and whether it is required, if the name is open. -/
def inferRouting (b : RegistrationBuilder) (m : AppMetadata) : RegistrationBuilder :=
  match b.routingName, m.routing with
  | .null, some r => b.withRoutingName r.value r.required
  | _, _ => b

/-- Records the name of an application class. -/
def forClass (b : RegistrationBuilder) (name : String) : RegistrationBuilder :=
  { b.supplied "_app_class_name" with appClassName := .text name }

/-- **Fills from a class what is still open**, and records the name of the class. The listener's
    name and whether it is required stay together. -/
def infer (b : RegistrationBuilder) (c : ClassDef) : RegistrationBuilder :=
  ((b.inferRoot c.metadata.read).inferRouting c.metadata.read).forClass c.fullName

/-- **How far a builder gets in filling what is open**: up to the first field that has no value. -/
def inferred (b : RegistrationBuilder) (c : ClassDef) : RegistrationBuilder × Option Fault :=
  if b.standIns.lacks "_context_root" then (b, some (noValue "_context_root"))
  else if b.standIns.lacks "_routing_name" then
    (b.inferRoot c.metadata.read, some (noValue "_routing_name"))
  else (b.infer c, none)

/-- A builder whose fields all have values gets to the end. -/
theorem inferred_of_standIns_nil {b : RegistrationBuilder} (h : b.standIns = []) (c : ClassDef) :
    b.inferred c = (b.infer c, none) := by
  simp [inferred, h]

/-! ## 2. The record -/

/-- **The finished registration.** -/
def build (b : RegistrationBuilder) : Except Fault Registration :=
  if b.standIns.lacks "_config" then .error (noValue "_config")
  else if b.config = .none then .error .noApplication
  else
    match fields.find? b.standIns.lacks with
    | some field => .error (noValue field)
    | none => .ok
      { contextRoot := if b.contextRoot = .null then .text defaultContextRoot else b.contextRoot
        config := b.config, executor := b.executor, appClassName := b.appClassName,
        routingName := b.routingName, routingRequired := b.routingRequired }

theorem build_eq_error_iff {b : RegistrationBuilder} (h : b.standIns = []) :
    b.build = .error .noApplication ↔ b.config = .none := by
  have none_lacks : fields.find? b.standIns.lacks = none := by simp [h]
  unfold build
  rw [none_lacks]
  by_cases hc : b.config = .none <;> simp [h, hc]

end RegistrationBuilder

namespace Registration

/-- The name by which a registration is known in messages: the name of its application class, or
    else the description of its descriptor. -/
def label (r : Registration) (describe : Ref → String) : String :=
  if r.appClassName.isTrue then r.appClassName.plain else describe r.config

end Registration

end AppMount
