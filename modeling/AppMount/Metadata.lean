import AppMount.Datum
import AppMount.Text.Quoted

/-!
# Where a class wants to be mounted

A class may carry a record of the context root it wants to live at and of the listener it wants to
be bound to. The record belongs to the class itself: a derived class starts without one.

* `RoutingName`: a listener by name, and whether it has to be there;
* `AppMetadata`: the record; `MetadataSlot`: what a class holds in its place;
* `Decoration`, `MetadataSlot.decorate`: writing one half of the record and keeping the other;
* `read_decorate_path`, `read_decorate_routing`: what a decorated class says afterwards;
* `decorate_comm`: decorations of different halves commute.
-/

namespace AppMount

/-! ## 1. The record -/

/-- **The routing name that always means the server's own listener.** -/
def defaultRouting : String := "@default"

/-- **A listener by name.** When it is required and missing, the server does not start; otherwise
    the application goes to the default listener. -/
structure RoutingName where
  value : Datum
  required : Datum := .truth false
  deriving DecidableEq, Repr

/-- Whether the name means the server's own listener. -/
def RoutingName.isDefault (r : RoutingName) : Bool :=
  r.value = .text defaultRouting

/-- The description of a routing name. -/
def RoutingName.describe (r : RoutingName) : String :=
  Text.headed "RoutingName"
    ["value=" ++ r.value.describe, "required=" ++ r.required.describe]

/-- **The mount wishes of a class.** -/
structure AppMetadata where
  path : Datum := .null
  routing : Option RoutingName := none
  deriving DecidableEq, Repr

/-- The description of a metadata record, given that of its routing name. -/
def AppMetadata.describeWith (path : Datum) (routing : String) : String :=
  Text.headed "AppMetadata" ["path=" ++ path.describe, "routing=" ++ routing]

/-- The description of a metadata record. -/
def AppMetadata.describe (m : AppMetadata) : String :=
  describeWith m.path (match m.routing with | some r => r.describe | none => "None")

/-! ## 2. The record of a class -/

/-- **What a class holds where its metadata belong**: nothing, a record, or something foreign. -/
inductive MetadataSlot where
  | absent
  | own (m : AppMetadata)
  | foreign (d : Datum)
  deriving DecidableEq, Repr

/-- The metadata of a class; what is not a record counts as an empty one. -/
def MetadataSlot.read : MetadataSlot → AppMetadata
  | .own m => m
  | _ => {}

/-- **A declaration put on a class.** -/
inductive Decoration where
  | path (value : Datum)
  | routing (name required : Datum)
  deriving DecidableEq, Repr

/-- A record with one declaration added. -/
def AppMetadata.declare (m : AppMetadata) : Decoration → AppMetadata
  | .path value => { m with path := value }
  | .routing name required => { m with routing := some ⟨name, required⟩ }

/-- A class's slot after a declaration: always a record, made from what was read before. -/
def MetadataSlot.decorate (slot : MetadataSlot) (d : Decoration) : MetadataSlot :=
  .own (slot.read.declare d)

@[simp] theorem MetadataSlot.read_decorate_path (slot : MetadataSlot) (value : Datum) :
    (slot.decorate (.path value)).read = { slot.read with path := value } := rfl

@[simp] theorem MetadataSlot.read_decorate_routing (slot : MetadataSlot) (name required : Datum) :
    (slot.decorate (.routing name required)).read =
      { slot.read with routing := some ⟨name, required⟩ } := rfl

/-- **Declarations of the two halves commute.** -/
theorem MetadataSlot.decorate_comm (slot : MetadataSlot) (value name required : Datum) :
    (slot.decorate (.path value)).decorate (.routing name required) =
      (slot.decorate (.routing name required)).decorate (.path value) := rfl

end AppMount
