import AppMount.Fault
import AppMount.Metadata

/-!
# The exported names

What users of the package can ask for by name, where each thing is defined, and what kind of thing
it is.

* `Export`: a constant, a class or a function; `exports`: all of them, in the order in which the
  package lists them;
* `export?`: asking for a name; `export?_eq_error_iff`: any other name is refused.
-/

namespace AppMount.Catalogue

/-! ## 1. The list -/

/-- **A thing that is exported.** -/
inductive Export where
  | constant (value : String)
  | cls (home qualname : String) (bases : List String)
  | function (home qualname : String)
  deriving DecidableEq, Repr

/-- The name of the package. -/
def package : String := "roost"

/-- The version of the package. -/
def version : String := "0.1.0-dev"

/-- A part of the package. -/
def part (name : String) : String :=
  package ++ "." ++ name

/-- **The exported names**, in the order in which they are listed. -/
def exports : List (String × Export) :=
  [("DEFAULT_ROUTING", .constant defaultRouting),
    ("AppMetadata", .cls (part "application") "AppMetadata" ["object"]),
    ("Application", .cls (part "application") "Application" ["object"]),
    ("ApplicationRegistration",
      .cls (part "registration") "ApplicationRegistration" ["object"]),
    ("ApplicationRegistrationBuilder",
      .cls (part "registration") "ApplicationRegistrationBuilder" ["object"]),
    ("ConfigurationError", .cls (part "errors") "ConfigurationError" ["RoostError"]),
    ("ListenerConfig", .cls (part "config") "ListenerConfig" ["object"]),
    ("Mount", .cls (part "server") "Mount" ["object"]),
    ("ResourceConfig", .cls (part "resources") "ResourceConfig" ["Application"]),
    ("RoostError", .cls (part "errors") "RoostError" ["Exception"]),
    ("RoutingName", .cls (part "application") "RoutingName" ["object"]),
    ("Server", .cls (part "server") "Server" ["object"]),
    ("ServerBuilder", .cls (part "server") "ServerBuilder" ["object"]),
    ("ServerConfig", .cls (part "config") "ServerConfig" ["object"]),
    ("application_path", .function (part "application") "application_path"),
    ("metadata_of", .function (part "application") "metadata_of"),
    ("routing_name", .function (part "application") "routing_name")]

/-- The names alone. -/
def names : List String :=
  exports.map (·.1)

/-! ## 2. Asking for a name -/

/-- **What a name stands for.** -/
def export? (name : String) : Except Fault Export :=
  match exports.find? (·.1 = name) with
  | some e => .ok e.2
  | none => .error (.notExported package name)

/-- A name is refused exactly when it is not listed. -/
theorem export?_eq_error_iff (name : String) :
    export? name = .error (.notExported package name) ↔ name ∉ names := by
  unfold export?
  split
  · rename_i e h
    have hmem := List.mem_of_find?_eq_some h
    have hname := List.find?_some h
    simp only [decide_eq_true_eq] at hname
    simp only [reduceCtorEq, false_iff, Decidable.not_not]
    exact List.mem_map.2 ⟨e, hmem, hname⟩
  · rename_i h
    simp only [true_iff]
    intro hmem
    obtain ⟨e, he, hname⟩ := List.mem_map.1 hmem
    exact absurd (List.find?_eq_none.1 h e he) (by simp [hname])

end AppMount.Catalogue
