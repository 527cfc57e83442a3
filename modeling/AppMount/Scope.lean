import AppMount.ClassDef
import AppMount.Fault
import AppMount.Keyed

/-!
# Names

Which names stand for which things, and by which name a thing is known. Names are bound one after
the other and may be bound again; a thing keeps the label it was given first.

* `Scope`: the bindings in the order they were made;
* `Scope.find?`, `Scope.resolve`: what a name stands for now;
* `Scope.label?`: the first name a thing was bound to;
* `Scope.names`: the names in the order they were first bound;
* `find?_bind`, `label?_bind`: how one more binding changes the two look-ups.
-/

namespace AppMount

/-- **The bindings made so far**, oldest first. -/
structure Scope where
  bindings : List (String × Ref) := []
  deriving DecidableEq, Repr

namespace Scope

/-- Binds a name. -/
def bind (s : Scope) (name : String) (r : Ref) : Scope :=
  ⟨s.bindings ++ [(name, r)]⟩

/-- What a name stands for: its latest binding. -/
def find? (s : Scope) (name : String) : Option Ref :=
  (s.bindings.reverse.find? (·.1 = name)).map (·.2)

/-- The label of a thing: the name of its earliest binding. -/
def label? (s : Scope) (r : Ref) : Option String :=
  (s.bindings.find? (·.2 = r)).map (·.1)

/-- The names, each once, in the order they were first bound. -/
def names (s : Scope) : List String :=
  Keyed.addAll id [] (s.bindings.map (·.1))

/-- What a mention stands for. -/
def resolve (s : Scope) : Mention → Except Fault Ref
  | none => .ok .none
  | some name =>
    match s.find? name with
    | some r => .ok r
    | none => .error (.unbound name)

/-- What mentions stand for, up to the first that has nothing bound to it. -/
def resolvePrefix (s : Scope) : List Mention → List Ref × Option Fault
  | [] => ([], none)
  | m :: rest =>
    match s.resolve m with
    | .ok r => let (rs, fault) := s.resolvePrefix rest; (r :: rs, fault)
    | .error fault => ([], some fault)

/-- What mentions stand for. -/
def resolveAll (s : Scope) (ms : List Mention) : Except Fault (List Ref) :=
  match s.resolvePrefix ms with
  | (rs, none) => .ok rs
  | (_, some fault) => .error fault

/-- **The latest binding of a name counts.** -/
theorem find?_bind (s : Scope) (name name' : String) (r : Ref) :
    (s.bind name r).find? name' = if name = name' then some r else s.find? name' := by
  simp only [bind, find?, List.reverse_append, List.reverse_cons, List.reverse_nil,
    List.nil_append, List.singleton_append, List.find?_cons]
  by_cases h : name = name' <;> simp [h]

/-- **The earliest binding of a thing gives it its label.** -/
theorem label?_bind (s : Scope) (name : String) (r r' : Ref) :
    (s.bind name r).label? r' = (s.label? r').or (if r = r' then some name else none) := by
  simp only [bind, label?, List.find?_append, List.find?_singleton]
  cases s.bindings.find? (·.2 = r') with
  | some e => simp
  | none => by_cases h : r = r' <;> simp [h]

end Scope

end AppMount
