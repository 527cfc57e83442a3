import AppMount.Dispatch

/-!
# Declarations on classes

Putting declarations and methods on classes that are already there. The built-in primitive classes
refuse both. A declaration may also be put on a thing with a namespace of its own, where it means
nothing to anybody but who asks for it.

* `World.metadataOf`: the metadata that a class declares itself; `World.metadataIn?`: those in the
  namespace of any thing;
* `Action.decorate`, `Action.decorateAll`: declarations on a class; `Action.mark`: on any thing;
* `Action.writeMethod`: a method of a class;
* `metadataOf_changeClass_of_ne`, `run_decorate`: a declaration changes the metadata of its class
  and of no other.
-/

namespace AppMount

/-! ## 1. Reading -/

/-- **The metadata that a class declares itself.** Those of its ancestors do not count. -/
def World.metadataOf (w : World) (c : ClassId) : AppMetadata :=
  (w.classDef c).metadata.read

theorem World.metadataOf_changeClass_of_ne {w : World} {c k : ClassId} (h : c ≠ k)
    (f : ClassDef → ClassDef) : (w.changeClass c f).metadataOf k = w.metadataOf k := by
  have h' : c.index ≠ k.index := fun he => h (by cases c; cases k; simp_all)
  simp [metadataOf, classDef, changeClass, Array.getElem?_modify, h']

/-- **The metadata in the namespace of a thing**, if it has a namespace. -/
def World.metadataIn? (w : World) (r : Ref) : Option AppMetadata :=
  match r with
  | .cls c => some (w.metadataOf c)
  | r =>
    if w.hasNamespace r then
      match w.assigned? r ClassDef.metadataMember with
      | some (.metadata m) => some m
      | _ => some {}
    else none

/-! ## 2. Writing -/

namespace Action

/-- Refuses to write a member of a primitive class. -/
def checkOpen (c : ClassId) (member : String) : Action Unit := do
  let x := (← get).classDef c
  if x.origin = .primitive then throw (.sealedClass x.name member) else pure ()

/-- **Puts a declaration on a class.** -/
def decorate (c : ClassId) (d : Decoration) : Action Unit := do
  checkOpen c "__roost_metadata__"
  modify (·.changeClass c fun x => { x with metadata := x.metadata.decorate d })

/-- Puts declarations on a class, one after the other. -/
def decorateAll (c : ClassId) : List Decoration → Action Unit
  | [] => pure ()
  | d :: rest => do
    decorate c d
    decorateAll c rest

/-- **The metadata in the namespace of a thing**, or the fault of having none. -/
def readMetadata (ρ : Dispatch) (r : Ref) : Action AppMetadata := do
  checkAccess ρ r
  match (← get).metadataIn? r with
  | some m => pure m
  | none => throw .noNamespace

/-- Puts a declaration on a thing that is no class. -/
def markThing (ρ : Dispatch) (r : Ref) (d : Decoration) : Action Unit := do
  let m ← readMetadata ρ r
  let w ← get
  match w.changeFault? r false ClassDef.metadataMember .none with
  | some fault => throw fault
  | none => set (w.assign r ClassDef.metadataMember (.metadata (m.declare d)))

/-- Puts declarations on any thing, one after the other. -/
def mark (ρ : Dispatch) (r : Ref) (ds : List Decoration) : Action Unit := do
  match r with
  | .cls c => decorateAll c ds
  | r => ds.forM (markThing ρ r)

/-- **Writes a method of a class**, for its instances of before and after. -/
def writeMethod (c : ClassId) (method : String) (answer : Answer) (number : Nat) : Action Unit := do
  match (← get).classChangeFault? c false method none "function" with
  | some fault => throw fault
  | none => modify (·.changeClass c (·.writeMethod method answer number))

theorem run_decorate {w : World} {c : ClassId} (h : (w.classDef c).origin ≠ .primitive)
    (d : Decoration) :
    (decorate c d).run w =
      .ok ⟨⟩ (w.changeClass c fun x => { x with metadata := x.metadata.decorate d }) := by
  simp [decorate, checkOpen, h]

end Action

end AppMount
