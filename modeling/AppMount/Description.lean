import AppMount.Dispatch

/-!
# Descriptions and labels

How things are shown: in messages by a description, and in answers by a label. A class may describe
its instances itself; then describing runs the code of an application.

* `World.describe`: the description by the library; records describe what they refer to, and a
  method of a thing (`World.boundDescription`) that thing;
* `Action.describe`: the description, by the class of the thing if it has its own way;
* `World.label`: the name a thing was first bound to, or a word for its kind;
* `Action.labelOf`: how messages name a registration.
-/

namespace AppMount

namespace World

/-! ## 1. Descriptions -/

/-- The description of an object that has no other one. -/
def plainDescription (typeName : String) : String :=
  "<" ++ typeName ++ " object>"

/-- The description of a method of an instance, given that of the instance. -/
def boundDescription (m : Method) (owner : String) : String :=
  "<bound method " ++ m.callee ++ " of " ++ owner ++ ">"

/-- The description of an object, given how references are described. -/
def describeContent (w : World) (ref : Ref → String) : Content → String
  | .made c value => (value.map Datum.describe).getD (plainDescription (w.classDef c).name)
  | .executor name _ => "<executor " ++ name ++ ">"
  | .routing r => r.describe
  | .metadata path r => AppMetadata.describeWith path (ref r)
  | .listener x => x.describe
  | .serverConfig host port members =>
    Text.headed "ServerConfig"
      ["host=" ++ host.describe, "port=" ++ port.describe,
        "listeners=" ++ Text.bracketed (members.map ref)]
  | .registration r => r.describe ref
  | .mount m => m.describe ref
  | .collection x => x.describe ref
  | .member owner (.bound _ m) => boundDescription m (ref owner)
  | x => plainDescription (x.typeWord?.getD "object")

/-- The description of a thing, with records inside records described to the given depth. -/
def describeTo (w : World) : Nat → Ref → String
  | _, .none => "None"
  | _, .cls c => (w.classDef c).describe
  | _, .descriptor d => (w.descriptor d).describe
  | _, .datum d _ => d.describe
  | 0, r => plainDescription (w.typeName r)
  | depth + 1, r =>
    match w.content? r with
    | some x => w.describeContent (w.describeTo depth) x
    | none => plainDescription (w.typeName r)

/-- **The description of a thing.** A record refers only to things made before it, so the number of
    objects bounds the depth. -/
def describe (w : World) (r : Ref) : String :=
  w.describeTo w.things.size r

@[simp] theorem describe_none (w : World) : w.describe .none = "None" := by
  unfold describe
  cases w.things.size <;> rfl

@[simp] theorem describe_descriptor (w : World) (d : DescriptorId) :
    w.describe (.descriptor d) = (w.descriptor d).describe := by
  unfold describe
  cases w.things.size <;> rfl

/-! ## 2. Labels -/

/-- **The label of a thing**: the name it was first bound to, or a question mark and the label of
    its class. Nothing has no label. -/
def label (w : World) (r : Ref) : Option String :=
  if r = .none then none
  else
    match w.scope.label? r with
    | some name => some name
    | none =>
      match w.classOf? r with
      | some c => some ("?" ++ (w.scope.label? (.cls c)).getD (w.classDef c).name)
      | none => some ("?" ++ w.typeName r)

end World

/-! ## 3. Descriptions by classes -/

namespace Action

/-- The text that a method for descriptions hands back. -/
def textOffered (method : String) : Offer → Action String
  | .datum (.text s) _ => pure s
  | offer => throw (.wrongResult (.description method offer.typeWord))

/-- How many things there are in what is found, if they can be counted. -/
def lengthOf (r : Ref) (found : Found) : Action Nat := do
  let w ← get
  match found with
  | .thing (.datum (.text s) _) => pure s.length
  | .thing (.datum (.list items) _) => pure items.toList.length
  | .thing (.datum (.mapping fields) _) => pure fields.toList.length
  | found => throw (.noLength (w.foundTypeName r found))

/-- What is found as a datum, or a text that stands for it. -/
def foundDatum (r : Ref) (found : Found) : Action Datum := do
  let w ← get
  match found with
  | .thing (.datum d _) => pure d
  | .thing .none => pure .null
  | .thing r => pure (.text (w.describe r))
  | found => pure (.text (World.plainDescription (w.foundTypeName r found)))

/-- The number of the singletons of a descriptor. Those that were put there as a mapping count
    too. -/
def singletonCount (ρ : Dispatch) (d : DescriptorId) : Action Nat := do
  let r := Ref.descriptor d
  match ← standIn ρ d "_singletons" with
  | none => return ((← get).descriptor d).singletons.length
  | some (.thing (.datum (.mapping fields) _)) =>
    return fields.toList.length + ((← get).descriptor d).singletons.length
  | some found => lengthOf r found

/-- The description of a descriptor, which shows some of its fields. -/
def describeDescriptor (ρ : Dispatch) (d : DescriptorId) : Action String := do
  let r := Ref.descriptor d
  let name ← match ← standIn ρ d "name" with
    | none => pure ((← get).descriptor d).name
    | some found => foundDatum r found
  let classes ← match ← standIn ρ d "_classes" with
    | none => pure ((← get).descriptor d).classes.length
    | some found => lengthOf r found
  let singletons ← singletonCount ρ d
  let frozen ← match ← standIn ρ d "_frozen" with
    | none => pure (Text.truthWord ((← get).descriptor d).frozen)
    | some found => pure (← foundDatum r found).plain
  return Descriptor.describeWith name classes singletons frozen

/-- Whether a number has more digits than are written out. -/
def isTooLong (n : Int) : Bool :=
  3 * mostDigits ≤ n.natAbs.log2 && Nat.pow 10 mostDigits ≤ n.natAbs

/-- Refuses to write out a number with too many digits. -/
def checkLength (value : Option Datum) : Action Unit :=
  match value with
  | some (.whole n) => if isTooLong n then throw (.conversion .tooLong) else pure ()
  | _ => pure ()

/-- The description of a thing, by its class if that has its own way. What a record shows is
    described by `inner`, if there is one. -/
def describeBy (ρ : Dispatch) (inner : Option (Ref → Action String)) (r : Ref) : Action String := do
  match ← special ρ r "__repr__" 0 with
  | some offer => textOffered "__repr__" offer
  | none =>
    let w ← get
    checkLength (w.value? r)
    match r, inner, w.content? r with
    | .descriptor d, _, _ => describeDescriptor ρ d
    | _, some inner, some x => do
      let descriptions ← x.shown.mapM inner
      let described := x.shown.zip descriptions
      pure (w.describeContent (fun r => (described.lookup r).getD (w.describe r)) x)
    | _, _, _ => pure (w.describe r)

/-- The description of a thing, with records inside records described to the given depth. -/
def describeTo (ρ : Dispatch) : Nat → Ref → Action String
  | 0 => describeBy ρ none
  | depth + 1 => describeBy ρ (some (describeTo ρ depth))

/-- **The description of a thing**, by its class if that has its own way. -/
def describe (ρ : Dispatch) (r : Ref) : Action String := do
  let w ← get
  if ρ.replaces then describeTo ρ w.things.size r else pure (w.describe r)

/-- The description of what was found under a member of a thing. -/
def describeFound (ρ : Dispatch) (r : Ref) : Found → Action String
  | .thing t => describe ρ t
  | .method _ m =>
    if r.class?.isSome then pure (World.plainDescription "function")
    else return World.boundDescription m (← describe ρ r)
  | .inner typeName => pure (World.plainDescription typeName)

/-- **The name of a registration in messages**: the name of its application class, or else the
    description of its descriptor as things are now. -/
def labelOf (ρ : Dispatch) (r : Registration) : Action String :=
  if r.appClassName.isTrue then pure r.appClassName.plain else describe ρ r.config

/-- The library by itself describes descriptors as they are. -/
theorem run_describe_of_library {ρ : Dispatch} (h : ρ.replaces = false) (r : Ref) (w : World) :
    (describe ρ r).run w = .ok (w.describe r) w := by
  simp only [describe, h]
  rfl

/-- A registration is named as things are. -/
theorem run_labelOf_of_library {ρ : Dispatch} (h : ρ.replaces = false) (r : Registration)
    (w : World) : (labelOf ρ r).run w = .ok (r.label w.describe) w := by
  unfold labelOf Registration.label
  cases h' : r.appClassName.isTrue with
  | false => simpa [h'] using run_describe_of_library h _ w
  | true => simp

end Action

end AppMount
