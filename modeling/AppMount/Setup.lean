import AppMount.Iteration

/-!
# Setting up a descriptor

The three ways in which a descriptor is filled by hand. Each first refuses a descriptor that is
frozen, whatever else is wrong with the call; a class of descriptors may put a check of its own in
the place of this one.

* `Action.register`: a component, a class or anything else;
* `Action.provide`: a factory under a service;
* `Action.setProperty`: a value under a name;
* `register_of_frozen`, `provide_of_frozen`, `setProperty_of_frozen`: the refusal.
-/

namespace AppMount

namespace Action

/-! ## 1. The calls -/

/-- Whether what is found counts as true. -/
def foundTruth (ρ : Dispatch) : Found → Action Bool
  | .thing r => truthOf ρ r
  | _ => pure true

/-- Whether a descriptor says of itself that it is frozen. -/
def isFrozen (ρ : Dispatch) (d : DescriptorId) : Action Bool := do
  match ← standIn ρ d "_frozen" with
  | none => return ((← get).descriptor d).frozen
  | some found => foundTruth ρ found

/-- The name of a descriptor. -/
def nameOf (ρ : Dispatch) (d : DescriptorId) : Action Datum := do
  match ← standIn ρ d "name" with
  | none => return ((← get).descriptor d).name
  | some found => foundDatum (.descriptor d) found

/-- Refuses a frozen descriptor. -/
def checkNotFrozen (ρ : Dispatch) (d : DescriptorId) : Action Unit := do
  if ← isFrozen ρ d then throw (.afterMounting (← nameOf ρ d))

/-- Refuses a descriptor that is not to be changed. -/
def checkChangeable (ρ : Dispatch) (d : DescriptorId) : Action Unit := do
  let _ ← orReplaced ρ (.descriptor d) "_check_not_frozen" 0 (checkNotFrozen ρ d)

/-- The fault of asking what is found on a thing for a member that it does not have. A method of an
    instance asks the method of its class. -/
def lacking (r : Ref) (found : Found) (member : String) : Action Fault := do
  let w ← get
  return .noMember (match found with
    | .method .. => "function"
    | .thing t => w.askedTypeName t
    | found => w.foundTypeName r found) member

/-- Whether what is found is a mapping. -/
def isMapping : Found → Bool
  | .thing (.datum (.mapping _) _) => true
  | _ => false

/-- Refuses a descriptor that has something foreign in the place of its classes. -/
def checkClasses (ρ : Dispatch) (d : DescriptorId) (method : String) : Action Unit := do
  match ← standIn ρ d "_classes" with
  | none => pure ()
  | some found => throw (← lacking (.descriptor d) found method)

/-- Refuses a descriptor that has something in the place of its singletons to which nothing can be
    added. -/
def checkSingletons (ρ : Dispatch) (d : DescriptorId) : Action Unit := do
  match ← standIn ρ d "_singletons" with
  | none => pure ()
  | some found =>
    if isMapping found then pure () else throw (← lacking (.descriptor d) found "setdefault")

/-- Refuses a descriptor that has something in a field under whose keys nothing can be put. -/
def checkKeyed (ρ : Dispatch) (d : DescriptorId) (field : String) (key : Ref) : Action Unit := do
  match ← standIn ρ d field with
  | none => pure ()
  | some found =>
    let w ← get
    match w.foundTypeName (.descriptor d) found with
    | "list" => throw (.noTextIndex "list" (w.typeName key))
    | typeName => throw (.noKeys typeName)

/-- **Registers a component**: a class among the classes, anything else among the singletons. -/
def register (ρ : Dispatch) (d : DescriptorId) (component : Ref) : Action Unit := do
  checkChangeable ρ d
  if component.class?.isSome then checkClasses ρ d "add"
  else
    checkAccess ρ component
    checkSingletons ρ d
  modify fun w => w.changeDescriptor d (·.addComponent w.like component)

/-- Writes a provider under a service of a code. -/
def putProvider (ρ : Dispatch) (d : DescriptorId) (service : Ref) (code : KeyCode)
    (factory : Ref) : Action Unit := do
  let w ← get
  let x := w.descriptor d
  let settled ← settle ρ (storedCode w x.codes) service code (x.providers.map (·.1))
  modify (·.changeDescriptor d fun x =>
    { x.putProviders id [(settled, factory)] with codes := storeCode w settled code x.codes })

/-- **Registers a factory** for a service, which has to be usable as a key. -/
def provide (ρ : Dispatch) (d : DescriptorId) (service factory : Ref) : Action Unit := do
  checkChangeable ρ d
  checkKeyed ρ d "_providers" service
  let code ← codeOf ρ service
  if ρ.replaces then putProvider ρ d service code factory
  else modify fun w => w.changeDescriptor d (·.putProviders w.like [(service, factory)])

/-- **Writes a property**, under a name that has to be usable as a key. -/
def setProperty (ρ : Dispatch) (d : DescriptorId) (name value : Datum) : Action Unit := do
  checkChangeable ρ d
  checkKeyed ρ d "_properties" (.ofDatum 0 name)
  if name.isKey then modify (·.changeDescriptor d (·.putProperties [(name, value)]))
  else throw (.notKey name.typeWord)

/-! ## 2. What the library answers by itself -/

theorem run_isFrozen_of_library {ρ : Dispatch} (hρ : ρ.replaces = false) (d : DescriptorId)
    (w : World) : (isFrozen ρ d).run w = .ok (w.descriptor d).frozen w := by
  simp only [isFrozen, standIn, hρ]
  rfl

theorem run_nameOf_of_library {ρ : Dispatch} (hρ : ρ.replaces = false) (d : DescriptorId)
    (w : World) : (nameOf ρ d).run w = .ok (w.descriptor d).name w := by
  simp only [nameOf, standIn, hρ]
  rfl

theorem checkChangeable_of_frozen {ρ : Dispatch} {w : World} {d : DescriptorId}
    (hρ : ρ.replaces = false) (h : (w.descriptor d).frozen = true) :
    (checkChangeable ρ d).run w = .error (.afterMounting (w.descriptor d).name) w := by
  simp [checkChangeable, orReplaced_of_library hρ, checkNotFrozen, run_isFrozen_of_library hρ,
    run_nameOf_of_library hρ, h, -bind_pure_comp]

theorem checkChangeable_of_not_frozen {ρ : Dispatch} {w : World} {d : DescriptorId}
    (hρ : ρ.replaces = false) (h : (w.descriptor d).frozen = false) :
    (checkChangeable ρ d).run w = .ok () w := by
  simp [checkChangeable, orReplaced_of_library hρ, checkNotFrozen, run_isFrozen_of_library hρ, h,
    -bind_pure_comp]

theorem register_of_frozen {ρ : Dispatch} {w : World} {d : DescriptorId}
    (hρ : ρ.replaces = false) (h : (w.descriptor d).frozen = true) (component : Ref) :
    (register ρ d component).run w = .error (.afterMounting (w.descriptor d).name) w := by
  simp [register, checkChangeable_of_frozen hρ h]

theorem provide_of_frozen {ρ : Dispatch} {w : World} {d : DescriptorId}
    (hρ : ρ.replaces = false) (h : (w.descriptor d).frozen = true) (service factory : Ref) :
    (provide ρ d service factory).run w = .error (.afterMounting (w.descriptor d).name) w := by
  simp [provide, checkChangeable_of_frozen hρ h]

theorem setProperty_of_frozen {ρ : Dispatch} {w : World} {d : DescriptorId}
    (hρ : ρ.replaces = false) (h : (w.descriptor d).frozen = true) (name value : Datum) :
    (setProperty ρ d name value).run w = .error (.afterMounting (w.descriptor d).name) w := by
  simp [setProperty, checkChangeable_of_frozen hρ h]

end Action

end AppMount
