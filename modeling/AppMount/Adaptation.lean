import AppMount.Asking
import AppMount.Constructible

/-!
# Adapting applications

How a descriptor comes to hold what an application offers. A live application is absorbed at once;
an application class is only remembered, and instantiated and absorbed when the descriptor is
frozen.

* `Action.absorb`: classes, then singletons, then properties, then providers, each entry written
  as it is read, so that a fault leaves what came before it;
* `Action.forApplication`, `Action.forApplicationClass`: the two ways to adapt;
* `Action.freeze`: the end of setup; a descriptor that is frozen stays as it is;
  `Action.freezeTimes`: many callers at once;
* `Action.checkConstructible`: whether freezing would be refused for the parameters of the class.
-/

namespace AppMount.Action

/-! ## 1. Absorbing -/

/-- Ends a reading: raises the fault it ended with. -/
def finish {α : Type} (r : Reading α) : Action Unit :=
  match r.ending with
  | some fault => throw fault
  | none => pure ()

/-- Adds one thing more to the classes of a descriptor. -/
def takeClass (ρ : Dispatch) (d : DescriptorId) (r : Ref) (code : KeyCode) : Action Unit := do
  let x := (← get).descriptor d
  let (classes, codes) ← addKey ρ x.classes x.codes r code
  modify (·.changeDescriptor d ({ · with classes := classes, codes := codes }))

/-- Adds what an application offers as its classes, one after the other. The elements of a set come
    with their codes. -/
def takeClasses (ρ : Dispatch) (d : DescriptorId) : Offer → Action Unit
  | .set items codes =>
    items.forM fun r => do
      takeClass ρ d r (storedCode (← get) codes r)
  | offer => do
    offer.elements.items.forM fun r => do
      takeClass ρ d r (← codeOf ρ r)
    finish offer.elements

/-- Puts something else in the place of a field of a descriptor that has something there. -/
def replaceStandIn (d : DescriptorId) (field : String) (r : Ref) : Action Unit :=
  modify fun w =>
    if ((w.descriptor d).standIns.at? field).isSome then
      w.changeDescriptor d fun x => { x with standIns := x.standIns.put field r }
    else w.assign (.descriptor d) field (.thing r)

/-- Takes the application's classes. What is in the place of a descriptor's own ones takes none,
    unless it is a mapping, which takes pairs. -/
def absorbClasses (ρ : Dispatch) (d : DescriptorId) (app : Ref) : Action Unit := do
  if ρ.replaces then
    match ← standIn ρ d "_classes" with
    | none => takeClasses ρ d (← ask ρ app .classes)
    | some (.thing (.datum (.mapping fields) place)) =>
      let read ← pairsOf ρ (← ask ρ app .classes)
      let entries := Keyed.putAll Datum.key fields.toList read.items
      replaceStandIn d "_classes" (.ofDatum place (.mapping (.ofList entries)))
      finish read
    | some found => throw (← lacking (.descriptor d) found "update")
  else
    let offered := (← ask ρ app .classes).elements
    let usable := Reading.upToFault (← get).keyFault? offered.items offered.ending
    modify fun w => w.changeDescriptor d (·.addClasses w.like usable.items)
    finish usable

/-- Takes the application's singletons. -/
def absorbSingletons (ρ : Dispatch) (d : DescriptorId) (app : Ref) : Action Unit := do
  let offered := (← ask ρ app .singletons).elements
  if !offered.items.isEmpty then checkSingletons ρ d
  modify (·.changeDescriptor d (·.addSingletons offered.items))
  finish offered

/-- Refuses a descriptor that has something in the place of a mapping that takes no entries. -/
def checkMapping (ρ : Dispatch) (d : DescriptorId) (field : String) : Action Unit := do
  match ← standIn ρ d field with
  | none => pure ()
  | some found => throw (← lacking (.descriptor d) found "update")

/-- Takes the application's properties. -/
def absorbProperties (ρ : Dispatch) (d : DescriptorId) (app : Ref) : Action Unit := do
  checkMapping ρ d "_properties"
  let offered ← ask ρ app .properties
  let read ← pairsOf ρ offered
  modify (·.changeDescriptor d (·.putProperties read.items))
  finish read

/-- The providers of a descriptor, with the codes of their services. -/
def providersOf (ρ : Dispatch) (d : DescriptorId) :
    Action (List (Ref × Ref) × List (Ref × KeyCode)) := do
  match ← standIn ρ d "_providers" with
  | none =>
    let x := (← get).descriptor d
    pure (x.providers, x.codes)
  | some found =>
    let entries ← foreignEntries ρ (.descriptor d) found
    pure (entries.map fun e => (.ofDatum 0 e.1, .ofDatum 0 e.2), [])

/-- Takes the providers of an application that is a descriptor itself. -/
def absorbProviders (ρ : Dispatch) (d : DescriptorId) (app : Ref) : Action Unit := do
  match app with
  | .descriptor e =>
    if ρ.replaces then
      checkMapping ρ d "_providers"
      let (providers, codes) ← providersOf ρ e
      providers.forM fun p => do
        putProvider ρ d p.1 (storedCode (← get) codes p.1) p.2
    else modify fun w => w.changeDescriptor d (·.putProviders w.like (w.descriptor e).providers)
  | app => checkAccess ρ app

/-- **Takes all that an application offers.** -/
def absorb (ρ : Dispatch) (d : DescriptorId) (app : Ref) : Action Unit := do
  absorbClasses ρ d app
  absorbSingletons ρ d app
  absorbProperties ρ d app
  absorbProviders ρ d app

/-- Takes all that an application offers, in the way of the descriptor's class. -/
def absorbInto (ρ : Dispatch) (d : DescriptorId) (app : Ref) : Action Unit := do
  let _ ← orReplaced ρ (.descriptor d) "_absorb" 1 (absorb ρ d app)

/-! ## 2. Adapting -/

/-- Makes a descriptor of class `factory` with a name. What a class makes that is no descriptor has
    no `field` for an application. -/
def newNamed (ρ : Dispatch) (factory : ClassId) (name : Datum) (field : String) :
    Action DescriptorId := do
  let made ← construct ρ factory { name := some name }
  match made with
  | .descriptor d => pure d
  | r => throw ((← get).missingToChange r field)

/-- **A descriptor for a live application**, absorbed at once. A descriptor that could not absorb
    its application is dropped. -/
def forApplication (ρ : Dispatch) (factory : ClassId) (app : Ref) : Action DescriptorId :=
  discarding do
    let d ← newNamed ρ factory (.text ((← get).typeQualname app)) "_application"
    claim ρ d "_application"
    modify (·.changeDescriptor d (·.adopt app))
    absorbInto ρ d app
    pure d

/-- **A descriptor for an application class**, which is not instantiated yet. Anything else that has
    a qualified name is taken in its place. -/
def forApplicationClass (ρ : Dispatch) (factory : ClassId) (app : Ref) : Action DescriptorId :=
  discarding do
    match app with
    | .cls c =>
      let d ← newNamed ρ factory (.text ((← get).classDef c).qualname) "_application_class"
      claim ρ d "_application_class"
      modify (·.changeDescriptor d (·.standForClass c))
      pure d
    | r =>
      let d ← newNamed ρ factory (← qualnameOf ρ r) "_application_class"
      claim ρ d "_application_class"
      modify (·.changeDescriptor d fun x =>
        { x with standIns := x.standIns.put "_application_class" r })
      pure d

/-- Adapts an application by a method of the class `factory`, which may have one of its own. -/
def adaptBy (ρ : Dispatch) (factory : ClassId) (method : String) (own : Action DescriptorId) :
    Action Ref := do
  if ρ.replaces then
    match (← get).member? factory method with
    | some (k, .method m) =>
      if isOwn m then return .descriptor (← own)
      else keepOffer (← callCode ρ (.cls k) m 0)
    | some (_, member) => throw (.notCallable member.typeWord)
    | none => throw ((← get).missingMember (.cls factory) method)
  else return .descriptor (← own)

/-! ## 3. Freezing -/

/-- The application class of a descriptor, or what stands in its place. -/
def applicationClassOf (ρ : Dispatch) (d : DescriptorId) : Action Found := do
  match ← standIn ρ d "_application_class" with
  | none => return .thing (((← get).descriptor d).applicationClass.elim .none .cls)
  | some found => pure found

/-- Whether a descriptor has an application. -/
def hasApplication (ρ : Dispatch) (d : DescriptorId) : Action Bool := do
  match ← standIn ρ d "_application" with
  | none => return ((← get).descriptor d).application.isSome
  | some found => return found ≠ .thing .none

/-- The application that a class makes, or what stands in its place. -/
def instantiateFound (ρ : Dispatch) (r : Ref) (found : Found) : Action Ref := do
  match found with
  | .thing (.cls c) => instantiate ρ c
  | found =>
    checkParametersFound ρ r found
    match found with
    | .method k m => keepOffer (← callCode ρ k m 0)
    | .thing t => callThing ρ t {}
    | .inner typeName => throw (.notCallable typeName)

/-- The application of a class, made in the way of the descriptor's class. -/
def makeApplication (ρ : Dispatch) (d : DescriptorId) (found : Found) : Action Ref := do
  match ← named ρ (.descriptor d) "_instantiate" 1 with
  | some offer => keepOffer offer
  | none => instantiateFound ρ (.descriptor d) found

/-- Makes the application of a descriptor and absorbs it. -/
def fulfil (ρ : Dispatch) (d : DescriptorId) (found : Found) : Action Unit := do
  let app ← makeApplication ρ d found
  claim ρ d "_application"
  modify (·.changeDescriptor d (·.standFor app))
  absorbInto ρ d app

/-- **Freezes a descriptor.** A descriptor that stands for an application class and has no
    application yet makes one and absorbs it first. -/
def freeze (ρ : Dispatch) (d : DescriptorId) : Action Unit := do
  if ← isFrozen ρ d then pure ()
  else
    checkHeld ρ d
    let found ← applicationClassOf ρ d
    if found ≠ .thing .none then
      if !(← hasApplication ρ d) then fulfil ρ d found
    markFrozen ρ d

/-- **Refuses a descriptor whose application class shows that it cannot be constructed.** -/
def checkConstructible (ρ : Dispatch) (d : DescriptorId) : Action Unit := do
  if ← isFrozen ρ d then pure ()
  else
    match ← applicationClassOf ρ d with
    | .thing .none => pure ()
    | .thing (.cls c) => checkParameters ρ c
    | found => checkParametersFound ρ (.descriptor d) found

/-- **Many callers freezing one thing.** They are let in one after the other; how many came to an
    end, and the faults of the others. -/
def freezeTimes (ρ : Dispatch) (r : Ref) : Nat → Action (Nat × List Fault)
  | 0 => pure (0, [])
  | callers + 1 => do
    let first ← attempt (callMethod ρ r "freeze" 0 "self" (freeze ρ))
    let (succeeded, faults) ← freezeTimes ρ r callers
    match first with
    | .ok _ => pure (succeeded + 1, faults)
    | .error fault => pure (succeeded, fault :: faults)

/-! ## 4. The library by itself -/

theorem run_applicationClassOf_of_library {ρ : Dispatch} (hρ : ρ.replaces = false)
    (d : DescriptorId) (w : World) :
    (applicationClassOf ρ d).run w =
      .ok (.thing ((w.descriptor d).applicationClass.elim .none .cls)) w := by
  simp only [applicationClassOf, standIn, hρ]
  rfl

theorem run_hasApplication_of_library {ρ : Dispatch} (hρ : ρ.replaces = false)
    (d : DescriptorId) (w : World) :
    (hasApplication ρ d).run w = .ok (w.descriptor d).application.isSome w := by
  simp only [hasApplication, standIn, hρ]
  rfl

theorem freeze_of_frozen {ρ : Dispatch} {w : World} {d : DescriptorId}
    (hρ : ρ.replaces = false) (h : (w.descriptor d).frozen = true) :
    (freeze ρ d).run w = .ok () w := by
  simp [freeze, run_isFrozen_of_library hρ, h, -bind_pure_comp]

end AppMount.Action
