import AppMount.Session.Reply

/-!
# Steps on descriptors

The steps that make descriptors, fill them, freeze them and look at them.

* `DescriptorStep`: the steps; `Session.performOnDescriptor`: what they do;
* `DescriptorStep.subject`: the descriptor whose state the report of a step shows;
* `Session.askHook`: what an application answers when it is asked from outside;
  `Session.tamper`: changing the answers;
* `Session.register`: registering with anything, as classes have a meaning of their own for it.
-/

namespace AppMount

/-! ## 1. The steps -/

/-- **The steps on descriptors.** A step that makes one binds it to the name `result`. -/
inductive DescriptorStep where
  | config (result : String) (cls : Mention) (components : List Mention) (name : Option Datum)
  | forApplication (result : String) (cls app : Mention)
  | forApplicationClass (result : String) (cls app : Mention)
  | register (config component : Mention)
  | provide (config service factory : Mention)
  | setProperty (config : Mention) (name value : Datum)
  | freeze (config : Mention)
  | setName (config : Mention) (name : Datum)
  | checkConstructible (config : Mention)
  | freezeOften (config : Mention) (times : Nat)
  | view (config : Mention)
  | ask (app : Mention) (hook : Hook)
  | tamper (config : Mention)
  | getApplication (config : Mention) (result : Option String)
  deriving Repr

/-- The descriptor whose state the report of a step shows. -/
def DescriptorStep.subject : DescriptorStep → Option Mention
  | .register m _ | .provide m .. | .setProperty m .. | .freeze m | .freezeOften m _ => some m
  | _ => none

namespace Session

/-! ## 2. Calls -/

/-- **Whether a class counts as a kind of another**: it derives from it, or it was declared a kind
    of it or of a class below it. Only guarded classes have kinds that do not derive from them. -/
def isKind (w : World) : Nat → ClassId → ClassId → Bool
  | 0, c, k => (w.lineage c).contains k
  | depth + 1, c, k =>
    (w.lineage c).contains k ||
      ((w.classDef k).guarded &&
        ((w.kinds.any fun e => e.1 = k && isKind w depth c e.2)
          || (List.range w.classes.size).any fun i =>
              (w.classDef ⟨i⟩).ancestors.head? = some k && isKind w depth c ⟨i⟩))

/-- **Declares a thing a kind of a guarded class**, which is only to be said of classes and without
    going in a circle. -/
def declareKind (c : ClassId) (r : Ref) : Action Unit := do
  let w ← get
  match r with
  | .cls k =>
    if isKind w w.classes.size k c then pure ()
    else if isKind w w.classes.size c k then throw .circularKind
    else set { w with kinds := (c, k) :: w.kinds }
  | _ => throw .notClass

/-- Registers a component with a thing, given what was found there to do so. Tells whether the thing
    itself is handed back. -/
def register (r component : Ref) (found : Found) : Action Bool := do
  match r, found with
  | .cls c, .inner "method" =>
    declareKind c component
    pure (component = r)
  | r, found =>
    return (← Action.callFound dispatch r found 1 "component"
      (Action.register dispatch · component)).isNone

/-- Adapts an application by what was found for that on a class of descriptors, on a descriptor, or
    on anything else. -/
def adapt (r : Ref) (lastParameter : String) (found : Found)
    (own : ClassId → Action DescriptorId) : Action Ref := do
  match r, found with
  | .cls c, .method k m =>
    if Action.isOwn m then return .descriptor (← own c)
    else Action.keepOffer (← Action.callCode dispatch k m 0)
  | .descriptor d, .method k m =>
    if Action.isOwn m then return .descriptor (← own ((← get).descriptor d).cls)
    else Action.keepOffer (← Action.callCode dispatch k m 1)
  | r, found =>
    match ← Action.callFound dispatch r found 1 lastParameter fun _ => pure () with
    | some offer => Action.keepOffer offer
    | none => pure .none

/-! ## 3. Questions -/

/-- What an application answers to a hook. -/
def askHook (app : Ref) (hook : Hook) : Action Reply := do
  let offer ← Action.ask dispatch app hook
  match hook with
  | .classes =>
    Action.finish offer.elements
    return .labels (← viewedOr (·.sortedLabels offer.elements.items))
  | .singletons =>
    Action.finish offer.elements
    return .labels (← viewed fun w => offer.elements.items.map w.label)
  | .properties =>
    match offer.entries? with
    | some entries => return .properties entries
    | none => throw (.noMember offer.typeWord "items")

/-- Takes everything out of the datum that a hook hands out itself, for good. -/
def emptyDatum (app : Ref) (hook : Hook) : Action Unit := do
  let w ← get
  match (w.classOf? app).bind (w.member? · hook.word) with
  | some (k, .method m) =>
    if let .answer (.datum value place) := m.code then
      let emptied := { m with code := .answer (.datum value.emptied place) }
      set (w.changeClass k (·.put hook.word (.method emptied)))
  | _ => pure ()

/-- Asks an application one question twice, to put something into the first answer and to empty the
    second. An answer that was made for who asks is not missed. -/
def tamperWith (app : Ref) (hook : Hook) : Action Unit := do
  let offer ← Action.ask dispatch app hook
  match offer.changeFault? hook with
  | some fault => throw fault
  | none =>
    let _ ← Action.ask dispatch app hook
    emptyDatum app hook

/-- Puts something among the providers that a thing hands out, which only a mapping takes. -/
def tamperWithProviders (r : Ref) : Action Unit := do
  let found ← Action.access dispatch r "providers"
  let w ← get
  match found, (w.classOf? r).bind (w.member? · "providers"), r.descriptor? with
  | _, some (_, .computed), some d =>
    let _ ← Action.providersOf dispatch d
  | .thing (.datum (.mapping _) _), _, _ => pure ()
  | found, _, _ => throw (.noKeys (w.foundTypeName r found))

/-- **Changes all that a thing answers**, as far as answers can be changed. -/
def tamper (r : Ref) : Action Unit := do
  Hook.all.forM (tamperWith r)
  tamperWithProviders r

/-- A member that was taken off its class, as often as it is asked for. -/
def sharedMember (x : Content) : Action Ref := do
  match (← get).things.findIdx? (·.content = x) with
  | some i => pure (.object ⟨i⟩)
  | none => Action.newThing x

/-- **The application of a descriptor**, or what another thing has under that name: a registration
    builder a method, a class of descriptors a member that is no application. A member of a class is
    the same on all classes that have it. -/
def applicationOf (r : Ref) : Action Ref := do
  let found ← Action.access dispatch r "application"
  match r, found with
  | _, .thing t => pure t
  | .cls _, .method k m => sharedMember (.member k (.free k m))
  | r, .method k m => Action.newThing (.member r (.bound k m))
  | .cls c, .inner "property" =>
    match (← get).member? c "application" with
    | some (k, _) => sharedMember (.member (.cls k) .computed)
    | none => pure .none
  | r, .inner _ => Action.newThing (.member r (.builtIn "application"))

/-! ## 4. What they do -/

/-- **What a step on descriptors does.** -/
def performOnDescriptor : DescriptorStep → Action Reply
  | .config result cls components givenName => do
    let r ← lookUp cls
    let components ← lookUpAll components
    let made ← call r ⟨components, givenName⟩
    name result made
    configReply made
  | .forApplication result cls app => do
    let r ← lookUp cls
    let found ← Action.access dispatch r "for_application"
    let app ← lookUp app
    let made ← adapt r "application" found fun c =>
      Action.forApplication dispatch c app
    name result made
    configReply made
  | .forApplicationClass result cls app => do
    let r ← lookUp cls
    let found ← Action.access dispatch r "for_application_class"
    let app ← lookUp app
    let made ← adapt r "app_class" found fun c =>
      Action.forApplicationClass dispatch c app
    name result made
    configReply made
  | .register config component => do
    let r ← lookUp config
    let found ← Action.access dispatch r "register"
    return .fluent (← register r (← lookUp component) found)
  | .provide config service factory => do
    let r ← lookUp config
    let found ← Action.access dispatch r "provide"
    let service ← lookUp service
    let made ← lookUp factory
    return .fluent (← Action.callFound dispatch r found 2 "factory"
      (Action.provide dispatch · service made)).isNone
  | .setProperty config propertyName value => do
    let r ← lookUp config
    return .fluent (← Action.callMethod dispatch r "set_property" 2 "value"
      (Action.setProperty dispatch · propertyName value))
  | .freeze config => do
    let _ ← Action.callMethod dispatch (← lookUp config) "freeze" 0 "self" fun d =>
      Action.freeze (holding [d]) d
    return .frozen
  | .setName config newName => do
    let r ← lookUp config
    setMember r "name" newName
    configReply r
  | .checkConstructible config => do
    let r ← lookUp config
    let found ← Action.access dispatch r "check_constructible"
    let offer ← Action.callFound dispatch r found 0 "self"
      (Action.checkConstructible dispatch)
    return .value ((offer.bind (·.datum? (← get).datumOf)).getD .null)
  | .freezeOften config times => do
    let r ← lookUp config
    let (succeeded, faults) ← Action.freezeTimes (holding r.descriptor?.toList) r times
    return .attempts succeeded ((faults.map Fault.line).mergeSort fun a b => decide (a ≤ b))
  | .view config => do
    configReply (← lookUp config)
  | .ask app hook => do
    askHook (← lookUp app) hook
  | .tamper config => do
    let r ← lookUp config
    tamper r
    configReply r
  | .getApplication config result => do
    let app ← applicationOf (← lookUp config)
    nameIf result app
    return .label (← viewed (·.label app))

end Session

end AppMount
