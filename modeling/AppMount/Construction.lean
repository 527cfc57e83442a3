import AppMount.Primitive
import AppMount.Setup
import AppMount.Sorting

/-!
# Construction

How an instance of a class comes into being. The call must fit the written method that makes the
bare instance, if the class has one; the class must not leave methods open; then the nearest
initializer runs. An initializer in a class of descriptors first runs the one above it. Instances
of a class below a primitive one are made with the value that the call converts to.

* `Action.allocate`: the bare instance; `Action.runInitializers`: the initializers of a lineage;
* `Action.construct`: the whole call; `Action.callThing`: the call of anything.
-/

namespace AppMount

namespace Action

/-! ## 1. The bare instance -/

/-- Adds an object to the store. -/
def newThing (x : Content) : Action Ref := do
  let (o, w) := (← get).newThing x
  set w
  pure (.object o)

/-- Keeps what a method handed back. -/
def keepOffer : Offer → Action Ref
  | .datum d place => pure (.ofDatum place d)
  | .list items => newThing (.collection (.list items))
  | .set items codes => newThing (.collection (.set items codes))
  | .stream reading => newThing (.collection (.stream reading.items reading.ending))
  | .entries pairs place => newThing (.collection (.entries pairs place))

/-- The value of a new instance of a class below the primitive class `p`. A mapping is converted by
    its initializer, unless a class in between has another one. -/
def convert (ρ : Dispatch) (c p : ClassId) (args : Arguments) : Action Converted := do
  let w ← get
  if p = ClassId.whole then wholeOf ρ args
  else if p = ClassId.text then textOf ρ args
  else
    match w.member? c ClassDef.initializerMember with
    | some (_, .method m) =>
      if m.code = .hidden then return ⟨← mappingOf ρ args, none⟩ else pure ⟨.mapping .nil, none⟩
    | _ => pure ⟨.mapping .nil, none⟩

/-- **Makes an instance with a value.** A primitive class hands back its own instances as they are,
    and of shared values it makes no second one. -/
def allocateValue (ρ : Dispatch) (c p : ClassId) (args : Arguments) : Action Ref := do
  let made ← convert ρ c p args
  match args.positional with
  | [r] =>
    if c = p && p != ClassId.mapping && (← get).classOf? r = some p then pure r
    else keepValue made
  | _ => keepValue made
where
  /-- Keeps a value. One that is not new is the primitive class's own instance. -/
  keepValue (made : Converted) : Action Ref :=
    match if c = p then made.place.or (newPlace? made.value) else none with
    | some place => pure (.ofDatum place made.value)
    | none => newThing (.made c (some made.value))
  /-- The place of a value that was worked out, if it is the only copy of its datum: a text is a new
      one, unless it is empty. -/
  newPlace? (value : Datum) : Option Nat :=
    match value with
    | .text s => if s.isEmpty then some 0 else none
    | value => if value.isShared then some 0 else none

/-- **Makes a bare instance.** Instances of primitive classes have values; descriptors get a record
    of their own; everything else is an object. -/
def allocate (ρ : Dispatch) (c : ClassId) (args : Arguments) : Action Ref := do
  let w ← get
  match w.primitive? c with
  | some p => allocateValue ρ c p args
  | none =>
    if w.isDescriptorClass c then
      let (d, w) := w.newDescriptor (if ρ.replaces then .bare c else { cls := c })
      set w
      pure (.descriptor d)
    else newThing (.made c none)

/-! ## 2. Initializers -/

/-- The initializer of descriptors: it sets the name and registers the components. -/
def fillDescriptor (ρ : Dispatch) (d : DescriptorId) (args : Arguments) : Action Unit := do
  ClassDef.descriptorFields.forM (claim ρ d)
  modify (·.changeDescriptor d (·.initialized (args.name.getD .null)))
  args.positional.forM fun component => do
    let _ ← orReplaced ρ (.descriptor d) "register" 1 (register ρ d component)

/-- Refuses a descriptor that cannot be held by one caller at a time. -/
def checkHeld (ρ : Dispatch) (d : DescriptorId) : Action Unit := do
  match ← standIn ρ d "_freeze_lock" with
  | none => pure ()
  | some found => throw (.notHeld ((← get).foundTypeName (.descriptor d) found))

/-- Marks a descriptor as frozen. -/
def markFrozen (ρ : Dispatch) (d : DescriptorId) : Action Unit := do
  claim ρ d "_frozen"
  modify (·.changeDescriptor d ({ · with frozen := true }))

/-- A setup step on a descriptor under construction. It stands for no application yet, so freezing
    it only marks it. -/
def setUp (ρ : Dispatch) (d : DescriptorId) (step : SetupStep) : Action Unit := do
  let self := Ref.descriptor d
  let scope := (← get).scope
  match step with
  | .register component =>
    let component ← ofExcept (scope.resolve component)
    let _ ← orReplaced ρ self step.word 1 (register ρ d component)
  | .provide service factory =>
    let service ← ofExcept (scope.resolve service)
    let factory ← ofExcept (scope.resolve factory)
    let _ ← orReplaced ρ self step.word 2 (provide ρ d service factory)
  | .setProperty name value =>
    let _ ← orReplaced ρ self step.word 2 (setProperty ρ d name value)
  | .freeze =>
    let _ ← orReplaced ρ self step.word 0 do
      if ← isFrozen ρ d then pure ()
      else
        checkHeld ρ d
        markFrozen ρ d

/-- What a setup step hands over. -/
def argumentsOf : SetupStep → List Mention
  | .register component => [component]
  | .provide service factory => [service, factory]
  | .setProperty .. | .freeze => []

/-- The number of arguments of a setup step. -/
def argumentCount : SetupStep → Nat
  | .register _ => 1
  | .provide .. | .setProperty .. => 2
  | .freeze => 0

/-- Runs a setup step on the instance under construction. -/
def runSetupStep (ρ : Dispatch) (self : Ref) (step : SetupStep) : Action Unit := do
  match self.descriptor? with
  | some d => setUp ρ d step
  | none =>
    let found ← access ρ self step.word
    let _ ← ofExcept ((← get).scope.resolveAll (argumentsOf step))
    let _ ← callFound ρ self found (argumentCount step) "self" fun _ => pure ()

/-- Runs an initializer that hands something back. An initializer must not, which only the caller of
    the class finds out. -/
def runAnswered (ρ : Dispatch) (outermost : Bool) (answer : Answer) : Action Unit := do
  match ← ρ.run answer with
  | .datum .null _ => pure ()
  | offer => if outermost then throw (.wrongResult (.initializer offer.typeWord))

/-- **Runs the initializers of a lineage** on a bare instance. `outermost` is the initializer that
    the call of the class runs itself. -/
def runInitializers (ρ : Dispatch) (self : Ref) (outermost : Bool) :
    List ClassId → Arguments → Action Unit
  | [], _ => pure ()
  | k :: above, args => do
    match ((← get).classDef k).member? ClassDef.initializerMember with
    | none => runInitializers ρ self outermost above args
    | some (.method m) =>
      match m.code with
      | .hidden => pure ()
      | .blank | .empty => fit m [] args
      | .make params => fit m params args
      | .own =>
        match self with
        | .descriptor d => fillDescriptor ρ d args
        | _ => pure ()
      | .answer answer =>
        fit m [] args
        note (.cls k) ClassDef.initializerMember
        runAnswered ρ outermost answer
      | .setUp code =>
        fit m code.params args
        note (.cls k) ClassDef.initializerMember
        if above.contains ClassId.descriptor then
          let components ← ofExcept ((← get).scope.resolveAll code.components)
          runInitializers ρ self false above ⟨components, code.name⟩
        code.body.forM (runSetupStep ρ self)
        match code.failure with
        | some error => throw (.raised error)
        | none => pure ()
    | some member => throw (.notCallable member.typeWord)

/-! ## 3. The call of a class -/

/-- Whether a class has, or once had, a method of its own for making bare instances, itself or by
    descent. -/
def allocates (w : World) (c : ClassId) : Bool :=
  (w.lineage c).any fun k => (w.classDef k).allocates

/-- Refuses the arguments of a class without constructor methods: it takes none. -/
def fitBare (c : ClassId) (args : Arguments) : Action Unit := do
  let w ← get
  if !args.isEmpty && (w.primitive? c).isNone then
    if allocates w c then throw .takesClassOnly
    else if (w.member? c ClassDef.initializerMember).isNone then
      throw (.takesNoArguments (w.classDef c).name)

/-- **Refuses to make a bare instance of a class below a primitive one** by a written method, which
    gives it no value. The class to turn to is the nearest one that never had such a method. -/
def checkPlain (c : ClassId) : Action Unit := do
  let w ← get
  if (w.primitive? c).isSome then
    let able := (w.lineage c).find? fun k => !allocates w k
    throw (.unsafeInstance (w.classDef c).name (w.classDef (able.getD ClassId.object)).name)

/-- Data as names, counted from `position` on. Only texts are names. -/
def namesIn : Nat → List Datum → Except Fault (List String)
  | _, [] => .ok []
  | position, .text s :: rest => do return s :: (← namesIn (position + 1) rest)
  | position, d :: _ => .error (.openName position d.typeWord)

/-- **The names of the methods that a class leaves open**, in order, or why they cannot be put
    together. -/
def openMethodsOf (x : OpenNames) : Except Fault (List String) :=
  match x with
  | .names methods => .ok (methods.mergeSort fun a b => decide (a ≤ b))
  | .method => .error (.notIterable "function")
  | .datum d =>
    if !d.isTrue then .ok []
    else
      match d.elements? with
      | none => .error (.notIterable d.typeWord)
      | some data => do namesIn 0 (← Sorting.sorted Datum.before data)

/-- Refuses a class that leaves methods open. Classes below a primitive one are not asked. -/
def checkNoOpenMethods (c : ClassId) : Action Unit := do
  let w ← get
  let x := w.classDef c
  match x.openNames with
  | none => pure ()
  | some names =>
    if (w.primitive? c).isSome then pure ()
    else
      match ← ofExcept (openMethodsOf names) with
      | [] => pure ()
      | methods => throw (.openMethods x.name methods)

/-- Makes a bare instance and initializes it. -/
def makeInstance (ρ : Dispatch) (c : ClassId) (args : Arguments) : Action Ref := do
  checkNoOpenMethods c
  let self ← allocate ρ c args
  runInitializers ρ self true ((← get).lineage c) args
  pure self

/-- **Makes an instance by a method for bare instances** that is written in class `k`. One without
    code makes nothing, and one that hands something back makes that. -/
def makeBy (ρ : Dispatch) (c k : ClassId) (m : Method) (args : Arguments) : Action Ref := do
  match m.code with
  | .answer answer =>
    fit m [] args
    note (.cls k) ClassDef.allocatorMember
    keepOffer (← ρ.run answer)
  | .make params =>
    fit m params args
    checkPlain c
    makeInstance ρ c args
  | _ =>
    fit m [] args
    pure .none

/-- **Calls a class.** An instance whose construction fails is dropped. -/
def construct (ρ : Dispatch) (c : ClassId) (args : Arguments) : Action Ref :=
  discarding do
    match (← get).member? c ClassDef.allocatorMember with
    | none => do
      fitBare c args
      makeInstance ρ c args
    | some (k, .method m) => makeBy ρ c k m args
    | some (_, member) => throw (.notCallable member.typeWord)

/-- **Calls a member that was taken off.** A method of a builder needs the builder to be at hand;
    here such a call is only checked. -/
def callTaken (ρ : Dispatch) (x : TakenMember) (args : Arguments) : Action Ref := do
  match x with
  | .bound k m =>
    fit m [] args
    keepOffer (← callCode ρ k m args.positional.length)
  | .free k m =>
    fit m [] { args with positional := args.positional.tail }
    keepOffer (← callFree ρ k m args.positional.length "self")
  | .builtIn name =>
    fitCall (TakenMember.builder ++ "." ++ name) [⟨name, .ordinary, false⟩] args.positional.length
      args.keywords
    pure .none
  | .computed => throw (.notCallable x.typeWord)

/-- **Calls anything.** Besides classes and methods that were taken off, only the instances of a
    class that makes them callable can be called. -/
def callThing (ρ : Dispatch) (r : Ref) (args : Arguments) : Action Ref := do
  let w ← get
  match r, w.content? r, (w.classOf? r).bind (w.member? · "__call__") with
  | .cls c, _, _ => construct ρ c args
  | _, some (.member _ x), _ => callTaken ρ x args
  | _, _, some (k, .method m) =>
    fit m [] args
    keepOffer (← callCode ρ (.cls k) m args.positional.length)
  | _, _, some (_, member) => throw (.notCallable member.typeWord)
  | r, _, none => throw (.notCallable (w.typeName r))

end Action

end AppMount
