import AppMount.Proofs.Listening
import AppMount.Proofs.Rebuilding

/-!
# Decorating

What is left of a sequence of declarations, put on any classes in any order. Of each half of its
record a class says what was last declared on the class itself, and where nothing was, what it said
before; what is declared on other classes does not count, be they above or below it. Nothing else
of the store changes, so that what was registered before stays as it is, and so do the servers that
are made of it.

* `lastOn`: the last declaration of a half on a class; `MetadataSlot.after`: a record after a
  sequence; `ClassDef.declared`: a class after a sequence;
* `Action.declareAll`: the run of a sequence, and `mark_cls`: that of one on a single class;
  `classDef_of_decorate`: one step, `run_declareAll`: all of them;
* `run_declareAll_congr`: only the last declarations count; `Action.decorate_comm`: declarations of
  the two halves commute as computations;
* `handsBack_build_outcome`: the server of a builder depends on its registrations only;
* `World.Decorated`: what a sequence makes of a store;
* `declarations_compose`: all of this together.
-/

namespace AppMount

/-! ## 1. Last declarations -/

/-- The path that a declaration gives. -/
def Decoration.path? : Decoration → Option Datum
  | .path value => some value
  | .routing .. => none

/-- The routing name that a declaration gives. -/
def Decoration.routing? : Decoration → Option RoutingName
  | .path _ => none
  | .routing name required => some ⟨name, required⟩

/-- **A declaration on a class.** -/
abbrev Declared := ClassId × Decoration

/-- **The last declaration of a half on a class itself**, if there is one. -/
def lastOn {α : Type} (half : Decoration → Option α) (c : ClassId) (ds : List Declared) :
    Option α :=
  ds.reverse.findSome? fun e => if e.1 = c then half e.2 else none

section Last

variable {α : Type} {half : Decoration → Option α} {c : ClassId} {ds : List Declared}

@[simp] theorem lastOn_nil : lastOn half c [] = none := rfl

/-- What is declared first counts if nothing follows. -/
theorem lastOn_cons (e : Declared) :
    lastOn half c (e :: ds) = (lastOn half c ds).or (if e.1 = c then half e.2 else none) := by
  simp [lastOn, List.findSome?_append]

/-- Nothing was declared on a class that no declaration is on. -/
theorem lastOn_of_not_mem (h : ∀ e ∈ ds, e.1 ≠ c) : lastOn half c ds = none := by
  refine List.findSome?_eq_none_iff.2 fun e he => ?_
  rw [if_neg (h e (List.mem_reverse.1 he))]

end Last

/-- **A record after a sequence of declarations**: of each half what was last declared on the class,
    or else what was there. What is not a record has neither half. -/
def MetadataSlot.after (slot : MetadataSlot) (c : ClassId) (ds : List Declared) : AppMetadata :=
  match slot with
  | .own m =>
    { path := (lastOn Decoration.path? c ds).getD m.path
      routing := (lastOn Decoration.routing? c ds).or m.routing }
  | .absent | .foreign _ =>
    { path := (lastOn Decoration.path? c ds).getD .null
      routing := lastOn Decoration.routing? c ds }

theorem MetadataSlot.after_eq (slot : MetadataSlot) (c : ClassId) (ds : List Declared) :
    slot.after c ds =
      { path := (lastOn Decoration.path? c ds).getD slot.read.path
        routing := (lastOn Decoration.routing? c ds).or slot.read.routing } := by
  cases slot <;> simp [after, read]

/-- Whether anything was declared on a class. -/
def declaredOn (c : ClassId) (ds : List Declared) : Bool :=
  (lastOn Decoration.path? c ds).isSome || (lastOn Decoration.routing? c ds).isSome

/-- **A class after a sequence of declarations.** -/
def ClassDef.declared (x : ClassDef) (c : ClassId) (ds : List Declared) : ClassDef :=
  if declaredOn c ds then { x with metadata := .own (x.metadata.after c ds) } else x

/-- The record of a class with one declaration, and others after it. -/
theorem MetadataSlot.after_decorate (slot : MetadataSlot) (c : ClassId) (d : Decoration)
    (ds : List Declared) : (slot.decorate d).after c ds = slot.after c ((c, d) :: ds) := by
  rw [after_eq, after_eq, lastOn_cons, lastOn_cons]
  cases d with
  | path value =>
    cases lastOn Decoration.path? c ds <;> simp [Decoration.path?, Decoration.routing?]
  | routing name required =>
    cases lastOn Decoration.routing? c ds <;> simp [Decoration.path?, Decoration.routing?]

theorem declaredOn_cons_self (c : ClassId) (d : Decoration) (ds : List Declared) :
    declaredOn c ((c, d) :: ds) = true := by
  cases d <;> simp [declaredOn, lastOn_cons, Decoration.path?, Decoration.routing?]

theorem lastOn_of_not_declaredOn {c : ClassId} {ds : List Declared} (h : ¬ declaredOn c ds) :
    lastOn Decoration.path? c ds = none ∧ lastOn Decoration.routing? c ds = none := by
  simpa [declaredOn] using h

/-- A class on which nothing was declared is as it was. -/
theorem ClassDef.declared_of_not_mem {x : ClassDef} {c : ClassId} {ds : List Declared}
    (h : ∀ e ∈ ds, e.1 ≠ c) : x.declared c ds = x := by
  simp [declared, declaredOn, lastOn_of_not_mem h]

/-- **One declaration, and others after it.** -/
theorem ClassDef.declared_decorate (x : ClassDef) (c : ClassId) (d : Decoration)
    (ds : List Declared) :
    ({ x with metadata := x.metadata.decorate d } : ClassDef).declared c ds =
      x.declared c ((c, d) :: ds) := by
  unfold declared
  rw [declaredOn_cons_self, if_pos rfl, ← MetadataSlot.after_decorate]
  split
  · rfl
  next h =>
    -- Without anything else on the class, its record is the one that was just made.
    have neither := lastOn_of_not_declaredOn h
    simp [MetadataSlot.decorate, MetadataSlot.after, neither.1, neither.2]

theorem ClassDef.declared_cons_of_ne {x : ClassDef} {c : ClassId} {e : Declared} (h : e.1 ≠ c)
    (ds : List Declared) : x.declared c (e :: ds) = x.declared c ds := by
  simp [declared, declaredOn, MetadataSlot.after_eq, lastOn_cons, h]

/-- What a decorated class says. -/
theorem ClassDef.read_declared (x : ClassDef) (c : ClassId) (ds : List Declared) :
    (x.declared c ds).metadata.read = x.metadata.after c ds := by
  unfold declared
  split
  · rfl
  next h =>
    have neither := lastOn_of_not_declaredOn h
    simp [MetadataSlot.after_eq, neither.1, neither.2]

/-! ## 2. Runs -/

namespace World

variable {w w' : World} {c k : ClassId}

/-- A class that can be changed is in the store. -/
theorem lt_of_not_primitive (h : (w.classDef c).origin ≠ .primitive) :
    c.index < w.classes.size := by
  by_contra hlt
  refine h ?_
  rw [classDef, Array.getElem?_eq_none (Nat.le_of_not_lt hlt)]
  rfl

theorem classDef_changeClass_self (h : (w.classDef c).origin ≠ .primitive)
    (f : ClassDef → ClassDef) : (w.changeClass c f).classDef c = f (w.classDef c) := by
  have hlt := lt_of_not_primitive h
  simp [changeClass, classDef, Array.getElem_modify, hlt]

theorem classDef_changeClass_of_ne (h : c ≠ k) (f : ClassDef → ClassDef) :
    (w.changeClass c f).classDef k = w.classDef k := by
  have h' : c.index ≠ k.index := fun he => h (by cases c; cases k; simp_all)
  simp [changeClass, classDef, Array.getElem?_modify, h']

/-- **A store that differs from another one in what its classes are, at most.** -/
structure Reclassed (w w' : World) : Prop where
  size : w'.classes.size = w.classes.size
  rest : w' = { w with classes := w'.classes }

theorem Reclassed.refl (w : World) : Reclassed w w :=
  ⟨rfl, rfl⟩

theorem Reclassed.trans {w₁ w₂ w₃ : World} (h : Reclassed w₁ w₂) (h' : Reclassed w₂ w₃) :
    Reclassed w₁ w₃ := by
  refine ⟨h'.size.trans h.size, ?_⟩
  rw [h'.rest, h.rest]

theorem reclassed_changeClass (w : World) (c : ClassId) (f : ClassDef → ClassDef) :
    Reclassed w (w.changeClass c f) :=
  ⟨Array.size_modify, rfl⟩

/-- **Such stores are the same if their classes are.** -/
theorem Reclassed.eq_of_classDef {w₁ w₂ : World} (h₁ : Reclassed w w₁) (h₂ : Reclassed w w₂)
    (same : ∀ c, w₁.classDef c = w₂.classDef c) : w₁ = w₂ := by
  have classes : w₁.classes = w₂.classes := by
    refine Array.ext (h₁.size.trans h₂.size.symm) fun i hi hi' => ?_
    simpa [classDef, hi, hi'] using same ⟨i⟩
  rw [h₁.rest, h₂.rest, classes]

end World

namespace Action

open AppMount.World (Reclassed)

variable {w w' : World} {c : ClassId} {ds : List Declared}

/-- **Puts declarations on classes**, one after the other. -/
def declareAll (ds : List Declared) : Action Unit :=
  ds.forM fun e => decorate e.1 e.2

/-- Declarations put on one class are such a sequence. -/
theorem mark_cls (ρ : Dispatch) (c : ClassId) (declarations : List Decoration) :
    mark ρ (.cls c) declarations = declareAll (declarations.map (c, ·)) := by
  show decorateAll c declarations = _
  induction declarations with
  | nil => rfl
  | cons d rest ih =>
    rw [decorateAll, ih]
    rfl

/-- **One step**: the class is decorated, and all others are as they were. -/
theorem classDef_of_decorate {e : Declared} (h : (w.classDef e.1).origin ≠ .primitive)
    (ds : List Declared) (c : ClassId) :
    ((w.changeClass e.1 fun x => { x with metadata := x.metadata.decorate e.2 }).classDef
      c).declared c ds = (w.classDef c).declared c (e :: ds) := by
  by_cases hc : e.1 = c
  · subst hc
    rw [World.classDef_changeClass_self h, ClassDef.declared_decorate]
  · rw [World.classDef_changeClass_of_ne hc, ClassDef.declared_cons_of_ne hc]

/-- **All steps**: each class has what was declared on it. -/
theorem run_declareAll (own : ∀ e ∈ ds, (w.classDef e.1).origin ≠ .primitive) :
    ∃ w', EStateM.run (declareAll ds) w = .ok ⟨⟩ w' ∧ Reclassed w w' ∧
      ∀ c, w'.classDef c = (w.classDef c).declared c ds := by
  induction ds generalizing w with
  | nil => exact ⟨w, rfl, .refl w, fun c => (ClassDef.declared_of_not_mem (by simp)).symm⟩
  | cons e rest ih =>
    have he := own e List.mem_cons_self
    -- A declaration does not make a class primitive, so that those after it can be put on too.
    have origin (k : ClassId) :
        ((w.changeClass e.1 fun x => { x with metadata := x.metadata.decorate e.2 }).classDef
          k).origin = (w.classDef k).origin := by
      by_cases hk : e.1 = k
      · subst hk
        rw [World.classDef_changeClass_self he]
      · rw [World.classDef_changeClass_of_ne hk]
    obtain ⟨w', hrun, reclassed, classes⟩ := ih fun e' he' => by
      rw [origin]
      exact own e' (List.mem_cons_of_mem _ he')
    refine ⟨w', ?_, (World.reclassed_changeClass w e.1 _).trans reclassed, fun c => ?_⟩
    · exact (run_bind_of_ok (run_decorate he e.2)).trans hrun
    · rw [classes, classDef_of_decorate he]

/-- **Only the last declarations count**: two sequences that agree on them leave the same store. -/
theorem run_declareAll_congr {ds' : List Declared}
    (own : ∀ e ∈ ds, (w.classDef e.1).origin ≠ .primitive)
    (own' : ∀ e ∈ ds', (w.classDef e.1).origin ≠ .primitive)
    (path : ∀ c, lastOn Decoration.path? c ds' = lastOn Decoration.path? c ds)
    (routing : ∀ c, lastOn Decoration.routing? c ds' = lastOn Decoration.routing? c ds) :
    EStateM.run (declareAll ds') w = EStateM.run (declareAll ds) w := by
  obtain ⟨w₁, hrun, reclassed, classes⟩ := run_declareAll own
  obtain ⟨w₁', hrun', reclassed', classes'⟩ := run_declareAll own'
  rw [hrun, hrun', reclassed'.eq_of_classDef reclassed fun c => ?_]
  rw [classes, classes']
  simp only [ClassDef.declared, declaredOn, MetadataSlot.after_eq, path, routing]

/-- **Declarations of the two halves commute**, on any class, whether it takes them or not. -/
theorem decorate_comm (c : ClassId) (value name required : Datum) :
    (do decorate c (.path value); decorate c (.routing name required)) =
      (do decorate c (.routing name required); decorate c (.path value)) := by
  funext w
  show EStateM.run _ w = EStateM.run _ w
  by_cases h : (w.classDef c).origin = .primitive
  · have refused (d : Decoration) :
        EStateM.run (decorate c d) w =
          .error (.sealedClass (w.classDef c).name "__roost_metadata__") w := by
      simp [decorate, checkOpen, h]
    rw [run_bind_of_error (refused _), run_bind_of_error (refused _)]
  · have both (d d' : Decoration) :
        (do decorate c d; decorate c d') = declareAll [(c, d), (c, d')] := by
      simp [declareAll]
    have own (d d' : Decoration) :
        ∀ e ∈ [(c, d), (c, d')], (w.classDef e.1).origin ≠ .primitive := by
      simp [h]
    rw [both, both]
    refine run_declareAll_congr (own _ _) (own _ _) (fun k => ?_) fun k => ?_ <;>
      by_cases hk : c = k <;> simp [lastOn_cons, Decoration.path?, Decoration.routing?, hk]

end Action

/-! ## 3. What was registered before -/

namespace ServerBuilder

open AppMount.Action (HandsBack)

variable {ρ : Dispatch} {b : ServerBuilder} {config : ServerConfig} {members : List Ref}

/-- The listener of a registration that has one. -/
theorem handsBack_resolveListener_resolve (r : Registration) :
    HandsBack (· = config.resolve r.routingName)
      (Action.resolveListener ρ (.config config members) r) := by
  unfold Action.resolveListener
  refine HandsBack.bind (P := (· = config.route r.routingName r.routingRequired.isTrue))
    (.pure rfl) fun routing same => ?_
  by_cases lacks : config.Lacks r.routingName
  · rw [ServerConfig.route_of_lacks lacks] at same
    rw [ServerConfig.resolve_of_lacks lacks]
    split at same
    · subst same
      exact HandsBack.after fun label => HandsBack.after fun names => .throw _
    · subst same
      exact HandsBack.after fun label => HandsBack.after fun _ => .pure rfl
  · rw [ServerConfig.route_of_not_lacks lacks] at same
    subst same
    exact .pure rfl

/-- **The first pass finds the listeners that the configuration says.** -/
theorem handsBack_validate_resolved (hb : b.setting = .config config members)
    (taken : List (Place × String)) (registrations : List Registration) :
    HandsBack (· = registrations.map (resolved config)) (b.validate ρ taken registrations) := by
  induction registrations generalizing taken with
  | nil => exact .pure rfl
  | cons r rest ih =>
    rw [validate, hb]
    refine HandsBack.afterCheck
      ((handsBack_resolveListener_resolve r).bind fun listener same => ?_)
    refine HandsBack.after fun label => HandsBack.after fun place => ?_
    split
    · exact .throw _
    · refine HandsBack.after fun _ => (ih _).bind fun others same' => .pure ?_
      rw [same, same']
      rfl

/-- **The server of a builder depends on nothing but the builder**, if there comes to be one. -/
theorem handsBack_build_outcome (hb : b.setting = .config config members) :
    ∃ server, ∀ ρ, HandsBack (· = server) (b.build ρ) := by
  let mounts := (b.applications.map (resolved config)).map fun e =>
    mountOf b.defaultExecutor e.1 e.2
  refine ⟨{ setting := b.setting, mounts }, fun ρ => ?_⟩
  unfold build
  refine (handsBack_toMount_applications b).bind fun registrations same => ?_
  refine (handsBack_validate_resolved hb [] registrations).bind fun found same' => ?_
  refine (handsBack_mountAll b found).bind fun mounts same'' => HandsBack.after fun _ => .pure ?_
  rw [same'', same', same]

end ServerBuilder

/-! ## 4. Sequences of declarations -/

/-- **What a sequence of declarations makes of a store.** Each class says what was last declared on
    it; the classes that nothing was declared on are as they were, and of the others nothing but
    their records is different; there is nothing else that changes. The registrations that were
    made before, and all other things, are what they were, and a builder of them that comes to an
    end gives the same server before and after. -/
structure World.Decorated (w : World) (ds : List Declared) (w' : World) : Prop where
  metadata : ∀ c, w'.metadataOf c = (w.classDef c).metadata.after c ds
  undecorated : ∀ c, (∀ e ∈ ds, e.1 ≠ c) → w'.classDef c = w.classDef c
  otherwise : ∀ c, w'.classDef c = { w.classDef c with metadata := (w'.classDef c).metadata }
  reclassed : w.Reclassed w'
  contents : ∀ x, w'.content? x = w.content? x
  servers : ∀ (b : ServerBuilder) (config : ServerConfig) (members : List Ref) (ρ ρ' : Dispatch)
    (server server' : Server) (v v' : World), b.setting = .config config members →
      EStateM.run (b.build ρ) w = .ok server v → EStateM.run (b.build ρ') w' = .ok server' v' →
        server' = server

/-- Classes after a sequence, and a store that is as before otherwise. -/
theorem World.Decorated.of_classDef {w w' : World} {ds : List Declared}
    (reclassed : w.Reclassed w') (classes : ∀ c, w'.classDef c = (w.classDef c).declared c ds) :
    w.Decorated ds w' where
  metadata c := by rw [metadataOf, classes, ClassDef.read_declared]
  undecorated c h := by rw [classes, ClassDef.declared_of_not_mem h]
  otherwise c := by
    rw [classes]
    unfold ClassDef.declared
    split <;> rfl
  reclassed := reclassed
  contents x := by
    cases x with
    | object o => rw [reclassed.rest]; rfl
    | _ => rfl
  servers b config members ρ ρ' server server' v v' hb hrun hrun' := by
    obtain ⟨only, built⟩ := ServerBuilder.handsBack_build_outcome hb
    rw [built ρ' w' server' v' hrun', built ρ w server v hrun]

namespace Action

/-- **Declarations compose and stay local.** A sequence of declarations on classes that can be
    changed, in any order, comes to an end; each class then says what was last declared on the class
    itself, and nothing else is different. Sequences that agree in what is declared last on each
    class do the same, and declarations of the two halves commute. -/
theorem declarations_compose {w : World} {ds : List Declared}
    (own : ∀ e ∈ ds, (w.classDef e.1).origin ≠ .primitive) :
    (∃ w', EStateM.run (declareAll ds) w = .ok ⟨⟩ w' ∧ w.Decorated ds w') ∧
      (∀ ds' : List Declared, (∀ e ∈ ds', (w.classDef e.1).origin ≠ .primitive) →
        (∀ c, lastOn Decoration.path? c ds' = lastOn Decoration.path? c ds) →
        (∀ c, lastOn Decoration.routing? c ds' = lastOn Decoration.routing? c ds) →
          EStateM.run (declareAll ds') w = EStateM.run (declareAll ds) w) ∧
      ∀ c value name required,
        (do decorate c (.path value); decorate c (.routing name required)) =
          (do decorate c (.routing name required); decorate c (.path value)) := by
  refine ⟨?_, fun ds' own' => run_declareAll_congr own own', decorate_comm⟩
  obtain ⟨w', hrun, reclassed, classes⟩ := run_declareAll own
  exact ⟨w', hrun, .of_classDef reclassed classes⟩

/-- A store with a class that holds something foreign where its record belongs, a class below it
    that holds nothing there, one below both with a record, and a registration. -/
def pollutedStore : World :=
  { World.initial with
    classes := World.initial.classes ++ #[
      { name := "Base", qualname := "Base", home := .text "shop",
        ancestors := [ClassId.application, ClassId.object], metadata := .foreign (.whole 5) },
      { name := "Shop", qualname := "Shop", home := .text "shop",
        ancestors := [⟨6⟩, ClassId.application, ClassId.object] },
      { name := "Annex", qualname := "Annex", home := .text "shop",
        ancestors := [⟨7⟩, ⟨6⟩, ClassId.application, ClassId.object],
        metadata := .own ⟨.text "/annex", some ⟨.text "admin", .truth true⟩⟩ }]
    descriptors := #[{ cls := ClassId.descriptor }]
    things := #[⟨.registration ServerBuilder.ownRegistration, .object ⟨0⟩, none⟩] }

/-- Declarations on these classes, one of them without a path and one without a name. -/
def mixedDeclarations : List Declared :=
  [(⟨6⟩, .path (.text "/base")), (⟨7⟩, .routing (.text "admin") (.truth true)),
    (⟨8⟩, .path .null), (⟨6⟩, .routing (.text "public") (.truth false)),
    (⟨7⟩, .path (.text "/shop")), (⟨6⟩, .path (.text "/")), (⟨7⟩, .routing .null (.truth false))]

/-- Each class has its own last declarations. -/
theorem declarations_compose_pollutedStore :
    ∃ w', EStateM.run (declareAll mixedDeclarations) pollutedStore = .ok ⟨⟩ w' ∧
      w'.metadataOf ⟨6⟩ = ⟨.text "/", some ⟨.text "public", .truth false⟩⟩ ∧
      w'.metadataOf ⟨7⟩ = ⟨.text "/shop", some ⟨.null, .truth false⟩⟩ ∧
      w'.metadataOf ⟨8⟩ = ⟨.null, some ⟨.text "admin", .truth true⟩⟩ ∧
      w'.content? (.object ⟨0⟩) = some (.registration ServerBuilder.ownRegistration) := by
  have own : ∀ e ∈ mixedDeclarations, (pollutedStore.classDef e.1).origin ≠ .primitive := by decide
  obtain ⟨⟨w', hrun, decorated⟩, -⟩ := declarations_compose own
  refine ⟨w', hrun, ?_, ?_, ?_, ?_⟩
  · rw [decorated.metadata]
    decide
  · rw [decorated.metadata]
    decide
  · rw [decorated.metadata]
    decide
  · rw [decorated.contents]
    rfl

end Action

end AppMount
