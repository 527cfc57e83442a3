import AppMount.Proofs.Overlooking
import AppMount.Proofs.Vouching

/-!
# Errors that escape validation

What goes wrong in validation is to be a wrong configuration, whatever is registered. The check of a
class turns one kind of failure into that, namely that the parameters of the class do not take the
call. But for some classes no parameters can be seen at all, and that failure is another one: it
gets out of the check of the descriptor, and out of building, as it is.

* `World.Inscrutable`: the classes whose parameters cannot be seen, by their constructor methods;
  `shown_eq_nothing_iff`: they are those that show nothing;
* `World.Unjudged`: a descriptor that waits for such a class; `constructionFault?_escapes_iff`: what
  its check lets out;
* `World.Escapes`: a registration that is refused for something else than a wrong configuration;
* `validation_escapes_iff`: exactly when something else gets out of the check and of building;
* `validation_escapes`: primitive classes, and classes below them without constructors, do this.
-/

namespace AppMount

open AppMount.Action

/-! ## 1. Classes that show nothing -/

namespace World

variable {w : World} {c : ClassId} {d : DescriptorId} {member : String} {fault : Fault}

/-- **A constructor method that hides its parameters**, whether the class has it itself or by
    descent. -/
def Hides (w : World) (c : ClassId) (member : String) : Prop :=
  ∃ k x, w.member? c member = some (k, x) ∧ shownBy x = none

/-- The first constructor method of a class's own, if it has one. -/
def ownConstructor? (w : World) (c : ClassId) : Option String :=
  ((w.constructorsOf c).find? (·.holder = c)).map Constructor.name

/-- **A class whose parameters cannot be seen.** It has constructor methods, and all of them hide
    them; or its own come first, and the first of those does. -/
inductive Inscrutable (w : World) (c : ClassId) : Prop where
  | own {member : String} (rule : w.rule = .ownFirst) (h : w.ownConstructor? c = some member)
    (hides : w.Hides c member)
  | all {member : String} (hm : member ∈ constructors) (hides : w.Hides c member)
    (all : ∀ other ∈ constructors, ∀ e, w.member? c other = some e → shownBy e.2 = none)

/-- No constructor method says that it shows nothing. -/
theorem shownBy_ne_nothing (x : Member) : shownBy x ≠ some .nothing := by
  cases x with
  | computed | field => exact nofun
  | value v place => cases v <;> exact nofun
  | method m =>
    intro h
    obtain ⟨params, -, h⟩ := Option.map_eq_some_iff.1 h
    cases h

/-- A constructor method of a class shows nothing if it hides its parameters. -/
theorem hides_iff {x : Constructor} (hx : x ∈ w.constructorsOf c) :
    w.Hides c x.name ↔ x.shown? = none := by
  have hm := (mem_constructorsOf_iff.1 hx).2
  constructor
  · rintro ⟨k, y, h, hy⟩
    obtain ⟨-, rfl⟩ := Prod.mk.inj (Option.some.inj (hm.symm.trans h))
    exact hy
  · exact fun h => ⟨x.holder, x.member, hm, h⟩

/-- **The constructor method that decides hides its parameters** only if it is the class's own,
    which come first. -/
theorem own_of_deciding? {x : Constructor} (h : w.deciding? c = some x) (hides : x.shown? = none) :
    w.rule = .ownFirst ∧ w.ownConstructor? c = some x.name := by
  unfold deciding? at h
  cases hrule : w.rule with
  | ownFirst =>
    rw [hrule] at h
    rcases Option.or_eq_some_iff.1 h with h | ⟨-, h⟩
    · exact ⟨rfl, Option.map_eq_some_iff.2 ⟨x, h, rfl⟩⟩
    · have shows := List.find?_some h
      rw [hides] at shows
      cases shows
  | nearest =>
    rw [hrule] at h
    obtain ⟨k, -, h⟩ := List.exists_of_findSome?_eq_some h
    have shows := List.find?_some h
    rw [hides, Option.isSome_none, Bool.and_false] at shows
    cases shows

/-- Where no constructor method decides, none shows anything. -/
theorem hidden_of_not_deciding? (h : w.deciding? c = none) {x : Constructor}
    (hx : x ∈ w.constructorsOf c) : x.shown? = none := by
  unfold deciding? at h
  rw [← Option.not_isSome_iff_eq_none]
  cases hrule : w.rule with
  | ownFirst =>
    rw [hrule] at h
    exact List.find?_eq_none.1 (Option.or_eq_none_iff.1 h).2 x hx
  | nearest =>
    rw [hrule] at h
    have held := (mem_lineage_of_member? (mem_constructorsOf_iff.1 hx).2).1
    have none := List.find?_eq_none.1 (List.findSome?_eq_none_iff.1 h _ held) x hx
    simpa using none

/-- **The classes that show nothing** are those whose parameters cannot be seen. -/
theorem shown_eq_nothing_iff : w.shown c = .nothing ↔ w.Inscrutable c := by
  constructor
  · intro h
    cases hx : w.deciding? c with
    | some x =>
      have hides : x.shown? = none := by
        rw [shown_of_deciding? hx] at h
        cases hs : x.shown? with
        | none => rfl
        | some shown =>
          rw [hs, Option.getD_some] at h
          exact absurd (hs.trans (congrArg some h)) (shownBy_ne_nothing x.member)
      obtain ⟨rule, own⟩ := own_of_deciding? hx hides
      exact .own rule own ((hides_iff (mem_of_deciding? hx)).2 hides)
    | none =>
      unfold shown at h
      split at h
      · cases h
      · rename_i some
        obtain ⟨x, hx'⟩ := List.exists_mem_of_ne_nil _ (by simpa using some)
        refine .all (mem_constructorsOf_iff.1 hx').1
          ((hides_iff hx').2 (hidden_of_not_deciding? hx hx')) fun other hother e he => ?_
        exact hidden_of_not_deciding? hx (x := ⟨other, e.1, e.2⟩)
          (mem_constructorsOf_iff.2 ⟨hother, he⟩)
  · rintro (⟨rule, own, hides⟩ | ⟨hm, ⟨k, y, hk, -⟩, all⟩)
    · obtain ⟨x, hx, rfl⟩ := Option.map_eq_some_iff.1 own
      have decides : w.deciding? c = some x := by
        unfold deciding?
        rw [rule]
        dsimp only
        rw [hx]
        rfl
      rw [shown_of_deciding? decides, (hides_iff (mem_of_deciding? decides)).1 hides]
      rfl
    · have there : (⟨_, k, y⟩ : Constructor) ∈ w.constructorsOf c :=
        mem_constructorsOf_iff.2 ⟨hm, hk⟩
      unfold shown
      rw [if_neg (by simpa using List.ne_nil_of_mem there)]
      cases hx : w.deciding? c with
      | none => rfl
      | some x =>
        have hidden : x.shown? = none := all x.name
          (mem_constructorsOf_iff.1 (mem_of_deciding? hx)).1 _ (member?_of_deciding? hx)
        rw [Option.bind_some, hidden]
        rfl

/-! ## 2. The check of a descriptor -/

/-- **A descriptor that waits for an application whose class cannot be judged.** -/
def Unjudged (w : World) (d : DescriptorId) : Prop :=
  (w.descriptor d).frozen = false ∧
    ∃ c, (w.descriptor d).applicationClass = some c ∧ w.Inscrutable c

/-- **What the check of a descriptor lets out** is not a wrong configuration if the class cannot be
    judged, and only then. -/
theorem constructionFault?_escapes_iff :
    (∃ fault, w.constructionFault? d = some fault ∧ fault.category ≠ "ConfigurationError") ↔
      w.Unjudged d := by
  constructor
  · rintro ⟨fault, h, escapes⟩
    have unfrozen : (w.descriptor d).frozen = false := by
      by_contra frozen
      simp [constructionFault?, frozen] at h
    cases backed : (w.descriptor d).applicationClass with
    | none => simp [constructionFault?, backed] at h
    | some c =>
      rw [constructionFault?_of_backed unfrozen backed] at h
      refine ⟨unfrozen, c, backed, shown_eq_nothing_iff.1 ?_⟩
      by_contra shows
      exact escapes (category_of_parameterFault? shows h)
  · rintro ⟨unfrozen, c, backed, hidden⟩
    refine ⟨.noSignature ("type " ++ (w.classDef c).describe), ?_,
      show "ValueError" ≠ "ConfigurationError" by decide⟩
    rw [constructionFault?_of_backed unfrozen backed]
    unfold parameterFault?
    rw [shown_eq_nothing_iff.2 hidden]

/-! ## 3. Registrations -/

variable {config : ServerConfig} {before : List Registration} {r : Registration}

/-- **A registration that is refused for something else than a wrong configuration**, given those
    before it: its listener is there, and its context root can be no key, or it has a place of its
    own and an application whose class cannot be judged. -/
def Escapes (w : World) (config : ServerConfig) (before : List Registration) (r : Registration) :
    Prop :=
  ¬ config.Misses r ∧
    (r.contextRoot.isKey = false ∨
      (∀ q ∈ before, config.placeOf q ≠ config.placeOf r) ∧
        ∃ d, r.config = .descriptor d ∧ w.Unjudged d)

theorem refusal?_escapes_iff :
    (∃ fault, w.refusal? config before r = some fault ∧ fault.category ≠ "ConfigurationError") ↔
      (w.Escapes config before r) := by
  unfold refusal? Escapes
  by_cases misses : config.Misses r
  · have configured : (Fault.missingListener (r.label w.describe) r.routingName
        config.listenerNames).category = "ConfigurationError" := rfl
    simp [misses, configured]
  · rw [if_neg misses]
    cases hkey : r.contextRoot.isKey with
    | false =>
      have foreign : (Fault.notKey r.contextRoot.typeWord).category ≠ "ConfigurationError" :=
        show "TypeError" ≠ "ConfigurationError" by decide
      simp [misses, foreign]
    | true =>
      rw [if_neg nofun]
      cases hfind : before.find? (config.placeOf · = config.placeOf r) with
      | some q =>
        obtain ⟨hq, same⟩ := ServerConfig.of_find?_placeOf hfind
        have configured : (Fault.samePlace (r.label w.describe) (q.label w.describe) r.contextRoot
            (config.resolve r.routingName)).category = "ConfigurationError" := rfl
        have taken : ¬ ∀ q ∈ before, config.placeOf q ≠ config.placeOf r := fun h => h q hq same
        simp [configured, taken]
      | none =>
        have free := ServerConfig.find?_placeOf_eq_none_iff.1 hfind
        rw [and_iff_right misses, or_iff_right Bool.noConfusion, and_iff_right free]
        cases hr : r.config with
        | descriptor d =>
          have bound : (∃ e, Ref.descriptor d = .descriptor e ∧ w.Unjudged e) ↔ w.Unjudged d := by
            simp
          rw [bound, ← constructionFault?_escapes_iff]
          rfl
        | none | cls | object | datum => simp [Ref.descriptor?]

/-- Some registration is refused first, and that for something else than a wrong configuration. -/
def EscapesFirst (w : World) (config : ServerConfig) (registrations : List Registration) : Prop :=
  ∃ (i : Nat) (r : Registration), registrations[i]? = some r ∧
    w.Escapes config (registrations.take i) r ∧
    ∀ j < i, w.refusalAt? config registrations j = none

end World

namespace ServerBuilder

variable {ρ : Dispatch} {b : ServerBuilder} {config : ServerConfig} {members : List Ref}
  {w w' : World} {fault : Fault}

/-- **A first pass that fails** fails for the first registration that is refused. -/
theorem run_validate_eq_error_iff (hρ : ρ.replaces = false) (hb : b.Holds config members w) :
    EStateM.run (b.validate ρ [] b.registrations) w = .error fault w' ↔
      ∃ i, w.refusalAt? config b.registrations i = some fault ∧
        (∀ j < i, w.refusalAt? config b.registrations j = none) ∧
        w' = w.validated config (b.registrations.take (i + 1)) := by
  constructor
  · intro hrun
    rcases w.refused_first config b.registrations with hall | ⟨i, fault', hi, first⟩
    · exact nomatch (run_validate_of_all hρ hb hall).symm.trans hrun
    · have hrun' := (run_validate_of_first hρ hb hi first).symm.trans hrun
      cases hrun'
      exact ⟨i, hi, first, rfl⟩
  · rintro ⟨i, hi, first, rfl⟩
    exact run_validate_of_first hρ hb hi first

theorem run_validate_escapes_iff (hρ : ρ.replaces = false) (hb : b.Holds config members w) :
    (∃ fault w', EStateM.run (b.validate ρ [] b.registrations) w = .error fault w' ∧
      fault.category ≠ "ConfigurationError") ↔ w.EscapesFirst config b.registrations := by
  simp only [run_validate_eq_error_iff hρ hb]
  constructor
  · rintro ⟨fault, w', ⟨i, hi, first, -⟩, escapes⟩
    obtain ⟨r, hr, refused⟩ := Option.bind_eq_some_iff.1 hi
    exact ⟨i, r, hr, World.refusal?_escapes_iff.1 ⟨fault, refused, escapes⟩, first⟩
  · rintro ⟨i, r, hr, h, first⟩
    obtain ⟨fault, refused, escapes⟩ := World.refusal?_escapes_iff.2 h
    exact ⟨fault, _, ⟨i, (World.refusalAt?_of_getElem? hr).trans refused, first, rfl⟩, escapes⟩

/-- **What gets out of validation that is no wrong configuration.** The check of a descriptor
    changes nothing, and it lets out another error exactly if the descriptor waits for a class whose
    parameters cannot be seen. The first pass of building lets out another error exactly if the
    first registration that is refused is one of such a descriptor, which has its listener and a
    place of its own, or one whose context root can be no key. Whatever it lets out gets out of
    building as well, and only the log has grown by then. -/
theorem validation_escapes_iff (hρ : ρ.replaces = false) :
    (∀ w d, Action.left (EStateM.run (Action.checkConstructible ρ d) w) = w ∧
      ((∃ fault w', EStateM.run (Action.checkConstructible ρ d) w = .error fault w' ∧
        fault.category ≠ "ConfigurationError") ↔ w.Unjudged d)) ∧
    ∀ (b : ServerBuilder) (config : ServerConfig) (members : List Ref) (w : World),
      b.Holds config members w →
      ((∃ fault w', EStateM.run (b.validate ρ [] b.registrations) w = .error fault w' ∧
        fault.category ≠ "ConfigurationError") ↔ w.EscapesFirst config b.registrations) ∧
      ∀ fault w', EStateM.run (b.validate ρ [] b.registrations) w = .error fault w' →
        EStateM.run (b.build ρ) w = .error fault w' ∧
          ∃ n, w' = w.validated config (b.registrations.take n) := by
  refine ⟨fun w d => ⟨(reads_checkConstructible hρ d w).symm, ?_⟩,
    fun b config members w hb => ⟨run_validate_escapes_iff hρ hb, fun fault w' hrun => ?_⟩⟩
  · rw [← World.constructionFault?_escapes_iff, Action.run_checkConstructible_of_library hρ]
    cases w.constructionFault? d with
    | none => simp
    | some fault => simp
  · obtain ⟨i, hi, first, rfl⟩ := (run_validate_eq_error_iff hρ hb).1 hrun
    exact ⟨run_build_of_first hρ hb hi first, i + 1, rfl⟩

/-- A class of mappings that offers nothing, as an application does. -/
def inventoryApp : ClassDef :=
  { name := "Inventory", qualname := "Inventory", home := .text "shop",
    ancestors := [ClassId.mapping, ClassId.object],
    members := ClassDef.methodsOf "Inventory" .empty ClassDef.hookMembers }

/-- A store with that class and a descriptor for it. -/
def inventoryStore : World :=
  World.described inventoryApp

/-- A builder with that descriptor. -/
def inventoryBuilder : ServerBuilder :=
  { registrations := [{ contextRoot := .text "/inventory", config := .descriptor ⟨0⟩ }] }

theorem inscrutable_inventory : inventoryStore.Inscrutable World.offered :=
  World.shown_eq_nothing_iff.1 rfl

/-- The class has no constructor of its own, and that of mappings cannot be seen. -/
theorem validation_escapes_inventory :
    Dispatch.library.replaces = false ∧ inventoryBuilder.Holds {} [] inventoryStore ∧
      (∃ fault w', EStateM.run (Action.checkConstructible Dispatch.library ⟨0⟩) inventoryStore =
        .error fault w' ∧ fault.category ≠ "ConfigurationError") ∧
      ∃ fault w', EStateM.run (inventoryBuilder.validate Dispatch.library []
        inventoryBuilder.registrations) inventoryStore = .error fault w' ∧
          fault.category ≠ "ConfigurationError" := by
  have holds : inventoryBuilder.Holds {} [] inventoryStore :=
    ⟨rfl, rfl, by simp [inventoryBuilder, World.HasDescriptor, inventoryStore, World.described]⟩
  have unjudged : inventoryStore.Unjudged ⟨0⟩ := ⟨rfl, World.offered, rfl, inscrutable_inventory⟩
  have first : inventoryStore.EscapesFirst {} inventoryBuilder.registrations :=
    ⟨0, _, rfl, ⟨by decide, .inr ⟨by simp, ⟨0⟩, rfl, unjudged⟩⟩, by simp⟩
  obtain ⟨checked, built⟩ := validation_escapes_iff (ρ := Dispatch.library) rfl
  exact ⟨rfl, holds, (checked inventoryStore ⟨0⟩).2.2 unjudged,
    (built inventoryBuilder {} [] inventoryStore holds).1.2 first⟩

/-- **Another error gets out of validation.** The class of whole numbers, and a class of mappings
    without a constructor of its own, are accepted as application classes, and the latter can be
    called; but the check of a descriptor for one of them fails for want of a signature, and so does
    building. -/
theorem validation_escapes :
    (∃ d w, EStateM.run (Action.forApplicationClass Dispatch.library ClassId.descriptor
          (.cls ClassId.whole)) World.initial = .ok d w ∧
        EStateM.run (Action.checkConstructible Dispatch.library d) w =
          .error (.noSignature "type <class 'int'>") w) ∧
      EStateM.run (Action.forApplicationClass Dispatch.library ClassId.descriptor
          (.cls World.offered)) (World.offering inventoryApp) = .ok ⟨0⟩ inventoryStore ∧
      EStateM.run (Action.checkConstructible Dispatch.library ⟨0⟩) inventoryStore =
        .error (.noSignature "type <class 'shop.Inventory'>") inventoryStore ∧
      EStateM.run (inventoryBuilder.build Dispatch.library) inventoryStore =
        .error (.noSignature "type <class 'shop.Inventory'>") inventoryStore ∧
      (Fault.noSignature "type <class 'shop.Inventory'>").category = "ValueError" ∧
      ∃ app w, EStateM.run (Action.construct Dispatch.library World.offered {}) inventoryStore =
        .ok app w :=
  ⟨⟨⟨0⟩, _, rfl, rfl⟩, rfl, rfl, rfl, rfl, _, _, rfl⟩

end ServerBuilder

end AppMount
