import AppMount.Proofs.Freezing

/-!
# What classes show and what calls need

Before an application class is called, the parameters are looked at that one of its constructor
methods shows. The call itself has to fit both of them, and is refused for methods that the class
leaves open. Here the two are compared: what is in the way of a call without arguments, and what is
seen of that.

* `World.constructorFault?`, `World.openFault?`, `World.obstacle?`: what a call without arguments
  runs into before any code of the class is run; `World.Binds`: that it runs into nothing;
* `World.reported?`: the constructor method whose parameters are looked at;
  `shown_of_deciding?`: what the class shows is what that one shows, by either rule;
* `constructorFault?_of_reported`: an accepted class takes the call where it is looked at;
  `accepted_of_binds`: a class of which an instance can be made is accepted.
-/

namespace AppMount

open AppMount.Action

/-! ## 1. What is in the way of a call -/

/-- The parameters that a call of a class has to fit at one of its constructor methods. -/
def Method.boundAs (m : Method) (member : String) : List Parameter :=
  match m.code with
  | .make params => params
  | .setUp code => if member = ClassDef.initializerMember then code.params else []
  | _ => []

/-- What a call of a class without arguments runs into at one of its constructor methods. -/
def Member.bindingFault? (member : String) : Member → Option Fault
  | .method m => (callFault? (m.boundAs member) 0 []).map (.call m.callee)
  | x => some (.notCallable x.typeWord)

theorem Member.bindingFault?_method (member : String) (m : Method) :
    (Member.method m).bindingFault? member =
      (callFault? (m.boundAs member) 0 []).map (.call m.callee) :=
  rfl

namespace World

/-- **Why a call without arguments does not fit a constructor method** of a class, if it does not
    and the class has one. -/
def constructorFault? (w : World) (c : ClassId) (member : String) : Option Fault :=
  (w.member? c member).bind fun e => e.2.bindingFault? member

/-- **Whether the call of a class makes an instance of it**: the class has no method of its own for
    that, or one that makes a bare instance, as it may unless the class is below a primitive one. -/
def makesInstances (w : World) (c : ClassId) : Bool :=
  match w.member? c ClassDef.allocatorMember with
  | none => true
  | some (_, .method m) =>
    match m.code with
    | .make _ => (w.primitive? c).isNone
    | _ => false
  | some _ => false

/-- **What a class is refused for that leaves methods open**, if it is. -/
def openFault? (w : World) (c : ClassId) : Option Fault :=
  (w.classDef c).openNames.bind fun names =>
    if (w.primitive? c).isSome then none
    else
      match openMethodsOf names with
      | .error fault => some fault
      | .ok [] => none
      | .ok methods => some (.openMethods (w.classDef c).name methods)

/-- **What is in the way of a call without arguments**, before any code of the class is run. -/
def obstacle? (w : World) (c : ClassId) : Option Fault :=
  (w.constructorFault? c ClassDef.allocatorMember).or
    (if w.makesInstances c then
      (w.openFault? c).or (w.constructorFault? c ClassDef.initializerMember)
    else none)

/-- **A class that a call without arguments can be bound to**: it fits each constructor method that
    the call uses, and if an instance is made, no method is left open. -/
structure Binds (w : World) (c : ClassId) : Prop where
  allocator : w.constructorFault? c ClassDef.allocatorMember = none
  closed : w.makesInstances c = true → w.openFault? c = none
  initializer : w.makesInstances c = true →
    w.constructorFault? c ClassDef.initializerMember = none

variable {w w' : World} {c : ClassId} {fault : Fault}

theorem obstacle?_eq_none_iff : w.obstacle? c = none ↔ w.Binds c := by
  unfold obstacle?
  rw [Option.or_eq_none_iff]
  constructor
  · rintro ⟨allocator, rest⟩
    refine ⟨allocator, fun makes => ?_, fun makes => ?_⟩
    · rw [if_pos makes, Option.or_eq_none_iff] at rest
      exact rest.1
    · rw [if_pos makes, Option.or_eq_none_iff] at rest
      exact rest.2
  · rintro ⟨allocator, closed, initializer⟩
    refine ⟨allocator, ?_⟩
    split
    · rename_i makes
      rw [closed makes, initializer makes]
      rfl
    · rfl

/-- Stores with the same classes have the same obstacles. -/
theorem obstacle?_of_classes (h : w'.classes = w.classes) (c : ClassId) :
    w'.obstacle? c = w.obstacle? c := by
  unfold obstacle? constructorFault? openFault? makesInstances primitive? member? nearest lineage
    classDef
  rw [h]

/-! ## 2. What is looked at -/

/-- **The constructor method whose parameters a class shows.** -/
def reported? (w : World) (c : ClassId) : Option String :=
  (w.deciding? c).map Constructor.name

theorem mem_constructorsOf_iff {x : Constructor} :
    x ∈ w.constructorsOf c ↔
      x.name ∈ constructors ∧ w.member? c x.name = some (x.holder, x.member) := by
  unfold constructorsOf
  rw [List.mem_filterMap]
  constructor
  · rintro ⟨name, hname, h⟩
    obtain ⟨e, he, rfl⟩ := Option.map_eq_some_iff.1 h
    exact ⟨hname, he⟩
  · rintro ⟨hname, h⟩
    exact ⟨x.name, hname, Option.map_eq_some_iff.2 ⟨_, h, rfl⟩⟩

/-- **The constructor method that decides is one of the class**, by either rule. -/
theorem mem_of_deciding? {x : Constructor} (h : w.deciding? c = some x) :
    x ∈ w.constructorsOf c := by
  unfold deciding? at h
  cases hrule : w.rule with
  | ownFirst =>
    rw [hrule] at h
    rcases Option.or_eq_some_iff.1 h with h | ⟨-, h⟩ <;> exact List.mem_of_find?_eq_some h
  | nearest =>
    rw [hrule] at h
    obtain ⟨k, -, h⟩ := List.exists_of_findSome?_eq_some h
    exact List.mem_of_find?_eq_some h

theorem member?_of_deciding? {x : Constructor} (h : w.deciding? c = some x) :
    w.member? c x.name = some (x.holder, x.member) :=
  (mem_constructorsOf_iff.1 (mem_of_deciding? h)).2

/-- A class with a constructor method that decides shows what that shows. -/
theorem shown_of_deciding? {x : Constructor} (h : w.deciding? c = some x) :
    w.shown c = x.shown?.getD .nothing := by
  have some : w.constructorsOf c ≠ [] := List.ne_nil_of_mem (mem_of_deciding? h)
  unfold shown
  rw [if_neg (by simpa using some), h, Option.bind_some]

/-- An initializer has to fit the parameters that it shows. -/
theorem boundAs_initializer {m : Method} {params : List Parameter}
    (h : m.parameters? = some params) : m.boundAs ClassDef.initializerMember = params := by
  unfold Method.parameters? at h
  unfold Method.boundAs
  cases hcode : m.code with
  | hidden =>
    rw [hcode] at h
    cases h
  | blank | empty | own | answer | make | setUp =>
    rw [hcode] at h
    exact Option.some.inj h

/-- So has a method that makes bare instances. -/
theorem boundAs_of_makesInstances {m : Method} {k : ClassId} {params : List Parameter}
    (makes : w.makesInstances c = true)
    (hm : w.member? c ClassDef.allocatorMember = some (k, .method m))
    (h : m.parameters? = some params) : m.boundAs ClassDef.allocatorMember = params := by
  unfold makesInstances at makes
  rw [hm] at makes
  unfold Method.parameters? at h
  unfold Method.boundAs
  cases hcode : m.code with
  | blank | empty | own | hidden | answer | setUp =>
    simp only [hcode] at makes
    cases makes
  | make params' =>
    rw [hcode] at h
    exact Option.some.inj h

theorem boundAs_of_parameters? {m : Method} {params : List Parameter} (member : String)
    (h : m.parameters? = some params) : m.boundAs member = params ∨ m.boundAs member = [] := by
  unfold Method.parameters? at h
  unfold Method.boundAs
  cases hcode : m.code with
  | blank | empty | own | answer | hidden => exact .inr rfl
  | make params' =>
    rw [hcode] at h
    exact .inl (Option.some.inj h)
  | setUp code =>
    rw [hcode] at h
    dsimp only
    split
    · exact .inl (Option.some.inj h)
    · exact .inr rfl

/-- A call without arguments fits a constructor method that shows parameters which take it. -/
theorem bindingFault?_of_shownBy {x : Member} {params : List Parameter} (member : String)
    (hx : shownBy x = some (.parameters params)) (fits : firstRequired? params = none) :
    x.bindingFault? member = none := by
  cases x with
  | computed | field => cases hx
  | value d place => cases d <;> cases hx
  | method m =>
    obtain ⟨params', hm, he⟩ := Option.map_eq_some_iff.1 hx
    obtain rfl : params' = params := Shown.parameters.inj he
    have bound : callFault? (m.boundAs member) 0 [] = none := by
      rcases boundAs_of_parameters? member hm with h | h
      · rw [h]
        exact (callFault?_nil_eq_none_iff _).2 fits
      · rw [h]
        rfl
    exact congrArg (Option.map _) bound

theorem parameterFault?_eq_none_iff :
    w.parameterFault? c = none ↔
      ∃ params, w.shown c = .parameters params ∧ firstRequired? params = none := by
  unfold parameterFault?
  cases w.shown c <;> simp

theorem mem_constructors_of_reported {member : String} (h : w.reported? c = some member) :
    member ∈ constructors := by
  obtain ⟨x, hx, rfl⟩ := Option.map_eq_some_iff.1 h
  exact (mem_constructorsOf_iff.1 (mem_of_deciding? hx)).1

/-- A class of which no constructor method is looked at has none, or shows nothing. -/
theorem shown_of_not_reported (h : w.reported? c = none) (shows : w.shown c ≠ .nothing) :
    w.shown c = .parameters [] := by
  unfold shown at shows ⊢
  split
  · rfl
  · rename_i some
    rw [if_neg some, Option.map_eq_none_iff.1 h] at shows
    exact absurd rfl shows

/-- What is shown, if it is something, is shown by the constructor method that is looked at. -/
theorem shownBy_of_reported {member : String} (h : w.reported? c = some member)
    (shows : w.shown c ≠ .nothing) :
    ∃ k x, w.member? c member = some (k, x) ∧ shownBy x = some (w.shown c) := by
  obtain ⟨x, hx, rfl⟩ := Option.map_eq_some_iff.1 h
  refine ⟨x.holder, x.member, member?_of_deciding? hx, ?_⟩
  rw [shown_of_deciding? hx] at shows ⊢
  cases hs : x.shown? with
  | none =>
    rw [hs] at shows
    exact absurd rfl shows
  | some shown => exact hs

/-- **A class that is accepted takes a call without arguments** where it is looked at. -/
theorem constructorFault?_of_reported (accepted : w.parameterFault? c = none) {member : String}
    (h : w.reported? c = some member) : w.constructorFault? c member = none := by
  obtain ⟨params, hshown, fits⟩ := parameterFault?_eq_none_iff.1 accepted
  obtain ⟨k, x, hm, hx⟩ := shownBy_of_reported h (by simp [hshown])
  rw [hshown] at hx
  unfold constructorFault?
  rw [hm]
  exact bindingFault?_of_shownBy member hx fits

/-- **A class of which an instance can be made is accepted**, if it shows anything. -/
theorem accepted_of_binds (shows : w.shown c ≠ .nothing) (binds : w.Binds c)
    (makes : w.makesInstances c = true) : w.parameterFault? c = none := by
  rw [parameterFault?_eq_none_iff]
  cases hr : w.reported? c with
  | none => exact ⟨[], shown_of_not_reported hr shows, rfl⟩
  | some member =>
    obtain ⟨k, x, hm, hx⟩ := shownBy_of_reported hr shows
    have reported := mem_constructors_of_reported hr
    simp only [constructors, List.mem_cons, List.not_mem_nil, or_false] at reported
    have fits : x.bindingFault? member = none := by
      have fault : w.constructorFault? c member = none := by
        rcases reported with rfl | rfl
        · exact binds.allocator
        · exact binds.initializer makes
      unfold constructorFault? at fault
      rwa [hm] at fault
    cases x with
    | computed | field | value => cases fits
    | method m =>
      obtain ⟨params, hparams, hs⟩ := Option.map_eq_some_iff.1 hx
      have bound : m.boundAs member = params := by
        rcases reported with rfl | rfl
        · exact boundAs_of_makesInstances makes hm hparams
        · exact boundAs_initializer hparams
      refine ⟨params, hs.symm, (callFault?_nil_eq_none_iff params).1 ?_⟩
      rw [Member.bindingFault?_method, bound] at fits
      exact Option.map_eq_none_iff.1 fits

end World

end AppMount
