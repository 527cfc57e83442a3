import AppMount.Deeds
import AppMount.Proofs.Sparing

/-!
# Ways of adding an application

A server builder takes an application, an application class, or a registration that was made
before. The first two are registered on the way, and a context root that is chosen with them goes to
the registration in the making; with the third it goes to a copy of the finished one. It comes to
the same.

* `Setter.supplying`, `done_of_supply`: supplying a new builder is telling it one thing;
  `build_withContextRoot`: a context root that is chosen before building could be chosen afterwards;
* `Registration.ofAdded_eq`: registering with a context root, or first with all defaults;
* `ClassDef.registration`: the registration of an application of a class, given its descriptor
  (`exists_speaker_of_ofAdded`);
* `ServerBuilder.ofAdded_cls`, `ServerBuilder.ofAdded_of_classOf`: what a class is registered as,
  and an instance of it; `ClassDef.SpeaksAs`: classes that speak in the same way;
* `ServerBuilder.addApplication_agrees`: all ways of adding an application agree;
  `ServerBuilder.addApplication_disagrees`: where a class and its instances do not.
-/

namespace AppMount

open AppMount.Action

/-! ## 1. Supplying a new builder -/

namespace RegistrationBuilder

variable {ρ : Dispatch} {b : RegistrationBuilder} {app : Ref} {w w' : World}

/-- The call that supplies an application or an application class. -/
def Setter.supplying (app : Ref) : Setter :=
  if app.class?.isSome then .applicationClass app else .application app

theorem supply_eq (ρ : Dispatch) (b : RegistrationBuilder) (app : Ref) :
    supply ρ b app = (Setter.supplying app).apply ρ b := by
  unfold supply Setter.supplying
  split <;> rfl

/-- **A new builder that is supplied has heard one call.** -/
theorem done_of_supply (h : EStateM.run (supply ρ {} app) w = .ok (b, none) w') :
    Telling.Done ρ ⟨.supplying app, w, w'⟩ {} b := by
  rw [supply_eq] at h
  exact done_of_apply rfl h

/-- **A context root that is chosen before building could be chosen afterwards.** -/
theorem build_withContextRoot (hb : b.standIns = []) {root : Datum} (hroot : root ≠ .null) :
    (b.withContextRoot root).build = b.build.map fun r => { r with contextRoot := root } := by
  have hb' : (b.withContextRoot root).standIns = [] := by
    show b.standIns.supply "_context_root" = []
    rw [hb]
    rfl
  by_cases hc : b.config = .none
  · rw [(build_eq_error_iff hb').2 hc, (build_eq_error_iff hb).2 hc]
    rfl
  · rw [build_of_config_ne_none hb' hc, build_of_config_ne_none hb hc]
    show Except.ok (Registration.mk (if root = .null then _ else root) ..) = _
    rw [if_neg hroot]
    rfl

end RegistrationBuilder

/-! ## 2. Registering first -/

open RegistrationBuilder in
/-- **The registration of an added application** is the one with all defaults, perhaps on another
    context root. -/
theorem Registration.ofAdded_eq (ρ : Dispatch) (b : ServerBuilder) (app : Ref) (root : Datum) :
    Registration.ofAdded ρ app root =
      Registration.create ρ app >>= fun r => pure (b.placed r root) := by
  have supplied : HandsBack (fun s : RegistrationBuilder => s.standIns = [])
      (supply ρ {} app >>= finished) := by
    intro w s w' h
    obtain ⟨⟨s', fault⟩, w₁, hsupply, hfinish⟩ := run_bind_eq_ok_iff.1 h
    cases fault with
    | none =>
      cases hfinish
      rw [(done_of_supply hsupply).heard]
      rfl
    | some fault => exact nomatch hfinish
  have completed (s : RegistrationBuilder) (hs : s.standIns = []) :
      Action.ofExcept (if root = .null then s else s.withContextRoot root).build =
        Action.ofExcept s.build >>= fun r => pure (b.placed r root) := by
    by_cases hroot : root = .null
    · subst hroot
      exact (bind_pure _).symm
    · rw [if_neg hroot, build_withContextRoot hs hroot]
      simp only [ServerBuilder.placed, hroot, if_false]
      cases s.build <;> rfl
  have both := supplied.bind_congr completed
  unfold Registration.ofAdded Registration.create
  simp only [bind_assoc] at both ⊢
  rw [both]

/-! ## 3. What speaks for an application -/

namespace ClassDef

/-- **A new builder that was supplied with an application of a class**, given its descriptor. -/
def supplied (c : ClassDef) (config : Ref) : RegistrationBuilder where
  contextRoot := c.metadata.read.path
  config := config
  appClassName := .text c.fullName
  routingName := (c.metadata.read.routing.map (·.value)).getD .null
  routingRequired := (c.metadata.read.routing.map (·.required)).getD (.truth false)

/-- **The registration of an application of a class**, given its descriptor: everything else is said
    by the class, but for a context root that is chosen. -/
def registration (c : ClassDef) (root : Datum) (config : Ref) : Registration where
  contextRoot :=
    if root ≠ .null then root
    else if c.metadata.read.path = .null then .text defaultContextRoot
    else c.metadata.read.path
  config := config
  appClassName := .text c.fullName
  routingName := (c.metadata.read.routing.map (·.value)).getD .null
  routingRequired := (c.metadata.read.routing.map (·.required)).getD (.truth false)

/-- **Classes that speak for applications in the same way**: they declare the same and have the same
    name. -/
structure SpeaksAs (c c' : ClassDef) : Prop where
  metadata : c.metadata.read = c'.metadata.read
  fullName : c.fullName = c'.fullName

theorem SpeaksAs.registration {c c' : ClassDef} (h : c.SpeaksAs c') (root : Datum) (config : Ref) :
    c.registration root config = c'.registration root config := by
  simp only [ClassDef.registration, h.metadata, h.fullName]

theorem build_supplied (c : ClassDef) {config : Ref} (root : Datum) (hconfig : config ≠ .none) :
    (if root = .null then c.supplied config else (c.supplied config).withContextRoot root).build =
      .ok (c.registration root config) := by
  have built : (c.supplied config).build = .ok (c.registration .null config) :=
    RegistrationBuilder.build_of_config_ne_none rfl hconfig
  by_cases hroot : root = .null
  · rw [if_pos hroot, built, hroot]
  · rw [if_neg hroot, RegistrationBuilder.build_withContextRoot rfl hroot, built]
    simp [registration, hroot, Except.map]

theorem build_supplied_none (c : ClassDef) (root : Datum) :
    (if root = .null then c.supplied .none else (c.supplied .none).withContextRoot root).build =
      .error .noApplication := by
  by_cases hroot : root = .null
  · rw [if_pos hroot]
    exact (RegistrationBuilder.build_eq_error_iff rfl).2 rfl
  · rw [if_neg hroot]
    exact (RegistrationBuilder.build_eq_error_iff rfl).2 rfl

end ClassDef

namespace RegistrationBuilder

variable {ρ : Dispatch} {b : RegistrationBuilder} {c : ClassDef} {app config : Ref} {root : Datum}
  {r : Registration} {w w' : World}

theorem isApplication_supplying (app : Ref) : (Setter.supplying app).isApplication = true := by
  unfold Setter.supplying
  split <;> rfl

/-- What a new builder holds that has heard of an application. -/
theorem eq_supplied_of_done {t : Telling} (h : t.Done ρ {} b)
    (ha : t.setter.isApplication = true) (hc : t.speaker? ρ = some c)
    (hd : t.descriptor? ρ = some config) : b = c.supplied config := by
  obtain ⟨-, hroot, hrouting, hexecutor⟩ := of_isApplication ha
  rw [h.heard]
  unfold heard Telling.offeredRoot? Telling.offeredRouting? ClassDef.supplied
  rw [hc, hd, hroot, hrouting, hexecutor]
  cases hr : c.metadata.read.routing <;> simp [hr]

/-- **What an application is registered as**: as what the class says that speaks for it. -/
theorem exists_speaker_of_ofAdded
    (h : EStateM.run (Registration.ofAdded ρ app root) w = .ok r w') :
    ∃ c, (⟨.supplying app, w, w'⟩ : Telling).speaker? ρ = some c ∧
      (⟨.supplying app, w, w'⟩ : Telling).descriptor? ρ = some r.config ∧
      r = c.registration root r.config := by
  unfold Registration.ofAdded at h
  obtain ⟨_, h⟩ := (reads_checkAccess ρ app).run_bind_eq_ok h
  obtain ⟨⟨b, fault⟩, w₁, hsupply, h⟩ := run_bind_eq_ok_iff.1 h
  cases fault with
  | some fault => exact nomatch h
  | none =>
    have done := done_of_supply hsupply
    obtain ⟨c, hc⟩ := Option.isSome_iff_exists.1
      (done.speaks.trans (isApplication_supplying app))
    obtain ⟨config, hd⟩ := Option.isSome_iff_exists.1
      (done.brings.trans (of_isApplication (isApplication_supplying app)).1)
    obtain rfl := eq_supplied_of_done done (isApplication_supplying app) hc hd
    replace h : EStateM.run (Action.ofExcept (if root = .null then c.supplied config
        else (c.supplied config).withContextRoot root).build) w₁ = .ok r w' := h
    by_cases hconfig : config = .none
    · rw [hconfig, c.build_supplied_none root] at h
      exact nomatch h
    · rw [c.build_supplied root hconfig] at h
      obtain ⟨rfl, rfl⟩ := EStateM.Result.ok.inj h
      exact ⟨c, hc, hd, rfl⟩

end RegistrationBuilder

/-! ## 4. All ways of adding -/

namespace ServerBuilder

open RegistrationBuilder (exists_speaker_of_ofAdded)

variable {ρ : Dispatch} {b b₁ b₂ : ServerBuilder} {c : ClassId} {a app : Ref} {root : Datum}
  {r : Registration} {w w' w₁ w₂ : World}

theorem reads_append (b : ServerBuilder) (r : Registration) : Reads (b.append r) := by
  refine Reads.get.bind fun w => ?_
  split
  · exact .throw _
  · exact .pure _

/-- What adding an application comes to, if it comes to an end. -/
theorem exists_added (h : EStateM.run (b.addApplication ρ app root) w = .ok b₁ w₁) :
    ∃ r, EStateM.run (Registration.ofAdded ρ app root) w = .ok r w₁ ∧
      b₁ = { b with registrations := b.registrations ++ [r] } := by
  rw [addApplication_eq] at h
  obtain ⟨r, w', hmade, happend⟩ := run_bind_eq_ok_iff.1 h
  obtain rfl : w' = w₁ := (reads_append b r).ok happend
  refine ⟨r, hmade, ?_⟩
  unfold append at happend
  rw [run_bind_of_ok (EStateM.run_get _)] at happend
  split at happend
  · cases happend
  · exact (EStateM.Result.ok.inj happend).1.symm

/-- **A class is registered as it speaks in the end**, when its descriptor is made. -/
theorem ofAdded_cls (h : EStateM.run (Registration.ofAdded ρ (.cls c) root) w = .ok r w') :
    r = (w'.classDef c).registration root r.config := by
  obtain ⟨x, hx, -, hr⟩ := exists_speaker_of_ofAdded h
  obtain rfl : w'.classDef c = x := Option.some.inj hx
  exact hr

/-- **An instance is registered as its class speaks in the end**, when it was absorbed. -/
theorem ofAdded_of_classOf (hc : w'.classOf? a = some c)
    (h : EStateM.run (Registration.ofAdded ρ a root) w = .ok r w') :
    r = (w'.classDef c).registration root r.config := by
  obtain ⟨x, hx, -, hr⟩ := exists_speaker_of_ofAdded h
  have live : RegistrationBuilder.Setter.supplying a = .application a := by
    cases a with
    | cls k => exact nomatch hc
    | none | descriptor | object | datum => rfl
  have speaker : some (RegistrationBuilder.classFor w' a) = some x := by
    rw [live] at hx
    exact hx
  rw [RegistrationBuilder.classFor, hc] at speaker
  rwa [← Option.some.inj speaker] at hr

/-- **All ways of adding an application agree.** It may be registered first, with all defaults, and
    the registration be added on the context root: that comes to the same from every store. A
    descriptor is registered as it is. A class is registered as any instance of just this class is,
    but for the descriptor, if the class declares the same, and has the same name, at the end of
    both calls. And a registration that is added stays as it was. -/
theorem addApplication_agrees (ρ : Dispatch) (b : ServerBuilder) (app : Ref) (root : Datum) :
    (∀ w, EStateM.run (b.addApplication ρ app root) w =
        EStateM.run (Registration.create ρ app >>= fun r => b.append (b.placed r root)) w) ∧
      (∀ (d : DescriptorId) (w w₁ : World) (b₁ : ServerBuilder), app = .descriptor d →
        EStateM.run (b.addApplication ρ app root) w = .ok b₁ w₁ →
        ∃ r, b₁ = { b with registrations := b.registrations ++ [r] } ∧ r.config = app) ∧
      (∀ (c : ClassId) (w w₁ v v₁ : World) (b' b₁ b₂ : ServerBuilder),
        EStateM.run (b.addApplication ρ (.cls c) root) w = .ok b₁ w₁ →
        EStateM.run (b'.addApplication ρ app root) v = .ok b₂ v₁ →
        v₁.classOf? app = some c → (w₁.classDef c).SpeaksAs (v₁.classDef c) →
        ∃ r₁ r₂, b₁ = { b with registrations := b.registrations ++ [r₁] } ∧
          b₂ = { b' with registrations := b'.registrations ++ [r₂] } ∧
          r₁ = { r₂ with config := r₁.config }) ∧
      ∀ r w, left (EStateM.run (b.append (b.placed r root)) w) = w := by
  refine ⟨fun w => ?_, fun d w w₁ b₁ happ h => ?_,
    fun c w w₁ v v₁ b' b₁ b₂ h h' hc same => ?_, fun r w => (reads_append b _ w).symm⟩
  · rw [addApplication_eq, Registration.ofAdded_eq ρ b]
    simp only [bind_assoc, pure_bind]
  · obtain ⟨r, hmade, rfl⟩ := exists_added h
    obtain ⟨x, -, hd, -⟩ := exists_speaker_of_ofAdded hmade
    subst happ
    exact ⟨r, rfl, (Option.some.inj hd).symm⟩
  · obtain ⟨r₁, hmade, rfl⟩ := exists_added h
    obtain ⟨r₂, hmade', rfl⟩ := exists_added h'
    refine ⟨r₁, r₂, rfl, rfl, ?_⟩
    rw [ofAdded_cls hmade, same.registration, ofAdded_of_classOf hc hmade']
    rfl

/-- A store with a class of applications that would like a place of their own, one that derives from
    it and declares nothing, and an instance of each; those of the first put another declaration on
    their class when they are asked for its classes, if whoever runs them does such things. -/
def staffedStore : World :=
  { RegistrationBuilder.toldStore with
    classes := (RegistrationBuilder.toldStore.changeClass ⟨6⟩ fun c =>
      { c with members := [(Hook.classes.word, .method (.within "ShopApp" Hook.classes.word
          (.answer (.after (.decorate (some "ShopApp") (.path (.text "/moved"))) (.list [])))))]
      }).classes.push
        { name := "LocalApp", qualname := "LocalApp", home := .text "shop",
          ancestors := [⟨6⟩, ClassId.application, ClassId.object] }
    things := #[⟨.made ⟨6⟩ none, .object ⟨0⟩, none⟩, ⟨.made ⟨7⟩ none, .object ⟨1⟩, none⟩]
    scope := ⟨[("ShopApp", .cls ⟨6⟩)]⟩ }

/-- A class of applications and an instance of it are both mounted at the place that the class would
    like. -/
theorem addApplication_staffedStore :
    ∃ r₁ r₂ w₁ w₂,
      EStateM.run (({} : ServerBuilder).addApplication Dispatch.library (.cls ⟨6⟩) .null)
          staffedStore = .ok { registrations := [r₁] } w₁ ∧
        EStateM.run (({} : ServerBuilder).addApplication Dispatch.library (.object ⟨0⟩) .null)
          staffedStore = .ok { registrations := [r₂] } w₂ ∧
        r₁ = { r₂ with config := r₁.config } ∧ r₁.contextRoot = .text "/shop" ∧
        r₁.config = .descriptor ⟨1⟩ := by
  obtain ⟨-, -, agree, -⟩ := addApplication_agrees Dispatch.library {} (.object ⟨0⟩) .null
  obtain ⟨r₁, r₂, h₁, h₂, same⟩ :=
    agree ⟨6⟩ staffedStore _ staffedStore _ {} _ _ rfl rfl rfl ⟨rfl, rfl⟩
  cases h₁
  cases h₂
  exact ⟨_, _, _, _, rfl, rfl, same, rfl, rfl⟩

/-- The record that a server builder makes of an application, if it makes one. -/
def recorded? (ρ : Dispatch) (app : Ref) : Option Registration :=
  (result? (EStateM.run (({} : ServerBuilder).addApplication ρ app .null) staffedStore)).bind
    (·.registrations.head?)

/-- **A class is not registered as its instances are** if the instance is of a class that derives
    from it, which is registered under the name of its own class, or if the instance puts another
    declaration on its class while it is absorbed. -/
theorem addApplication_disagrees :
    ((staffedStore.classDef ⟨7⟩).ancestors.contains ⟨6⟩ ∧
      (recorded? Dispatch.library (.cls ⟨6⟩)).map (·.appClassName) = some (.text "shop.ShopApp") ∧
      (recorded? Dispatch.library (.object ⟨1⟩)).map (·.appClassName) =
        some (.text "shop.LocalApp")) ∧
    staffedStore.classOf? (.object ⟨0⟩) = some ⟨6⟩ ∧
      (recorded? (Dispatch.acting false []) (.cls ⟨6⟩)).map (·.contextRoot) =
        some (.text "/shop") ∧
      (recorded? (Dispatch.acting false []) (.object ⟨0⟩)).map (·.contextRoot) =
        some (.text "/moved") := by
  decide +kernel

end ServerBuilder

end AppMount
