import AppMount.Proofs.ApplicationCode

/-!
# A descriptor for an application class

What a descriptor is like when it was made for an application class and nothing else happened to it.
It is an instance of the library's own class of descriptors, so this depends on that class being as
the library wrote it.

* `World.Intact`: a store with the library's own classes as they are;
* `run_construct_descriptor`, `run_newNamed_of_intact`: a new descriptor has a name and nothing
  else;
* `descriptor_of_forApplicationClass`: one that is made for a class stands for it.
-/

namespace AppMount

/-! ## 1. The library's own classes -/

/-- **A store with the library's own classes as they are**: nothing was written into the class of
    descriptors or into those that it derives from. -/
structure World.Intact (w : World) : Prop where
  descriptor : w.classDef ClassId.descriptor = ClassDef.descriptor
  application : w.classDef ClassId.application = ClassDef.application
  object : w.classDef ClassId.object = ClassDef.root

namespace World.Intact

variable {w : World}

theorem lineage (h : w.Intact) :
    w.lineage ClassId.descriptor = [ClassId.descriptor, ClassId.application, ClassId.object] := by
  unfold World.lineage
  rw [h.descriptor]
  rfl

theorem allocator (h : w.Intact) :
    w.member? ClassId.descriptor ClassDef.allocatorMember = none := by
  unfold World.member? World.nearest
  rw [h.lineage]
  simp only [List.findSome?, h.descriptor, h.application, h.object]
  rfl

theorem initializer (h : w.Intact) :
    w.member? ClassId.descriptor ClassDef.initializerMember =
      some (ClassId.descriptor,
        .method (.within "ResourceConfig" ClassDef.initializerMember .own)) := by
  unfold World.member? World.nearest
  rw [h.lineage]
  simp only [List.findSome?, h.descriptor, h.application, h.object]
  rfl

theorem primitive? (h : w.Intact) : w.primitive? ClassId.descriptor = none := by
  unfold World.primitive?
  rw [h.lineage]
  rfl

theorem isDescriptorClass (h : w.Intact) : w.isDescriptorClass ClassId.descriptor = true := by
  unfold World.isDescriptorClass
  rw [h.lineage]
  rfl

theorem allocates (h : w.Intact) : Action.allocates w ClassId.descriptor = false := by
  unfold Action.allocates
  rw [h.lineage]
  simp only [List.any_cons, h.descriptor, h.application, h.object]
  rfl

theorem of_classes {w' : World} (h : w.Intact) (hc : w'.classes = w.classes) : w'.Intact := by
  obtain ⟨descriptor, application, object⟩ := h
  unfold World.classDef at descriptor application object
  rw [← hc] at descriptor application object
  exact ⟨descriptor, application, object⟩

theorem newDescriptor (h : w.Intact) (x : Descriptor) : (w.newDescriptor x).2.Intact :=
  h.of_classes rfl

end World.Intact

/-! ## 2. A new descriptor -/

namespace Action

variable {ρ : Dispatch} {v w : World} {c : ClassId} {d : DescriptorId}

theorem run_fitBare_of_intact (h : v.Intact) (args : Arguments) :
    EStateM.run (fitBare ClassId.descriptor args) v = .ok ⟨⟩ v := by
  unfold fitBare
  rw [run_bind_of_ok (EStateM.run_get v), h.initializer, h.allocates]
  split <;> rfl

theorem run_checkNoOpenMethods_of_intact (h : v.Intact) :
    EStateM.run (checkNoOpenMethods ClassId.descriptor) v = .ok ⟨⟩ v := by
  unfold checkNoOpenMethods
  rw [run_bind_of_ok (EStateM.run_get v), h.descriptor]
  rfl

theorem run_allocate_of_intact (hρ : ρ.replaces = false) (h : v.Intact) (args : Arguments) :
    EStateM.run (allocate ρ ClassId.descriptor args) v =
      .ok (.descriptor (v.newDescriptor { cls := ClassId.descriptor }).1)
        (v.newDescriptor { cls := ClassId.descriptor }).2 := by
  unfold allocate
  rw [run_bind_of_ok (EStateM.run_get v), h.primitive?, if_pos h.isDescriptorClass, hρ,
    if_neg Bool.false_ne_true]
  rfl

/-- The initializer of descriptors is the first one in their lineage, and calls no other. -/
theorem run_runInitializers_of_intact (h : v.Intact) (d : DescriptorId) (args : Arguments) :
    EStateM.run (runInitializers ρ (.descriptor d) true (v.lineage ClassId.descriptor) args) v =
      EStateM.run (fillDescriptor ρ d args) v := by
  rw [h.lineage]
  unfold runInitializers
  rw [run_bind_of_ok (EStateM.run_get v), h.descriptor]
  rfl

/-- The library's own fields need not be claimed. -/
theorem run_claimAll_of_library (hρ : ρ.replaces = false) (d : DescriptorId)
    (fields : List String) (w : World) :
    EStateM.run (fields.forM (claim ρ d)) w = .ok ⟨⟩ w := by
  induction fields with
  | nil => rfl
  | cons field rest ih =>
    show EStateM.run (claim ρ d field >>= fun _ => rest.forM (claim ρ d)) w = .ok ⟨⟩ w
    rw [claim_of_library hρ, pure_bind]
    exact ih

/-- A descriptor that is initialized without components has a name and nothing else. -/
theorem run_fillDescriptor_of_library (hρ : ρ.replaces = false) (d : DescriptorId)
    {args : Arguments} (hargs : args.positional = []) (w : World) :
    EStateM.run (fillDescriptor ρ d args) w =
      .ok ⟨⟩ (w.changeDescriptor d (·.initialized (args.name.getD .null))) := by
  unfold fillDescriptor
  rw [run_bind_of_ok (run_claimAll_of_library hρ d _ w), run_bind_of_ok (EStateM.run_modify _ w),
    hargs]
  rfl

/-- **A new descriptor has a name and nothing else.** -/
theorem run_construct_descriptor (hρ : ρ.replaces = false) (h : v.Intact) (name : Datum) :
    ∃ d w, EStateM.run (construct ρ ClassId.descriptor { name := some name }) v =
        .ok (.descriptor d) w ∧
      w.HasDescriptor d ∧ w.assigned = v.assigned ∧
      w.descriptor d = { cls := ClassId.descriptor, name := name } := by
  have later := h.newDescriptor { cls := ClassId.descriptor }
  have has := (World.hasDescriptor_new_iff v { cls := ClassId.descriptor } _).2 (.inr rfl)
  have has' := (World.hasDescriptor_change _ (v.newDescriptor { cls := ClassId.descriptor }).1 _
    (·.initialized name)).2 has
  refine ⟨_, _, ?_, has', rfl, ?_⟩
  · unfold construct
    rw [run_discarding, run_bind_of_ok (EStateM.run_get v), h.allocator,
      run_bind_of_ok (run_fitBare_of_intact h _)]
    unfold makeInstance
    rw [run_bind_of_ok (run_checkNoOpenMethods_of_intact h),
      run_bind_of_ok (run_allocate_of_intact hρ h _), run_bind_of_ok (EStateM.run_get _),
      EStateM.run_bind, run_runInitializers_of_intact later, run_fillDescriptor_of_library hρ _ rfl]
    rfl
  · rw [World.descriptor_change_self has, World.descriptor_new_self]
    rfl

/-- A new descriptor that is made for an application. -/
theorem run_newNamed_of_intact (hρ : ρ.replaces = false) (h : v.Intact) (name : Datum)
    (field : String) :
    ∃ d w, EStateM.run (newNamed ρ ClassId.descriptor name field) v = .ok d w ∧
      w.HasDescriptor d ∧ w.assigned = v.assigned ∧
      w.descriptor d = { cls := ClassId.descriptor, name := name } := by
  obtain ⟨d, w, hnew, has, hassigned, hbare⟩ := run_construct_descriptor hρ h name
  refine ⟨d, w, ?_, has, hassigned, hbare⟩
  unfold newNamed
  rw [run_bind_of_ok hnew]
  rfl

/-- Making a descriptor for a class gives it a name, and lets it stand for the class. -/
theorem run_forApplicationClass_of_named (hρ : ρ.replaces = false)
    (hnamed : EStateM.run (newNamed ρ ClassId.descriptor (.text (v.classDef c).qualname)
      "_application_class") v = .ok d w) :
    EStateM.run (forApplicationClass ρ ClassId.descriptor (.cls c)) v =
      .ok d (w.changeDescriptor d (·.standForClass c)) := by
  unfold forApplicationClass
  rw [run_discarding_eq_ok_iff]
  dsimp only
  rw [run_bind_of_ok (EStateM.run_get v), run_bind_of_ok hnamed, claim_of_library hρ, pure_bind,
    run_bind_of_ok (EStateM.run_modify _ w)]
  rfl

/-- Making a descriptor for an application gives it a name, lets it stand for the application, and
    absorbs that. -/
theorem run_forApplication_of_named {app : Ref} {w' : World} (hρ : ρ.replaces = false)
    (hnamed : EStateM.run (newNamed ρ ClassId.descriptor (.text (v.typeQualname app))
      "_application") v = .ok d w)
    (habsorbed : EStateM.run (absorb ρ d app) (w.changeDescriptor d (·.adopt app))
      = .ok ⟨⟩ w') :
    EStateM.run (forApplication ρ ClassId.descriptor app) v = .ok d w' := by
  unfold forApplication absorbInto
  rw [run_discarding_eq_ok_iff, run_bind_of_ok (EStateM.run_get v), run_bind_of_ok hnamed,
    claim_of_library hρ, pure_bind, run_bind_of_ok (EStateM.run_modify _ w),
    orReplaced_of_library hρ]
  simp only [bind_assoc, pure_bind]
  rw [run_bind_of_ok habsorbed]
  rfl

/-- **A descriptor that was made for a class** is named for it, stands for it, and holds nothing. -/
theorem descriptor_of_forApplicationClass (hρ : ρ.replaces = false) (h : v.Intact)
    (hmade : EStateM.run (forApplicationClass ρ ClassId.descriptor (.cls c)) v = .ok d w) :
    w.HasDescriptor d ∧ w.assigned = v.assigned ∧ w.descriptor d =
      { cls := ClassId.descriptor, name := .text (v.classDef c).qualname,
        applicationClass := some c } := by
  obtain ⟨e, w₁, hnamed, has, hassigned, hbare⟩ :=
    run_newNamed_of_intact hρ h (.text (v.classDef c).qualname) "_application_class"
  rw [run_forApplicationClass_of_named hρ hnamed] at hmade
  obtain ⟨rfl, rfl⟩ := EStateM.Result.ok.inj hmade
  refine ⟨(World.hasDescriptor_change ..).2 has, hassigned, ?_⟩
  rw [World.descriptor_change_self has, hbare]
  rfl

end Action

end AppMount
