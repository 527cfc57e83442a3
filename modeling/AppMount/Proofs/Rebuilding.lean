import AppMount.Proofs.ApplicationCalls
import AppMount.Proofs.FailedBuild

/-!
# Building again

A builder that was built once mounts frozen descriptors only, and those neither change nor run any
code when they are checked and frozen again. So it may be built over and over, whatever happens in
between, and always makes the same server; and other builders of these descriptors may be refused
for the places of their registrations, but for nothing else.

* `frozen_of_build`: after a build all that was to be mounted is frozen;
* `accepted_of_frozen`, `run_build_of_frozen`: frozen descriptors are never refused, and mounted as
  they are;
* `ServerBuilder.Misplaced`: what registrations of frozen descriptors are refused for;
* `build_repeatable`: the result;
* `rebuild_runs_code`: where classes replace methods of the library, building again may run code,
  and fail; and a context root that is no key is refused for that.
-/

namespace AppMount

open World (Spares Frame nobody Course)

/-! ## 1. What is frozen stays frozen -/

namespace World

variable {N L : DescriptorId → Prop} {w w' : World}

theorem Spares.hardens (h : Spares N L nobody w w') : Hardens nobody w w' := by
  refine ⟨h.stores, fun d hd _ hf => ?_⟩
  exact ((h.descriptor d hd id).frozen hf).1.frozen.trans hf

end World

/-- Code that spares what is frozen undoes no freeze. -/
theorem Dispatch.Respects.hardens {ρ : Dispatch} {N L : DescriptorId → Prop}
    (hρ : ρ.Respects (Spares N L)) : ρ.Respects World.Hardens :=
  ⟨hρ.library, fun answer w => (hρ.run answer w).hardens⟩

namespace ServerBuilder

variable {ρ : Dispatch} {N : DescriptorId → Prop} {b : ServerBuilder} {config : ServerConfig}
  {members : List Ref} {w w' : World} {server : Server}

/-- The descriptors that the registrations of a builder have are those that it mounts. -/
theorem mounts_of_mem {r : Registration} {d : DescriptorId} (hr : r ∈ b.registrations)
    (hd : r.config = .descriptor d) : b.Mounts d :=
  List.mem_filterMap.2 ⟨r, hr, by rw [hd]; rfl⟩

/-- The server that a builder of some configuration is to make. -/
def outcome (b : ServerBuilder) (config : ServerConfig) : Server :=
  { setting := b.setting
    mounts := b.registrations.map fun r =>
      mountOf b.defaultExecutor (config.resolve r.routingName) r }

/-- **A build that comes to an end has frozen all that it mounts**, and has taken nothing from the
    store. -/
theorem frozen_of_build (hρ : ρ.Respects World.Hardens) (hb : b.Holds config members w)
    (hrun : EStateM.run (b.build ρ) w = .ok server w') :
    server = b.outcome config ∧ World.Hardens nobody w w' ∧
      ∀ d, b.Mounts d → (w'.descriptor d).frozen = true := by
  have hardens : World.Hardens nobody w (Action.left (EStateM.run (b.build ρ) w)) :=
    within_build hρ.library hb Frame.refl (fun h h' => Frame.trans h h' fun _ => .inl)
      World.Hardens.logging fun _ _ d _ => Action.hardens_freeze hρ d
  rw [hrun] at hardens
  have resolvedHas : ∀ e ∈ b.registrations.map (resolved config), ∃ d,
      e.2.config = .descriptor d ∧ (w.validated config b.registrations).HasDescriptor d := by
    intro e he
    obtain ⟨r, hr, rfl⟩ := List.mem_map.1 he
    exact hb.stored r hr
  obtain ⟨-, hmount, -⟩ := run_build_eq_ok hρ.library hb hrun
  obtain ⟨hmounts, frozen⟩ := run_mountAll_eq_ok hρ hb.standIns resolvedHas hmount
  have made : Action.HandsBack (fun s : Server => s = ⟨b.setting, s.mounts, []⟩) (b.build ρ) := by
    rw [build_of_nil hb.standIns]
    exact .after fun _ => .after fun _ => .pure rfl
  refine ⟨?_, hardens, fun d hd => ?_⟩
  · rw [made w server w' hrun, hmounts, List.map_map]
    rfl
  · obtain ⟨r, hr, hrd⟩ := List.mem_filterMap.1 hd
    obtain ⟨e, he, -⟩ := hb.stored r hr
    obtain rfl : e = d := by
      rw [he] at hrd
      exact Option.some.inj hrd
    exact frozen _ (List.mem_map.2 ⟨r, hr, rfl⟩) e he

/-! ## 2. Builders of frozen descriptors -/

theorem constructionFault?_of_frozen {d : DescriptorId} (h : (w.descriptor d).frozen = true) :
    w.constructionFault? d = none :=
  if_pos h

/-- What a registration is refused for, that of its descriptor left out, is the same in all
    stores. -/
theorem accepted_of_frozen (frozen : ∀ d, b.Mounts d → (w'.descriptor d).frozen = true)
    (accepted : ∀ i, w.refusalAt? config b.registrations i = none) (i : Nat) :
    w'.refusalAt? config b.registrations i = none := by
  obtain ⟨own, apart⟩ := accepted_iff.1 accepted
  refine accepted_iff.2 ⟨fun r hr => ?_, apart⟩ i
  obtain ⟨hlistener, hkey, -⟩ := own r hr
  refine ⟨hlistener, hkey, ?_⟩
  cases hd : r.config.descriptor? with
  | none => rfl
  | some d => exact constructionFault?_of_frozen (frozen d (List.mem_filterMap.2 ⟨r, hr, hd⟩))

/-- **Frozen descriptors are mounted as they are**: building leaves entries in the log, and nothing
    else. -/
theorem run_build_of_frozen (hρ : ρ.replaces = false) (hb : b.Holds config members w)
    (frozen : ∀ d, b.Mounts d → (w.descriptor d).frozen = true)
    (accepted : ∀ i, w.refusalAt? config b.registrations i = none) :
    ∃ entries, EStateM.run (b.build ρ) w = .ok (b.outcome config) (w.logging entries) := by
  have located : ∀ e ∈ b.registrations.map (resolved config), ∃ d, e.2.config = .descriptor d ∧
      ((w.validated config b.registrations).descriptor d).frozen = true := by
    intro e he
    obtain ⟨r, hr, rfl⟩ := List.mem_map.1 he
    obtain ⟨d, hd, -⟩ := hb.stored r hr
    exact ⟨d, hd, frozen d (mounts_of_mem hr hd)⟩
  have mounted := run_mountAll_of_frozen hρ hb.standIns [] located
  rw [List.append_nil] at mounted
  refine ⟨w.fallBacks config b.registrations ++ (w.validated config b.registrations).mountings
    (b.registrations.map (resolved config)), ?_⟩
  rw [build_of_nil hb.standIns, Action.run_bind_of_ok (run_validate_of_all hρ hb accepted),
    EStateM.run_bind, mounted]
  simp [mountAll, outcome, resolved, Function.comp_def, ← World.logging_append, World.validated]

/-- **What the registrations of frozen descriptors are refused for**: one requires a listener that
    there is none of, or has the place of one before it. -/
inductive Misplaced (b : ServerBuilder) (config : ServerConfig) (w : World) : Fault → Prop where
  | misses {r : Registration} (hr : r ∈ b.registrations) (h : config.Misses r) :
    Misplaced b config w
      (.missingListener (r.label w.describe) r.routingName config.listenerNames)
  | taken {q r : Registration} (h : [q, r].Sublist b.registrations)
    (same : config.placeOf q = config.placeOf r) :
    Misplaced b config w (.samePlace (r.label w.describe) (q.label w.describe) r.contextRoot
      (config.resolve r.routingName))

/-- One before another in a list. -/
theorem sublist_of_mem_take {α : Type} {xs : List α} {i : Nat} {x y : α} (hx : x ∈ xs.take i)
    (hy : xs[i]? = some y) : [x, y].Sublist xs := by
  obtain ⟨hi, rfl⟩ := List.getElem?_eq_some_iff.1 hy
  have hlater : xs[i] ∈ xs.drop i := by
    rw [List.drop_eq_getElem_cons hi]
    exact List.mem_cons_self
  have parts := (List.singleton_sublist.2 hx).append (List.singleton_sublist.2 hlater)
  rwa [List.take_append_drop] at parts

theorem misplaced_of_refusalAt? {i : Nat} {fault : Fault}
    (keys : ∀ r ∈ b.registrations, r.contextRoot.isKey = true)
    (frozen : ∀ d, b.Mounts d → (w.descriptor d).frozen = true)
    (hi : w.refusalAt? config b.registrations i = some fault) : b.Misplaced config w fault := by
  obtain ⟨r, hr, refused⟩ := Option.bind_eq_some_iff.1 hi
  have hmem := List.mem_of_getElem? hr
  unfold World.refusal? at refused
  split at refused
  · rename_i hmisses
    cases refused
    exact .misses hmem hmisses
  · rw [if_neg (by simp [keys r hmem])] at refused
    split at refused
    · rename_i q hfind
      obtain ⟨hq, same⟩ := ServerConfig.of_find?_placeOf hfind
      cases refused
      exact .taken (sublist_of_mem_take hq hr) same
    · obtain ⟨d, hd, hfault⟩ := Option.bind_eq_some_iff.1 refused
      rw [constructionFault?_of_frozen (frozen d (List.mem_filterMap.2 ⟨r, hmem, hd⟩))] at hfault
      cases hfault

/-! ## 3. Building again -/

/-- **A build that came to an end can be repeated.** Whatever course of calls there was in between,
    building again makes the same server and leaves nothing but entries in the log; and so does
    another builder of the same descriptors, unless it is refused for the places of its
    registrations. -/
theorem build_repeatable {N' L : DescriptorId → Prop} {w₁ w₂ : World} {ρ' : Dispatch}
    (hρ : ρ.Civil N nobody) (hb : b.Holds config members w)
    (hbuild : EStateM.run (b.build ρ) w = .ok server w₁) (later : Course N' L w₁ w₂)
    (hρ' : ρ'.replaces = false) :
    (∃ entries, EStateM.run (b.build ρ') w₂ = .ok server (w₂.logging entries)) ∧
      ∀ (b' : ServerBuilder) (config' : ServerConfig) (members' : List Ref),
        b'.Holds config' members' w₂ → (∀ d, b'.Mounts d → b.Mounts d) →
        (∀ r ∈ b'.registrations, r.contextRoot.isKey = true) →
        ∃ entries,
          EStateM.run (b'.build ρ') w₂ = .ok (b'.outcome config') (w₂.logging entries) ∨
          ∃ fault, b'.Misplaced config' w₂ fault ∧
            EStateM.run (b'.build ρ') w₂ = .error fault (w₂.logging entries) := by
  obtain ⟨rfl, hardens, frozen₁⟩ := frozen_of_build hρ.respects.hardens hb hbuild
  have frozen₂ (d : DescriptorId) (hd : b.Mounts d) : (w₂.descriptor d).frozen = true :=
    later.spares.hardens.frozen d (hardens.has (hb.has hd)) id (frozen₁ d hd)
  have hb₂ : b.Holds config members w₂ := by
    refine ⟨hb.setting, hb.standIns, fun r hr => ?_⟩
    obtain ⟨d, hd, has⟩ := hb.stored r hr
    exact ⟨d, hd, later.has (hardens.has has)⟩
  obtain ⟨accepted, -⟩ := run_build_eq_ok hρ.library hb hbuild
  -- What it was accepted for the first time depends on its own places only, and those stay.
  refine ⟨run_build_of_frozen hρ' hb₂ frozen₂ (accepted_of_frozen frozen₂ accepted), ?_⟩
  intro b' config' members' hb' among keys
  have frozen' (d : DescriptorId) (hd : b'.Mounts d) := frozen₂ d (among d hd)
  rcases w₂.refused_first config' b'.registrations with all | ⟨i, fault, hi, first⟩
  · obtain ⟨entries, built⟩ := run_build_of_frozen hρ' hb' frozen' all
    exact ⟨entries, .inl built⟩
  · exact ⟨_, .inr ⟨fault, misplaced_of_refusalAt? keys frozen' hi,
      run_build_of_first hρ' hb' hi first⟩⟩

/-- The store after the board was built. -/
def builtBoard : World :=
  Action.left (EStateM.run (World.boardBuilder.build Dispatch.library) World.boardStore)

/-- The board after something happened to it: it was given another name, and then the application
    was adapted that freezes another descriptor before it fails. -/
def revisitedBoard : World :=
  Action.left (EStateM.run (do
    Operation.perform Dispatch.library (.rename ⟨0⟩ (.text "wall") 0)
    Operation.perform (Dispatch.acting false []) (.forApplication ClassId.descriptor (.object ⟨0⟩)))
    builtBoard)

/-- The board is built, something happens to it, and it is built again. -/
theorem build_repeatable_board :
    Dispatch.library.Civil nobody nobody ∧ World.boardBuilder.Holds {} [] World.boardStore ∧
      Course (· = ⟨0⟩) nobody builtBoard revisitedBoard ∧
      (revisitedBoard.descriptor ⟨0⟩).name = .text "wall" ∧
      (revisitedBoard.descriptor ⟨2⟩).frozen = true ∧
      ∃ server entries,
        EStateM.run (World.boardBuilder.build Dispatch.library) World.boardStore =
          .ok server builtBoard ∧
        EStateM.run (World.boardBuilder.build Dispatch.library) revisitedBoard =
          .ok server (revisitedBoard.logging entries) := by
  have civil {N L : DescriptorId → Prop} : Dispatch.library.Civil N L :=
    Dispatch.discreet_library.civil
  have acting : (Dispatch.acting false []).Civil (· = ⟨0⟩) nobody :=
    (Dispatch.civil_acting []).unlock fun _ => False.elim
  have holds : World.boardBuilder.Holds {} [] World.boardStore :=
    World.holds_boardBuilder (by decide)
  have renamed : Course (· = ⟨0⟩) nobody builtBoard _ :=
    civil.call (.rename ⟨0⟩ (.text "wall") 0) rfl
  have later : Course (· = ⟨0⟩) nobody builtBoard revisitedBoard :=
    renamed.trans (acting.call (.forApplication ClassId.descriptor (.object ⟨0⟩)) trivial)
  have civil' : Dispatch.library.Civil nobody nobody := civil
  obtain ⟨entries, again⟩ := (build_repeatable civil' holds rfl later civil'.library).1
  exact ⟨civil', holds, later, rfl, rfl, _, entries, rfl, again⟩

/-- The store after a descriptor was built that describes itself. -/
def builtStore : World :=
  Action.left (EStateM.run (World.stubbornBuilder.build Dispatch.replaceable) World.stubbornStore)

/-- The same store, after the method was written anew by which it describes itself. -/
def rewrittenStore : World :=
  builtStore.changeClass ⟨7⟩
    (·.writeMethod "__repr__" (.fail ⟨"RuntimeError", "no board"⟩) 1)

/-- A builder that has the board at a list of places. -/
def scatteredBuilder : ServerBuilder :=
  { registrations :=
      [{ contextRoot := .list (.ofList [.text "shop"]), config := .descriptor ⟨0⟩ }] }

/-- **Where calls look at the class of a descriptor first, building again may run code.** A frozen
    descriptor describes itself for the first pass and for the log, as it did before; and once that
    fails, so does the build. And another builder of frozen descriptors may be refused for a context
    root that is no key. -/
theorem rebuild_runs_code :
    World.stubbornBuilder.Holds {} [] World.stubbornStore ∧
      (Action.result? (EStateM.run (World.stubbornBuilder.build Dispatch.replaceable)
        World.stubbornStore)).isSome ∧
      (builtStore.descriptor ⟨1⟩).frozen = true ∧
      (Action.left (EStateM.run (World.stubbornBuilder.build Dispatch.replaceable)
        builtStore)).calls =
        builtStore.calls ++ [⟨.cls ⟨7⟩, "__repr__"⟩, ⟨.cls ⟨7⟩, "__repr__"⟩] ∧
      Action.result? (EStateM.run (World.stubbornBuilder.build Dispatch.replaceable)
        rewrittenStore) = none ∧
      ∃ server w, EStateM.run (World.boardBuilder.build Dispatch.library) World.boardStore =
          .ok server w ∧
        (∀ d, scatteredBuilder.Mounts d → World.boardBuilder.Mounts d) ∧
        EStateM.run (scatteredBuilder.build Dispatch.library) w = .error (.notKey "list") w := by
  refine ⟨⟨rfl, rfl, fun r hr => ?_⟩, ?_, ?_, ?_, ?_, _, _, rfl, fun d hd => ?_, rfl⟩
  · obtain rfl := List.mem_singleton.1 hr
    exact ⟨⟨1⟩, rfl, show 1 < 2 by decide⟩
  · decide +kernel
  · decide +kernel
  · decide +kernel
  · decide +kernel
  · obtain rfl := List.mem_singleton.1 hd
    exact .head _

end ServerBuilder

end AppMount
