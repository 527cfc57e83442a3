import AppMount.Proofs.Courses
import Mathlib.Data.List.Nodup

/-!
# Listening

How the listeners of a configuration and the mounts of a server fit together. Looking a name up and
listing the names are two pieces of code over the same listeners, which may repeat a name or use the
name of the default one; the look-up finds what is listed and nothing else. No registration is put
on a listener that is not listed, so that the mounts of a server fall into the listed names.

* `ServerConfig.LooksUp`: what a look-up gives, name by name (`looksUp`); `nodup_listenerNames`;
* `flatMap_filter_perm`: a list in parts, one for each key;
* `Server.Divided`: mounts that are divided among the listed names;
* `ServerBuilder.applications`: the registrations that are mounted;
* `handsBack_resolveListener`, `handsBack_validate_listed`, `handsBack_mountAll`: a listed name is
  found, passed on, and mounted on, whatever application code does;
* `listeners_fit_mounts`: look-up, names and mounts together.
-/

namespace AppMount

/-! ## 1. Look-up -/

/-- **The first listener of a name** in a list, which none before it has. -/
def Listener.IsFirst (l : Listener) (name : String) (listeners : List Listener) : Prop :=
  l.name = name ∧
    ∃ before after, listeners = before ++ l :: after ∧ ∀ other ∈ before, other.name ≠ name

theorem Listener.isFirst_iff {l : Listener} {name : String} {listeners : List Listener} :
    listeners.find? (·.name = name) = some l ↔ l.IsFirst name listeners := by
  rw [List.find?_eq_some_iff_append]
  simp [IsFirst]

/-- What is left of a list without repetitions has none. -/
theorem nodup_eraseDups {α : Type} [DecidableEq α] (xs : List α) : xs.eraseDups.Nodup := by
  induction hn : xs.length using Nat.strong_induction_on generalizing xs with
  | _ n ih =>
    cases xs with
    | nil => exact .nil
    | cons x rest =>
      rw [List.eraseDups_cons]
      have shorter := List.length_filter_le (fun y => !y == x) rest
      rw [List.length_cons] at hn
      refine List.nodup_cons.2 ⟨fun h => ?_, ih _ (by omega) _ rfl⟩
      simpa using (List.mem_filter.1 (List.mem_eraseDups.1 h)).2

namespace ServerConfig

variable {config : ServerConfig} {name : String} {l : Listener}

/-- **What a look-up gives.** It finds the names that are listed, and under each name a listener of
    that name: the first configured one, or for the default name the server's own. -/
structure LooksUp (config : ServerConfig) : Prop where
  listed : ∀ name, (config.listener? name).isSome ↔ name ∈ config.listenerNames
  named : ∀ name l, config.listener? name = some l → l.name = name
  configured : ∀ name l, name ≠ defaultRouting →
    (config.listener? name = some l ↔ l.IsFirst name config.listeners)
  ownHost : config.listener? defaultRouting = some ⟨defaultRouting, config.host, config.port⟩

theorem listener?_of_ne (h : name ≠ defaultRouting) :
    config.listener? name = config.listeners.find? (·.name = name) :=
  if_neg h

theorem listener?_default (config : ServerConfig) :
    config.listener? defaultRouting = some config.defaultListener :=
  if_pos rfl

theorem name_of_listener? (h : config.listener? name = some l) : l.name = name := by
  by_cases hd : name = defaultRouting
  · subst hd
    rw [listener?_default] at h
    cases h
    rfl
  · rw [listener?_of_ne hd] at h
    exact (Listener.isFirst_iff.1 h).1

/-- **Every configuration looks its listeners up by name.** -/
theorem looksUp (config : ServerConfig) : config.LooksUp where
  listed := config.listener?_isSome_iff
  named _ _ := name_of_listener?
  configured name l h := by rw [listener?_of_ne h, Listener.isFirst_iff]
  ownHost := config.listener?_default

theorem nodup_listenerNames (config : ServerConfig) : config.listenerNames.Nodup :=
  (List.mergeSort_perm ..).nodup_iff.2 (nodup_eraseDups _)

/-- **A datum that is the name of a listener.** -/
def Lists (config : ServerConfig) (d : Datum) : Prop :=
  ∃ name ∈ config.listenerNames, d = .text name

theorem lists_default (config : ServerConfig) : config.Lists (.text defaultRouting) :=
  ⟨_, (config.listener?_isSome_iff _).1 (by rw [listener?_default]; rfl), rfl⟩

/-- A configuration has the names that it lists. -/
theorem lists_of_has {d : Datum} (h : config.has d = true) : config.Lists d := by
  cases d with
  | text name => exact ⟨name, (config.listener?_isSome_iff name).1 h, rfl⟩
  | _ => exact nomatch h

/-- **A routing name leads to a listed name**, if it leads to a listener of its own at all. -/
theorem lists_of_route {d listener : Datum} {required : Bool}
    (h : config.route d required = .to listener) : config.Lists listener := by
  unfold route at h
  split at h
  · cases h
    exact config.lists_default
  · unfold Routing.named at h
    split at h
    next has =>
      cases h
      exact lists_of_has has
    · split at h <;> exact nomatch h

end ServerConfig

/-! ## 2. Mounts by listener -/

/-- **A list in parts**, one for each of some distinct keys, is the list in another order. -/
theorem flatMap_filter_perm {α κ : Type} [DecidableEq κ] (key : α → κ) {keys : List κ}
    (nodup : keys.Nodup) (xs : List α) (h : ∀ x ∈ xs, key x ∈ keys) :
    (keys.flatMap fun k => xs.filter (fun x => key x = k)).Perm xs := by
  induction keys generalizing xs with
  | nil =>
    obtain rfl : xs = [] := List.eq_nil_iff_forall_not_mem.2 fun x hx => nomatch h x hx
    exact .nil
  | cons k rest ih =>
    obtain ⟨fresh, nodup⟩ := List.nodup_cons.1 nodup
    -- The parts of the other keys are those of what is left without the first part.
    have same : (rest.flatMap fun k' => xs.filter fun x => key x = k') =
        rest.flatMap fun k' =>
          (xs.filter fun x => !decide (key x = k)).filter fun x => key x = k' := by
      refine List.flatMap_congr fun k' hk' => ?_
      rw [List.filter_filter]
      refine List.filter_congr fun x _ => ?_
      have apart : k' ≠ k := fun e => fresh (e ▸ hk')
      grind
    have parts := ih nodup (xs.filter fun x => !decide (key x = k)) fun x hx => by
      obtain ⟨hx, hne⟩ := List.mem_filter.1 hx
      exact (List.mem_cons.1 (h x hx)).resolve_left (by simpa using hne)
    rw [List.flatMap_cons, same]
    exact (parts.append_left _).trans (List.filter_append_perm _ _)

namespace Server

variable {config : ServerConfig} {server : Server}

/-- **Mounts that are divided among the listed names**: each is on a listed name, what is mounted on
    a name are the mounts on it in the order they are mounted in, nothing is mounted on any other
    name, and the names together have each mount once. -/
structure Divided (config : ServerConfig) (server : Server) : Prop where
  listed : ∀ m ∈ server.mounts, config.Lists m.listener
  ofName : ∀ name, server.mountsFor (.text name) =
    server.mounts.filter (·.listener = .text name)
  unlisted : ∀ name, name ∉ config.listenerNames → server.mountsFor (.text name) = []
  distinct : config.listenerNames.Nodup
  together : (config.listenerNames.flatMap fun name => server.mountsFor (.text name)).Perm
    server.mounts

/-- **Mounts on listed names are divided among them.** -/
theorem divided_of_listed (h : ∀ m ∈ server.mounts, config.Lists m.listener) :
    server.Divided config := by
  have ofName (name : String) :
      server.mountsFor (.text name) = server.mounts.filter (·.listener = .text name) := by
    refine List.filter_congr fun m hm => ?_
    obtain ⟨own, -, eq⟩ := h m hm
    simp [eq]
  refine ⟨h, ofName, fun name hname => ?_, config.nodup_listenerNames, ?_⟩
  · rw [ofName, List.filter_eq_nil_iff]
    intro m hm eq
    obtain ⟨own, hown, eq'⟩ := h m hm
    have same : Datum.text own = .text name := eq'.symm.trans (of_decide_eq_true eq)
    exact hname (Datum.text.inj same ▸ hown)
  · have nodup : (config.listenerNames.map Datum.text).Nodup :=
      config.nodup_listenerNames.map fun _ _ => Datum.text.inj
    have parts := flatMap_filter_perm (·.listener) nodup server.mounts fun m hm => by
      obtain ⟨own, hown, eq⟩ := h m hm
      exact List.mem_map.2 ⟨own, hown, eq.symm⟩
    rw [List.flatMap_map] at parts
    simpa only [ofName] using parts

end Server

/-! ## 3. Building -/

namespace ServerBuilder

open AppMount.Action (HandsBack)

variable {ρ : Dispatch} {b : ServerBuilder} {config : ServerConfig} {members : List Ref}

/-- The registrations that a builder mounts: none, if something else is in their place. -/
def applications (b : ServerBuilder) : List Registration :=
  if b.standIns.at? "_registrations" = none then b.registrations else []

theorem handsBack_toMount_applications (b : ServerBuilder) :
    HandsBack (· = b.applications) b.toMount := by
  unfold toMount applications
  cases b.standIns.at? "_registrations" with
  | none => exact .pure rfl
  | some standIn =>
    cases standIn with
    | none => exact .throw _
    | some r =>
      rw [if_neg (by simp)]
      refine HandsBack.after fun w => ?_
      split
      · exact .throw _
      · exact .pure rfl
      · exact .throw _

/-- **The listener of a registration is listed.** -/
theorem handsBack_resolveListener (r : Registration) :
    HandsBack config.Lists (Action.resolveListener ρ (.config config members) r) := by
  unfold Action.resolveListener
  refine HandsBack.bind (P := (· = config.route r.routingName r.routingRequired.isTrue))
    (.pure rfl) fun routing same => ?_
  cases routing with
  | «to» listener => exact .pure (ServerConfig.lists_of_route same.symm)
  | fallBack name =>
    exact HandsBack.after fun label => HandsBack.after fun _ => .pure config.lists_default
  | refused name => exact HandsBack.after fun label => HandsBack.after fun names => .throw _

/-- The first pass finds listed names only. -/
theorem handsBack_validate_listed (hb : b.setting = .config config members)
    (taken : List (Place × String)) (registrations : List Registration) :
    HandsBack (fun resolved => ∀ e ∈ resolved, config.Lists e.1)
      (b.validate ρ taken registrations) := by
  induction registrations generalizing taken with
  | nil => exact .pure fun e he => nomatch he
  | cons r rest ih =>
    rw [validate, hb]
    refine HandsBack.afterCheck ((handsBack_resolveListener r).bind fun listener listed => ?_)
    refine HandsBack.after fun label => HandsBack.after fun place => ?_
    split
    · exact .throw _
    · refine HandsBack.after fun _ => (ih _).bind fun resolved others => .pure fun e he => ?_
      rcases List.mem_cons.1 he with rfl | he
      · exact listed
      · exact others e he

/-- **The second pass makes a mount of each registration**, in order and on the listener that the
    first pass found. -/
theorem handsBack_mountAll (b : ServerBuilder) (resolved : List (Datum × Registration)) :
    HandsBack (· = resolved.map fun e => mountOf b.defaultExecutor e.1 e.2)
      (b.mountAll ρ resolved) := by
  induction resolved with
  | nil => exact .pure rfl
  | cons e rest ih =>
    obtain ⟨listener, r⟩ := e
    rw [mountAll]
    refine HandsBack.after fun _ => HandsBack.afterCheck ?_
    refine HandsBack.after fun label => HandsBack.after fun _ => ih.bind fun mounts same => ?_
    exact .pure (by rw [same]; rfl)

theorem handsBack_build (hb : b.setting = .config config members) :
    HandsBack (fun server => server.setting = b.setting ∧
      ∀ m ∈ server.mounts, config.Lists m.listener) (b.build ρ) := by
  unfold build
  refine HandsBack.after fun registrations => ?_
  refine (handsBack_validate_listed hb [] registrations).bind fun resolved listed => ?_
  refine (handsBack_mountAll b resolved).bind fun mounts same => HandsBack.after fun _ => ?_
  refine .pure ⟨rfl, fun m hm => ?_⟩
  rw [same] at hm
  obtain ⟨e, he, rfl⟩ := List.mem_map.1 hm
  exact listed e he

/-- **Listeners and mounts fit together.** Every configuration looks its listeners up by the names
    that it lists, and in every server that is built for it, by whatever calls and with whatever
    application code, the mounts are divided among these names. -/
theorem listeners_fit_mounts (config : ServerConfig) :
    config.LooksUp ∧
      ∀ (ρ : Dispatch) (b : ServerBuilder) (members : List Ref) (w w' : World) (server : Server),
        b.setting = .config config members → EStateM.run (b.build ρ) w = .ok server w' →
          server.setting = .config config members ∧ server.Divided config := by
  refine ⟨config.looksUp, fun ρ b members w w' server hb hrun => ?_⟩
  obtain ⟨setting, listed⟩ := handsBack_build hb w server w' hrun
  exact ⟨setting.trans hb, Server.divided_of_listed listed⟩

/-- A configuration that repeats a name, and uses the name of the default listener. -/
def repetitiveConfig : ServerConfig :=
  { host := "10.0.0.1"
    listeners := [⟨"admin", "127.0.0.1", 8081⟩, ⟨"admin", "127.0.0.1", 8082⟩,
      ⟨defaultRouting, "127.0.0.1", 8083⟩] }

/-- A builder with one descriptor in two places of that configuration. -/
def repetitiveBuilder : ServerBuilder :=
  { setting := .config repetitiveConfig []
    registrations := [ownRegistration, { ownRegistration with routingName := .text "admin" }] }

/-- One mount is on each of the two names, and both names mean the listener they should. -/
theorem listeners_fit_repetitiveBuilder :
    ∃ server w',
      EStateM.run (repetitiveBuilder.build Dispatch.library) mixedStore = .ok server w' ∧
        server.Divided repetitiveConfig ∧
        server.mounts.map (·.listener) = [.text defaultRouting, .text "admin"] ∧
        (server.mountsFor (.text "admin")).length = 1 ∧
        repetitiveConfig.listener? "admin" = some ⟨"admin", "127.0.0.1", 8081⟩ ∧
        repetitiveConfig.listener? defaultRouting = some ⟨defaultRouting, "10.0.0.1", 8080⟩ := by
  have built : ∃ server w',
      EStateM.run (repetitiveBuilder.build Dispatch.library) mixedStore = .ok server w' ∧
        server.mounts.map (·.listener) = [.text defaultRouting, .text "admin"] ∧
        (server.mountsFor (.text "admin")).length = 1 :=
    ⟨_, _, rfl, rfl, rfl⟩
  obtain ⟨server, w', hrun, listeners, once⟩ := built
  obtain ⟨lookup, mounted⟩ := listeners_fit_mounts repetitiveConfig
  obtain ⟨-, divided⟩ := mounted Dispatch.library repetitiveBuilder [] mixedStore w' server rfl hrun
  exact ⟨server, w', hrun, divided, listeners, once, rfl, lookup.ownHost⟩

end ServerBuilder

end AppMount
