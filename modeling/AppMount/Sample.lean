import AppMount.Server.Build

/-!
# A sample server

Three applications and a hand-made descriptor on one server: a shop at the path its class declares
and with an executor of its own, an admin console that insists on the `admin` listener, health
checks that would like a `metrics` listener and do without, and an interface described by hand.

* `Sample.prepare`: the classes; `Sample.build`: the server;
* `Sample.Line`, `Sample.line`: what there is to say about each mount;
* `Sample.table`: the mounts as a table of three columns.
-/

namespace AppMount.Sample

/-! ## 1. The applications -/

/-- Defines a class derived from `base`. -/
def define (base : ClassId) (home name : String) (metadata : MetadataSlot)
    (hooks : List (Hook × Answer)) : Action ClassId := do
  let w ← get
  let x : ClassDef :=
    { name := name, qualname := name, home := .text home, ancestors := w.lineage base,
      metadata := metadata }
  let (c, w) := w.newClass (hooks.foldl (fun x h => x.writeMethod h.1.word h.2 0) x)
  set { w with scope := w.scope.bind name (.cls c) }
  pure c

/-- The classes of the sample. -/
structure Classes where
  product : ClassId
  shop : ClassId
  admin : ClassId
  health : ClassId

/-- **Defines the resources and the applications.** -/
def prepare (home : String) : Action Classes := do
  let product ← define ClassId.object home "ProductResource" .absent []
  let _ ← define ClassId.object home "CartResource" .absent []
  let _ ← define ClassId.object home "UserAdminResource" .absent []
  let _ ← define ClassId.object home "HealthResource" .absent []
  let shop ← define ClassId.application home "ShopApp"
    (MetadataSlot.absent.decorate (.path (.text "/shop")))
    [(.classes, .set [some "ProductResource", some "CartResource"]),
      (.properties, .mapping [(.text "shop.currency", .text "EUR")] 0)]
  let admin ← define ClassId.application home "AdminApp"
    ((MetadataSlot.absent.decorate (.routing (.text "admin") (.truth true))).decorate
      (.path (.text "/console")))
    [(.classes, .set [some "UserAdminResource"])]
  let health ← define ClassId.application home "HealthApp"
    (MetadataSlot.absent.decorate (.routing (.text "metrics") (.truth false)))
    [(.singletons, .fresh [some "HealthResource"])]
  pure ⟨product, shop, admin, health⟩

/-! ## 2. The server -/

/-- The configuration: the default listener and one for administration. -/
def config : ServerConfig :=
  { host := "127.0.0.1", port := 8080, listeners := [{ name := "admin", port := 8081 }] }

/-- **Builds the sample server**; also gives the executor of the shop. -/
def build (home : String) : Action (Server × Ref) := do
  let ρ := Dispatch.library
  let classes ← prepare home
  let pool ← Action.newThing (.executor "pool" false)
  let shop ← Action.finished
    (← ({} : RegistrationBuilder).applicationClass ρ (.cls classes.shop))
  let shop ← Action.ofExcept (shop.withExecutor pool).build
  let api ← Action.construct ρ ClassId.descriptor
    ⟨[.cls classes.product], some (.text "public-api")⟩
  let b := ({ setting := .config config [] } : ServerBuilder).addRegistration shop .null
  let b ← b.addApplication ρ (.cls classes.admin) .null
  let health ← Action.construct ρ classes.health {}
  let b ← b.addApplication ρ health (.text "/health")
  let b ← b.addApplication ρ api (.text "/api/v1")
  pure (← b.build ρ, pool)

/-! ## 3. What there is to say about it -/

/-- **What there is to say about a mount.** -/
structure Line where
  mount : Mount
  pooled : Bool
  description : String
  classes : List String
  singletons : List String
  properties : List (Datum × Datum)
  deriving Repr

/-- The line on a mount. -/
def line (w : World) (pool : Ref) (m : Mount) : Line :=
  let x := m.config.descriptor?.elim default w.descriptor
  let classNames := x.classes.filterMap fun r => r.class?.map fun c => (w.classDef c).qualname
  { mount := m, pooled := m.executor = pool, description := w.describe m.config,
    classes := classNames.mergeSort fun a b => decide (a ≤ b),
    singletons := x.singletons.map w.typeQualname, properties := x.properties }

/-- The sample server with a line on each mount, and its log. -/
structure Outcome where
  server : Server
  lines : List Line
  log : List LogEntry
  deriving Repr

/-- **Builds the sample in a store of its own.** -/
def outcome (home : String) : Except Fault Outcome :=
  match EStateM.run (build home) World.initial with
  | .ok (server, pool) w => .ok ⟨server, server.mounts.map (line w pool), w.log⟩
  | .error fault _ => .error fault

/-! ## 4. The table -/

/-- A text put to the right end of a column. -/
def alignRight (width : Nat) (s : String) : String :=
  "".pushn ' ' (width - s.length) ++ s

/-- A text put to the left end of a column. -/
def alignLeft (width : Nat) (s : String) : String :=
  s ++ "".pushn ' ' (width - s.length)

/-- A row of the table: listener, context root and application class. -/
def row (m : Mount) : String :=
  alignRight 10 m.listener.plain ++ "  " ++ alignLeft 10 m.contextRoot.plain ++ "  "
    ++ m.appClassName.plain

/-- **The mounts as a table**, a row on each line. -/
def table (s : Server) : String :=
  String.join (s.mounts.map fun m => row m ++ "\n")

end AppMount.Sample
