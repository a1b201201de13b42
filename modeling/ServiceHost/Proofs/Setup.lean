import ServiceHost.Proofs.Wiring

/-!
# Setting up and starting

An application sets an environment up step by step: it registers components, builds servers, and
adds managed objects, health checks, tasks and routes itself. Then it starts the environment.

* `Environment.setUp_eq` says that the servers that are built leave nothing in the environment but
  their handlers, and `Environment.start_withHandlers` that a start depends on the handlers only
  through what they do together.
* `Environment.StartsWired` says what a start that succeeds has wired, and
  `Environment.start_wires_by_role` that every one has, whatever the steps were.
-/

namespace ServiceHost

variable {σ : Type}

/-! ### Admin routes -/

/-- The installation of the admin routes concerns the router alone. -/
theorem AdminEnvironment.installRoutes_eq (a : AdminEnvironment σ) :
    a.installRoutes.1 = (install (installations a.router.contextPath) a.router).1 ∧
      a.installRoutes.2.1 =
        { a with router := (install (installations a.router.contextPath) a.router).2 } := by
  unfold installRoutes
  rcases install (installations a.router.contextPath) a.router with ⟨log, router⟩
  cases log <;> exact ⟨rfl, rfl⟩

namespace Environment

/-! ### Setting up -/

/-- A step of setting up an environment. -/
inductive Setup (σ : Type) where
  | register (components : List (Component σ))
  | build (config : ServerConfig)
  | manage (name : String) (object : Managed)
  | addHealthCheck (check : HealthCheck σ)
  | addTask (task : Task σ)
  | handle (surface : Surface) (method : Method) (pattern : String) (handler : Handler σ)

namespace Setup

/-- The components that a step registers. -/
def components : Setup σ → List (Component σ)
  | .register components => components
  | _ => []

/-- The managed object that a step adds itself. -/
def object? : Setup σ → Option (String × Managed)
  | .manage name object => some (name, object)
  | _ => none

/-- Whether a step builds a server. -/
def isBuild : Setup σ → Bool
  | .build _ => true
  | _ => false

end Setup

/-- Everything that steps register, in order. -/
def registered (steps : List (Setup σ)) : List (Component σ) := steps.flatMap Setup.components

/-- The managed objects that steps add themselves, in order. -/
def managed (steps : List (Setup σ)) : List (String × Managed) := steps.filterMap Setup.object?

/-- The number of servers that steps build. -/
def servers (steps : List (Setup σ)) : ℕ := steps.countP Setup.isBuild

/-- The steps that build no server. -/
def withoutServers (steps : List (Setup σ)) : List (Setup σ) := steps.filter (!·.isBuild)

/-- Makes a step. A route that is refused changes nothing. -/
def next (e : Environment σ) : Setup σ → Environment σ
  | .register components => (e.register components).1
  | .build config => (config.buildServer e).2
  | .manage name object => e.manage name object
  | .addHealthCheck check => e.addHealthCheck check
  | .addTask task => e.addTask task
  | .handle surface method pattern handler =>
    { e with wiring := (e.wiring.handle surface method pattern handler).toOption.getD e.wiring }

/-- Makes steps in order. -/
def setUp (e : Environment σ) (steps : List (Setup σ)) : Environment σ := steps.foldl next e

theorem setUp_cons (e : Environment σ) (s : Setup σ) (steps : List (Setup σ)) :
    e.setUp (s :: steps) = (e.next s).setUp steps := rfl

/-- A route that is added enters the wiring, or is refused and changes nothing. -/
theorem wiring_next_handle (e : Environment σ) (surface : Surface) (method : Method)
    (pattern : String) (handler : Handler σ) :
    (e.next (.handle surface method pattern handler)).wiring = e.wiring ∨
      e.wiring.handle surface method pattern handler =
        .ok (e.next (.handle surface method pattern handler)).wiring := by
  have hnext : (e.next (.handle surface method pattern handler)).wiring =
      (e.wiring.handle surface method pattern handler).toOption.getD e.wiring := rfl
  cases hr : e.wiring.handle surface method pattern handler with
  | error err =>
    rw [hnext, hr]
    exact Or.inl rfl
  | ok wiring =>
    rw [hnext, hr]
    exact Or.inr rfl

/-- What every step keeps, all steps keep. -/
theorem setUp_invariant {P : Environment σ → Prop} (hnext : ∀ e s, P e → P (e.next s))
    {e : Environment σ} (h : P e) (steps : List (Setup σ)) : P (e.setUp steps) := by
  induction steps generalizing e with
  | nil => exact h
  | cons s rest ih => exact ih (hnext e s h)

/-- What steps leave as it is, and what they add to an environment. -/
structure Adds (e after : Environment σ) (components : List (Component σ))
    (objects : List (String × Managed)) : Prop where
  components_eq : after.dispatcher.components = e.dispatcher.components ++ components
  finalized_eq : after.dispatcher.finalized = e.dispatcher.finalized
  objects_eq : after.wiring.lifecycle.objects = e.wiring.lifecycle.objects ++ objects
  started_eq : after.wiring.lifecycle.started = e.wiring.lifecycle.started
  contextPath_eq : ∀ surface, after.wiring.contextPath surface = e.wiring.contextPath surface

theorem Adds.refl (e : Environment σ) : e.Adds e [] [] where
  components_eq := (List.append_nil _).symm
  finalized_eq := rfl
  objects_eq := (List.append_nil _).symm
  started_eq := rfl
  contextPath_eq _ := rfl

theorem Adds.append {e mid after : Environment σ} {components components' : List (Component σ)}
    {objects objects' : List (String × Managed)} (h : e.Adds mid components objects)
    (h' : mid.Adds after components' objects') :
    e.Adds after (components ++ components') (objects ++ objects') where
  components_eq := by rw [h'.components_eq, h.components_eq, List.append_assoc]
  finalized_eq := h'.finalized_eq.trans h.finalized_eq
  objects_eq := by rw [h'.objects_eq, h.objects_eq, List.append_assoc]
  started_eq := h'.started_eq.trans h.started_eq
  contextPath_eq surface := (h'.contextPath_eq surface).trans (h.contextPath_eq surface)

theorem contextPath_handle {w after : Wiring σ} {surface : Surface} {method : Method}
    {pattern : String} {handler : Handler σ}
    (h : w.handle surface method pattern handler = .ok after) (s : Surface) :
    after.contextPath s = w.contextPath s := by
  -- the router of the other surface is not touched, and the one that is keeps its path
  rcases Wiring.handle_cases h with ⟨router, hrouter, rfl⟩ | ⟨router, hrouter, rfl⟩ <;> cases s
  · exact (Router.gains_handle hrouter).contextPath_eq
  · rfl
  · rfl
  · exact (Router.gains_handle hrouter).contextPath_eq

theorem adds_next (e : Environment σ) (s : Setup σ) :
    e.Adds (e.next s) s.components s.object?.toList := by
  have hnone := Adds.refl e
  cases s with
  | register components => exact { hnone with components_eq := rfl }
  | build config => exact { hnone with }
  | manage name object => exact { hnone with objects_eq := Lifecycle.objects_manage _ _ _ }
  | addHealthCheck check => exact { hnone with }
  | addTask task => exact { hnone with }
  | handle surface method pattern handler =>
    have hnext : e.next (.handle surface method pattern handler) =
        { e with
          wiring := (e.wiring.handle surface method pattern handler).toOption.getD e.wiring } :=
      rfl
    rw [hnext]
    cases hr : e.wiring.handle surface method pattern handler with
    | error err => exact hnone
    | ok wiring =>
      -- an accepted route changes one router, which is none of what is kept or added here
      have hlifecycle : wiring.lifecycle = e.wiring.lifecycle := Wiring.lifecycle_handle hr
      refine { hnone with objects_eq := ?_, started_eq := ?_, contextPath_eq := ?_ }
      · change wiring.lifecycle.objects = e.wiring.lifecycle.objects ++ []
        rw [hlifecycle, List.append_nil]
      · exact congrArg Lifecycle.started hlifecycle
      · exact contextPath_handle hr

theorem adds_setUp (e : Environment σ) (steps : List (Setup σ)) :
    e.Adds (e.setUp steps) (registered steps) (managed steps) := by
  induction steps generalizing e with
  | nil => exact .refl e
  | cons s rest ih =>
    have hmanaged : managed (s :: rest) = s.object?.toList ++ managed rest := by
      unfold managed
      cases h : s.object? <;> simp [h]
    rw [hmanaged]
    exact (e.adds_next s).append (ih (e.next s))

/-! ### Servers -/

/-- The environment with other handlers of components. -/
def withHandlers (e : Environment σ)
    (handlers : List (ResourceHandler (Wiring σ) (Component σ))) : Environment σ :=
  { e with dispatcher := { e.dispatcher with handlers } }

section Handlers

variable (e : Environment σ) (hs : List (ResourceHandler (Wiring σ) (Component σ)))

theorem next_withHandlers {s : Setup σ} (h : s.isBuild = false) :
    (e.withHandlers hs).next s = (e.next s).withHandlers hs := by
  cases s with
  | build config => cases h
  | _ => rfl

theorem setUp_withHandlers {steps : List (Setup σ)} (h : ∀ s ∈ steps, s.isBuild = false) :
    (e.withHandlers hs).setUp steps = (e.setUp steps).withHandlers hs := by
  induction steps generalizing e with
  | nil => rfl
  | cons s rest ih =>
    rw [setUp_cons, next_withHandlers e hs (h s List.mem_cons_self),
      ih _ fun s hs => h s (List.mem_cons_of_mem _ hs)]
    rfl

/-- A step that builds no server adds no handler. -/
theorem handlers_next {s : Setup σ} (h : s.isBuild = false) :
    (e.next s).dispatcher.handlers = e.dispatcher.handlers := by
  cases s with
  | build config => cases h
  | _ => rfl

/-- **Servers leave their handlers** in the environment and nothing else. -/
theorem setUp_eq (steps : List (Setup σ)) :
    e.setUp steps = (e.setUp (withoutServers steps)).withHandlers
      (e.dispatcher.handlers
        ++ List.replicate (servers steps) (Wiring.resourceHandler .application)) := by
  induction steps generalizing e with
  | nil =>
    change e = e.withHandlers (e.dispatcher.handlers ++ [])
    rw [List.append_nil]
    rfl
  | cons s rest ih =>
    have hnone : ∀ s ∈ withoutServers rest, s.isBuild = false := by
      intro s hs
      have hkept := (List.mem_filter.mp hs).2
      rwa [Bool.not_eq_true'] at hkept
    rw [setUp_cons, ih]
    cases hs : s.isBuild with
    | true =>
      -- a server leaves its handler behind those that are there, whatever its configuration is
      have hnext : e.next s =
          e.withHandlers (e.dispatcher.handlers ++ [Wiring.resourceHandler .application]) := by
        cases s with
        | build config => rfl
        | _ => cases hs
      have hwithout : withoutServers (s :: rest) = withoutServers rest := by
        simp [withoutServers, hs]
      have hservers : servers (s :: rest) = servers rest + 1 := by simp [servers, hs]
      -- no later step looks at the handler that the server has left
      rw [hnext, setUp_withHandlers e _ hnone, hwithout, hservers, List.replicate_succ]
      change (e.setUp (withoutServers rest)).withHandlers
        (e.dispatcher.handlers ++ [Wiring.resourceHandler .application] ++ _) = _
      rw [List.append_assoc, List.singleton_append]
    | false =>
      have hwithout : withoutServers (s :: rest) = s :: withoutServers rest := by
        simp [withoutServers, hs]
      have hservers : servers (s :: rest) = servers rest := by simp [servers, hs]
      rw [handlers_next e hs, hwithout, hservers, setUp_cons]

theorem finalize_withHandlers
    (h : ∀ c w, Dispatcher.ask c hs.reverse w = Dispatcher.ask c e.dispatcher.handlers.reverse w) :
    (e.withHandlers hs).finalize = (e.finalize.1, e.finalize.2.withHandlers hs) := by
  -- a walk depends on its handlers through what they answer together
  have hwalk := Dispatcher.walk_congr Component.typeName h e.dispatcher.components e.wiring
  unfold finalize Dispatcher.finalize withHandlers
  cases e.dispatcher.finalized with
  | true => rfl
  | false => simp only [Bool.false_eq_true, ↓reduceIte, hwalk]

/-- **Handlers that do the same together** make a start go the same way. -/
theorem start_withHandlers
    (h : ∀ c w, Dispatcher.ask c hs.reverse w = Dispatcher.ask c e.dispatcher.handlers.reverse w) :
    (e.withHandlers hs).start =
      { e.start with environment := e.start.environment.withHandlers hs } := by
  unfold start
  rw [e.finalize_withHandlers hs h]
  rcases e.finalize with ⟨walk, wired⟩
  cases hwalk : walk.result with
  | error err => simp only [hwalk]
  | ok endpoints =>
    -- what follows the walk does not look at the handlers
    have hroutes : (wired.withHandlers hs).installRoutes =
        (wired.installRoutes.1, wired.installRoutes.2.1.withHandlers hs,
          wired.installRoutes.2.2) := rfl
    simp only [hwalk, hroutes]
    rcases wired.installRoutes with ⟨installed, routed, events⟩
    cases installed with
    | error err => rfl
    | ok admin =>
      have hmanaged : (routed.withHandlers hs).startManaged =
          (routed.startManaged.1, routed.startManaged.2.1.withHandlers hs,
            routed.startManaged.2.2) := rfl
      simp only [hmanaged]
      rcases routed.startManaged with ⟨result, running, moments⟩
      cases result <;> rfl

end Handlers

/-! ### Starting -/

/-- A start that succeeds has walked the components, installed the admin routes and started the
managed objects. -/
theorem start_of_ok {e : Environment σ} {endpoints : EndpointLog}
    (h : e.start.result = .ok endpoints) :
    e.finalize.1.result = .ok endpoints ∧ (∃ admin, e.finalize.2.installRoutes.1 = .ok admin) ∧
      e.start.environment = e.finalize.2.installRoutes.2.1.startManaged.2.1 := by
  -- two of the three ways in which a start ends are failures
  rcases e.start_cases with
    ⟨err, -, hstart⟩ | ⟨found, hfound, ⟨err, -, hstart⟩ | ⟨admin, hadmin, hstart⟩⟩
  · rw [hstart] at h
    cases h
  · rw [hstart] at h
    cases h
  · rw [hstart] at h ⊢
    cases hmanaged : e.finalize.2.installRoutes.2.1.startManaged.1 with
    | error err =>
      rw [hmanaged] at h
      cases h
    | ok =>
      rw [hmanaged] at h
      obtain rfl : found = endpoints := Except.ok.inj h
      exact ⟨hfound, ⟨admin, hadmin⟩, rfl⟩

/-- A start that succeeds changes no more of the admin surface than the walk, its router apart. -/
theorem admin_start_of_ok {e : Environment σ} {endpoints : EndpointLog}
    (h : e.start.result = .ok endpoints) :
    ∃ log router,
      AdminEnvironment.install
          (AdminEnvironment.installations e.finalize.2.wiring.admin.router.contextPath)
          e.finalize.2.wiring.admin.router = (.ok log, router) ∧
        e.start.environment.wiring.admin = { e.finalize.2.wiring.admin with router } := by
  obtain ⟨-, ⟨log, hlog⟩, henvironment⟩ := start_of_ok h
  obtain ⟨hresult, hadmin⟩ := e.finalize.2.wiring.admin.installRoutes_eq
  refine ⟨log, _, Prod.ext (hresult.symm.trans hlog) rfl, ?_⟩
  rw [henvironment]
  exact hadmin

/-- The first walk, through handlers that wire by role. -/
theorem wired_finalize {e : Environment σ} (hdone : e.dispatcher.finalized = false)
    (hask : ∀ c w, Dispatcher.ask c e.dispatcher.handlers.reverse w = c.wire w)
    {endpoints : EndpointLog} (hresult : e.finalize.1.result = .ok endpoints) :
    e.wiring.Wired e.dispatcher.components endpoints e.finalize.1.visits e.finalize.2.wiring ∧
      e.finalize.1.closing =
        [Dispatcher.log .info ("resources =\n\n" ++ EndpointLog.table endpoints)] ∧
      e.finalize.2.dispatcher.components = e.dispatcher.components := by
  unfold finalize Dispatcher.finalize at hresult ⊢
  simp only [hdone, Bool.false_eq_true, ↓reduceIte] at hresult ⊢
  -- the flag is not set, so that the components are walked here
  refine ⟨Wiring.wired_walk hask hresult, ?_, trivial⟩
  rw [hresult]

/-- What a start that succeeds has wired, given the managed objects that were there before. -/
structure StartsWired (e : Environment σ) (objects : List (String × Managed))
    (components : List (Component σ)) (endpoints : EndpointLog) : Prop where
  components_eq : e.start.environment.dispatcher.components = components
  /-- Every component is wired in one place, or it is reported. -/
  places_eq : components.length = (components.filterMap (·.asRoute?)).length +
    (components.filterMap (·.asObject?)).length + (components.filterMap (·.asTask?)).length +
    (components.filterMap (·.asCheck?)).length + (components.filter (·.role?.isNone)).length
  /-- The place is that of its role. -/
  wired : e.wiring.Wired components endpoints e.start.walk.visits e.finalize.2.wiring
  closing_eq : e.start.walk.closing =
    [Dispatcher.log .info ("resources =\n\n" ++ EndpointLog.table endpoints)]
  /-- The objects that are started: those that were there, and behind them those of components. -/
  objects_eq : e.finalize.2.wiring.lifecycle.objects =
    objects ++ components.filterMap (·.asObject?)
  /-- The rest of the start leaves what is wired as it is. -/
  application_eq : e.start.environment.wiring.application = e.finalize.2.wiring.application
  tasks_eq : e.start.environment.wiring.admin.tasks = e.finalize.2.wiring.admin.tasks
  health_eq : e.start.environment.wiring.admin.health = e.finalize.2.wiring.admin.health
  objects_prefix : e.finalize.2.wiring.lifecycle.objects <+:
    e.start.environment.wiring.lifecycle.objects
  /-- If no start adds objects, there are no more. -/
  objects_of_plain : (∀ x ∈ objects ++ components.filterMap (·.asObject?), x.2.Plain) →
    e.start.environment.wiring.lifecycle.objects =
      objects ++ components.filterMap (·.asObject?)

theorem startsWired {e : Environment σ} (hdone : e.dispatcher.finalized = false)
    (hstarted : e.wiring.lifecycle.started = 0)
    (hask : ∀ c w, Dispatcher.ask c e.dispatcher.handlers.reverse w = c.wire w)
    {endpoints : EndpointLog} (hresult : e.start.result = .ok endpoints) :
    e.StartsWired e.wiring.lifecycle.objects e.dispatcher.components endpoints := by
  obtain ⟨hwalk, -, henvironment⟩ := start_of_ok hresult
  obtain ⟨hwired, hclosing, hcomponents⟩ := wired_finalize hdone hask hwalk
  -- the walk of the finalization is the one that the start shows
  rw [← walk_start] at hwired hclosing
  obtain ⟨log, router, -, hadmin⟩ := admin_start_of_ok hresult
  refine ⟨?_, Component.length_eq_places _, hwired, hclosing, hwired.gains.objects_eq, ?_,
    by rw [hadmin], by rw [hadmin], ?_, ?_⟩
  · rw [dispatcher_start, hcomponents]
  · rw [henvironment]
    rfl
  · rw [henvironment]
    exact Lifecycle.objects_start e.finalize.2.wiring.lifecycle
  · intro hplain
    rw [← hwired.gains.objects_eq] at hplain ⊢
    -- no object has been started before, so the counter is within the list
    have hle : e.finalize.2.wiring.lifecycle.started ≤
        e.finalize.2.wiring.lifecycle.objects.length := by
      rw [hwired.gains.started_eq, hstarted]
      exact Nat.zero_le _
    obtain ⟨upTo, failure, hstarts, -⟩ := Lifecycle.start_startsUpTo hplain hle
    rw [henvironment]
    exact hstarts.follows.objects_eq

section SetUp

variable (name : String) (config : ServerConfig) (logger : Logger) {steps : List (Setup σ)}

/-- With one server or more, the handlers of an environment that was set up wire by role. -/
theorem ask_setUp (built : 0 < servers steps) (c : Component σ) (w : Wiring σ) :
    Dispatcher.ask c ((ofConfig name config logger).setUp steps).dispatcher.handlers.reverse w =
      c.wire w := by
  rw [setUp_eq]
  exact ask_chain built c w

theorem startsWired_setUp (built : 0 < servers steps) {endpoints : EndpointLog}
    (hstart : ((ofConfig name config logger).setUp steps).start.result = .ok endpoints) :
    ((ofConfig name config logger).setUp steps).StartsWired (managed steps) (registered steps)
      endpoints := by
  have hadds := (ofConfig (σ := σ) name config logger).adds_setUp steps
  have hwired := startsWired hadds.finalized_eq hadds.started_eq
    (ask_setUp name config logger built) hstart
  rwa [hadds.objects_eq, hadds.components_eq] at hwired

end SetUp

/-- **Components are wired by role.** Set an environment up in any steps of which one or more build
a server, and start it. If the start succeeds, every component is wired in one place: a resource
before a managed object, that before a task, and that before a health check. The router gains the
routes of the resources. The managed objects are those that the steps added and behind them those
of the components. A name of a task or a health check has the last one that was wired under it,
with a warning for each that was taken. A component without a shape is reported, once. How many
servers are built, where and of which configuration makes no difference. -/
theorem start_wires_by_role (name : String) (config : ServerConfig) (logger : Logger)
    (steps : List (Setup σ)) (built : 0 < servers steps) {endpoints : EndpointLog}
    (hstart : ((ofConfig name config logger).setUp steps).start.result = .ok endpoints) :
    let e := (ofConfig name config logger).setUp steps
    e.wiring.application.contextPath = dropFinalSlash config.applicationContextPath ∧
      e.StartsWired (managed steps) (registered steps) endpoints ∧
      ∀ steps', withoutServers steps' = withoutServers steps → 0 < servers steps' →
        let e' := (ofConfig name config logger).setUp steps'
        e'.wiring = e.wiring ∧
          e'.start = { e.start with
            environment := e.start.environment.withHandlers (handlersWith (servers steps')) } := by
  intro e
  refine ⟨((ofConfig name config logger).adds_setUp steps).contextPath_eq .application,
    startsWired_setUp name config logger built hstart, ?_⟩
  intro steps' hsame hbuilt e'
  have hask := ask_setUp name config logger built
  -- the two environments differ in their handlers alone
  have heq' : e' = e.withHandlers (handlersWith (servers steps')) := by
    have h := setUp_eq (ofConfig name config logger) steps
    have h' := setUp_eq (ofConfig name config logger) steps'
    rw [hsame] at h'
    exact h'.trans (congrArg (withHandlers · (handlersWith (servers steps'))) h).symm
  rw [heq']
  refine ⟨rfl, start_withHandlers e _ fun c w => ?_⟩
  -- both chains wire a component by its role
  rw [ask_chain hbuilt, hask]

/-- An object that starts at once. -/
def steady : Managed where
  start _ := .done (.ok ())
  stop _ := {}

/-- A task that answers with a text. -/
def answering (text : String) : Task Nat where
  name := "gc"
  execute _ s := (.output text, s)

/-- A health check that finds nothing wrong. -/
def sound : HealthCheck Nat where
  name := "db"
  check _ := .result { healthy := true }

/-- A component of every shape. -/
def versatile : Component Nat where
  typeName := "Versatile"
  resource := some { method := .get, path := "/x", handler := fun _ s => (.text 200 "x", s) }
  managed := some steady
  task := some (answering "versatile")
  health := some sound

/-- Components of fewer and fewer shapes. Two of them take the name of a task. -/
def shapes : List (Component Nat) :=
  [versatile, { versatile with typeName := "Worker", resource := none },
    { versatile with typeName := "Collector", resource := none, managed := none },
    { typeName := "Sweeper", task := some (answering "sweeper") },
    { typeName := "Database", health := some sound }, { typeName := "Shapeless" }]

/-- A task of the name is there before, and two servers are built. -/
def shapesSteps : List (Setup Nat) :=
  [.manage "Boiler" steady, .addTask (answering "first"), .build {}, .register shapes,
    .handle .application .get "/y" (fun _ s => (.text 200 "y", s)), .build {}]

theorem start_wires_by_role_shapes :
    let e := (ofConfig "service" {} ⟨"root"⟩).setUp shapesSteps
    0 < servers shapesSteps ∧ ∃ endpoints, e.start.result = .ok endpoints ∧
      e.StartsWired [("Boiler", steady)] shapes endpoints ∧
      e.start.walk.visits.map (fun v => v.events.length) = [0, 0, 1, 1, 0, 1] ∧
      e.finalize.2.wiring.lifecycle.objects = [("Boiler", steady), ("Worker", steady)] := by
  have hbuilt : 0 < servers shapesSteps := by decide
  have hok : (((ofConfig "service" {} ⟨"root"⟩).setUp shapesSteps).start.result.toOption).isSome =
      true := rfl
  intro e
  cases hstart : e.start.result with
  | error err =>
    rw [hstart] at hok
    cases hok
  | ok endpoints =>
    -- the start succeeds by evaluation, and what it has wired is read off the theorem
    obtain ⟨-, hwired, -⟩ := start_wires_by_role "service" {} ⟨"root"⟩ shapesSteps hbuilt hstart
    refine ⟨hbuilt, endpoints, rfl, hwired, ?_, hwired.objects_eq⟩
    rw [hwired.wired.visits_eq]
    rfl

end Environment

end ServiceHost
