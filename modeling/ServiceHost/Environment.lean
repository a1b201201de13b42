import ServiceHost.Admin
import ServiceHost.Config.Validation
import ServiceHost.Dispatcher

/-!
# Environments

An environment is what an application sets up: the routers of both surfaces, the lifecycle of
managed objects, and the dispatcher that wires components into them. Its own handlers claim
health checks, tasks and managed objects; those for resources are added later and so are asked
first.

* `Environment.start` wires the components, installs the admin routes and starts the managed
  objects, up to the first error.
* `Environment.stop` stops the managed objects.
-/

namespace ServiceHost

/-- What components are wired into. -/
structure Wiring (σ : Type) where
  application : Router (Handler σ)
  admin : AdminEnvironment σ
  lifecycle : Lifecycle := {}

namespace Wiring

variable {σ : Type}

/-- A warning that a component took the place of another of the same name. -/
def replacedWarning (logger : Logger) (origin : Origin) (what : String) (c : Component σ) :
    Event :=
  .log (logger.record .warn origin (what ++ " replaced an existing one with the same name")
    [("component", .text c.typeName)])

/-- Claims health checks. -/
def healthHandler : ResourceHandler (Wiring σ) (Component σ) := fun c w =>
  match c.health with
  | none => (.decline, w)
  | some check =>
    let (replaced, health) := HealthRegistry.register w.admin.health check
    let events := if replaced.isSome then
      [replacedWarning ⟨"health"⟩ .health "Health check" c] else []
    ({ outcome := .ok true, events }, { w with admin := { w.admin with health } })

/-- Claims tasks. -/
def taskHandler : ResourceHandler (Wiring σ) (Component σ) := fun c w =>
  match c.task with
  | none => (.decline, w)
  | some task =>
    let events := if w.admin.tasks.contains task.name then
      [replacedWarning ⟨"tasks"⟩ .tasks "Task" c] else []
    ({ outcome := .ok true, events },
      { w with admin := { w.admin with tasks := w.admin.tasks.register task } })

/-- Claims managed objects. -/
def managedHandler : ResourceHandler (Wiring σ) (Component σ) := fun c w =>
  match c.managed with
  | none => (.decline, w)
  | some object =>
    ({ outcome := .ok true }, { w with lifecycle := w.lifecycle.manage c.typeName object })

/-- The context path of a surface. -/
def contextPath (w : Wiring σ) : Surface → String
  | .application => w.application.contextPath
  | .admin => w.admin.router.contextPath

/-- Registers a handler on the router of a surface. -/
def handle (w : Wiring σ) (surface : Surface) (method : Method) (pattern : String)
    (handler : Handler σ) : Except RouteError (Wiring σ) :=
  match surface with
  | .application => do
    return { w with application := ← w.application.handle method pattern handler }
  | .admin => do
    let router ← w.admin.router.handle method pattern (.custom handler)
    return { w with admin := { w.admin with router } }

/-- Claims resources for a surface. -/
def resourceHandler (surface : Surface) : ResourceHandler (Wiring σ) (Component σ) :=
  fun c w =>
    match c.resource with
    | none => (.decline, w)
    | some r =>
      match w.handle surface r.method r.path r.handler with
      | .error e => ({ outcome := .error e }, w)
      | .ok after =>
        ({ outcome := .ok true
           endpoints := [⟨r.method, w.contextPath surface ++ r.path, c.typeName⟩] }, after)

/-- Answers a request on a surface, with records in the scope of a logger if there is one. -/
def serve (w : Wiring σ) (surface : Surface) (scope : Option String) (request : Request)
    (s : σ) : TaskRun σ :=
  match surface with
  | .admin => w.admin.serve scope request s
  | .application =>
    let (response, state) := w.application.serve request s
    { response, state }

end Wiring

/-- An environment. -/
structure Environment (σ : Type) where
  name : String
  logger : Logger
  wiring : Wiring σ
  dispatcher : Dispatcher (Wiring σ) (Component σ) := {}

/-- Why an environment does not start. -/
inductive StartError where
  | route (e : RouteError)
  | managed (e : ManagedError)
  deriving DecidableEq

/-- The text of a failed start. -/
def StartError.message : StartError → String
  | .route e => e.message
  | .managed e => e.message

namespace Environment

variable {σ : Type}

/-- The handlers of every environment. -/
def baseHandlers : List (ResourceHandler (Wiring σ) (Component σ)) :=
  [Wiring.healthHandler, Wiring.taskHandler, Wiring.managedHandler]

/-- An environment without components for a server configuration. -/
def ofConfig (name : String) (config : ServerConfig) (logger : Logger) : Environment σ where
  name := name
  logger := logger
  wiring := {
    application := .ofContextPath config.applicationContextPath
    admin := { router := .ofContextPath config.adminContextPath } }
  dispatcher := { handlers := baseHandlers }

/-- Registers components. -/
def register (e : Environment σ) (components : List (Component σ)) :
    Environment σ × List Event :=
  let (dispatcher, events) := e.dispatcher.register Component.typeName components
  ({ e with dispatcher }, events)

/-- Adds handlers of components. -/
def addHandlers (e : Environment σ)
    (handlers : List (ResourceHandler (Wiring σ) (Component σ))) : Environment σ :=
  { e with dispatcher := e.dispatcher.addHandlers handlers }

/-- Adds a managed object. -/
def manage (e : Environment σ) (name : String) (object : Managed) : Environment σ :=
  { e with wiring := { e.wiring with lifecycle := e.wiring.lifecycle.manage name object } }

/-- Adds a health check to the admin surface, in place of the one of its name. -/
def addHealthCheck (e : Environment σ) (check : HealthCheck σ) : Environment σ :=
  let health := (HealthRegistry.register e.wiring.admin.health check).2
  { e with wiring := { e.wiring with admin := { e.wiring.admin with health } } }

/-- Adds a task to the admin surface, in place of the one of its name. -/
def addTask (e : Environment σ) (task : Task σ) : Environment σ :=
  let tasks := e.wiring.admin.tasks.register task
  { e with wiring := { e.wiring with admin := { e.wiring.admin with tasks } } }

/-- Walks the components through the handlers. -/
def finalize (e : Environment σ) : Dispatcher.Walk × Environment σ :=
  let (walk, dispatcher, wiring) := e.dispatcher.finalize Component.typeName e.wiring
  (walk, { e with dispatcher, wiring })

/-- Installs the routes of the admin surface. -/
def installRoutes (e : Environment σ) :
    Except RouteError EndpointLog × Environment σ × List Event :=
  let (log, admin, events) := e.wiring.admin.installRoutes
  (log, { e with wiring := { e.wiring with admin } }, events)

/-- Starts the managed objects. -/
def startManaged (e : Environment σ) :
    Except ManagedError Unit × Environment σ × List Moment :=
  let (result, lifecycle, moments) := e.wiring.lifecycle.start
  (result, { e with wiring := { e.wiring with lifecycle } }, moments)

/-- What a start gives: the endpoints of the components or the first error, the environment
after it, and what happened: the walk of the components, the installation of the admin routes if
it came to that, and the moments of the start of the managed objects. -/
structure Started (σ : Type) where
  result : Except StartError EndpointLog
  environment : Environment σ
  walk : Dispatcher.Walk
  routes : Option (Except RouteError EndpointLog × List Event) := none
  moments : List Moment := []

/-- The events of a start. -/
def Started.events (s : Started σ) : List Event :=
  s.walk.events ++ (s.routes.elim [] (·.2)) ++ Moment.render s.moments

/-- Wires the components, installs the admin routes and starts the managed objects, up to the
first error. -/
def start (e : Environment σ) : Started σ :=
  let (walk, wired) := e.finalize
  match walk.result with
  | .error err => { result := .error (.route err), environment := wired, walk }
  | .ok endpoints =>
    let (installed, routed, events) := wired.installRoutes
    -- the admin routes come behind those of the components, and both before the first object
    let routes := some (installed, events)
    match installed with
    | .error err => { result := .error (.route err), environment := routed, walk, routes }
    | .ok _ =>
      let (started, running, moments) := routed.startManaged
      match started with
      | .error err =>
        { result := .error (.managed err), environment := running, walk, routes, moments }
      | .ok () => { result := .ok endpoints, environment := running, walk, routes, moments }

/-- Stops the managed objects. -/
def stop (e : Environment σ) : Environment σ × List Moment :=
  let (lifecycle, moments) := e.wiring.lifecycle.stop
  ({ e with wiring := { e.wiring with lifecycle } }, moments)

end Environment

end ServiceHost
