import ServiceHost.Component
import ServiceHost.Endpoint

/-!
# The admin surface

Operators reach the service under a context path of its own: `ping` tells that it lives,
`healthcheck` reports on every health check, and `tasks/` runs the task that the rest of the
path names. The three routes are installed when the service starts. Other handlers may be
registered on the same router.
-/

namespace ServiceHost

/-- What a route of the admin surface does. -/
inductive AdminRoute (σ : Type) where
  | ping
  | healthcheck
  /-- Runs the task that the path names after `root`. -/
  | tasks (root : String)
  | custom (handler : Handler σ)

/-- The admin surface: its router, its health checks and its tasks. -/
structure AdminEnvironment (σ : Type) where
  router : Router (AdminRoute σ)
  health : HealthRegistry σ := .empty
  tasks : TaskRegistry σ := .empty

/-- The part of a text after a start, or the empty text if it does not start so. -/
def textAfter (start s : String) : String :=
  if beginsWith s start then String.ofList (s.toList.drop start.toList.length) else ""

namespace AdminEnvironment

variable {σ : Type}

/-- The logger of the admin surface. -/
def logger : Logger := ⟨"admin"⟩

/-- What a route does with a request. -/
def run (a : AdminEnvironment σ) (scope : Option String) (request : Request) (s : σ) :
    AdminRoute σ → TaskRun σ
  | .ping => { response := .text 200 "pong\n", state := s }
  | .healthcheck => { response := HealthReport.response (a.health.run s), state := s }
  | .tasks root => a.tasks.run scope (textAfter root request.target.path) request s
  | .custom handler =>
    let (response, after) := handler request s
    { response, state := after }

/-- Answers a request, with records in the scope of a logger if there is one. -/
def serve (a : AdminEnvironment σ) (scope : Option String) (request : Request) (s : σ) :
    TaskRun σ :=
  (a.router.resolve request.method request.target).answer (a.run scope request s)
    fun response => { response, state := s }

/-! ### Installation -/

/-- The path of a context path that tasks are named after. -/
def taskRoot (contextPath : String) : String := contextPath ++ "/tasks/"

/-- A route to install: where it is registered and how its endpoint is logged. -/
structure Installation (σ : Type) where
  method : Method
  pattern : String
  route : AdminRoute σ
  path : String
  typeName : String

/-- The routes of the admin surface. -/
def installations (contextPath : String) : List (Installation σ) :=
  [⟨.get, "/ping", .ping, contextPath ++ "/ping", "admin::ping"⟩,
    ⟨.get, "/healthcheck", .healthcheck, contextPath ++ "/healthcheck", "admin::healthcheck"⟩,
    ⟨.post, "/tasks/", .tasks (taskRoot contextPath),
      taskRoot contextPath ++ "\x7bname\x7d", "admin::tasks"⟩]

/-- Registers routes up to the first refusal. -/
def install : List (Installation σ) → Router (AdminRoute σ) →
    Except RouteError EndpointLog × Router (AdminRoute σ)
  | [], router => (.ok [], router)
  | i :: rest, router =>
    match router.handle i.method i.pattern i.route with
    | .error e => (.error e, router)
    | .ok router =>
      let (log, router) := install rest router
      (log.map (⟨i.method, i.path, i.typeName⟩ :: ·), router)

/-- What the admin surface logs when its routes are installed. -/
def announce (a : AdminEnvironment σ) (endpoints : EndpointLog) : List Event :=
  (if a.health.isEmpty then
    [.log (logger.record .warn .admin "No health checks registered")] else [])
    ++ [.log (logger.record .info .admin ("admin =\n\n" ++ EndpointLog.table endpoints)
      [("tasks", .text (Text.quotedList a.tasks.keys))])]

/-- Installs the routes of the admin surface. -/
def installRoutes (a : AdminEnvironment σ) :
    Except RouteError EndpointLog × AdminEnvironment σ × List Event :=
  let (log, router) := install (installations a.router.contextPath) a.router
  let after := { a with router }
  match log with
  | .ok endpoints => (log, after, after.announce endpoints)
  | .error _ => (log, after, [])

end AdminEnvironment

end ServiceHost
