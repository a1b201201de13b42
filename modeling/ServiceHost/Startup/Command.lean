import ServiceHost.Server.Factory
import ServiceHost.Startup.Bundle

/-!
# Commands

A command runs an application. The server command goes through the steps configuration, log,
server, bundles, application, start of the environment and start of the server, and ends at
the first that fails. However it ends, what was begun is undone: the server is stopped if it
was started, and then the managed objects are, if their start was tried. The check command
only builds the configuration.

* `Bootstrap.server` is the server command and `Bootstrap.check` the check command.
-/

namespace ServiceHost

/-- What a command runs: an application with further bundles, the source of its configuration,
the way to build its server, the set-up of the log if it is asked for, and its logger. -/
structure Bootstrap (σ : Type) where
  application : Application σ
  bundles : List (Bundle σ) := []
  configuration : Except ConfigError Configuration := .ok {}
  buildServer : ServerConfig → Environment σ →
      Except ServerError (Server Surface × Environment σ) :=
    fun c e => .ok (c.buildServer e)
  installLog : Option (LoggingConfig → Except LoggingError Unit) := none
  logger : Logger := ⟨"server"⟩

/-- What a server command gives: its result and its trail. A command that never ends has no
result. The server and the environment are there if they were built, and the session if the server
was started. -/
structure CommandRun (σ : Type) where
  result : Option (Except Error Unit)
  trail : Trail
  server : Option (Server Surface) := none
  environment : Option (Environment σ) := none
  session : Option (Server.Started Surface) := none

/-- The events of a server command. -/
def CommandRun.events {σ : Type} (r : CommandRun σ) : List Event := r.trail.events

namespace Bootstrap

variable {σ : Type}

/-- The bundles as they are put together: the initialization of the application adds its bundles,
and then the further ones are added. -/
def assembly (b : Bootstrap σ) : Assembly σ :=
  Bundle.addAll b.bundles (Bundle.addAll b.application.bundles {})

/-- What the initialization of the application and the bundles shows. -/
def initialized (b : Bootstrap σ) : List Event :=
  b.application.onInitialize ++ b.assembly.initialized.flatMap (·.onInitialize)

/-- The bundles in the order of their run. -/
def bundlesInOrder (b : Bootstrap σ) : List (BundlePart σ) := b.assembly.bundles

/-- A record of the command. -/
def log (b : Bootstrap σ) (level : Level) (message : String)
    (fields : List (String × FieldValue) := []) : Event :=
  .log (b.logger.record level .startup message fields)

/-- The record of a failed step. -/
def failure (b : Bootstrap σ) (message : String) (e : Error) : Event :=
  b.log .error message [("error", .text e.message)]

/-- Starts the server of a running environment, and stops both. -/
def serve (b : Bootstrap σ) (session : Server Surface → Server.Started Surface)
    (server : Server Surface) (e : Environment σ) : CommandRun σ :=
  let started := session server
  match started.result with
  | none =>
    { result := none
      trail := [⟨.record, started.events, some started.server⟩]
      server := some started.server
      environment := some e
      session := some started }
  | some result =>
    let result := result.mapError Error.server
    let failed := match result with
      | .error err => [b.failure "Could not start server" err]
      | .ok () => []
    let (stopped, closing) := started.server.stop
    let (e, moments) := e.stop
    { result := some result
      trail := ⟨.step .serving (failure? result), started.events ++ failed, some started.server⟩
        :: ⟨.stopServer, closing, some stopped⟩ :: Trail.ofMoments (some stopped) moments
      server := some stopped
      environment := some e
      session := some started }

/-- Starts an environment that is set up, and then its server. -/
def launch (b : Bootstrap σ) (session : Server Surface → Server.Started Surface)
    (server : Server Surface) (e : Environment σ) : CommandRun σ :=
  let announced : Happening :=
    ⟨.record, [b.log .info ("starting " ++ b.application.name)], some server⟩
  let started := e.start
  let starting := Trail.ofStart (some server) started
  match started.result with
  | .error err =>
    let (e, moments) := started.environment.stop
    { result := some (.error (.ofStart err))
      trail := announced :: starting ++ Trail.ofMoments (some server) moments
      server := some server
      environment := some e }
  | .ok _ =>
    let ran := b.serve session server started.environment
    { ran with trail := announced :: starting ++ ran.trail }

/-- Sets an environment up by the bundles and the application. -/
def setUp (b : Bootstrap σ) (server : Option (Server Surface)) (c : Configuration)
    (e : Environment σ) : Prepared σ :=
  let bundled := runBundles server c 0 b.bundlesInOrder e
  match bundled.result with
  | .error err =>
    { bundled with
      trail := bundled.trail ++ [⟨.record, [b.failure "Could not run bootstrap" err], server⟩] }
  | .ok () =>
    let ran := b.application.run c bundled.environment
    let failed := match ran.result with
      | .error err => [b.failure "Could not run application" err]
      | .ok () => []
    { result := ran.result
      environment := ran.environment
      trail := bundled.trail
        ++ [⟨.step .application (failure? ran.result), ran.events ++ failed, server⟩] }

/-- Builds the server, sets the environment up and launches both. -/
def build (b : Bootstrap σ) (session : Server Surface → Server.Started Surface)
    (c : Configuration) : CommandRun σ :=
  let e := Environment.ofConfig b.application.name c.server b.logger
  match b.buildServer c.server e with
  | .error err =>
    { result := some (.error (.server err))
      trail := [⟨.step .factory (some (.server err)),
        [b.failure "Could not create server" (.server err)], none⟩] }
  | .ok (server, e) =>
    let ready := b.setUp (some server) c e
    let trail := ⟨.step .factory none, [], some server⟩ :: ready.trail
    match ready.result with
    | .error err =>
      { result := some (.error err), trail, server := some server
        environment := some ready.environment }
    | .ok () =>
      let ran := b.launch session server ready.environment
      { ran with trail := trail ++ ran.trail }

/-- Installs the log if that is asked for, and goes on. -/
def install (b : Bootstrap σ) (session : Server Surface → Server.Started Surface)
    (c : Configuration) : CommandRun σ :=
  match b.installLog with
  | none => b.build session c
  | some installLog =>
    let result := (installLog c.logging).mapError Error.logging
    let happening : Happening := ⟨.step .logging (failure? result), [], none⟩
    match result with
    | .error err => { result := some (.error err), trail := [happening] }
    | .ok () =>
      let ran := b.build session c
      { ran with trail := happening :: ran.trail }

/-- Runs the application as a server. The session stands for the time from the start of the
server to its end. -/
def server (b : Bootstrap σ) (session : Server Surface → Server.Started Surface) :
    CommandRun σ :=
  match b.configuration with
  | .error e =>
    { result := some (.error (.config e))
      trail := [⟨.step .configuration (some (.config e)), [], none⟩] }
  | .ok c =>
    let ran := b.install session c
    { ran with trail := ⟨.step .configuration none, [], none⟩ :: ran.trail }

/-- Builds the configuration and says that it is in order. -/
def check (b : Bootstrap σ) : Except ConfigError Unit × List Event :=
  match b.configuration with
  | .error e => (.error e, [])
  | .ok _ => (.ok (), [b.log .info "Configuration is OK"])

end Bootstrap

end ServiceHost
