/-!
# Log records

A record has a level, the name of the logger in whose scope it was written (if any), a
message, fields and the part of the program that it comes from. What a run of the program
shows is a list of events: records and the notes that scripted objects leave.
-/

namespace ServiceHost

/-- The levels of a record, the gravest first. -/
inductive Level where
  | error
  | warn
  | info
  | debug
  | trace
  deriving DecidableEq, Repr

/-- The name of a level in a record. -/
def Level.name : Level → String
  | .error => "ERROR"
  | .warn => "WARN"
  | .info => "INFO"
  | .debug => "DEBUG"
  | .trace => "TRACE"

/-- The parts of the program that write records. -/
inductive Origin where
  | startup
  | signals
  | lifecycle
  | dispatcher
  | health
  | tasks
  | admin
  | adminHandlers
  | server
  | connector
  | keyPair
  | logging
  | other
  deriving DecidableEq, Repr

/-- The path of a part, as log lines and filter directives spell it. -/
def Origin.path : Origin → String
  | .startup => "server_harness::lifecycle::startup"
  | .signals => "server_harness::lifecycle::signals"
  | .lifecycle => "server_harness::lifecycle::managed"
  | .dispatcher => "server_harness::environment::dispatcher"
  | .health => "server_harness::health"
  | .tasks => "server_harness::admin::tasks"
  | .admin => "server_harness::admin"
  | .adminHandlers => "server_harness::admin::handlers"
  | .server => "server_harness::server::managed"
  | .connector => "server_harness::net::connector"
  | .keyPair => "server_harness::net::tls"
  | .logging => "server_harness::observability::logging"
  | .other => ""

/-- The value of a field. -/
inductive FieldValue where
  | text (s : String)
  | number (n : Nat)
  deriving DecidableEq, Repr

/-- A log record. -/
structure Record where
  level : Level
  logger : Option String
  message : String
  fields : List (String × FieldValue) := []
  origin : Origin := .other
  deriving DecidableEq, Repr

/-- What a run of the program shows. -/
inductive Event where
  | log (r : Record)
  | note (text : String)
  deriving DecidableEq, Repr

/-- The records among events. -/
def Event.records (events : List Event) : List Record :=
  events.filterMap fun
    | .log r => some r
    | .note _ => none

/-- The notes among events. -/
def Event.notes (events : List Event) : List String :=
  events.filterMap fun
    | .log _ => none
    | .note text => some text

/-- A named scope for records. -/
structure Logger where
  name : String
  deriving DecidableEq, Repr

/-- A record in the scope of a logger. -/
def Logger.record (l : Logger) (level : Level) (origin : Origin) (message : String)
    (fields : List (String × FieldValue) := []) : Record where
  level := level
  logger := some l.name
  message := message
  fields := fields
  origin := origin

end ServiceHost
