import ServiceHost.Server.Activity

/-!
# Calls on a server

Starts and stops of a server may be called from anywhere and overlap. Each call reads and writes
the state of the server in single steps, and between two steps of one call others may take theirs.
A start looks at the state when it is called. If the server is built, the start goes on: it begins
a run of every connector and marks the server as running, without a second look at the state. A stop
goes on from connector to connector, as in an `Activity`.

* `Calls.step` is what one act does, and `Calls.run` what acts do in order.
-/

namespace ServiceHost

/-- A start of a server that has been called: it was refused, it has passed the look at the state
and is about to mark the server as running, or it has done so and watches. -/
inductive LaunchCall where
  | refused (state : ServerState)
  | beginning
  | watching
  deriving DecidableEq, Repr

/-- Whether a start has passed the look at the state. -/
def LaunchCall.passed : LaunchCall → Bool
  | .refused _ => false
  | .beginning => true
  | .watching => true

/-- A server with its connectors and stops in activity, and the starts of the server that have been
called. -/
structure Calls (R : Type) where
  activity : Activity R
  launches : List LaunchCall := []

namespace Calls

/-- What happens next. Connectors and calls are given by their places. -/
inductive Act where
  /-- A start of the server is called. -/
  | start
  /-- A start of the server goes on. -/
  | advanceStart (call : Nat)
  /-- A stop of the server is called. -/
  | stop
  /-- A stop of the server goes on. -/
  | advanceStop (call : Nat)
  /-- The run of a connector takes its next step. -/
  | advance (call : Nat) (outside : Surroundings)
  /-- A connector is stopped on its own. -/
  | stopConnector (connector : Nat)

variable {R : Type}

/-- A server of connectors, of which nothing has been called. -/
def ofConnectors (connectors : List (Connector R)) : Calls R :=
  { activity := .ofConnectors connectors }

/-- The state of the server. -/
def state (c : Calls R) : ServerState := c.activity.server.state

/-- Calls a start of the server. It is refused unless the server is built. -/
def start (c : Calls R) : Calls R :=
  match c.activity.server.beginStart with
  | .error state => { c with launches := c.launches ++ [.refused state] }
  | .ok server =>
    { activity := { c.activity with server }, launches := c.launches ++ [.beginning] }

/-- Goes on with a start of the server: a run of every connector begins, and the server is marked
as running. -/
def advanceStart (c : Calls R) (call : Nat) : Calls R :=
  match c.launches[call]? with
  | some .beginning =>
    let runs := (List.range c.activity.server.slots.length).map fun i => { connector := i }
    { activity := { c.activity with
        server := c.activity.server.markRunning
        starts := c.activity.starts ++ runs }
      launches := c.launches.set call .watching }
  | _ => c

/-- What an act does. -/
def step (c : Calls R) : Act → Calls R
  | .start => c.start
  | .advanceStart call => c.advanceStart call
  | .stop => { c with activity := c.activity.stopServer }
  | .advanceStop call => { c with activity := (c.activity.advanceStop call).1 }
  | .advance call outside => { c with activity := (c.activity.advance call outside).1 }
  | .stopConnector connector => { c with activity := (c.activity.stopConnector connector).1 }

/-- What acts do in order. -/
def run (c : Calls R) (acts : List Act) : Calls R := acts.foldl step c

end Calls

end ServiceHost
