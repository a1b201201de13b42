import ServiceHost.Server.Managed

/-!
# Activity of a server

Starts of connectors and stops run at the same time. A start of a connector goes on one step of
its run at a time. A stop of the server looks at the state and then closes one connector at a time.
In between anything else may happen: other starts and stops go on, and connectors are stopped on
their own.

* `Activity.step` is what one act does, and `Activity.run` what acts do in order.
-/

namespace ServiceHost

/-- A start of a connector of a server that has been called, with its run. -/
structure StartCall where
  connector : Nat
  run : Run := .entering

/-- A stop of a server that has been called: it is about to close a connector, or it is over. -/
inductive StopCall where
  | closing (next : Nat)
  | ended
  deriving DecidableEq, Repr

/-- A server with the starts of its connectors and the stops of the server that have been
called. -/
structure Activity (R : Type) where
  server : Server R
  starts : List StartCall := []
  stops : List StopCall := []

namespace Activity

/-- What happens next. Connectors and calls are given by their places. -/
inductive Act where
  /-- A start of a connector is called. -/
  | start (connector : Nat)
  /-- The run of a start takes its next step. -/
  | advance (call : Nat) (outside : Surroundings)
  /-- A connector is stopped on its own. -/
  | stopConnector (connector : Nat)
  /-- A stop of the server is called. -/
  | stopServer
  /-- A stop of the server goes on. -/
  | advanceStop (call : Nat)
  /-- The server begins a start, if it may. -/
  | beginStart
  /-- The server is marked as running. -/
  | markRunning

variable {R : Type}

/-- An activity of a server of connectors, of which nothing has been called. -/
def ofConnectors (connectors : List (Connector R)) : Activity R :=
  { server := .ofConnectors connectors }

/-- The connector of a place. -/
def connector? (a : Activity R) (index : Nat) : Option (Connector R) :=
  (a.server.slots[index]?).map (·.connector)

/-- Takes the next step of the run of a start. -/
def advance (a : Activity R) (call : Nat) (outside : Surroundings) :
    Activity R × List (Nat × Event) :=
  match a.starts[call]? with
  | none => (a, [])
  | some ⟨index, run⟩ =>
    match a.server.slots[index]? with
    | none => (a, [])
    | some slot =>
      let (connector, run, events) := slot.connector.advance outside run
      ({ a with
          server := { a.server with slots := a.server.slots.set index { slot with connector } }
          starts := a.starts.set call ⟨index, run⟩ },
        events.map (index, ·))

/-- Stops the connector of a place. -/
def stopConnector (a : Activity R) (index : Nat) : Activity R × List (Nat × Event) :=
  match a.server.stopConnector index with
  | none => (a, [])
  | some (server, events) => ({ a with server }, events.map (index, ·))

/-- Calls a stop of the server. It is over at once if the server is stopped. -/
def stopServer (a : Activity R) : Activity R :=
  match a.server.beginStop with
  | none => { a with stops := a.stops ++ [.ended] }
  | some server => { a with server, stops := a.stops ++ [.closing 0] }

/-- Goes on with a stop of the server: the next connector is closed, and behind the last one the
server is stopped. -/
def advanceStop (a : Activity R) (call : Nat) : Activity R × List (Nat × Event) :=
  match a.stops[call]? with
  | some (.closing next) =>
    match a.server.stopConnector next with
    | some (server, events) =>
      ({ a with server, stops := a.stops.set call (.closing (next + 1)) },
        events.map (next, ·))
    | none => ({ a with server := a.server.markStopped, stops := a.stops.set call .ended }, [])
  | _ => (a, [])

/-- What an act does, with the events of each connector. -/
def step (a : Activity R) : Act → Activity R × List (Nat × Event)
  | .start connector => ({ a with starts := a.starts ++ [{ connector }] }, [])
  | .advance call outside => a.advance call outside
  | .stopConnector connector => a.stopConnector connector
  | .stopServer => (a.stopServer, [])
  | .advanceStop call => a.advanceStop call
  | .beginStart =>
    match a.server.beginStart with
    | .error _ => (a, [])
    | .ok server => ({ a with server }, [])
  | .markRunning => ({ a with server := a.server.markRunning }, [])

/-- What acts do in order. -/
def run (a : Activity R) : List Act → Activity R × List (Nat × Event)
  | [] => (a, [])
  | act :: rest =>
    let (a, events) := a.step act
    let (a, more) := a.run rest
    (a, events ++ more)

end Activity

end ServiceHost
