import ServiceHost.Net.Connector
import ServiceHost.Server.Supervision

/-!
# Managed servers

A server owns connectors and goes through the states built, starting, running, stopping and
stopped, forward only. It is started once, from the state built: every connector begins to
run, and the server watches until an error, the end of every run or an interrupt. Stopping
closes every connector.

The runs make progress in rounds: in a round every run is polled in the order of the
connectors, and the results of the round are delivered in that order.

* `Server.beginStart`, `markRunning`, `beginStop`, `closeConnectors` and `markStopped` are the
  single steps of the two calls.
* `Server.runUntil` is a whole start, and `Server.stop` a whole stop. `Server.startDuring` is a
  start whose watch goes through any turns.
-/

namespace ServiceHost

/-- The states of a server. -/
inductive ServerState where
  | built
  | starting
  | running
  | stopping
  | stopped
  deriving DecidableEq, Repr

/-- The name of a state. -/
def ServerState.name : ServerState → String
  | .built => "built"
  | .starting => "starting"
  | .running => "running"
  | .stopping => "stopping"
  | .stopped => "stopped"

/-- Why a server fails. -/
inductive ServerError where
  | connector (e : ConnectorError)
  | invalidState (state : ServerState)
  deriving DecidableEq, Repr

/-- The text of a failure. -/
def ServerError.message : ServerError → String
  | .connector e => e.message
  | .invalidState state => "server cannot be started while " ++ state.name

/-- A connector with its run, once it has one. -/
structure Slot (R : Type) where
  connector : Connector R
  run : Option Run := none

/-- A server. -/
structure Server (R : Type) where
  slots : List (Slot R) := []
  state : ServerState := .built

/-- When the interrupt of a start comes. -/
inductive Interrupt where
  /-- It has come already. -/
  | ready
  /-- It never comes. -/
  | never
  /-- It comes when every connector is bound or over. -/
  | onceSettled
  /-- It comes as a signal from outside when every connector is bound or over. -/
  | signal
  deriving DecidableEq, Repr

/-- The records of an interrupt that comes. -/
def Interrupt.events : Interrupt → List Event
  | .signal => [.log ⟨.info, none, "Interrupt signal received", [], .signals⟩]
  | _ => []

namespace Slot

variable {R : Type}

/-- Whether the run of a slot is bound or over. -/
def isSettled (s : Slot R) : Bool :=
  match s.run with
  | some (.serving ..) => true
  | some (.finished _) => true
  | _ => s.connector.bindState == .closed

/-- Whether the run of a slot is over. -/
def isFinished (s : Slot R) : Bool :=
  match s.run with
  | some (.finished _) => true
  | _ => false

/-- The result of a run that is over. -/
def result? (s : Slot R) : Option (Except ConnectorError Unit) :=
  match s.run with
  | some (.finished result) => some result
  | _ => none

/-- Polls the run of a slot. Gives its result if it ends now. -/
def poll (s : Slot R) (h : Host) :
    Slot R × Host × List Event × Option (Except ConnectorError Unit) :=
  match s.run with
  | none => (s, h, [], none)
  | some run =>
    let polled := s.connector.poll h run
    let after : Slot R := ⟨polled.connector, some polled.run⟩
    (after, polled.host, polled.events, if s.isFinished then none else after.result?)

/-- Begins a run. -/
def begin (s : Slot R) : Slot R := { s with run := some .entering }

/-- Stops the connector of a slot. -/
def stop (s : Slot R) : Slot R × List Event :=
  let (connector, events) := s.connector.stop
  ({ s with connector }, events)

/-- Lets the run of a slot come as far as it does by itself, which two polls do. -/
def settle (s : Slot R) (h : Host) : Slot R × Host × List Event :=
  let (s, h, events, _) := s.poll h
  let (s, h, more, _) := s.poll h
  (s, h, events ++ more)

end Slot

namespace Server

variable {R : Type}

/-- The logger of servers. -/
def logger : Logger := ⟨"server"⟩

/-- A record of a server. -/
def log (level : Level) (message : String) (fields : List (String × FieldValue) := []) :
    Event :=
  .log (logger.record level .server message fields)

/-- A server of connectors that have not run. -/
def ofConnectors (connectors : List (Connector R)) : Server R :=
  { slots := connectors.map fun connector => { connector } }

/-- The connectors of a server. -/
def connectors (s : Server R) : List (Connector R) := s.slots.map (·.connector)

/-- Whether each connector is bound. -/
def bound (s : Server R) : List Bool := s.connectors.map (·.localAddress.isSome)

/-! ### The single steps -/

/-- Begins a start, from the state built only. -/
def beginStart (s : Server R) : Except ServerState (Server R) :=
  match s.state with
  | .built => .ok { s with state := .starting }
  | state => .error state

/-- Marks a server as running. -/
def markRunning (s : Server R) : Server R := { s with state := .running }

/-- Begins a stop, unless the server is stopped. -/
def beginStop (s : Server R) : Option (Server R) :=
  match s.state with
  | .stopped => none
  | _ => some { s with state := .stopping }

/-- Closes connectors in order. -/
def closeSlots : List (Slot R) → List (Slot R) × List Event
  | [] => ([], [])
  | slot :: rest =>
    let (slot, events) := slot.stop
    let (rest, more) := closeSlots rest
    (slot :: rest, events ++ more)

/-- Closes every connector. -/
def closeConnectors (s : Server R) : Server R × List Event :=
  let (slots, events) := closeSlots s.slots
  ({ s with slots }, events)

/-- Marks a server as stopped. -/
def markStopped (s : Server R) : Server R := { s with state := .stopped }

/-! ### Rounds -/

/-- What a round gives: the slots, the host, the events and the results. -/
structure Round (R : Type) where
  slots : List (Slot R)
  host : Host
  events : List Event := []
  /-- For every slot the result of its run, if it ended in this round. -/
  results : List (Option (Except ConnectorError Unit)) := []

/-- What the watch of a server hears of a round: a run that ends delivers its result and is
gone. -/
def Round.arrivals (r : Round R) : List (Arrival ConnectorError) :=
  r.results.zipIdx.flatMap fun
    | (some result, run) => [.delivered run result, .gone run]
    | (none, _) => []

/-- Polls every run in order. -/
def pollSlots : List (Slot R) → Host → Round R
  | [], h => { slots := [], host := h }
  | slot :: rest, h =>
    let (slot, h, events, result) := slot.poll h
    let later := pollSlots rest h
    { slots := slot :: later.slots
      host := later.host
      events := events ++ later.events
      results := result :: later.results }

/-- Lets every run come as far as it does by itself: a look-up takes one round more than the
rest, and what then serves or is over stays so. -/
def settle (s : Server R) (h : Host) : Server R × Host × List Event :=
  let first := pollSlots s.slots h
  let second := pollSlots first.slots first.host
  ({ s with slots := second.slots }, second.host, first.events ++ second.events)

/-- Stops the connector at an index. -/
def stopConnector (s : Server R) (index : Nat) : Option (Server R × List Event) :=
  (s.slots[index]?).map fun slot =>
    let (slot, events) := slot.stop
    ({ s with slots := s.slots.set index slot }, events)

/-! ### Stopping -/

/-- Stops a server: its connectors are closed, once. -/
def stop (s : Server R) : Server R × List Event :=
  match s.beginStop with
  | none => (s, [])
  | some s =>
    let (s, events) := s.closeConnectors
    (s.markStopped, events)

/-! ### Starting -/

/-- Whether an interrupt has come. -/
def hasCome (s : Server R) : Interrupt → Bool
  | .ready => true
  | .never => false
  | .onceSettled => s.slots.all Slot.isSettled
  | .signal => s.slots.all Slot.isSettled

/-- How a watch ends for a caller: with a result, or never. -/
structure Watched (R : Type) where
  server : Server R
  host : Host
  events : List Event
  verdict : Option (Verdict ConnectorError)

/-- Watches over the runs for a number of rounds. -/
def watch (interrupt : Interrupt) : Nat → Server R → Host → Supervision ConnectorError →
    Watched R
  | rounds, s, h, supervision =>
    let supervision :=
      if s.hasCome interrupt then supervision.arrive .interrupt else supervision
    -- the looks come before the next round of polls
    match supervision.poll with
    | (some verdict, _) => ⟨s, h, [], some verdict⟩
    | (none, supervision) =>
      match rounds with
      | 0 => ⟨s, h, [], none⟩
      | rounds + 1 =>
        let round := pollSlots s.slots h
        let later := watch interrupt rounds { s with slots := round.slots } round.host
          (round.arrivals.foldl Supervision.arrive supervision)
        { later with events := round.events ++ later.events }

/-- The number of rounds after which nothing changes by itself. -/
def settlingRounds : Nat := 2

/-- The record of a connector that begins to run. -/
def startingRecord (c : Connector R) : Event :=
  log .info "Starting connector"
    [("connector", .text c.spec.kind.name), ("address", .text c.spec.bindAddress),
      ("prefix", .text c.contextPath)]

/-- What a start gives. A start that never ends has no result. -/
structure Started (R : Type) where
  result : Option (Except ServerError Unit)
  server : Server R
  host : Host
  events : List Event
  /-- Whether the interrupt ended the start. -/
  interrupted : Bool := false

/-- The result of a start whose watch ends. -/
def resultOf : Verdict ConnectorError → Except ServerError Unit
  | .failed e => .error (.connector e)
  | .finished => .ok ()
  | .interrupted => .ok ()

/-- A start during which the watch goes through these turns: its result if it is over then, and
the server with the runs that the start has begun. -/
def startDuring (s : Server R) (turns : List (Turn ConnectorError)) :
    Option (Except ServerError Unit) × Server R :=
  match s.beginStart with
  | .error state => (some (.error (.invalidState state)), s)
  | .ok s =>
    -- without a connector there is nothing to watch over
    if s.slots.isEmpty then (some (.ok ()), s.markRunning)
    else
      (((Supervision.ofCount s.slots.length).run turns).1.map resultOf,
        { s.markRunning with slots := s.slots.map Slot.begin })

/-- Starts a server and watches over it until an error, the end of every run or an
interrupt. -/
def runUntil (s : Server R) (interrupt : Interrupt) (h : Host) : Started R :=
  match s.beginStart with
  | .error state => ⟨some (.error (.invalidState state)), s, h, [], false⟩
  | .ok s =>
    if s.slots.isEmpty then
      ⟨some (.ok ()), s.markRunning, h, [log .warn "Server has no connectors"], false⟩
    else
      let running : Server R :=
        { s.markRunning with slots := s.slots.map Slot.begin }
      let watched := watch interrupt settlingRounds running h (.ofCount running.slots.length)
      let events := running.connectors.map startingRecord ++ watched.events
      match watched.verdict with
      | none => ⟨none, watched.server, watched.host, events, false⟩
      | some (.failed e) =>
        ⟨some (.error (.connector e)), watched.server, watched.host,
          events ++ [log .error "Connector failed" [("error", .text e.message)]], false⟩
      | some .finished => ⟨some (.ok ()), watched.server, watched.host, events, false⟩
      | some .interrupted =>
        ⟨some (.ok ()), watched.server, watched.host,
          events ++ interrupt.events ++ [log .info "Interrupted, shutting down"], true⟩

end Server

end ServiceHost
