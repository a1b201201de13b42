import ServiceHost.Config.Schema
import ServiceHost.Log.Record
import ServiceHost.Net.Backoff
import ServiceHost.Net.Host
import ServiceHost.Net.Tracker
import ServiceHost.Net.Watched
import ServiceHost.Tls.KeyPair

/-!
# Connectors

A connector listens on an address for a surface, from its start until it is stopped. A run of
a connector goes through phases: it checks whether the connector is closed, loads the key
pair, binds the address (after a look-up where the address holds a name), and then serves.
Every turn of serving looks first whether the connector has been asked to stop since the check,
then waits out a pause or accepts.

However a run ends, the connector is bound no longer.

* `Connector.enter`, `prepare`, `listen` and `serveTurn` are the single steps, and
  `Connector.advance` takes the one that is due.
* `Connector.poll` takes a run as far as it comes without waiting.
-/

namespace ServiceHost

/-- Why a connector fails. -/
inductive ConnectorError where
  | bind (address : String) (cause : BindError)
  | tls (e : TlsError)
  | accept (cause : String)
  deriving DecidableEq, Repr

/-- The text of a failure. -/
def ConnectorError.message : ConnectorError → String
  | .bind address cause => s!"failed to bind {address}: {cause.message}"
  | .tls e => e.message
  | .accept cause => "failed to accept connection: " ++ cause

/-- Whether a connector is bound. -/
inductive BindState where
  | pending
  | bound (address : SocketAddress)
  | closed
  deriving DecidableEq, Repr

/-- A connector that serves a target `R`, such as a router or a surface. Every stop writes to
its close signal. -/
structure Connector (R : Type) where
  spec : ConnectorSpec
  target : R
  contextPath : String
  closing : Watched Bool := { value := false }
  bindState : BindState := .pending
  tracker : Tracker := {}

/-- Where a run of a connector stands. From the check on it watches the close signal. -/
inductive Run where
  /-- Before the check of the close signal. -/
  | entering
  /-- Before the load of the key pair. -/
  | preparing (watcher : Watcher)
  /-- Before the bind. The flag tells that a look-up has been waited for. -/
  | listening (watcher : Watcher) (lookedUp : Bool)
  /-- Serving, with the pauses so far and the pause that is pending. -/
  | serving (watcher : Watcher) (address : SocketAddress) (backoff : Backoff)
      (pause : Option Nat)
  /-- Over. -/
  | finished (result : Except ConnectorError Unit)

/-- What an accept gives. -/
inductive AcceptOutcome where
  | connection (peer : SocketAddress)
  /-- A failure of this connection alone. -/
  | transient (cause : String)
  /-- A failure for want of resources. -/
  | exhausted (cause : String)
  | failed (cause : String)
  deriving DecidableEq, Repr

/-- The kinds of failures of an accept that are told apart. -/
inductive AcceptFailureKind where
  | connectionAborted
  | connectionReset
  | interrupted
  | wouldBlock
  | outOfMemory
  | other
  deriving DecidableEq, Repr

/-- A failure of an accept, with the number that the operating system gives it. -/
structure AcceptFailure where
  kind : AcceptFailureKind
  code : Option Nat := none
  text : String
  deriving DecidableEq, Repr

namespace AcceptFailure

/-- Whether a failure concerns one connection alone. -/
def isTransient (e : AcceptFailure) : Bool :=
  match e.kind with
  | .connectionAborted | .connectionReset | .interrupted | .wouldBlock => true
  | _ => false

/-- The numbers of want of resources: too many open files of the program or of the system, no
room for buffers, and no memory. -/
def resourceCodes : List Nat := [24, 23, 105, 12]

/-- Whether a failure comes of limits of the program or of the system. -/
def isResourceExhausted (e : AcceptFailure) : Bool :=
  e.kind == .outOfMemory || e.code.any resourceCodes.contains

end AcceptFailure

/-- What the result of an accept amounts to. -/
def AcceptOutcome.ofResult : Except AcceptFailure SocketAddress → AcceptOutcome
  | .ok peer => .connection peer
  | .error e =>
    if e.isTransient then .transient e.text
    else if e.isResourceExhausted then .exhausted e.text
    else .failed e.text

/-- What a run meets outside when it takes a step: the files, whether its address has to be
looked up, what a bind gives and what an accept gives. -/
structure Surroundings where
  files : FileTree := {}
  looksUp : Bool := false
  bound : Except BindError SocketAddress
  accepted : AcceptOutcome

namespace Connector

variable {R : Type}

/-- The logger of connectors. -/
def logger : Logger := ⟨"connector"⟩

/-- A record of a connector. -/
def log (level : Level) (message : String) (fields : List (String × FieldValue)) : Event :=
  .log (logger.record level .connector message fields)

/-- Whether a connector has been asked to stop. -/
def closed (c : Connector R) : Bool := c.closing.value

/-- The address that a connector is bound to. -/
def localAddress (c : Connector R) : Option SocketAddress :=
  match c.bindState with
  | .bound a => some a
  | _ => none

/-- What someone who waits for the bind is told. None where the wait goes on. -/
def boundAnswer? (c : Connector R) : Option (Option SocketAddress) :=
  match c.bindState with
  | .pending => none
  | .bound a => some (some a)
  | .closed => some none

/-! ### The single steps -/

/-- The record of a connector that is asked to stop. -/
def stoppingRecord (c : Connector R) : Event :=
  log .info "Stopping connector"
    [("connector", .text c.spec.kind.name), ("address", .text c.spec.bindAddress),
      ("open_connections", .number c.tracker.openCount)]

/-- Stops a connector: the close signal is written, and the first stop is logged. -/
def stop (c : Connector R) : Connector R × List Event :=
  ({ c with closing := c.closing.write true }, if c.closed then [] else [c.stoppingRecord])

/-- Ends a run. -/
def finish (c : Connector R) (result : Except ConnectorError Unit) : Connector R × Run :=
  ({ c with bindState := .closed }, .finished result)

/-- Checks the close signal: a run of a closed connector is over before it began. -/
def enter (c : Connector R) : Connector R × Run :=
  if c.closed then c.finish (.ok ()) else (c, .preparing c.closing.watcher)

/-- The record of a key pair that is loaded. -/
def keyPairRecord (s : ConnectorSpec) : Event :=
  let path (file : Option String) : FieldValue := .text (Text.quoted (file.getD ""))
  .log (logger.record .debug .keyPair "TLS keypair loaded"
    [("cert", path s.certFile), ("key", path s.keyFile)])

/-- Loads the key pair. -/
def prepare (c : Connector R) (watcher : Watcher) (files : FileTree) :
    Connector R × Run × List Event :=
  match c.spec.keyPair files with
  | .error e =>
    let (c, run) := c.finish (.error (.tls e))
    (c, run, [])
  | .ok none => (c, .listening watcher false, [])
  | .ok (some _) => (c, .listening watcher false, [keyPairRecord c.spec])

/-- Takes the outcome of the bind. -/
def listen (c : Connector R) (watcher : Watcher) :
    Except BindError SocketAddress → Connector R × Run × List Event
  | .error cause =>
    let (c, run) := c.finish (.error (.bind c.spec.bindAddress cause))
    (c, run, [])
  | .ok address =>
    ({ c with bindState := .bound address }, .serving watcher address {} none,
      [log .info "Connector started"
        [("connector", .text c.spec.kind.name), ("address", .text address.render)]])

/-- A turn of serving that begins with news of a stop: serving is over. -/
def leave (c : Connector R) (address : SocketAddress) : Connector R × Run × List Event :=
  let (c, run) := c.finish (.ok ())
  (c, run, [log .info "Connector stopped" [("address", .text address.render)]])

/-- A turn of serving that accepts. -/
def accept (c : Connector R) (watcher : Watcher) (address : SocketAddress) (backoff : Backoff) :
    AcceptOutcome → Connector R × Run × List Event
  | .connection peer =>
    let (connection, tracker) := c.tracker.open peer
    ({ c with tracker }, .serving watcher address backoff.reset none,
      [log .debug "Connection accepted"
        [("peer", .text peer.render), ("connection_id", .text connection.name)]])
  | .transient cause =>
    (c, .serving watcher address backoff none,
      [log .debug "Transient accept error" [("error", .text cause)]])
  | .exhausted cause =>
    let (pause, backoff) := backoff.next
    (c, .serving watcher address backoff (some pause),
      [log .warn "Accept failed, retrying"
        [("address", .text address.render), ("error", .text cause),
          ("retry_in_ms", .number pause)]])
  | .failed cause =>
    let (c, run) := c.finish (.error (.accept cause))
    (c, run, [log .error "Accept failed"
      [("address", .text address.render), ("error", .text cause)]])

/-- A turn of serving: the close signal comes first, then a pending pause runs out, and only
without one a connection is accepted. -/
def serveTurn (c : Connector R) (watcher : Watcher) (address : SocketAddress) (backoff : Backoff)
    (pause : Option Nat) (next : AcceptOutcome) : Connector R × Run × List Event :=
  if c.closing.hasNews watcher then c.leave address
  else match pause with
    | some _ => (c, .serving watcher address backoff none, [])
    | none => c.accept watcher address backoff next

/-- The next step of a run. One that is over stays so. -/
def advance (c : Connector R) (outside : Surroundings) : Run → Connector R × Run × List Event
  | .entering =>
    let (c, run) := c.enter
    (c, run, [])
  | .preparing watcher => c.prepare watcher outside.files
  | .listening watcher lookedUp =>
    -- a look-up is waited for once
    if outside.looksUp && !lookedUp then (c, .listening watcher true, [])
    else c.listen watcher outside.bound
  | .serving watcher address backoff pause =>
    c.serveTurn watcher address backoff pause outside.accepted
  | .finished result => (c, .finished result, [])

/-! ### Polls -/

/-- What a poll gives: the connector, where its run stands, the host and the events. -/
structure Polled (R : Type) where
  connector : Connector R
  run : Run
  host : Host
  events : List Event := []

/-- Polls a run that serves: it waits for connections unless there is news of a stop. -/
def pollServing (c : Connector R) (h : Host) (watcher : Watcher) (address : SocketAddress)
    (run : Run) : Polled R :=
  if c.closing.hasNews watcher then
    let (c, run, events) := c.leave address
    ⟨c, run, h.release address, events⟩
  else ⟨c, run, h, []⟩

/-- Binds the address of a connector on a host, after a look-up where it holds a name. -/
def bindOn (c : Connector R) (h : Host) : Except BindError SocketAddress × Host :=
  match SocketAddress.parse? c.spec.bindAddress with
  | some a => h.bind a
  | none =>
    match Host.lookUp c.spec.bindAddress with
    | .error e => (.error e, h)
    | .ok a => h.bind a

/-- Polls a run that is about to bind. A name makes it wait once. -/
def pollListening (c : Connector R) (h : Host) (watcher : Watcher) (lookedUp : Bool) : Polled R :=
  if (SocketAddress.parse? c.spec.bindAddress).isNone && !lookedUp then
    ⟨c, .listening watcher true, h, []⟩
  else
    let (outcome, h) := c.bindOn h
    let (c, run, events) := c.listen watcher outcome
    match outcome with
    | .error _ => ⟨c, run, h, events⟩
    | .ok address =>
      -- a bind that succeeds serves in the same poll
      let polled := c.pollServing h watcher address run
      { polled with events := events ++ polled.events }

/-- Polls a run that is about to load its key pair. -/
def pollPreparing (c : Connector R) (h : Host) (watcher : Watcher) : Polled R :=
  match c.prepare watcher h.files with
  | (c, .listening watcher lookedUp, events) =>
    let polled := c.pollListening h watcher lookedUp
    { polled with events := events ++ polled.events }
  | (c, run, events) => ⟨c, run, h, events⟩

/-- Takes a run as far as it comes without waiting. -/
def poll (c : Connector R) (h : Host) : Run → Polled R
  | .entering =>
    match c.enter with
    | (c, .preparing watcher) => c.pollPreparing h watcher
    | (c, run) => ⟨c, run, h, []⟩
  | .preparing watcher => c.pollPreparing h watcher
  | .listening watcher lookedUp => c.pollListening h watcher lookedUp
  | .serving watcher address backoff pause =>
    c.pollServing h watcher address (.serving watcher address backoff pause)
  | .finished result => ⟨c, .finished result, h, []⟩

/-! ### Text form -/

/-- The text form of an optional path. -/
def renderPath : Option String → String
  | none => "None"
  | some path => s!"Some({Text.quoted path})"

/-- The text form of a specification. -/
def renderSpec (s : ConnectorSpec) : String :=
  let kind := match s.kind with
    | .http => "Http"
    | .https => "Https"
  s!"ConnectorSpec \x7b kind: {kind}, address: {Text.quoted s.address}, cert_file: "
    ++ renderPath s.certFile ++ ", key_file: " ++ renderPath s.keyFile ++ " \x7d"

/-- The text form of a connector: its specification and the address that it is bound to. -/
def render (c : Connector R) : String :=
  let address := match c.localAddress with
    | none => "None"
    | some a => s!"Some({a.render})"
  "Connector \x7b spec: " ++ renderSpec c.spec ++ ", local_addr: " ++ address ++ " \x7d"

end Connector

end ServiceHost
