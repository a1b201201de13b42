import ServiceHost.Log.Record

/-!
# Managed objects

A managed object lives as long as the server runs: it is started before the server and
stopped after it. Objects start in the order in which they were added, until one fails, and
those that have started stop in reverse order. The lifecycle counts the objects that have
started; a later start goes on where the count stands.

The start of an object may itself act on the lifecycle: stop it, or add an object. Such a
start is a `Hook`, a script of what it does. A start call works on the objects that were there
when it began and counts each success, whatever the hooks did in between.

* `Lifecycle.start` and `Lifecycle.stop` give the lifecycle after the call, and the moments of the
  call: what happened, each time with the lifecycle as it then stood.
* `Lifecycle.call` makes one of the three calls and notes what it did.
-/

namespace ServiceHost

/-- What a stop of an object leaves: its notes and its result. -/
structure StopOutcome where
  notes : List String := []
  result : Except String Unit := .ok ()

/-- What a start of an object does, step by step, up to its result. -/
inductive Hook where
  /-- The start is over. -/
  | done (result : Except String Unit)
  /-- Leaves a note. -/
  | note (text : String) (next : Hook)
  /-- Stops the objects that have started. -/
  | stopAll (next : Hook)
  /-- Adds an object, given by its name, its starts and its stops. -/
  | manage (name : String) (start : Nat → Hook) (stop : Nat → StopOutcome) (next : Hook)

/-- A managed object. A start or a stop may differ from one call to the next, so each is given
by the number of the calls before it. -/
structure Managed where
  start : Nat → Hook
  stop : Nat → StopOutcome

/-- An object in a lifecycle, with the numbers of its calls. -/
structure ManagedEntry where
  name : String
  object : Managed
  starts : Nat := 0
  stops : Nat := 0

/-- The objects in the order of their adding, and the number of those that have started. -/
structure Lifecycle where
  entries : List ManagedEntry := []
  started : Nat := 0

/-- Something that happens to an object, given by its index and name. -/
inductive LifecycleEvent where
  | starting (index : Nat) (name : String)
  | started (index : Nat) (name : String)
  | startFailed (index : Nat) (name : String) (cause : String)
  | stopping (index : Nat) (name : String)
  | stopFailed (index : Nat) (name : String) (cause : String)
  | note (text : String)
  /-- An index that names no object was used. -/
  | outOfBounds (index : Nat)
  deriving DecidableEq, Repr

/-- A moment of a call: what has just happened, and the lifecycle as it stands then. -/
structure Moment where
  event : LifecycleEvent
  lifecycle : Lifecycle

/-- The failure of a start. -/
structure ManagedError where
  name : String
  cause : String
  deriving DecidableEq, Repr

/-- The text of a failed start. -/
def ManagedError.message (e : ManagedError) : String :=
  s!"managed object {e.name} failed to start: {e.cause}"

namespace Lifecycle

/-- Adds an object at the end. -/
def manage (l : Lifecycle) (name : String) (object : Managed) : Lifecycle :=
  { l with entries := l.entries ++ [{ name, object }] }

/-- Changes the entry at an index. -/
def modify (l : Lifecycle) (index : Nat) (f : ManagedEntry → ManagedEntry) : Lifecycle :=
  { l with entries := l.entries.modify index f }

/-! ### Stopping -/

/-- What a stop of the object at an index shows. -/
def stopEvents (index : Nat) (name : String) (outcome : StopOutcome) : List LifecycleEvent :=
  .stopping index name :: outcome.notes.map .note ++
    match outcome.result with
    | .ok () => []
    | .error cause => [.stopFailed index name cause]

/-- Stops the objects at the indices below a number, the last one first. Every object is taken
off the count before it is stopped. -/
def stopLast : Nat → Lifecycle → Lifecycle × List Moment
  | 0, l => ({ l with started := 0 }, [])
  | n + 1, l =>
    let taken : Lifecycle := { l with started := n }
    match l.entries[n]? with
    | none => (taken, [⟨.outOfBounds n, taken⟩])
    | some e =>
      let called := taken.modify n fun e => { e with stops := e.stops + 1 }
      -- a stop that fails is noted among the moments and stops nothing
      let (after, moments) := stopLast n called
      (after, (stopEvents n e.name (e.object.stop e.stops)).map (⟨·, called⟩) ++ moments)

/-- Stops the objects that have started, in reverse order, whether their stops fail or not. -/
def stop (l : Lifecycle) : Lifecycle × List Moment := stopLast l.started l

/-! ### Starting -/

/-- Runs the start of an object. -/
def runHook : Hook → Lifecycle → Except String Unit × Lifecycle × List Moment
  | .done result, l => (result, l, [])
  | .note text next, l =>
    let (result, after, moments) := runHook next l
    (result, after, ⟨.note text, l⟩ :: moments)
  | .stopAll next, l =>
    let (stopped, moments) := l.stop
    let (result, after, more) := runHook next stopped
    (result, after, moments ++ more)
  | .manage name start stop next, l => runHook next (l.manage name ⟨start, stop⟩)

/-- Starts the objects at the given indices up to the first failure. -/
def startEach : List Nat → Lifecycle → Except ManagedError Unit × Lifecycle × List Moment
  | [], l => (.ok (), l, [])
  | index :: rest, l =>
    match l.entries[index]? with
    | none => (.ok (), l, [⟨.outOfBounds index, l⟩])
    | some e =>
      let called := l.modify index fun e => { e with starts := e.starts + 1 }
      let (result, ran, moments) := runHook (e.object.start e.starts) called
      match result with
      | .error cause =>
        (.error ⟨e.name, cause⟩, ran,
          ⟨.starting index e.name, called⟩ :: moments ++ [⟨.startFailed index e.name cause, ran⟩])
      | .ok () =>
        -- the count may have been changed by the start of the object itself
        let counted : Lifecycle := { ran with started := ran.started + 1 }
        let (result, after, more) := startEach rest counted
        (result, after,
          ⟨.starting index e.name, called⟩ :: moments ++ ⟨.started index e.name, counted⟩ :: more)

/-- Starts the objects that are not counted as started, up to the first failure. -/
def start (l : Lifecycle) : Except ManagedError Unit × Lifecycle × List Moment :=
  -- the list is read once, before the first object is started
  if l.started ≤ l.entries.length then
    startEach (List.range' l.started (l.entries.length - l.started)) l
  else (.ok (), l, [⟨.outOfBounds l.started, l⟩])

end Lifecycle

/-! ### Calls -/

/-- A call on a lifecycle. -/
inductive LifecycleCall where
  | manage (name : String) (object : Managed)
  | start
  | stop

/-- What a call did: the lifecycle before and after it, its result and its moments. -/
structure LifecycleStep where
  before : Lifecycle
  after : Lifecycle
  result : Except ManagedError Unit := .ok ()
  moments : List Moment := []

/-- Makes a call, and notes what it did. -/
def Lifecycle.call (l : Lifecycle) : LifecycleCall → Lifecycle × LifecycleStep
  | .manage name object =>
    let after := l.manage name object
    (after, { before := l, after })
  | .start =>
    let (result, after, moments) := l.start
    (after, { before := l, after, result, moments })
  | .stop =>
    let (after, moments) := l.stop
    (after, { before := l, after, moments })

/-! ### Records -/

/-- The events that a happening shows, in the scope of a logger. -/
def LifecycleEvent.toEvents (logger : Logger) : LifecycleEvent → List Event
  | .starting _ name =>
    [.log (logger.record .debug .lifecycle "Starting managed object" [("managed", .text name)])]
  | .started .. => []
  | .startFailed _ name cause =>
    [.log (logger.record .error .lifecycle "Managed object failed to start"
      [("managed", .text name), ("error", .text cause)])]
  | .stopping _ name =>
    [.log (logger.record .debug .lifecycle "Stopping managed object" [("managed", .text name)])]
  | .stopFailed _ name cause =>
    [.log (logger.record .warn .lifecycle "Managed object failed to stop"
      [("managed", .text name), ("error", .text cause)])]
  | .note text => [.note text]
  | .outOfBounds _ => []

/-- The logger of the lifecycle. -/
def lifecycleLogger : Logger := ⟨"lifecycle"⟩

/-- The events that moments show. -/
def Moment.render (moments : List Moment) : List Event :=
  moments.flatMap fun m => m.event.toEvents lifecycleLogger

end ServiceHost
