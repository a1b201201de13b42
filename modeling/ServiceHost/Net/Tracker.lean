import ServiceHost.Net.Address

/-!
# Connection trackers

A tracker numbers the connections of a connector from one on and counts those that are open.
A connection is open until its guard is dropped. Both counters are words of 64 bits.

A board holds any number of trackers with the guards that they gave out. A handle names a
tracker; a clone of a handle names the same one. To open a connection takes two steps, and other
calls may come between them: the connection is numbered, and then it is counted and its guard is
given out.

* `TrackerBoard.step` is what one operation does, and `TrackerBoard.run` what operations do in order.
-/

namespace ServiceHost

/-- A connection: its number and the address of the other side. -/
structure Connection where
  number : Nat
  peer : SocketAddress
  deriving DecidableEq, Repr

/-- The printed name of a connection. -/
def Connection.name (c : Connection) : String := s!"conn-{c.number}"

/-- The counters of the connections that have been opened and of those that are open. -/
structure Tracker where
  opened : UInt64 := 0
  live : UInt64 := 0
  deriving DecidableEq, Repr

namespace Tracker

/-- The number of open connections. -/
def openCount (t : Tracker) : Nat := t.live.toNat

/-- Takes the next number. -/
def next (t : Tracker) : UInt64 × Tracker := (t.opened + 1, { t with opened := t.opened + 1 })

/-- Counts one more connection as open. -/
def count (t : Tracker) : Tracker := { t with live := t.live + 1 }

/-- Opens a connection under the next number. -/
def «open» (t : Tracker) (peer : SocketAddress) : Connection × Tracker :=
  let (number, t) := t.next
  (⟨number.toNat, peer⟩, t.count)

/-- Counts a connection as closed. A count of zero would turn over to the largest word. -/
def close (t : Tracker) : Tracker := { t with live := t.live - 1 }

end Tracker

/-- Where a connection stands: it has a number, it is counted and its guard is held, or the guard is
dropped. -/
inductive GuardStage where
  | numbered
  | held
  | dropped
  deriving DecidableEq, Repr

/-- A connection with the tracker that opened it. -/
structure Guard where
  tracker : Nat
  connection : Connection
  stage : GuardStage := .numbered
  deriving DecidableEq, Repr

/-- Trackers, the handles that name them and the guards that they gave out. -/
structure TrackerBoard where
  trackers : List Tracker := [{}]
  handles : List Nat := [0]
  guards : List Guard := []
  deriving DecidableEq, Repr

namespace TrackerBoard

/-- The tracker that a handle names. -/
def trackerOf (b : TrackerBoard) (handle : Nat) : Option (Nat × Tracker) := do
  let index ← b.handles[handle]?
  return (index, ← b.trackers[index]?)

/-- Adds a tracker and a handle for it. -/
def new (b : TrackerBoard) : TrackerBoard where
  trackers := b.trackers ++ [{}]
  handles := b.handles ++ [b.trackers.length]
  guards := b.guards

/-- Adds a handle for the tracker that another one names. -/
def clone (b : TrackerBoard) (handle : Nat) : TrackerBoard :=
  match b.handles[handle]? with
  | some index => { b with handles := b.handles ++ [index] }
  | none => b

/-- Begins to open a connection: it gets its number. -/
def beginOpen (b : TrackerBoard) (handle : Nat) (peer : SocketAddress) :
    Option Connection × TrackerBoard :=
  match b.trackerOf handle with
  | none => (none, b)
  | some (index, t) =>
    let (number, t) := t.next
    let connection : Connection := ⟨number.toNat, peer⟩
    (some connection, { b with
      trackers := b.trackers.set index t
      guards := b.guards ++ [{ tracker := index, connection }] })

/-- Moves a guard from one stage to another, with a change of its tracker. Says whether it was in
that stage. -/
def move (b : TrackerBoard) (guard : Nat) (before after : GuardStage)
    (change : Tracker → Tracker) : Bool × TrackerBoard :=
  match b.guards[guard]? with
  | none => (false, b)
  | some g =>
    if g.stage = before then
      (true, { b with
        trackers := b.trackers.modify g.tracker change
        guards := b.guards.set guard { g with stage := after } })
    else (false, b)

/-- Ends an open: the connection is counted, and its guard is there. -/
def endOpen (b : TrackerBoard) (guard : Nat) : TrackerBoard :=
  (b.move guard .numbered .held Tracker.count).2

/-- Opens a connection. -/
def «open» (b : TrackerBoard) (handle : Nat) (peer : SocketAddress) :
    Option Connection × TrackerBoard :=
  match b.beginOpen handle peer with
  | (none, b) => (none, b)
  | (some connection, begun) => (some connection, begun.endOpen b.guards.length)

/-- Drops a guard. Says whether it was there to drop. -/
def drop (b : TrackerBoard) (guard : Nat) : Bool × TrackerBoard :=
  b.move guard .held .dropped Tracker.close

/-- The number of open connections of the tracker that a handle names. -/
def openCount (b : TrackerBoard) (handle : Nat) : Nat :=
  ((b.trackerOf handle).map (·.2.openCount)).getD 0

/-- The order of two connections by number, if neither is dropped. -/
def compare? (b : TrackerBoard) (left right : Nat) : Option Ordering :=
  match b.guards[left]?, b.guards[right]? with
  | some ⟨_, a, .held⟩, some ⟨_, c, .held⟩ => some (compare a.number c.number)
  | _, _ => none

/-! ### Operations in order -/

/-- What is done on a board. An open is begun and ended, and anything may be done in between. -/
inductive Op where
  | new
  | clone (handle : Nat)
  | beginOpen (handle : Nat) (peer : SocketAddress)
  | endOpen (guard : Nat)
  | drop (guard : Nat)

/-- What an operation does. -/
def step (b : TrackerBoard) : Op → TrackerBoard
  | .new => b.new
  | .clone handle => b.clone handle
  | .beginOpen handle peer => (b.beginOpen handle peer).2
  | .endOpen guard => b.endOpen guard
  | .drop guard => (b.drop guard).2

/-- What operations do in order. -/
def run (b : TrackerBoard) (ops : List Op) : TrackerBoard := ops.foldl step b

end TrackerBoard

end ServiceHost
