/-!
# Shutdown latches

A latch is triggered once and stays triggered. A waiter on a latch is ready at the first poll
after that, however late it began to wait, and is finished from then on.
-/

namespace ServiceHost

/-- A latch: whether it has been triggered. -/
structure Latch where
  triggered : Bool := false
  deriving DecidableEq, Repr

/-- Triggers a latch. -/
def Latch.trigger (_ : Latch) : Latch := ⟨true⟩

/-- The answer to a poll. -/
inductive Poll where
  | ready
  | pending
  | finished
  deriving DecidableEq, Repr

/-- The name of an answer. -/
def Poll.name : Poll → String
  | .ready => "ready"
  | .pending => "pending"
  | .finished => "finished"

/-- Someone who waits for a latch: whether the wait is over. -/
structure Waiter where
  finished : Bool := false
  deriving DecidableEq, Repr

/-- Polls a waiter on a latch. -/
def Waiter.poll (w : Waiter) (l : Latch) : Poll × Waiter :=
  if w.finished then (.finished, w)
  else if l.triggered then (.ready, ⟨true⟩)
  else (.pending, w)

/-- Latches, the handles that name them (a clone of a handle names the same latch), and the
waiters with the latch that each waits for. -/
structure LatchBoard where
  latches : List Latch := [{}]
  handles : List Nat := [0]
  waiters : List (Nat × Waiter) := []

namespace LatchBoard

/-- The index of the latch that a handle names. -/
def indexOf (b : LatchBoard) (handle : Nat) : Nat := b.handles.getD handle 0

/-- The latch that a handle names. -/
def latch (b : LatchBoard) (handle : Nat) : Latch := b.latches.getD (b.indexOf handle) {}

/-- Adds a latch and a handle for it. -/
def new (b : LatchBoard) : LatchBoard :=
  { b with latches := b.latches ++ [{}], handles := b.handles ++ [b.latches.length] }

/-- Adds a handle for the latch that another one names. -/
def clone (b : LatchBoard) (handle : Nat) : LatchBoard :=
  { b with handles := b.handles ++ [b.indexOf handle] }

/-- Triggers the latch that a handle names. -/
def trigger (b : LatchBoard) (handle : Nat) : LatchBoard :=
  { b with latches := b.latches.modify (b.indexOf handle) Latch.trigger }

/-- Adds a waiter for the latch that a handle names. -/
def wait (b : LatchBoard) (handle : Nat) : LatchBoard :=
  { b with waiters := b.waiters ++ [(b.indexOf handle, {})] }

/-- Polls a waiter. One that does not exist has finished. -/
def poll (b : LatchBoard) (waiter : Nat) : Poll × LatchBoard :=
  match b.waiters[waiter]? with
  | none => (.finished, b)
  | some (index, w) =>
    let (poll, w) := w.poll (b.latches.getD index {})
    (poll, { b with waiters := b.waiters.set waiter (index, w) })

end LatchBoard

end ServiceHost
