/-!
# Supervision of runs

A server watches over the runs of its connectors. Each run delivers its result once, or is gone
without one. The watch looks at one thing at a time: at the first result that waits, and only
where none waits at whether every run is gone, and then at the interrupt. So it is over at the
first error, when every run has delivered a success, when every run is gone, or at an interrupt,
and an interrupt hides no error that waits.

* `Supervision.arrive` takes note of what happens around the watch, and `Supervision.look` is one
  look of the watch.
* `Supervision.run` is a watch in which arrivals and looks take turns in any order, and
  `Supervision.poll` one that looks until nothing waits.
-/

namespace ServiceHost

/-- The watch over runs: how many successes it still has to hear of, the runs that are not gone,
the results that wait, and whether the interrupt has come. -/
structure Supervision (E : Type) where
  remaining : Nat
  live : List Nat
  queue : List (Except E Unit) := []
  interrupted : Bool := false

/-- How a watch ends. -/
inductive Verdict (E : Type) where
  | failed (e : E)
  | finished
  | interrupted
  deriving DecidableEq

/-- Something that happens around a watch. Runs are numbered. -/
inductive Arrival (E : Type) where
  | delivered (run : Nat) (result : Except E Unit)
  /-- A run is gone, whether it has delivered its result or not. -/
  | gone (run : Nat)
  | interrupt

/-- A turn of a watch: something arrives, or the watch looks. -/
inductive Turn (E : Type) where
  | arrival (a : Arrival E)
  | look

namespace Supervision

variable {E : Type}

/-- The watch over a number of runs. -/
def ofCount (n : Nat) : Supervision E := { remaining := n, live := List.range n }

/-- Takes note of what happens. -/
def arrive (s : Supervision E) : Arrival E → Supervision E
  | .delivered _ result => { s with queue := s.queue ++ [result] }
  | .gone run => { s with live := s.live.erase run }
  | .interrupt => { s with interrupted := true }

/-- What a look gives. -/
inductive Look (E : Type) where
  | ended (verdict : Verdict E)
  /-- A success has been heard of. -/
  | heard (s : Supervision E)
  /-- There is nothing to see. -/
  | waits

/-- One look: at the first result that waits, else at the runs, else at the interrupt. -/
def look (s : Supervision E) : Look E :=
  match s.queue with
  | .error e :: _ => .ended (.failed e)
  | .ok () :: rest =>
    let remaining := s.remaining - 1
    if remaining = 0 then .ended .finished else .heard { s with remaining, queue := rest }
  | [] =>
    if s.live.isEmpty then .ended .finished
    else if s.interrupted then .ended .interrupted
    else .waits

/-- The watch through turns up to its verdict, if it comes to one. -/
def run : Supervision E → List (Turn E) → Option (Verdict E) × Supervision E
  | s, [] => (none, s)
  | s, .arrival a :: rest => run (s.arrive a) rest
  | s, .look :: rest =>
    match s.look with
    | .ended verdict => (some verdict, s)
    | .heard s => run s rest
    | .waits => run s rest

/-- Looks at every result that waits and then at what is behind them. -/
def poll (s : Supervision E) : Option (Verdict E) × Supervision E :=
  s.run (List.replicate (s.queue.length + 1) .look)

end Supervision

end ServiceHost
