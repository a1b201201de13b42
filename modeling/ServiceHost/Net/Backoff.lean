/-!
# Pauses between accepts

When the host runs out of resources a connector pauses before it accepts again. The first
pause is 5 ms, each further one is twice as long up to one second, and an accepted connection
brings the pauses back to the start.
-/

namespace ServiceHost

/-- The last pause, in milliseconds, since the last accepted connection. -/
structure Backoff where
  last : Option Nat := none
  deriving DecidableEq, Repr

namespace Backoff

/-- The shortest pause in milliseconds. -/
def shortest : Nat := 5

/-- The longest pause in milliseconds. -/
def longest : Nat := 1000

/-- The next pause. -/
def next (b : Backoff) : Nat × Backoff :=
  let pause := match b.last with
    | none => shortest
    | some last => min (2 * last) longest
  (pause, ⟨some pause⟩)

/-- Starts over. -/
def reset (_ : Backoff) : Backoff := {}

end Backoff

end ServiceHost
