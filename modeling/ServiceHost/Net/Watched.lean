/-!
# Watched values

A watched value is written by some and followed by others. Every write counts, also one of the
value that is there already. A watcher remembers how many writes it has seen, and there is news
for it as soon as there have been more.
-/

namespace ServiceHost

/-- A value with the number of its writes. -/
structure Watched (α : Type) where
  value : α
  writes : Nat := 0
  deriving DecidableEq, Repr

/-- Someone who follows a value: how many writes have been seen. -/
structure Watcher where
  seen : Nat
  deriving DecidableEq, Repr

namespace Watched

variable {α : Type}

/-- Writes a value. -/
def write (w : Watched α) (value : α) : Watched α := ⟨value, w.writes + 1⟩

/-- A watcher that reads the value now: it has seen every write so far. -/
def watcher (w : Watched α) : Watcher := ⟨w.writes⟩

/-- Whether there is news for a watcher. -/
def hasNews (w : Watched α) (watcher : Watcher) : Bool := watcher.seen != w.writes

end Watched

end ServiceHost
