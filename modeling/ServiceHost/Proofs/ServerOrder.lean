import Mathlib.Data.List.Basic
import ServiceHost.Server.Managed

/-!
# Stopped servers have closed connectors

A server that is stopped has asked every connector to stop. Its start keeps to that: it moves the
runs of the connectors on, but adds none, takes none away and leaves every one with its
specification.

* `Server.Orderly` is the invariant, `Server.Orderly.runUntil` says that a start keeps it, and
  `Server.Orderly.stop` that after a stop every connector is closed.
-/

namespace ServiceHost

namespace Connector

variable {R : Type}

/-! ### Runs keep the specification -/

theorem spec_enter (c : Connector R) : c.enter.1.spec = c.spec := by
  unfold enter
  split <;> rfl

theorem spec_prepare (c : Connector R) (watcher : Watcher) (files : FileTree) :
    (c.prepare watcher files).1.spec = c.spec := by
  unfold prepare
  split <;> rfl

theorem spec_listen (c : Connector R) (watcher : Watcher)
    (outcome : Except BindError SocketAddress) : (c.listen watcher outcome).1.spec = c.spec := by
  cases outcome <;> rfl

theorem spec_pollServing (c : Connector R) (h : Host) (watcher : Watcher)
    (address : SocketAddress) (run : Run) :
    (c.pollServing h watcher address run).connector.spec = c.spec := by
  unfold pollServing
  split <;> rfl

theorem spec_pollListening (c : Connector R) (h : Host) (watcher : Watcher) (lookedUp : Bool) :
    (c.pollListening h watcher lookedUp).connector.spec = c.spec := by
  unfold pollListening
  split
  · rfl
  · rcases c.bindOn h with ⟨outcome, h'⟩
    cases outcome with
    | error cause => exact spec_listen c watcher (.error cause)
    | ok address =>
      simp only
      rw [spec_pollServing]
      exact spec_listen c watcher (.ok address)

theorem spec_pollPreparing (c : Connector R) (h : Host) (watcher : Watcher) :
    (c.pollPreparing h watcher).connector.spec = c.spec := by
  have hspec := spec_prepare c watcher h.files
  unfold pollPreparing
  generalize c.prepare watcher h.files = prepared at hspec ⊢
  obtain ⟨c', run, events⟩ := prepared
  -- a run that is prepared listens in the same poll
  cases run with
  | listening watcher lookedUp =>
    simp only
    rw [spec_pollListening]
    exact hspec
  | _ => exact hspec

theorem spec_poll (c : Connector R) (h : Host) (run : Run) :
    (c.poll h run).connector.spec = c.spec := by
  cases run with
  | entering =>
    -- a connector that enters goes on to its preparation in the same poll
    have hspec := spec_enter c
    unfold poll
    generalize c.enter = entered at hspec ⊢
    obtain ⟨c', run⟩ := entered
    cases run with
    | preparing watcher =>
      simp only
      rw [spec_pollPreparing]
      exact hspec
    | _ => exact hspec
  | preparing watcher =>
    rw [poll]
    exact spec_pollPreparing c h watcher
  | listening watcher lookedUp =>
    rw [poll]
    exact spec_pollListening c h watcher lookedUp
  | serving watcher address backoff pause =>
    rw [poll]
    exact spec_pollServing c h watcher address _
  | finished result => rfl

theorem stop_closed (c : Connector R) : c.stop.1.closed = true := rfl

theorem spec_stop (c : Connector R) : c.stop.1.spec = c.spec := rfl

end Connector

namespace Server

variable {R : Type}

/-- The specifications of the connectors of a server, in order. -/
def specs (s : Server R) : List ConnectorSpec := s.connectors.map (·.spec)

/-- Every connector of a server has been asked to stop. -/
def AllClosed (s : Server R) : Prop :=
  ∀ c ∈ s.connectors, c.closed = true

/-- A server that is stopped has asked every connector to stop. -/
def Orderly (s : Server R) : Prop :=
  s.state = .stopped → s.AllClosed

theorem orderly_ofConnectors (connectors : List (Connector R)) :
    (ofConnectors connectors).Orderly :=
  fun h => nomatch h

/-! ### Stopping -/

theorem closeSlots_closed (slots : List (Slot R)) :
    ∀ slot ∈ (closeSlots slots).1, slot.connector.closed = true := by
  -- by the slots, each of which is stopped in its turn
  induction slots with
  | nil => exact fun _ h => nomatch h
  | cons slot rest ih =>
    intro x hx
    rcases List.mem_cons.mp hx with rfl | hx
    · exact slot.connector.stop_closed
    · exact ih x hx

theorem specs_closeSlots (slots : List (Slot R)) :
    (closeSlots slots).1.map (·.connector.spec) = slots.map (·.connector.spec) := by
  induction slots with
  | nil => rfl
  | cons slot rest ih =>
    change slot.connector.stop.1.spec :: _ = _
    rw [ih, slot.connector.spec_stop]
    rfl

/-- **Stopping closes.** After a stop every connector has been asked to stop. -/
theorem Orderly.stop {s : Server R} (h : s.Orderly) : s.stop.1.AllClosed := by
  unfold Server.stop beginStop
  cases hs : s.state with
  | stopped => exact h hs
  | _ =>
    -- in any other state all slots are closed
    intro c hc
    obtain ⟨slot, hslot, rfl⟩ := List.mem_map.mp hc
    exact closeSlots_closed s.slots slot hslot

theorem specs_stop (s : Server R) : s.stop.1.specs = s.specs := by
  have hclose : ((closeSlots s.slots).1.map (·.connector)).map (·.spec) = s.specs := by
    rw [List.map_map]
    exact (specs_closeSlots s.slots).trans (List.map_map).symm
  unfold Server.stop beginStop
  cases s.state with
  | stopped => rfl
  | _ => exact hclose

/-! ### Starting -/

theorem specs_pollSlots (slots : List (Slot R)) (h : Host) :
    (pollSlots slots h).slots.map (·.connector.spec) = slots.map (·.connector.spec) := by
  induction slots generalizing h with
  | nil => rfl
  | cons slot rest ih =>
    have hslot : (slot.poll h).1.connector.spec = slot.connector.spec := by
      unfold Slot.poll
      cases slot.run with
      | none => rfl
      | some run => exact slot.connector.spec_poll h run
    change (slot.poll h).1.connector.spec :: _ = _
    rw [hslot, ih]
    rfl

/-- A watch changes neither the specifications nor the state. -/
theorem watch_keeps (interrupt : Interrupt) (rounds : ℕ) (s : Server R) (h : Host)
    (supervision : Supervision ConnectorError) :
    (watch interrupt rounds s h supervision).server.specs = s.specs ∧
      (watch interrupt rounds s h supervision).server.state = s.state := by
  -- by the rounds, which poll the slots and touch nothing else
  induction rounds generalizing s h supervision with
  | zero =>
    unfold watch
    simp only
    split <;> exact ⟨rfl, rfl⟩
  | succ rounds ih =>
    unfold watch
    simp only
    split
    · exact ⟨rfl, rfl⟩
    · obtain ⟨hspecs, hstate⟩ := ih { s with slots := (pollSlots s.slots h).slots } _ _
      refine ⟨hspecs.trans ?_, hstate⟩
      change ((pollSlots s.slots h).slots.map (·.connector)).map (·.spec) = _
      rw [List.map_map]
      exact (specs_pollSlots s.slots h).trans (List.map_map).symm

/-- **Starting keeps order.** A start leaves the connectors with their specifications, and a
stopped server has closed connectors after it if it had before. -/
theorem Orderly.runUntil {s : Server R} (h : s.Orderly) (interrupt : Interrupt) (host : Host) :
    (s.runUntil interrupt host).server.Orderly ∧
      (s.runUntil interrupt host).server.specs = s.specs := by
  unfold Server.runUntil
  cases hs : s.beginStart with
  | error state => exact ⟨h, rfl⟩
  | ok s' =>
    -- the start is accepted, and this moves no connector yet
    have hslots : s'.slots = s.slots := by
      unfold beginStart at hs
      split at hs
      · rw [← Except.ok.inj hs]
      · cases hs
    have hspecs : s'.specs = s.specs := by
      unfold specs connectors
      rw [hslots]
    simp only
    split
    · -- a server without connectors has nothing to watch
      exact ⟨fun hstate => (nomatch hstate), hspecs⟩
    · -- the runs that begin change neither the specifications nor the state, and so the watch
      have hbegin : ({ s'.markRunning with slots := s'.slots.map Slot.begin } : Server R).specs =
          s.specs := by
        rw [← hspecs]
        unfold specs connectors
        rw [List.map_map, List.map_map, List.map_map]
        rfl
      obtain ⟨hwatch, hstate⟩ := watch_keeps interrupt settlingRounds
        { s'.markRunning with slots := s'.slots.map Slot.begin } host
        (.ofCount (s'.slots.map Slot.begin).length)
      have horderly : (watch interrupt settlingRounds
          { s'.markRunning with slots := s'.slots.map Slot.begin } host
          (.ofCount (s'.slots.map Slot.begin).length)).server.Orderly := by
        intro hstopped
        rw [hstate] at hstopped
        cases hstopped
      split <;> exact ⟨horderly, hwatch.trans hbegin⟩

end Server

end ServiceHost
