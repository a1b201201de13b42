import Mathlib.Data.List.Basic
import ServiceHost.Net.Connector

/-!
# Steps of connectors

A run of a connector goes on one step at a time, and what goes on outside is given to each step.

* `Connector.Advanced` says what a single step changes, whatever the phase of the run.
* `Connector.ends_advance` says how a step brings a run of a connector that has been asked to stop
  nearer to its end.
* `Connector.poll_advances`: a poll is a number of steps in the surroundings that the host gives.
-/

namespace ServiceHost

/-! ### Runs -/

namespace Run

/-- The watcher of a run that is past the check and not over. -/
def watcher? : Run → Option Watcher
  | .preparing watcher => some watcher
  | .listening watcher _ => some watcher
  | .serving watcher .. => some watcher
  | _ => none

/-- Whether a run serves. -/
def isServing : Run → Bool
  | .serving .. => true
  | _ => false

/-- Whether a run is over. -/
def isOver : Run → Bool
  | .finished _ => true
  | _ => false

/-- How many steps a run has to take at most once its connector has been asked to stop. -/
def stepsLeft : Run → ℕ
  | .entering => 5
  | .preparing _ => 4
  | .listening _ false => 3
  | .listening _ true => 2
  | .serving .. => 1
  | .finished _ => 0

/-- How a run may end once its connector has been asked to stop: well, unless it has a key pair
to load or an address to bind and this fails. -/
def MayEndWith : Run → Except ConnectorError Unit → Prop
  | .entering, result => result = .ok ()
  | .preparing _, result => result = .ok () ∨ (∃ e, result = .error (.tls e)) ∨
      ∃ address cause, result = .error (.bind address cause)
  | .listening .., result => result = .ok () ∨
      ∃ address cause, result = .error (.bind address cause)
  | .serving .., result => result = .ok ()
  | .finished result', result => result = result'

end Run

namespace Connector

variable {R : Type}

/-- The record of a connector whose serving is over. -/
def stoppedRecord (address : SocketAddress) : Event :=
  log .info "Connector stopped" [("address", .text address.render)]

/-- Whether an event is the record of a connector that is asked to stop. -/
def isStopping : Event → Bool
  | .log r => r.message == "Stopping connector"
  | .note _ => false

/-- A connector that has never been started or stopped. -/
structure IsNew (c : Connector R) : Prop where
  closing_eq : c.closing = { value := false }
  bindState_eq : c.bindState = .pending

/-- The close signal is written by stops alone. -/
def SignalSound (c : Connector R) : Prop := c.closed = true ↔ 0 < c.closing.writes

/-! ### Single steps -/

/-- What a step of a run changes. -/
structure Advanced (c : Connector R) (run : Run) (out : Connector R × Run × List Event) :
    Prop where
  closing_eq : out.1.closing = c.closing
  /-- A run watches from the check on, which it passes on an open connector only. -/
  watched : ∀ w, out.2.1.watcher? = some w →
    run.watcher? = some w ∨ c.closed = false ∧ w = c.closing.watcher
  /-- The bind state changes when a run begins to serve and when a run is over. -/
  moved : (out.1.bindState = c.bindState ∧ out.2.1.isServing = run.isServing ∧
      out.2.1.isOver = run.isOver) ∨
    ((∃ address, out.1.bindState = .bound address) ∧ out.2.1.isServing = true) ∨
    (out.1.bindState = .closed ∧ out.2.1.isOver = true)
  quiet : ∀ e ∈ out.2.2, isStopping e = false

theorem Advanced.finish (c : Connector R) (run : Run) (result : Except ConnectorError Unit)
    {events : List Event} (hquiet : ∀ e ∈ events, isStopping e = false) :
    Advanced c run ({ c with bindState := .closed }, .finished result, events) :=
  ⟨rfl, fun _ h => (nomatch h), Or.inr (Or.inr ⟨rfl, rfl⟩), hquiet⟩

theorem Advanced.enter (c : Connector R) : Advanced c .entering (c.enter.1, c.enter.2, []) := by
  unfold Connector.enter
  by_cases hclosed : c.closed = true
  · rw [if_pos hclosed]
    exact .finish c _ _ fun e he => nomatch he
  · -- the run takes up its watcher here, and nothing else changes
    rw [if_neg hclosed]
    refine ⟨rfl, fun w hw => Or.inr ⟨Bool.not_eq_true _ ▸ hclosed, ?_⟩,
      Or.inl ⟨rfl, rfl, rfl⟩, fun e he => nomatch he⟩
    exact (Option.some.inj hw).symm

theorem Advanced.prepare (c : Connector R) (watcher : Watcher) (files : FileTree) :
    Advanced c (.preparing watcher) (c.prepare watcher files) := by
  unfold Connector.prepare
  split
  · exact .finish c _ _ fun e he => nomatch he
  · exact ⟨rfl, fun w hw => Or.inl hw, Or.inl ⟨rfl, rfl, rfl⟩, fun e he => nomatch he⟩
  · refine ⟨rfl, fun w hw => Or.inl hw, Or.inl ⟨rfl, rfl, rfl⟩, fun e he => ?_⟩
    obtain rfl := List.mem_singleton.mp he
    rfl

theorem Advanced.listen (c : Connector R) (watcher : Watcher) (lookedUp : Bool)
    (bound : Except BindError SocketAddress) :
    Advanced c (.listening watcher lookedUp) (c.listen watcher bound) := by
  cases bound with
  | error cause => exact .finish c _ _ fun e he => nomatch he
  | ok address =>
    refine ⟨rfl, fun w hw => Or.inl hw, Or.inr (Or.inl ⟨⟨address, rfl⟩, rfl⟩), fun e he => ?_⟩
    obtain rfl := List.mem_singleton.mp he
    rfl

theorem Advanced.accept (c : Connector R) (watcher : Watcher) (address : SocketAddress)
    (backoff : Backoff) (pause : Option ℕ) (accepted : AcceptOutcome) :
    Advanced c (.serving watcher address backoff pause)
      (c.accept watcher address backoff accepted) := by
  -- a failure for good ends the run, and whatever else an accept gives, serving goes on
  cases accepted with
  | failed cause =>
    refine .finish c _ _ fun e he => ?_
    obtain rfl := List.mem_singleton.mp he
    rfl
  | _ =>
    refine ⟨rfl, fun w hw => Or.inl hw, Or.inl ⟨rfl, rfl, rfl⟩, fun e he => ?_⟩
    obtain rfl := List.mem_singleton.mp he
    rfl

theorem Advanced.serveTurn (c : Connector R) (watcher : Watcher) (address : SocketAddress)
    (backoff : Backoff) (pause : Option ℕ) (accepted : AcceptOutcome) :
    Advanced c (.serving watcher address backoff pause)
      (c.serveTurn watcher address backoff pause accepted) := by
  unfold Connector.serveTurn
  split
  · -- a turn with news of a stop leaves
    refine .finish c _ _ fun e he => ?_
    obtain rfl := List.mem_singleton.mp he
    rfl
  · cases pause with
    | some pause =>
      exact ⟨rfl, fun w hw => Or.inl hw, Or.inl ⟨rfl, rfl, rfl⟩, fun e he => nomatch he⟩
    | none => exact .accept c watcher address backoff none accepted

/-- **One step.** Whatever step a run takes, it changes no more than this. -/
theorem advanced (c : Connector R) (outside : Surroundings) (run : Run) :
    Advanced c run (c.advance outside run) := by
  cases run with
  | entering => exact .enter c
  | preparing watcher => exact .prepare c watcher outside.files
  | listening watcher lookedUp =>
    rw [advance]
    split
    · -- the wait for a look-up changes the run alone
      exact ⟨rfl, fun w hw => Or.inl hw, Or.inl ⟨rfl, rfl, rfl⟩, fun e he => nomatch he⟩
    · exact .listen c watcher lookedUp outside.bound
  | serving watcher address backoff pause =>
    exact .serveTurn c watcher address backoff pause outside.accepted
  | finished result =>
    exact ⟨rfl, fun w hw => (nomatch hw), Or.inl ⟨rfl, rfl, rfl⟩, fun e he => nomatch he⟩

/-! ### Steps after a stop -/

/-- A run of a stopped connector is refused at the check: nothing is loaded or bound. -/
theorem advance_entering_of_closed {c : Connector R} (h : c.closed = true)
    (outside : Surroundings) :
    c.advance outside .entering = ({ c with bindState := .closed }, .finished (.ok ()), []) := by
  rw [advance, enter, if_pos h]
  rfl

/-- A run that serves and has news leaves: it neither accepts nor pauses. -/
theorem advance_serving_of_news {c : Connector R} {watcher : Watcher}
    (h : c.closing.hasNews watcher = true) (address : SocketAddress) (backoff : Backoff)
    (pause : Option ℕ) (outside : Surroundings) :
    c.advance outside (.serving watcher address backoff pause) =
      ({ c with bindState := .closed }, .finished (.ok ()), [stoppedRecord address]) := by
  rw [advance]
  unfold serveTurn
  rw [if_pos h]
  rfl

/-- **Nearer to the end.** A step of a run of a stopped connector, of which the run has news if it
watches, leaves it fewer steps and no end that it did not have before. -/
theorem ends_advance {c : Connector R} {run : Run} (h : c.closed = true)
    (hnews : ∀ w, run.watcher? = some w → c.closing.hasNews w = true)
    (outside : Surroundings) :
    (c.advance outside run).2.1.stepsLeft ≤ run.stepsLeft - 1 ∧
      ∀ result, (c.advance outside run).2.1.MayEndWith result → run.MayEndWith result := by
  -- by the phase of the run; past the check, only serving looks at the signal
  cases run with
  | entering =>
    rw [advance_entering_of_closed h]
    exact ⟨Nat.zero_le _, fun result hresult => hresult⟩
  | preparing watcher =>
    -- the load may fail still; the check that would have kept the run from it is behind it
    rw [advance, prepare]
    split
    · next e _ => exact ⟨Nat.zero_le _, fun result hresult => Or.inr (Or.inl ⟨e, hresult⟩)⟩
    · exact ⟨Nat.le_refl _, fun result hresult => hresult.imp_right Or.inr⟩
    · exact ⟨Nat.le_refl _, fun result hresult => hresult.imp_right Or.inr⟩
  | listening watcher lookedUp =>
    rw [advance]
    split
    · next hlooks =>
      -- the look-up that is waited for has not been there before
      have hfresh : lookedUp = false := by
        cases lookedUp with
        | false => rfl
        | true => simp at hlooks
      subst hfresh
      exact ⟨Nat.le_refl _, fun result hresult => hresult⟩
    · -- a bind that succeeds leaves the one turn of serving in which the news is seen
      have hsteps : 1 ≤ (Run.listening watcher lookedUp).stepsLeft - 1 := by
        cases lookedUp <;> exact Nat.le_add_left _ _
      cases outside.bound with
      | error cause =>
        exact ⟨Nat.zero_le _, fun result hresult => Or.inr ⟨_, cause, hresult⟩⟩
      | ok address => exact ⟨hsteps, fun result hresult => Or.inl hresult⟩
  | serving watcher address backoff pause =>
    rw [advance_serving_of_news (hnews watcher rfl)]
    exact ⟨Nat.zero_le _, fun result hresult => hresult⟩
  | finished result' => exact ⟨Nat.zero_le _, fun result hresult => hresult⟩

/-- A connector that listens no longer: it has no address, and whoever waits for the bind is told
so. -/
structure Unbound (c : Connector R) : Prop where
  bindState : c.bindState = .closed
  localAddress : c.localAddress = none
  answer : c.boundAnswer? = some none

theorem Unbound.of_closed {c : Connector R} (h : c.bindState = .closed) : c.Unbound := by
  refine ⟨h, ?_, ?_⟩
  · unfold Connector.localAddress
    rw [h]
  · unfold boundAnswer?
    rw [h]

/-! ### Polls -/

/-- So many steps in the same surroundings. -/
def advances (c : Connector R) (outside : Surroundings) : ℕ → Run → Connector R × Run × List Event
  | 0, run => (c, run, [])
  | n + 1, run =>
    let (c, run, events) := c.advance outside run
    let (c, run, more) := c.advances outside n run
    (c, run, events ++ more)

/-- Whether a poll is a number of steps. -/
def Reaches (c : Connector R) (outside : Surroundings) (run : Run) (polled : Polled R) : Prop :=
  ∃ n, c.advances outside n run = (polled.connector, polled.run, polled.events)

theorem Reaches.refl (c : Connector R) (outside : Surroundings) (run : Run) (h : Host) :
    c.Reaches outside run ⟨c, run, h, []⟩ := ⟨0, rfl⟩

theorem Reaches.step {c c' : Connector R} {outside : Surroundings} {run run' : Run}
    {events : List Event} {polled : Polled R}
    (hstep : c.advance outside run = (c', run', events)) (h : c'.Reaches outside run' polled) :
    c.Reaches outside run { polled with events := events ++ polled.events } := by
  obtain ⟨n, hn⟩ := h
  -- one step, and then those that were there
  refine ⟨n + 1, ?_⟩
  rw [advances, hstep]
  simp only [hn]

theorem Reaches.single {c c' : Connector R} {outside : Surroundings} {run run' : Run}
    {events : List Event} (hstep : c.advance outside run = (c', run', events)) (h : Host) :
    c.Reaches outside run ⟨c', run', h, events⟩ := by
  have hsteps := Reaches.step hstep (.refl c' outside run' h)
  rwa [List.append_nil] at hsteps

/-- The surroundings that a host gives a connector, whatever an accept gives there. -/
def surroundings (c : Connector R) (h : Host) (accepted : AcceptOutcome) : Surroundings :=
  { files := h.files
    looksUp := (SocketAddress.parse? c.spec.bindAddress).isNone
    bound := (c.bindOn h).1
    accepted }

theorem reaches_pollServing (c : Connector R) (h : Host) (outside : Surroundings)
    (watcher : Watcher) (address : SocketAddress) (backoff : Backoff) (pause : Option ℕ) :
    c.Reaches outside (.serving watcher address backoff pause)
      (c.pollServing h watcher address (.serving watcher address backoff pause)) := by
  unfold pollServing
  by_cases hnews : c.closing.hasNews watcher = true
  · rw [if_pos hnews]
    exact .single (advance_serving_of_news hnews address backoff pause outside)
      (h.release address)
  · rw [if_neg hnews]
    exact .refl c outside _ h

theorem reaches_pollListening (c : Connector R) (h : Host) (accepted : AcceptOutcome)
    (watcher : Watcher) (lookedUp : Bool) :
    c.Reaches (c.surroundings h accepted) (.listening watcher lookedUp)
      (c.pollListening h watcher lookedUp) := by
  have hadvance : c.advance (c.surroundings h accepted) (.listening watcher lookedUp) =
      if (SocketAddress.parse? c.spec.bindAddress).isNone && !lookedUp then
        (c, .listening watcher true, [])
      else c.listen watcher (c.bindOn h).1 := by
    rw [advance, surroundings]
  unfold pollListening
  by_cases hlooks : ((SocketAddress.parse? c.spec.bindAddress).isNone && !lookedUp) = true
  · -- the poll ends where the look-up is waited for
    rw [if_pos hlooks] at hadvance ⊢
    exact .single hadvance h
  · rw [if_neg hlooks] at hadvance ⊢
    rcases hbind : c.bindOn h with ⟨bound, h'⟩
    rw [hbind] at hadvance
    cases bound with
    | error cause => exact .single hadvance h'
    | ok address =>
      -- a poll that binds serves at once
      exact .step hadvance (reaches_pollServing _ h' _ watcher address {} none)

theorem reaches_pollPreparing (c : Connector R) (h : Host) (accepted : AcceptOutcome)
    (watcher : Watcher) :
    c.Reaches (c.surroundings h accepted) (.preparing watcher) (c.pollPreparing h watcher) := by
  have hstep : c.advance (c.surroundings h accepted) (.preparing watcher) =
      c.prepare watcher h.files := rfl
  -- with or without a key pair, the poll goes on to the bind
  unfold pollPreparing
  unfold prepare at hstep ⊢
  cases hpair : c.spec.keyPair h.files with
  | error e =>
    rw [hpair] at hstep
    exact .single hstep h
  | ok pair =>
    have hlisten := c.reaches_pollListening h accepted watcher false
    rw [hpair] at hstep
    cases pair with
    | none => exact .step hstep hlisten
    | some pair => exact .step hstep hlisten

/-- **Polls are steps.** A poll takes a run through a number of steps in the surroundings that the
host gives, with the same connector, run and events in the end. -/
theorem poll_advances (c : Connector R) (h : Host) (accepted : AcceptOutcome) (run : Run) :
    c.Reaches (c.surroundings h accepted) run (c.poll h run) := by
  cases run with
  | entering =>
    have hstep : c.advance (c.surroundings h accepted) .entering =
        (c.enter.1, c.enter.2, []) := rfl
    unfold poll enter at *
    by_cases hclosed : c.closed = true
    · rw [if_pos hclosed] at hstep ⊢
      exact .single hstep h
    · rw [if_neg hclosed] at hstep ⊢
      exact .step hstep (c.reaches_pollPreparing h accepted _)
  | preparing watcher => exact c.reaches_pollPreparing h accepted watcher
  | listening watcher lookedUp => exact c.reaches_pollListening h accepted watcher lookedUp
  | serving watcher address backoff pause =>
    exact c.reaches_pollServing h _ watcher address backoff pause
  | finished result => exact .refl c _ _ h

end Connector

end ServiceHost
