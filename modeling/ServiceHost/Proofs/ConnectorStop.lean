import Mathlib.Data.List.Forall2
import ServiceHost.Proofs.ConnectorRun
import ServiceHost.Server.Activity

/-!
# Stopping connectors

A connector that has been asked to stop stays so. A run of it watches the close signal from the
check on, so a stop is news for it wherever it comes: a run that has not been checked is refused,
one that serves leaves at its next turn, and one in between does so as soon as it serves.

* `Activity.Change` says what an act changes in the connectors and their runs, whatever act it is.
  The invariant `Activity.Sound` of connectors, runs and log is derived from it.
* `Activity.Asked` says of the acts alone which connectors they ask to stop, and
  `Activity.Governed` holds the activity against it: exactly these connectors are closed, and each
  stop of the server has done the steps that it was told to take.
* `Activity.Nearing` follows a run of a stopped connector to its end.
* `Activity.stops_for_good` puts this together for every activity.
* `Activity.run_stop`: a stop of the server that nothing interrupts is a whole `Server.stop`.
-/

namespace ServiceHost

/-! ### Reading an activity -/

theorem getElem?_set_cases {α : Type} {l : List α} {i j : ℕ} {x y : α}
    (h : (l.set i x)[j]? = some y) : (i = j ∧ y = x) ∨ (i ≠ j ∧ l[j]? = some y) := by
  by_cases hij : i = j
  · subst hij
    rw [List.getElem?_set_self'] at h
    obtain ⟨_, _, rfl⟩ := Option.map_eq_some_iff.mp h
    exact Or.inl ⟨rfl, rfl⟩
  · rw [List.getElem?_set_ne hij] at h
    exact Or.inr ⟨hij, h⟩

theorem getElem?_set_of_some {α : Type} {l : List α} {i : ℕ} {x y : α} (h : l[i]? = some y) :
    (l.set i x)[i]? = some x := by
  obtain ⟨hlt, -⟩ := List.getElem?_eq_some_iff.mp h
  exact List.getElem?_set_self hlt

theorem getElem?_concat_cases {α : Type} {l : List α} {i : ℕ} {x y : α}
    (h : (l ++ [x])[i]? = some y) : l[i]? = some y ∨ y = x := by
  by_cases hlt : i < l.length
  · rw [List.getElem?_append_left hlt] at h
    exact Or.inl h
  · rw [List.getElem?_append_right (Nat.le_of_not_lt hlt)] at h
    exact Or.inr (List.mem_singleton.mp (List.mem_of_getElem? h))

/-- What two related lists have in one place. -/
theorem forall₂_getElem?_cases {α β : Type} {P : α → β → Prop} {xs : List α} {ys : List β}
    (h : List.Forall₂ P xs ys) (k : ℕ) :
    (xs[k]? = none ∧ ys[k]? = none) ∨ ∃ x y, xs[k]? = some x ∧ ys[k]? = some y ∧ P x y := by
  induction h generalizing k with
  | nil => exact Or.inl ⟨rfl, rfl⟩
  | @cons x y xs ys hxy _ ih =>
    cases k with
    | zero => exact Or.inr ⟨x, y, rfl, rfl, hxy⟩
    | succ k => exact ih k

theorem forall₂_set_modify {α β : Type} {P : α → β → Prop} {xs : List α} {ys : List β}
    (h : List.Forall₂ P xs ys) {k : ℕ} {x : α} {f : β → β}
    (hx : ∀ y, ys[k]? = some y → P x (f y)) : List.Forall₂ P (xs.set k x) (ys.modify k f) := by
  -- by the pairs up to the place that is changed
  induction h generalizing k with
  | nil =>
    rw [List.set_nil, List.modify_nil]
    exact .nil
  | @cons x' y xs ys hxy hrest ih =>
    cases k with
    | zero => exact .cons (hx y rfl) hrest
    | succ k => exact .cons hxy (ih hx)

namespace Activity

variable {R : Type} {a a' : Activity R}

theorem connector?_of_slot {index : ℕ} {slot : Slot R}
    (hslot : a.server.slots[index]? = some slot) : a.connector? index = some slot.connector := by
  rw [connector?, hslot]
  rfl

theorem connector?_congr (h : a'.server.slots = a.server.slots) (index : ℕ) :
    a'.connector? index = a.connector? index := by
  rw [connector?, connector?, h]

/-- One connector is another one after the act, and the rest are as they were. -/
def Replaces (a a' : Activity R) (index : ℕ) (c : Connector R) : Prop :=
  ∀ j, a'.connector? j = if index = j then some c else a.connector? j

theorem Replaces.of_set {index : ℕ} {slot slot' : Slot R} {c : Connector R}
    (hslot : a.server.slots[index]? = some slot)
    (hslots : a'.server.slots = a.server.slots.set index slot') (hc : slot'.connector = c) :
    Replaces a a' index c := by
  subst hc
  intro j
  unfold connector?
  rw [hslots]
  by_cases heq : index = j
  · subst heq
    rw [getElem?_set_of_some hslot, if_pos rfl]
    rfl
  · rw [List.getElem?_set_ne heq, if_neg heq]

theorem Replaces.cases {index : ℕ} {c : Connector R} (h : Replaces a a' index c) {j : ℕ}
    {c' : Connector R} (hc : a'.connector? j = some c') :
    (index = j ∧ c' = c) ∨ (index ≠ j ∧ a.connector? j = some c') := by
  rw [h j] at hc
  split at hc
  · next heq => exact Or.inl ⟨heq, (Option.some.inj hc).symm⟩
  · next hne => exact Or.inr ⟨hne, hc⟩

/-! ### What an act changes -/

/-- Whether an act is the next step of the run of a call. -/
def Act.advances (call : ℕ) : Act → Bool
  | .advance call' _ => call' == call
  | _ => false

/-- The run of a call has taken a step, with this outcome for it and for its connector. -/
structure Stepped (a a' : Activity R) (call index : ℕ) (run : Run) (c : Connector R)
    (out : Connector R × Run × List Event) : Prop where
  call_eq : a.starts[call]? = some ⟨index, run⟩
  connector_eq : a.connector? index = some c
  starts_eq : a'.starts = a.starts.set call ⟨index, out.2.1⟩
  replaces : Replaces a a' index out.1

/-- What an act changes in connectors and starts, whatever act it is: nothing; a start is called;
a connector is stopped; or the run of a start takes a step. -/
inductive Change (a a' : Activity R) (act : Act) (events : List (ℕ × Event)) : Prop
  | rests (hconnectors : ∀ j, a'.connector? j = a.connector? j) (hstarts : a'.starts = a.starts)
      (hadvances : ∀ call, act.advances call = true → a.starts[call]? = none ∨
        ∃ index run, a.starts[call]? = some ⟨index, run⟩ ∧ a.connector? index = none)
      (hevents : events = [])
  | begins (index : ℕ) (hact : act = .start index)
      (hconnectors : ∀ j, a'.connector? j = a.connector? j)
      (hstarts : a'.starts = a.starts ++ [{ connector := index }]) (hevents : events = [])
  | closes (index : ℕ) (c : Connector R) (hact : ∀ call, act.advances call = false)
      (hconnector : a.connector? index = some c) (hreplaces : Replaces a a' index c.stop.1)
      (hstarts : a'.starts = a.starts) (hevents : events = c.stop.2.map (index, ·))
  | advances (call index : ℕ) (run : Run) (c : Connector R) (outside : Surroundings)
      (hact : act = .advance call outside)
      (hstepped : Stepped a a' call index run c (c.advance outside run))
      (hevents : events = (c.advance outside run).2.2.map (index, ·))

theorem stopConnector_cases (s : Server R) (index : ℕ) :
    (s.slots[index]? = none ∧ s.stopConnector index = none) ∨
      ∃ slot, s.slots[index]? = some slot ∧ s.stopConnector index =
        some ({ s with slots := s.slots.set index slot.stop.1 }, slot.stop.2) := by
  unfold Server.stopConnector
  cases hslot : s.slots[index]? with
  | none => exact Or.inl ⟨rfl, rfl⟩
  | some slot => exact Or.inr ⟨slot, rfl, rfl⟩

/-- The next step of a call whose connector is there. -/
theorem advance_of_connector {call index : ℕ} {run : Run} {c : Connector R}
    (hcall : a.starts[call]? = some ⟨index, run⟩) (hc : a.connector? index = some c)
    (outside : Surroundings) :
    Stepped a (a.advance call outside).1 call index run c (c.advance outside run) ∧
      (a.advance call outside).2 = (c.advance outside run).2.2.map (index, ·) := by
  obtain ⟨slot, hslot, rfl⟩ := Option.map_eq_some_iff.mp hc
  have hadvance : a.advance call outside =
      ({ a with
          server := { a.server with
            slots := a.server.slots.set index
              { slot with connector := (slot.connector.advance outside run).1 } }
          starts := a.starts.set call ⟨index, (slot.connector.advance outside run).2.1⟩ },
        (slot.connector.advance outside run).2.2.map (index, ·)) := by
    rw [advance, hcall]
    simp only [hslot]
  rw [hadvance]
  exact ⟨⟨hcall, hc, rfl, .of_set hslot rfl rfl⟩, rfl⟩

theorem change_advance (a : Activity R) (call : ℕ) (outside : Surroundings) :
    Change a (a.advance call outside).1 (.advance call outside) (a.advance call outside).2 := by
  have hself : ∀ call', (Act.advance call outside).advances call' = true → call = call' :=
    fun call' h => beq_iff_eq.mp h
  -- a call that was never made has no run to advance
  cases hcall : a.starts[call]? with
  | none =>
    have hnone : a.advance call outside = (a, []) := by rw [advance, hcall]
    rw [hnone]
    refine .rests (fun _ => rfl) rfl (fun call' h => Or.inl ?_) rfl
    rw [← hself call' h, hcall]
  | some start =>
    obtain ⟨index, run⟩ := start
    cases hc : a.connector? index with
    | none =>
      -- a call of a place without a connector stands still
      have hnone : a.advance call outside = (a, []) := by
        have hslot : a.server.slots[index]? = none := Option.map_eq_none_iff.mp hc
        rw [advance, hcall]
        simp only [hslot]
      rw [hnone]
      refine .rests (fun _ => rfl) rfl (fun call' h => Or.inr ⟨index, run, ?_, hc⟩) rfl
      rw [← hself call' h, hcall]
    | some c =>
      obtain ⟨hstepped, hevents⟩ := advance_of_connector hcall hc outside
      exact .advances call index run c outside rfl hstepped hevents

theorem change_stopConnector (a : Activity R) (index : ℕ) :
    Change a (a.stopConnector index).1 (.stopConnector index) (a.stopConnector index).2 := by
  unfold stopConnector
  rcases stopConnector_cases a.server index with ⟨-, hstop⟩ | ⟨slot, hslot, hstop⟩
  · rw [hstop]
    exact .rests (fun _ => rfl) rfl nofun rfl
  · rw [hstop]
    exact .closes index slot.connector (fun _ => rfl) (connector?_of_slot hslot)
      (.of_set hslot rfl rfl) rfl rfl

theorem advanceStop_of_none {call next : ℕ} (hcall : a.stops[call]? = some (.closing next))
    (hslot : a.server.slots[next]? = none) :
    a.advanceStop call =
      ({ a with server := a.server.markStopped, stops := a.stops.set call .ended }, []) := by
  -- behind the last connector there is nothing left to close
  have hstop : a.server.stopConnector next = none := by
    rw [Server.stopConnector, hslot]
    rfl
  unfold advanceStop
  simp only [hcall, hstop]

theorem advanceStop_of_slot {call next : ℕ} {slot : Slot R}
    (hcall : a.stops[call]? = some (.closing next))
    (hslot : a.server.slots[next]? = some slot) :
    a.advanceStop call =
      ({ a with
          server := { a.server with slots := a.server.slots.set next slot.stop.1 }
          stops := a.stops.set call (.closing (next + 1)) },
        slot.stop.2.map (next, ·)) := by
  have hstop : a.server.stopConnector next =
      some ({ a.server with slots := a.server.slots.set next slot.stop.1 }, slot.stop.2) := by
    rw [Server.stopConnector, hslot]
    rfl
  unfold advanceStop
  simp only [hcall, hstop]

theorem advanceStop_of_not_closing {call : ℕ} (h : ∀ next, a.stops[call]? ≠ some (.closing next)) :
    a.advanceStop call = (a, []) := by
  unfold advanceStop
  split
  · next next hcall => exact absurd hcall (h next)
  · rfl

/-- What a step of a stop can do. -/
theorem advanceStop_cases (a : Activity R) (call : ℕ) :
    (∃ next, a.stops[call]? = some (.closing next) ∧ a.server.slots[next]? = none ∧
      a.advanceStop call =
        ({ a with server := a.server.markStopped, stops := a.stops.set call .ended }, [])) ∨
    (∃ next slot, a.stops[call]? = some (.closing next) ∧ a.server.slots[next]? = some slot ∧
      a.advanceStop call =
        ({ a with
            server := { a.server with slots := a.server.slots.set next slot.stop.1 }
            stops := a.stops.set call (.closing (next + 1)) },
          slot.stop.2.map (next, ·))) ∨
    a.advanceStop call = (a, []) := by
  -- a stop that is over, or was never called, does nothing
  by_cases h : ∃ next, a.stops[call]? = some (.closing next)
  · obtain ⟨next, hcall⟩ := h
    cases hslot : a.server.slots[next]? with
    | none => exact Or.inl ⟨next, hcall, hslot, advanceStop_of_none hcall hslot⟩
    | some slot =>
      exact Or.inr (Or.inl ⟨next, slot, hcall, hslot, advanceStop_of_slot hcall hslot⟩)
  · exact Or.inr (Or.inr (advanceStop_of_not_closing fun next hcall => h ⟨next, hcall⟩))

theorem change_advanceStop (a : Activity R) (call : ℕ) :
    Change a (a.advanceStop call).1 (.advanceStop call) (a.advanceStop call).2 := by
  rcases a.advanceStop_cases call with
    ⟨next, -, -, hstep⟩ | ⟨next, slot, -, hslot, hstep⟩ | hstep <;> rw [hstep]
  · exact .rests (fun _ => rfl) rfl nofun rfl
  · exact .closes next slot.connector (fun _ => rfl) (connector?_of_slot hslot)
      (.of_set hslot rfl rfl) rfl rfl
  · exact .rests (fun _ => rfl) rfl nofun rfl

/-- **One act.** Whatever the act, this is all that it changes in connectors and starts. -/
theorem change_step (a : Activity R) (act : Act) :
    Change a (a.step act).1 act (a.step act).2 := by
  -- the acts that are left over change the state of the server at most
  cases act with
  | start index => exact .begins index rfl (fun _ => rfl) rfl rfl
  | advance call outside => exact a.change_advance call outside
  | stopConnector index => exact a.change_stopConnector index
  | stopServer =>
    rw [step, stopServer, Server.beginStop]
    split
    · exact .rests (fun _ => rfl) rfl nofun rfl
    · next server hserver =>
      -- no connector is closed before the stop goes on
      have hslots : server.slots = a.server.slots := by
        split at hserver
        · cases hserver
        · rw [← Option.some.inj hserver]
      exact .rests (connector?_congr hslots) rfl nofun rfl
  | advanceStop call => exact a.change_advanceStop call
  | beginStart =>
    rw [step, Server.beginStart]
    split
    · exact .rests (fun _ => rfl) rfl nofun rfl
    · next server hserver =>
      have hslots : server.slots = a.server.slots := by
        split at hserver
        · rw [← Except.ok.inj hserver]
        · cases hserver
      exact .rests (connector?_congr hslots) rfl nofun rfl
  | markRunning => exact .rests (fun _ => rfl) rfl nofun rfl

namespace Stepped

variable {call index : ℕ} {run : Run} {c : Connector R} {out : Connector R × Run × List Event}

theorem starts_self (h : Stepped a a' call index run c out) :
    a'.starts[call]? = some ⟨index, out.2.1⟩ := by
  rw [h.starts_eq]
  exact getElem?_set_of_some h.call_eq

theorem starts_of_ne (h : Stepped a a' call index run c out) {call' : ℕ} (hne : call ≠ call') :
    a'.starts[call']? = a.starts[call']? := by
  rw [h.starts_eq, List.getElem?_set_ne hne]

/-- A call is the one that has taken the step, or it stands where it stood. -/
theorem starts_cases (h : Stepped a a' call index run c out) {call' i : ℕ} {run' : Run}
    (hcall : a'.starts[call']? = some ⟨i, run'⟩) :
    (call = call' ∧ i = index ∧ run' = out.2.1) ∨ a.starts[call']? = some ⟨i, run'⟩ := by
  rw [h.starts_eq] at hcall
  rcases getElem?_set_cases hcall with ⟨heq, hnew⟩ | ⟨-, hold⟩
  · exact Or.inl ⟨heq, (StartCall.mk.inj hnew).1, (StartCall.mk.inj hnew).2⟩
  · exact Or.inr hold

/-- The call that has taken the step was of this run and of this connector. -/
theorem eq_of_call (h : Stepped a a' call index run c out) {i : ℕ} {run' : Run}
    (hcall : a.starts[call]? = some ⟨i, run'⟩) : i = index ∧ run' = run :=
  StartCall.mk.inj (Option.some.inj (hcall.symm.trans h.call_eq))

end Stepped

/-! ### The invariant of connectors, runs and log -/

/-- The records of stops of a connector. -/
def stopsOf (index : ℕ) (log : List (ℕ × Event)) : List (ℕ × Event) :=
  log.filter fun x => x.1 == index && Connector.isStopping x.2

theorem stopsOf_append (index : ℕ) (log more : List (ℕ × Event)) :
    stopsOf index (log ++ more) = stopsOf index log ++ stopsOf index more :=
  List.filter_append _ _

/-- Events of another connector, or that tell of no stop, are none of them. -/
theorem stopsOf_map_eq_nil {index j : ℕ} {events : List Event}
    (h : j = index → ∀ e ∈ events, Connector.isStopping e = false) :
    stopsOf index (events.map (j, ·)) = [] := by
  refine List.filter_eq_nil_iff.mpr fun x hx => ?_
  obtain ⟨e, he, rfl⟩ := List.mem_map.mp hx
  by_cases hj : j = index
  · simp [h hj e he]
  · simp [hj]

/-- A stop is logged where it is the first one. -/
theorem length_stopsOf_stop (index : ℕ) (c : Connector R) :
    (stopsOf index (c.stop.2.map (index, ·))).length = if c.closed then 0 else 1 := by
  -- the signal itself tells whether a stop came before
  have hevents : c.stop.2 = if c.closed then [] else [c.stoppingRecord] := rfl
  rw [hevents]
  by_cases hclosed : c.closed = true
  · rw [if_pos hclosed, if_pos hclosed]
    rfl
  · have hstopping : Connector.isStopping c.stoppingRecord = true := rfl
    rw [if_neg hclosed, if_neg hclosed, stopsOf, List.map_singleton, List.filter_singleton]
    simp only [hstopping, beq_self_eq_true, Bool.and_true, cond_true, List.length_singleton]

/-- What holds of the connectors of an activity, given the log so far. -/
structure Sound (log : List (ℕ × Event)) (a : Activity R) : Prop where
  signal : ∀ i c, a.connector? i = some c → c.SignalSound
  /-- A run past the check has seen no stop yet. -/
  seen : ∀ (call i : ℕ) (run : Run) (w : Watcher), a.starts[call]? = some ⟨i, run⟩ →
    run.watcher? = some w → w.seen = 0
  /-- A connector whose bind is still to come has no run that is over. -/
  pending : ∀ i c, a.connector? i = some c → c.bindState = .pending →
    ∀ (call : ℕ) (run : Run), a.starts[call]? = some ⟨i, run⟩ → run.isOver = false
  /-- A connector that is bound has a run that serves. -/
  bound : ∀ i c address, a.connector? i = some c → c.bindState = .bound address →
    ∃ (call : ℕ) (run : Run), a.starts[call]? = some ⟨i, run⟩ ∧ run.isServing = true
  /-- A stop has been logged once, or there was none. -/
  logged : ∀ i c, a.connector? i = some c →
    (stopsOf i log).length = if c.closed then 1 else 0

namespace Sound

variable {log : List (ℕ × Event)}

/-- The signal is news for every run that watches it. -/
theorem news (h : Sound log a) {i : ℕ} {c : Connector R} (hc : a.connector? i = some c)
    (hclosed : c.closed = true) {call : ℕ} {run : Run} (hcall : a.starts[call]? = some ⟨i, run⟩)
    (w : Watcher) (hw : run.watcher? = some w) : c.closing.hasNews w = true := by
  -- a run has seen no write, and a closed signal has been written
  have hseen := h.seen call i run w hcall hw
  have hwrites := (h.signal i c hc).mp hclosed
  unfold Watched.hasNews
  rw [hseen, bne_iff_ne]
  exact (Nat.ne_of_gt hwrites).symm

theorem rests (h : Sound log a) (hconnectors : ∀ j, a'.connector? j = a.connector? j)
    (hstarts : a'.starts = a.starts) : Sound log a' := by
  refine ⟨?_, ?_, ?_, ?_, ?_⟩
  · simpa only [hconnectors] using h.signal
  · simpa only [hstarts] using h.seen
  · simpa only [hconnectors, hstarts] using h.pending
  · simpa only [hconnectors, hstarts] using h.bound
  · simpa only [hconnectors] using h.logged

/-- A start that is called has no watcher, does not serve and is not over. -/
theorem begins (h : Sound log a) {index : ℕ}
    (hconnectors : ∀ j, a'.connector? j = a.connector? j)
    (hstarts : a'.starts = a.starts ++ [{ connector := index }]) : Sound log a' := by
  have hcases : ∀ {call i : ℕ} {run : Run}, a'.starts[call]? = some ⟨i, run⟩ →
      a.starts[call]? = some ⟨i, run⟩ ∨ run = .entering := by
    intro call i run hcall
    rw [hstarts] at hcall
    exact (getElem?_concat_cases hcall).imp_right fun hnew => (StartCall.mk.inj hnew).2
  -- the new call is of a run that enters, and the others stand where they stood
  refine ⟨?_, fun call i run w hcall hw => ?_, fun i c hc hpending call run hcall => ?_,
    fun i c address hc hbound => ?_, ?_⟩
  · simpa only [hconnectors] using h.signal
  · rcases hcases hcall with hold | rfl
    · exact h.seen call i run w hold hw
    · cases hw
  · rw [hconnectors] at hc
    rcases hcases hcall with hold | rfl
    · exact h.pending i c hc hpending call run hold
    · rfl
  · rw [hconnectors] at hc
    obtain ⟨call, run, hcall, hserving⟩ := h.bound i c address hc hbound
    obtain ⟨hlt, -⟩ := List.getElem?_eq_some_iff.mp hcall
    refine ⟨call, run, ?_, hserving⟩
    rw [hstarts, List.getElem?_append_left hlt]
    exact hcall
  · simpa only [hconnectors] using h.logged

/-- A stop changes nothing but the signal, and is logged where it is the first one. -/
theorem closes (h : Sound log a) {index : ℕ} {c : Connector R}
    (hold : a.connector? index = some c) (hreplaces : Replaces a a' index c.stop.1)
    (hstarts : a'.starts = a.starts) : Sound (log ++ c.stop.2.map (index, ·)) a' := by
  refine ⟨fun i c' hc => ?_, ?_, fun i c' hc hpending => ?_, fun i c' address hc hbound => ?_,
    fun i c' hc => ?_⟩
  · rcases hreplaces.cases hc with ⟨rfl, rfl⟩ | ⟨-, hc⟩
    · exact iff_of_true rfl (Nat.succ_pos _)
    · exact h.signal i c' hc
  · simpa only [hstarts] using h.seen
  · rw [hstarts]
    rcases hreplaces.cases hc with ⟨rfl, rfl⟩ | ⟨-, hc⟩
    · exact h.pending index c hold hpending
    · exact h.pending i c' hc hpending
  · rw [hstarts]
    rcases hreplaces.cases hc with ⟨rfl, rfl⟩ | ⟨-, hc⟩
    · exact h.bound index c address hold hbound
    · exact h.bound i c' address hc hbound
  · -- the first stop is logged and the connector is open before it
    rw [stopsOf_append, List.length_append]
    rcases hreplaces.cases hc with ⟨rfl, rfl⟩ | ⟨hne, hc⟩
    · have hclosed : c.stop.1.closed = true := rfl
      rw [h.logged index c hold, length_stopsOf_stop, hclosed]
      cases c.closed <;> rfl
    · rw [stopsOf_map_eq_nil fun heq => absurd heq hne]
      exact h.logged i c' hc

section Advance

variable {call index : ℕ} {run : Run} {c : Connector R} {outside : Surroundings}

/-- A run that is checked has seen no stop, since it passes the check of an open connector only. -/
theorem seen_advance (h : Sound log a)
    (hs : Stepped a a' call index run c (c.advance outside run)) :
    ∀ (call' i : ℕ) (run' : Run) (w : Watcher), a'.starts[call']? = some ⟨i, run'⟩ →
      run'.watcher? = some w → w.seen = 0 := by
  intro call' i run' w hcall hw
  rcases hs.starts_cases hcall with ⟨-, rfl, rfl⟩ | hcall
  · rcases (c.advanced outside run).watched w hw with hw | ⟨hopen, rfl⟩
    · exact h.seen call _ run w hs.call_eq hw
    · -- the connector was open at the check, so nothing had been written to its signal
      have hsignal := h.signal _ c hs.connector_eq
      by_contra hwrites
      have hclosed := hsignal.mpr (Nat.pos_of_ne_zero hwrites)
      rw [hopen] at hclosed
      cases hclosed
  · exact h.seen call' i run' w hcall hw

/-- A run that ends leaves the bind state closed, so that no bind is still to come. -/
theorem pending_advance (h : Sound log a)
    (hs : Stepped a a' call index run c (c.advance outside run)) :
    ∀ i c', a'.connector? i = some c' → c'.bindState = .pending →
      ∀ (call' : ℕ) (run' : Run), a'.starts[call']? = some ⟨i, run'⟩ → run'.isOver = false := by
  intro i c' hc hpending call' run' hcall
  rcases hs.replaces.cases hc with ⟨rfl, rfl⟩ | ⟨hne, hc⟩
  · -- only a step that moves nothing leaves a bind to come
    rcases (c.advanced outside run).moved with ⟨hbind, -, hended⟩ | ⟨⟨_, hbind⟩, -⟩ | ⟨hbind, -⟩
    · have hwas : c.bindState = .pending := hbind.symm.trans hpending
      rcases hs.starts_cases hcall with ⟨-, -, rfl⟩ | hcall
      · exact hended.trans (h.pending index c hs.connector_eq hwas call run hs.call_eq)
      · exact h.pending index c hs.connector_eq hwas call' run' hcall
    · rw [hbind] at hpending
      cases hpending
    · rw [hbind] at hpending
      cases hpending
  · rcases hs.starts_cases hcall with ⟨-, rfl, -⟩ | hcall
    · exact absurd rfl hne
    · exact h.pending i c' hc hpending call' run' hcall

/-- A run that serves goes on, or its step leaves the bind state closed. -/
theorem bound_advance (h : Sound log a)
    (hs : Stepped a a' call index run c (c.advance outside run)) :
    ∀ i c' address, a'.connector? i = some c' → c'.bindState = .bound address →
      ∃ (call' : ℕ) (run' : Run), a'.starts[call']? = some ⟨i, run'⟩ ∧ run'.isServing = true := by
  intro i c' address hc hbound
  rcases hs.replaces.cases hc with ⟨rfl, rfl⟩ | ⟨hne, hc⟩
  · rcases (c.advanced outside run).moved with ⟨hbind, hserving, -⟩ | ⟨-, hserving⟩ | ⟨hbind, -⟩
    · obtain ⟨call', run', hcall, hserves⟩ :=
        h.bound index c address hs.connector_eq (hbind.symm.trans hbound)
      by_cases heq : call = call'
      · -- the run that served has taken the step
        subst heq
        obtain ⟨-, rfl⟩ := hs.eq_of_call hcall
        exact ⟨call, _, hs.starts_self, hserving.trans hserves⟩
      · exact ⟨call', run', (hs.starts_of_ne heq).trans hcall, hserves⟩
    · -- the run has just begun to serve
      exact ⟨call, _, hs.starts_self, hserving⟩
    · rw [hbind] at hbound
      cases hbound
  · -- the step was of a run of another connector
    obtain ⟨call', run', hcall, hserves⟩ := h.bound i c' address hc hbound
    refine ⟨call', run', (hs.starts_of_ne fun heq => hne ?_).trans hcall, hserves⟩
    subst heq
    exact (hs.eq_of_call hcall).1.symm

/-- A step of a run keeps the signal and logs no stop. -/
theorem advances (h : Sound log a) (hs : Stepped a a' call index run c (c.advance outside run)) :
    Sound (log ++ (c.advance outside run).2.2.map (index, ·)) a' := by
  have hadvanced := c.advanced outside run
  have hclosed : (c.advance outside run).1.closed = c.closed :=
    congrArg Watched.value hadvanced.closing_eq
  refine ⟨fun i c' hc => ?_, h.seen_advance hs, h.pending_advance hs, h.bound_advance hs,
    fun i c' hc => ?_⟩
  · rcases hs.replaces.cases hc with ⟨rfl, rfl⟩ | ⟨-, hc⟩
    · have hsignal := h.signal index c hs.connector_eq
      unfold Connector.SignalSound at hsignal ⊢
      rw [hclosed, hadvanced.closing_eq]
      exact hsignal
    · exact h.signal i c' hc
  · rw [stopsOf_append, stopsOf_map_eq_nil fun _ => hadvanced.quiet, List.append_nil]
    rcases hs.replaces.cases hc with ⟨rfl, rfl⟩ | ⟨-, hc⟩
    · rw [h.logged index c hs.connector_eq, hclosed]
    · exact h.logged i c' hc

end Advance

/-- **One act keeps it.** -/
theorem step (h : Sound log a) (act : Act) :
    Sound (log ++ (a.step act).2) (a.step act).1 := by
  cases a.change_step act with
  | rests hconnectors hstarts hadvances hevents =>
    rw [hevents, List.append_nil]
    exact h.rests hconnectors hstarts
  | begins index hact hconnectors hstarts hevents =>
    rw [hevents, List.append_nil]
    exact h.begins hconnectors hstarts
  | closes index c hact hconnector hreplaces hstarts hevents =>
    rw [hevents]
    exact h.closes hconnector hreplaces hstarts
  | advances call index run c outside hact hstepped hevents =>
    rw [hevents]
    exact h.advances hstepped

/-- **Acts keep it**, whatever they are. -/
theorem run (h : Sound log a) (acts : List Act) :
    Sound (log ++ (a.run acts).2) (a.run acts).1 := by
  induction acts generalizing log a with
  | nil => rwa [Activity.run, List.append_nil]
  | cons act rest ih =>
    have hrest := ih (h.step act)
    rwa [List.append_assoc] at hrest

end Sound

/-! ### Who has stopped a connector -/

/-- The steps that stops of the server have been told to take, with one act more. -/
def stopStep (taken : List ℕ) : Act → List ℕ
  | .stopServer => taken ++ [0]
  | .advanceStop call => taken.modify call (· + 1)
  | _ => taken

/-- How many steps each stop of the server has been told to take: the fold of the acts that call a
stop or let it go on. -/
def stopSteps (acts : List Act) : List ℕ := acts.foldl stopStep []

/-- Whether acts ask a connector to stop: on its own, or by a stop of the server that they let come
past it. -/
def Asked (acts : List Act) (index : ℕ) : Prop :=
  .stopConnector index ∈ acts ∨ ∃ taken ∈ stopSteps acts, index < taken

section Asked

variable (acts : List Act)

theorem stopSteps_concat (act : Act) :
    stopSteps (acts ++ [act]) = stopStep (stopSteps acts) act := by
  rw [stopSteps, List.foldl_append]
  rfl

/-- An act that closes nothing asks nobody. -/
theorem asked_concat {acts : List Act} {act : Act} (hact : ∀ i, act ≠ .stopConnector i)
    (hsteps : stopStep (stopSteps acts) act = stopSteps acts) (index : ℕ) :
    Asked (acts ++ [act]) index ↔ Asked acts index := by
  have hother : ¬ Act.stopConnector index = act := fun heq => hact index heq.symm
  unfold Asked
  rw [stopSteps_concat, hsteps, List.mem_append, List.mem_singleton, or_iff_left hother]

theorem asked_concat_stopConnector (index i : ℕ) :
    Asked (acts ++ [.stopConnector index]) i ↔ Asked acts i ∨ index = i := by
  have hsteps : stopSteps (acts ++ [.stopConnector index]) = stopSteps acts :=
    stopSteps_concat acts _
  unfold Asked
  rw [hsteps, List.mem_append, List.mem_singleton, Act.stopConnector.injEq, eq_comm (a := i)]
  exact or_right_comm

/-- A stop of the server that is called has come past no connector yet. -/
theorem asked_concat_stopServer (index : ℕ) :
    Asked (acts ++ [.stopServer]) index ↔ Asked acts index := by
  have hother : ¬ Act.stopConnector index = .stopServer := nofun
  unfold Asked
  rw [stopSteps_concat, List.mem_append, List.mem_singleton, or_iff_left hother]
  refine or_congr_right ⟨?_, ?_⟩
  · rintro ⟨taken, htaken, hlt⟩
    rcases List.mem_append.mp htaken with htaken | hzero
    · exact ⟨taken, htaken, hlt⟩
    · rw [List.mem_singleton.mp hzero] at hlt
      exact absurd hlt (Nat.not_lt_zero index)
  · rintro ⟨taken, htaken, hlt⟩
    exact ⟨taken, List.mem_append_left _ htaken, hlt⟩

/-- A step of a stop of the server comes past the next connector. -/
theorem asked_concat_advanceStop {acts : List Act} {call taken : ℕ}
    (h : (stopSteps acts)[call]? = some taken) (index : ℕ) :
    Asked (acts ++ [.advanceStop call]) index ↔ Asked acts index ∨ taken = index := by
  have hother : ¬ Act.stopConnector index = .advanceStop call := nofun
  -- the count of this stop is one more, and no other count changes
  have hnew : ((stopSteps acts).modify call (· + 1))[call]? = some (taken + 1) := by
    rw [List.getElem?_modify_eq, h]
    rfl
  unfold Asked
  rw [stopSteps_concat, List.mem_append, List.mem_singleton, or_iff_left hother, or_assoc]
  refine or_congr_right ⟨?_, ?_⟩
  · rintro ⟨n, hn, hlt⟩
    obtain ⟨j, hj⟩ := List.mem_iff_getElem?.mp hn
    by_cases heq : call = j
    · subst heq
      obtain rfl : taken + 1 = n := Option.some.inj (hnew.symm.trans hj)
      rcases Nat.lt_succ_iff_lt_or_eq.mp hlt with hlt | rfl
      · exact Or.inl ⟨taken, List.mem_of_getElem? h, hlt⟩
      · exact Or.inr rfl
    · rw [stopStep, List.getElem?_modify_ne _ _ heq] at hj
      exact Or.inl ⟨n, List.mem_of_getElem? hj, hlt⟩
  · rintro (⟨n, hn, hlt⟩ | rfl)
    · obtain ⟨j, hj⟩ := List.mem_iff_getElem?.mp hn
      by_cases heq : call = j
      · subst heq
        obtain rfl : taken = n := Option.some.inj (h.symm.trans hj)
        exact ⟨taken + 1, List.mem_of_getElem? hnew, Nat.lt_succ_of_lt hlt⟩
      · refine ⟨n, List.mem_of_getElem? (i := j) ?_, hlt⟩
        rwa [stopStep, List.getElem?_modify_ne _ _ heq]
    · exact ⟨taken + 1, List.mem_of_getElem? hnew, Nat.lt_succ_self taken⟩

end Asked

/-- Whether the connector of a place is closed. -/
def closed? (a : Activity R) (index : ℕ) : Option Bool := (a.connector? index).map (·.closed)

/-- Whether no connector is open. -/
def AllClosed (a : Activity R) : Prop := ∀ i closed, a.closed? i = some closed → closed = true

/-- Where a stop of the server stands after so many steps: at the next connector, or at its end,
with every connector closed. -/
def StandsAt (a : Activity R) (call : StopCall) (taken : ℕ) : Prop :=
  call = .closing taken ∨ (call = .ended ∧ a.AllClosed)

/-- What holds of the stops of an activity, given the acts so far. -/
structure Governed (acts : List Act) (a : Activity R) : Prop where
  closed_iff : ∀ i closed, a.closed? i = some closed → (closed = true ↔ Asked acts i)
  /-- A server that is stopped has no open connector. -/
  stopped : a.server.state = .stopped → a.AllClosed
  /-- Each call of a stop is on record, and has done the steps that it was told to take. -/
  calls : List.Forall₂ a.StandsAt a.stops (stopSteps acts)

theorem Replaces.closed? {index : ℕ} {c : Connector R} (h : Replaces a a' index c) (j : ℕ) :
    a'.closed? j = if index = j then some c.closed else a.closed? j := by
  unfold Activity.closed?
  rw [h j]
  split <;> rfl

theorem AllClosed.congr (h : a.AllClosed) (hclosed : ∀ i, a'.closed? i = a.closed? i) :
    a'.AllClosed := by
  intro i closed hi
  rw [hclosed] at hi
  exact h i closed hi

/-- That a connector is closed opens none. -/
theorem AllClosed.closes (h : a.AllClosed) {index : ℕ} {c : Connector R}
    (hreplaces : Replaces a a' index c.stop.1) : a'.AllClosed := by
  intro i closed hi
  rw [hreplaces.closed?] at hi
  by_cases heq : index = i
  · rw [if_pos heq] at hi
    exact (Option.some.inj hi).symm
  · rw [if_neg heq] at hi
    exact h i closed hi

theorem StandsAt.imp {call : StopCall} {taken : ℕ} (h : a.StandsAt call taken)
    (hclosed : a.AllClosed → a'.AllClosed) : a'.StandsAt call taken :=
  h.imp_right fun hended => ⟨hended.1, hclosed hended.2⟩

namespace Governed

variable {acts : List Act} {act : Act}

/-- An act that closes no connector, asks none, and does not make the server stopped. -/
theorem keeps (h : Governed acts a) (hclosed : ∀ i, a'.closed? i = a.closed? i)
    (hasked : ∀ i closed, a.closed? i = some closed →
      (Asked (acts ++ [act]) i ↔ Asked acts i))
    (hstate : a'.server.state = .stopped → a.server.state = .stopped)
    (hcalls : List.Forall₂ a.StandsAt a'.stops (stopSteps (acts ++ [act]))) :
    Governed (acts ++ [act]) a' where
  closed_iff := by
    intro i closed hi
    rw [hclosed] at hi
    rw [h.closed_iff i closed hi, hasked i closed hi]
  stopped := fun hstopped => (h.stopped (hstate hstopped)).congr hclosed
  calls := hcalls.imp fun _ _ hstands => hstands.imp fun hall => hall.congr hclosed

/-- An act that closes the connector which it asks. -/
theorem closes (h : Governed acts a) {index : ℕ} {c : Connector R}
    (hreplaces : Replaces a a' index c.stop.1)
    (hasked : ∀ i, Asked (acts ++ [act]) i ↔ Asked acts i ∨ index = i)
    (hstate : a'.server.state = a.server.state)
    (hcalls : List.Forall₂ a.StandsAt a'.stops (stopSteps (acts ++ [act]))) :
    Governed (acts ++ [act]) a' where
  closed_iff := by
    -- one connector is closed and asked by the act, and for the rest neither changes
    intro i closed hi
    rw [hreplaces.closed?] at hi
    rw [hasked]
    by_cases heq : index = i
    · rw [if_pos heq] at hi
      exact iff_of_true (Option.some.inj hi).symm (Or.inr heq)
    · rw [if_neg heq] at hi
      rw [h.closed_iff i closed hi, or_iff_left heq]
  stopped := fun hstopped => (h.stopped (hstate ▸ hstopped)).closes hreplaces
  calls := hcalls.imp fun _ _ hstands => hstands.imp fun hall => hall.closes hreplaces

/-- An act that has to do with neither connectors nor stops. -/
theorem rests (h : Governed acts a) (hact : ∀ i, act ≠ .stopConnector i)
    (hsteps : stopStep (stopSteps acts) act = stopSteps acts)
    (hclosed : ∀ i, a'.closed? i = a.closed? i) (hstops : a'.stops = a.stops)
    (hstate : a'.server.state = .stopped → a.server.state = .stopped) :
    Governed (acts ++ [act]) a' := by
  refine h.keeps hclosed (fun i _ _ => asked_concat hact hsteps i) hstate ?_
  rw [hstops, stopSteps_concat, hsteps]
  exact h.calls

/-- A step of a run keeps the signals. -/
theorem advance (h : Governed acts a) (call : ℕ) (outside : Surroundings) :
    Governed (acts ++ [.advance call outside]) (a.advance call outside).1 := by
  have hstops : (a.advance call outside).1.stops = a.stops ∧
      (a.advance call outside).1.server.state = a.server.state := by
    unfold Activity.advance
    split
    · exact ⟨rfl, rfl⟩
    · split <;> exact ⟨rfl, rfl⟩
  refine h.rests nofun rfl (fun i => ?_) hstops.1 fun hstopped => hstops.2 ▸ hstopped
  -- of the four kinds of change, only a step of a run replaces a connector here
  cases a.change_advance call outside with
  | rests hconnectors => rw [closed?, closed?, hconnectors]
  | begins index hact hconnectors => rw [closed?, closed?, hconnectors]
  | closes index c hact =>
    have hself : (Act.advance call outside).advances call = true := beq_self_eq_true call
    rw [hact] at hself
    cases hself
  | advances call' index run c outside' hact hstepped =>
    have hclosed : (c.advance outside' run).1.closed = c.closed :=
      congrArg Watched.value (c.advanced outside' run).closing_eq
    rw [hstepped.replaces.closed?]
    split
    · next heq =>
      subst heq
      rw [hclosed, closed?, hstepped.connector_eq]
      rfl
    · rfl

theorem stopConnector (h : Governed acts a) (index : ℕ) :
    Governed (acts ++ [.stopConnector index]) (a.stopConnector index).1 := by
  have hsteps : stopSteps (acts ++ [.stopConnector index]) = stopSteps acts :=
    stopSteps_concat acts _
  unfold Activity.stopConnector
  rcases stopConnector_cases a.server index with ⟨hslot, hstop⟩ | ⟨slot, hslot, hstop⟩
  · rw [hstop]
    refine h.keeps (fun _ => rfl) (fun i closed hi => ?_) id (hsteps ▸ h.calls)
    -- there is no connector in this place
    have hne : ¬ index = i := by
      rintro rfl
      rw [closed?, connector?, hslot] at hi
      cases hi
    rw [asked_concat_stopConnector, or_iff_left hne]
  · rw [hstop]
    exact h.closes (.of_set hslot rfl rfl) (asked_concat_stopConnector acts index) rfl
      (hsteps ▸ h.calls)

theorem stopServer (h : Governed acts a) :
    Governed (acts ++ [.stopServer]) a.stopServer := by
  have hasked : ∀ i closed, a.closed? i = some closed →
      (Asked (acts ++ [.stopServer]) i ↔ Asked acts i) :=
    fun i _ _ => asked_concat_stopServer acts i
  have hsteps : stopSteps (acts ++ [.stopServer]) = stopSteps acts ++ [0] :=
    stopSteps_concat acts _
  unfold Activity.stopServer
  cases hbegin : a.server.beginStop with
  | none =>
    have hstate : a.server.state = .stopped := by
      unfold Server.beginStop at hbegin
      split at hbegin
      · assumption
      · cases hbegin
    -- the stop is over at once, for no connector is open
    refine h.keeps (fun _ => rfl) hasked id ?_
    rw [hsteps]
    exact List.rel_append h.calls (.cons (Or.inr ⟨rfl, h.stopped hstate⟩) .nil)
  | some server =>
    have hserver : server = { a.server with state := .stopping } := by
      unfold Server.beginStop at hbegin
      split at hbegin
      · cases hbegin
      · exact (Option.some.inj hbegin).symm
    subst hserver
    refine h.keeps (fun _ => rfl) hasked nofun ?_
    rw [hsteps]
    exact List.rel_append h.calls (.cons (Or.inl rfl) .nil)

/-- A stop that stands behind the last connector has come past each of them. -/
theorem allClosed (h : Governed acts a) {call taken : ℕ}
    (htaken : (stopSteps acts)[call]? = some taken) (hslot : a.server.slots[taken]? = none) :
    a.AllClosed := by
  intro i closed hi
  obtain ⟨c, hc, -⟩ := Option.map_eq_some_iff.mp hi
  obtain ⟨slot, hslot', -⟩ := Option.map_eq_some_iff.mp hc
  obtain ⟨hlt, -⟩ := List.getElem?_eq_some_iff.mp hslot'
  have hle := List.getElem?_eq_none_iff.mp hslot
  -- it has been told to take a step for this place, too
  apply (h.closed_iff i closed hi).mpr
  exact Or.inr ⟨taken, List.mem_of_getElem? htaken, Nat.lt_of_lt_of_le hlt hle⟩

theorem advanceStop (h : Governed acts a) (call : ℕ) :
    Governed (acts ++ [.advanceStop call]) (a.advanceStop call).1 := by
  have hsteps : stopSteps (acts ++ [.advanceStop call]) =
      (stopSteps acts).modify call (· + 1) := stopSteps_concat acts _
  rcases forall₂_getElem?_cases h.calls call with
    ⟨hcall, hnone⟩ | ⟨_, taken, hcall, htaken, rfl | ⟨rfl, hall⟩⟩
  · -- there is no such stop
    have hstep : a.advanceStop call = (a, []) :=
      advanceStop_of_not_closing fun next => by rw [hcall]; exact nofun
    have hsame : stopStep (stopSteps acts) (.advanceStop call) = stopSteps acts :=
      List.modify_eq_self (List.getElem?_eq_none_iff.mp hnone)
    rw [hstep]
    exact h.rests nofun hsame (fun _ => rfl) rfl id
  · cases hslot : a.server.slots[taken]? with
    | none =>
      have hall := h.allClosed htaken hslot
      rw [advanceStop_of_none hcall hslot]
      refine ⟨fun i closed hi => ?_, fun _ => hall, ?_⟩
      · have hasked := (h.closed_iff i closed hi).mp (hall i closed hi)
        rw [asked_concat_advanceStop htaken]
        exact iff_of_true (hall i closed hi) (Or.inl hasked)
      · rw [hsteps]
        exact forall₂_set_modify h.calls fun _ _ => Or.inr ⟨rfl, hall⟩
    | some slot =>
      -- the one connector that it comes past is the one that it closes
      rw [advanceStop_of_slot hcall hslot]
      refine h.closes (.of_set hslot rfl rfl) (asked_concat_advanceStop htaken) rfl ?_
      rw [hsteps]
      refine forall₂_set_modify h.calls fun n hn => Or.inl ?_
      rw [Option.some.inj (htaken.symm.trans hn)]
  · -- a stop that is over does nothing, and every connector has been asked
    have hstep : a.advanceStop call = (a, []) :=
      advanceStop_of_not_closing fun next => by rw [hcall]; exact nofun
    have hsame : a.stops.set call .ended = a.stops := by
      obtain ⟨hlt, hended⟩ := List.getElem?_eq_some_iff.mp hcall
      rw [← hended, List.set_getElem_self]
    rw [hstep]
    refine h.keeps (fun _ => rfl) (fun i closed hi => ?_) id ?_
    · have hasked := (h.closed_iff i closed hi).mp (hall i closed hi)
      rw [asked_concat_advanceStop htaken]
      exact iff_of_true (Or.inl hasked) hasked
    · rw [hsteps, ← hsame]
      exact forall₂_set_modify h.calls fun _ _ => Or.inr ⟨rfl, hall⟩

/-- **One act keeps it.** -/
theorem step (h : Governed acts a) (act : Act) : Governed (acts ++ [act]) (a.step act).1 := by
  cases act with
  | start index => exact h.rests nofun rfl (fun _ => rfl) rfl id
  | advance call outside => exact h.advance call outside
  | stopConnector index => exact h.stopConnector index
  | stopServer => exact h.stopServer
  | advanceStop call => exact h.advanceStop call
  | beginStart =>
    rw [Activity.step, Server.beginStart]
    split
    · exact h.rests nofun rfl (fun _ => rfl) rfl id
    · next server hserver =>
      split at hserver
      · obtain rfl := Except.ok.inj hserver
        exact h.rests nofun rfl (fun _ => rfl) rfl nofun
      · cases hserver
  | markRunning => exact h.rests nofun rfl (fun _ => rfl) rfl nofun

/-- **Acts keep it.** -/
theorem run (h : Governed acts a) (more : List Act) :
    Governed (acts ++ more) (a.run more).1 := by
  induction more generalizing acts a with
  | nil => rwa [Activity.run, List.append_nil]
  | cons act rest ih =>
    have hrest := ih (h.step act)
    rwa [List.append_assoc] at hrest

end Governed

/-! ### Activities from the start on -/

theorem connector?_ofConnectors (connectors : List (Connector R)) (index : ℕ) :
    (ofConnectors connectors).connector? index = connectors[index]? := by
  unfold connector? ofConnectors Server.ofConnectors
  rw [List.getElem?_map, Option.map_map]
  exact Option.map_id'

/-- Connectors that have never been started or stopped. -/
theorem sound_ofConnectors {connectors : List (Connector R)} (hnew : ∀ c ∈ connectors, c.IsNew) :
    Sound [] (ofConnectors connectors) := by
  have hmem : ∀ {i c}, (ofConnectors connectors).connector? i = some c → c.IsNew := by
    intro i c hc
    rw [connector?_ofConnectors] at hc
    exact hnew c (List.mem_of_getElem? hc)
  have hopen : ∀ {i c}, (ofConnectors connectors).connector? i = some c → c.closed = false :=
    fun hc => congrArg Watched.value (hmem hc).closing_eq
  -- there are no calls yet, so the parts about runs say nothing
  refine ⟨fun i c hc => ?_, fun call i run w hcall => (nomatch hcall),
    fun i c _ _ call run hcall => (nomatch hcall), fun i c address hc hbound => ?_,
    fun i c hc => ?_⟩
  · unfold Connector.SignalSound
    rw [hopen hc, (hmem hc).closing_eq]
    exact iff_of_false Bool.false_ne_true (Nat.lt_irrefl 0)
  · rw [(hmem hc).bindState_eq] at hbound
    cases hbound
  · rw [hopen hc]
    rfl

theorem governed_ofConnectors {connectors : List (Connector R)}
    (hnew : ∀ c ∈ connectors, c.IsNew) : Governed [] (ofConnectors connectors) := by
  refine ⟨fun i closed hi => ?_, nofun, .nil⟩
  obtain ⟨c, hc, rfl⟩ := Option.map_eq_some_iff.mp hi
  rw [connector?_ofConnectors] at hc
  have hopen : c.closed = false :=
    congrArg Watched.value (hnew c (List.mem_of_getElem? hc)).closing_eq
  rw [hopen]
  refine iff_of_false Bool.false_ne_true ?_
  -- no act has asked anything
  rintro (hact | ⟨taken, htaken, -⟩)
  · cases hact
  · cases htaken

/-! ### Runs of stopped connectors -/

/-- The run of a call of a stopped connector, which has taken so many steps since it stood
there. -/
structure Nearing (before : Run) (index call taken : ℕ) (a : Activity R) : Prop where
  closed : ∃ c, a.connector? index = some c ∧ c.closed = true
  nearer : ∃ run : Run, a.starts[call]? = some ⟨index, run⟩ ∧
    run.stepsLeft ≤ before.stepsLeft - taken ∧
    ∀ result, run.MayEndWith result → before.MayEndWith result

/-- A connector that has been asked to stop stays so, whatever the act. -/
theorem closed_step {index : ℕ} (h : ∃ c, a.connector? index = some c ∧ c.closed = true)
    (act : Act) : ∃ c, (a.step act).1.connector? index = some c ∧ c.closed = true := by
  obtain ⟨c, hc, hclosed⟩ := h
  -- a stop closes what it replaces, and a step of a run keeps the signal
  cases a.change_step act with
  | rests hconnectors => exact ⟨c, (hconnectors index).trans hc, hclosed⟩
  | begins i hact hconnectors => exact ⟨c, (hconnectors index).trans hc, hclosed⟩
  | closes i c' hact hconnector hreplaces =>
    rw [hreplaces index]
    split
    · exact ⟨_, rfl, rfl⟩
    · exact ⟨c, hc, hclosed⟩
  | advances call i run c' outside hact hstepped =>
    rw [hstepped.replaces index]
    split
    · next heq =>
      subst heq
      obtain rfl := Option.some.inj (hstepped.connector_eq.symm.trans hc)
      refine ⟨_, rfl, ?_⟩
      rw [← hclosed]
      exact congrArg Watched.value (c'.advanced outside run).closing_eq
    · exact ⟨c, hc, hclosed⟩

theorem closed_run {index : ℕ}
    (h : ∃ c, a.connector? index = some c ∧ c.closed = true) (more : List Act) :
    ∃ c, (a.run more).1.connector? index = some c ∧ c.closed = true := by
  induction more generalizing a with
  | nil => exact h
  | cons act rest ih => exact ih (closed_step h act)

/-- **Nearer to the end.** An act brings a run of a stopped connector one step nearer to its end
where it is its own, and no farther from it where it is not. -/
theorem Nearing.step {log : List (ℕ × Event)} {a : Activity R} (hsound : Sound log a)
    {before : Run} {index call taken : ℕ} (h : Nearing before index call taken a) (act : Act) :
    Nearing before index call (taken + if act.advances call then 1 else 0) (a.step act).1 := by
  refine ⟨closed_step h.closed act, ?_⟩
  obtain ⟨c, hc, hclosed⟩ := h.closed
  obtain ⟨run, hcall, hleft, hends⟩ := h.nearer
  cases a.change_step act with
  | rests hconnectors hstarts hadvances =>
    -- the run of the call would have taken a step
    have hother : ¬ act.advances call = true := by
      intro hact
      rcases hadvances call hact with hnone | ⟨i, run', hcall', hnone⟩
      · rw [hcall] at hnone
        cases hnone
      · rw [hcall] at hcall'
        obtain ⟨rfl, -⟩ := StartCall.mk.inj (Option.some.inj hcall')
        rw [hc] at hnone
        cases hnone
    rw [if_neg hother, hstarts]
    exact ⟨run, hcall, hleft, hends⟩
  | begins i hact hconnectors hstarts =>
    -- a new call stands behind this one
    obtain ⟨hlt, -⟩ := List.getElem?_eq_some_iff.mp hcall
    subst hact
    refine ⟨run, ?_, hleft, hends⟩
    rw [hstarts, List.getElem?_append_left hlt]
    exact hcall
  | closes i c' hact hconnector hreplaces hstarts =>
    rw [hact, hstarts]
    exact ⟨run, hcall, hleft, hends⟩
  | advances call' i run' c' outside hact hstepped =>
    subst hact
    by_cases heq : call' = call
    · -- its own step: the stop is news for it, so the step brings it nearer
      subst heq
      obtain ⟨rfl, rfl⟩ := hstepped.eq_of_call hcall
      obtain rfl := Option.some.inj (hstepped.connector_eq.symm.trans hc)
      have hself : (Act.advance call' outside).advances call' = true := beq_self_eq_true call'
      have hnews := hsound.news hc hclosed hcall
      obtain ⟨hless, hmore⟩ := Connector.ends_advance hclosed hnews outside
      refine ⟨_, hstepped.starts_self, ?_, fun result hresult => ?_⟩
      · rw [if_pos hself]
        omega
      · exact hends result (hmore result hresult)
    · have hother : ¬ (Act.advance call' outside).advances call = true :=
        fun hact => heq (beq_iff_eq.mp hact)
      rw [if_neg hother, hstepped.starts_of_ne heq]
      exact ⟨run, hcall, hleft, hends⟩

/-- **Acts bring it nearer** by as many steps as are its own. -/
theorem Nearing.run {log : List (ℕ × Event)} {a : Activity R} (hsound : Sound log a)
    {before : Run} {index call taken : ℕ} (h : Nearing before index call taken a)
    (more : List Act) :
    Nearing before index call (taken + more.countP (Act.advances call)) (a.run more).1 := by
  -- the invariant goes along, since every step needs the stop to be news
  induction more generalizing log a taken with
  | nil => exact h
  | cons act rest ih =>
    have hrest := ih (hsound.step act) (h.step hsound act)
    rw [List.countP_cons, Nat.add_comm (rest.countP _), ← Nat.add_assoc]
    exact hrest

/-! ### Stops of the server -/

/-- What is left of a stop that has come past the first connectors, if nothing comes between. -/
theorem run_advanceStop (rest : List (Slot R)) {a : Activity R} (passed : List (Slot R))
    {call : ℕ} (hslots : a.server.slots = passed ++ rest)
    (hcall : a.stops[call]? = some (.closing passed.length)) :
    (a.run (List.replicate (rest.length + 1) (.advanceStop call))).1.server =
        { slots := passed ++ (Server.closeSlots rest).1, state := .stopped } ∧
      (a.run (List.replicate (rest.length + 1) (.advanceStop call))).2.map Prod.snd =
        (Server.closeSlots rest).2 := by
  -- along the connectors that are left; those that are closed move to the ones it has passed
  induction rest generalizing a passed with
  | nil =>
    have hnone : a.server.slots[passed.length]? = none := by
      rw [hslots, List.append_nil, List.getElem?_eq_none (Nat.le_refl _)]
    simp only [List.length_nil, List.replicate_succ, List.replicate_zero, run, step,
      advanceStop_of_none hcall hnone, Server.markStopped, hslots]
    exact ⟨rfl, rfl⟩
  | cons slot rest ih =>
    have hslot : a.server.slots[passed.length]? = some slot := by
      rw [hslots, List.getElem?_append_right (Nat.le_refl _), Nat.sub_self]
      rfl
    have hstep := advanceStop_of_slot hcall hslot
    have hset : a.server.slots.set passed.length slot.stop.1 =
        (passed ++ [slot.stop.1]) ++ rest := by
      rw [hslots, List.set_append_right _ _ (Nat.le_refl _), Nat.sub_self, List.set_cons_zero,
        List.append_assoc]
      rfl
    have hlength : passed.length + 1 = (passed ++ [slot.stop.1]).length := by
      rw [List.length_append, List.length_singleton]
    obtain ⟨hserver, hevents⟩ := ih (a := (a.advanceStop call).1) _ (by rw [hstep]; exact hset)
      (by rw [hstep, ← hlength]; exact getElem?_set_of_some hcall)
    rw [List.length_cons, List.replicate_succ, run, step]
    refine ⟨?_, ?_⟩
    · refine hserver.trans ?_
      rw [List.append_assoc]
      rfl
    · change ((a.advanceStop call).2 ++ _).map Prod.snd = slot.stop.2 ++ _
      rw [List.map_append, hevents, hstep, List.map_map]
      exact congrArg (· ++ _) (List.map_id _)

theorem run_advanceStop_of_ended {a : Activity R} {call : ℕ} (hcall : a.stops[call]? = some .ended)
    (n : ℕ) : a.run (List.replicate n (.advanceStop call)) = (a, []) := by
  have hstep : a.advanceStop call = (a, []) :=
    advanceStop_of_not_closing fun next => by rw [hcall]; exact nofun
  -- each of the acts finds the stop over
  induction n with
  | zero => rfl
  | succ n ih =>
    rw [List.replicate_succ, run, step, hstep]
    simp only [ih, List.append_nil]

/-- **A stop that nothing interrupts** is a whole stop of the server: the same connectors are
closed in the same order. -/
theorem run_stop (a : Activity R) :
    (a.run (.stopServer ::
        List.replicate (a.server.slots.length + 1) (.advanceStop a.stops.length))).1.server =
        a.server.stop.1 ∧
      (a.run (.stopServer ::
        List.replicate (a.server.slots.length + 1) (.advanceStop a.stops.length))).2.map
          Prod.snd = a.server.stop.2 := by
  rw [run, step, stopServer, Server.stop]
  -- a server that is stopped already ends the stop at its call
  cases hbegin : a.server.beginStop with
  | none =>
    have hended : ({ a with stops := a.stops ++ [.ended] } : Activity R).stops[a.stops.length]? =
        some .ended := List.getElem?_concat_length
    simp only [run_advanceStop_of_ended hended, List.append_nil, List.map_nil, and_self]
  | some server =>
    have hslots : server.slots = a.server.slots := by
      unfold Server.beginStop at hbegin
      split at hbegin
      · cases hbegin
      · rw [← Option.some.inj hbegin]
    simp only [List.nil_append, ← hslots]
    exact run_advanceStop server.slots [] rfl List.getElem?_concat_length

/-! ### What is certain of a connector -/

/-- The next step of a call ends its run, and of the connector only the bind state changes. -/
structure Ends (a : Activity R) (index call : ℕ) (c : Connector R)
    (outside : Surroundings) (events : List Event) : Prop where
  finished : (a.step (.advance call outside)).1.starts[call]? =
    some ⟨index, .finished (.ok ())⟩
  connector : (a.step (.advance call outside)).1.connector? index =
    some { c with bindState := .closed }
  events : (a.step (.advance call outside)).2 = events.map (index, ·)

/-- What is certain of a connector of an activity, given the acts and the log so far. -/
structure StopsForGood (acts : List Act) (log : List (ℕ × Event)) (a : Activity R) (index : ℕ)
    (c : Connector R) : Prop where
  /-- Each call of a stop of the server is on record. It is about to close the next connector after
  those for which it has taken a step, or it is over and has left none open. -/
  stops : List.Forall₂ a.StandsAt a.stops (stopSteps acts)
  /-- The step of a stop behind the last connector leaves the server stopped. -/
  completes : ∀ call : ℕ, a.stops[call]? = some (.closing a.server.slots.length) →
    (a.step (.advanceStop call)).1.server.state = .stopped
  /-- It is closed as soon as it has been asked to stop, by whomever. -/
  closed_iff : c.closed = true ↔ Asked acts index
  /-- It stays so. -/
  stays : c.closed = true → ∀ more, ∃ c', (a.run more).1.connector? index = some c' ∧
    c'.closed = true
  /-- One stop is logged, however many there have been. -/
  logged : (stopsOf index log).length = if c.closed then 1 else 0
  /-- A start that is yet to be checked is over at once: it loads and binds nothing. -/
  refused : c.closed = true → ∀ (call : ℕ) outside,
    a.starts[call]? = some ⟨index, .entering⟩ → Ends a index call c outside []
  /-- A turn of serving is the last one: it neither accepts nor pauses. -/
  leaves : c.closed = true → ∀ (call : ℕ) watcher address backoff pause outside,
    a.starts[call]? = some ⟨index, .serving watcher address backoff pause⟩ →
      Ends a index call c outside [Connector.stoppedRecord address]
  /-- Every start is over after a few steps of its own, and well unless its key pair could not be
  loaded or its address not be bound. -/
  ends : c.closed = true → ∀ (call : ℕ) (run : Run) more,
    a.starts[call]? = some ⟨index, run⟩ → run.stepsLeft ≤ more.countP (Act.advances call) →
      ∃ result, (a.run more).1.starts[call]? = some ⟨index, .finished result⟩ ∧
        run.MayEndWith result
  /-- Whichever step ends a start, and however, the connector is unbound behind it. -/
  returned : ∀ (call : ℕ) (run : Run) outside result,
    a.starts[call]? = some ⟨index, run⟩ → run.isOver = false →
      (a.step (.advance call outside)).1.starts[call]? = some ⟨index, .finished result⟩ →
        ∃ c', (a.step (.advance call outside)).1.connector? index = some c' ∧ c'.Unbound
  /-- It stays unbound until another start of it serves. -/
  released : (∃ (call : ℕ) (result : _), a.starts[call]? = some ⟨index, .finished result⟩) →
    (∀ (call : ℕ) (run : Run), a.starts[call]? = some ⟨index, run⟩ → run.isServing = false) →
      c.Unbound

theorem Ends.of_advance {call index : ℕ} {run : Run} {c : Connector R} {outside : Surroundings}
    {events : List Event} (hc : a.connector? index = some c)
    (hcall : a.starts[call]? = some ⟨index, run⟩)
    (hadvance : c.advance outside run =
      ({ c with bindState := .closed }, .finished (.ok ()), events)) :
    Ends a index call c outside events := by
  obtain ⟨hstepped, hevents⟩ := advance_of_connector hcall hc outside
  rw [hadvance] at hstepped hevents
  exact ⟨hstepped.starts_self, (hstepped.replaces index).trans (if_pos rfl), hevents⟩

/-- A step that ends a run leaves the connector unbound. -/
theorem unbound_of_ends {call index : ℕ} {run : Run} {c : Connector R} {outside : Surroundings}
    {result : Except ConnectorError Unit} (hc : a.connector? index = some c)
    (hcall : a.starts[call]? = some ⟨index, run⟩) (hnot : run.isOver = false)
    (hends : (a.step (.advance call outside)).1.starts[call]? =
      some ⟨index, .finished result⟩) :
    ∃ c', (a.step (.advance call outside)).1.connector? index = some c' ∧ c'.Unbound := by
  obtain ⟨hstepped, -⟩ := advance_of_connector hcall hc outside
  have hrun : (c.advance outside run).2.1 = .finished result :=
    (StartCall.mk.inj (Option.some.inj (hstepped.starts_self.symm.trans hends))).2
  refine ⟨_, (hstepped.replaces index).trans (if_pos rfl), .of_closed ?_⟩
  -- of the ways in which a step moves on, only the last one ends a run
  rcases (c.advanced outside run).moved with ⟨-, -, hended⟩ | ⟨-, hserving⟩ | ⟨hclosed, -⟩
  · rw [hrun, hnot] at hended
    cases hended
  · rw [hrun] at hserving
    cases hserving
  · exact hclosed

/-- A run that has no step left is over. -/
theorem finished_of_stepsLeft {run : Run} (h : run.stepsLeft ≤ 0) :
    ∃ result, run = .finished result := by
  -- every other run has a step to take
  cases run with
  | finished result => exact ⟨result, rfl⟩
  | listening watcher lookedUp => cases lookedUp <;> cases h
  | _ => cases h

/-- **Connectors stop for good.** Whatever starts and stops do to each other in an activity of
connectors that were new, a connector that has been asked to stop is closed for good: no start of
it binds or accepts any more than it has, and each is over soon. -/
theorem stops_for_good (connectors : List (Connector R)) (hnew : ∀ c ∈ connectors, c.IsNew)
    (acts : List Act) (index : ℕ) (c : Connector R)
    (hc : ((ofConnectors connectors).run acts).1.connector? index = some c) :
    StopsForGood acts ((ofConnectors connectors).run acts).2
      ((ofConnectors connectors).run acts).1 index c := by
  have hsound := (sound_ofConnectors hnew).run acts
  have hgoverned := (governed_ofConnectors hnew).run acts
  rw [List.nil_append] at hsound hgoverned
  -- the two invariants are all that is used of how the activity has come about
  generalize ((ofConnectors connectors).run acts).1 = a at *
  generalize ((ofConnectors connectors).run acts).2 = log at *
  refine ⟨hgoverned.calls, fun call hcall => ?_, ?_, fun hclosed more => ?_,
    hsound.logged index c hc,
    fun hclosed call outside hcall => ?_,
    fun hclosed call watcher address backoff pause outside hcall => ?_,
    fun hclosed call run more hcall hmore => ?_,
    fun call run outside result hcall hnot => unbound_of_ends hc hcall hnot,
    fun hreturned hnone => ?_⟩
  · have hlast : a.server.slots[a.server.slots.length]? = none :=
      List.getElem?_eq_none (Nat.le_refl _)
    rw [step, advanceStop_of_none hcall hlast]
    rfl
  · have hread : a.closed? index = some c.closed := by rw [closed?, hc]; rfl
    exact hgoverned.closed_iff index c.closed hread
  · exact closed_run ⟨c, hc, hclosed⟩ more
  · exact .of_advance hc hcall (Connector.advance_entering_of_closed hclosed outside)
  · have hnews := hsound.news hc hclosed hcall watcher rfl
    exact .of_advance hc hcall
      (Connector.advance_serving_of_news hnews address backoff pause outside)
  · -- a run that has taken all the steps that it had left is over
    have hnearing : Nearing run index call 0 a :=
      ⟨⟨c, hc, hclosed⟩, run, hcall, Nat.le_refl _, fun result hresult => hresult⟩
    obtain ⟨run', hcall', hleft, hends⟩ := (hnearing.run hsound more).nearer
    have hnone : run'.stepsLeft ≤ 0 := by omega
    obtain ⟨result, rfl⟩ := finished_of_stepsLeft hnone
    exact ⟨result, hcall', hends result rfl⟩
  · -- a run that is over rules out that a bind is to come, and no run serves
    obtain ⟨call, result, hcall⟩ := hreturned
    refine .of_closed ?_
    cases hbind : c.bindState with
    | closed => rfl
    | pending => cases hsound.pending index c hc hbind call _ hcall
    | bound address =>
      obtain ⟨call', run, hcall', hserving⟩ := hsound.bound index c address hc hbind
      rw [hnone call' run hcall'] at hserving
      cases hserving

/-- A connector without a key pair. -/
def gate : Connector Unit := { spec := .http "127.0.0.1:8080", target := (), contextPath := "" }

/-- Where a bind gives the address and a connection waits. -/
def open8080 : Surroundings where
  bound := .ok ⟨.v4 [127, 0, 0, 1], 8080⟩
  accepted := .connection ⟨.v4 [127, 0, 0, 1], 50000⟩

/-- A stop of the server closes the connector between the check and the bind of its first start.
The connector is then stopped once more, and a second start is called. -/
def lateStop : List Act :=
  [.start 0, .advance 0 open8080, .stopServer, .advance 0 open8080, .advanceStop 0,
    .advance 0 open8080, .stopConnector 0, .start 0]

theorem stops_for_good_late :
    (∀ c ∈ [gate], c.IsNew) ∧
      ∃ c, ((ofConnectors [gate]).run lateStop).1.connector? 0 = some c ∧ c.closed = true ∧
        c.localAddress = some ⟨.v4 [127, 0, 0, 1], 8080⟩ ∧
        ((ofConnectors [gate]).run lateStop).1.starts.map (·.run.isServing) = [true, false] ∧
        StopsForGood lateStop ((ofConnectors [gate]).run lateStop).2
          ((ofConnectors [gate]).run lateStop).1 0 c := by
  have hnew : ∀ c ∈ [gate], c.IsNew := by
    intro c hc
    obtain rfl := List.mem_singleton.mp hc
    exact ⟨rfl, rfl⟩
  have hclosed : (((ofConnectors [gate]).run lateStop).1.connector? 0).map (·.closed) =
      some true := by rfl
  -- the flag is read off the whole activity, and the connector comes with it
  obtain ⟨c, hc, hclosed⟩ := Option.map_eq_some_iff.mp hclosed
  have haddress : (((ofConnectors [gate]).run lateStop).1.connector? 0).map (·.localAddress) =
      some (some ⟨.v4 [127, 0, 0, 1], 8080⟩) := by rfl
  rw [hc] at haddress
  exact ⟨hnew, c, hc, hclosed, Option.some.inj haddress, by rfl,
    stops_for_good [gate] hnew lateStop 0 c hc⟩

end Activity

end ServiceHost
