import Mathlib.Logic.Function.Iterate
import ServiceHost.Proofs.Reentry

/-!
# Bounds of a lifecycle

A call on a lifecycle goes in single steps. A start call reads the list once and goes on with the
objects that it has found, and each success adds one to the counter as it then stands. In between
the starts of the objects stop the lifecycle and add objects to it, and these objects may do the
same when they are started later. A stop reads the counter before each object and takes the last
one off the count. Were the counter ever beyond the list, a start would read past the end of the list
and a stop would ask for an object that is not there.

It never is. While a start call is under way, the counter and the objects that the call has still to
count lie within the list: a stop moves the counter back, an object that is added makes the list
longer, and a success moves one object from the one to the other.

* `CallRun.step` is one step of a call, up to its next look at the list or at the counter. A look
  beyond the list breaks the call.
* `CallRun.InBounds` is the invariant, and `CallRun.InBounds.advances` says that every step keeps
  it.
* `CallRun.InBounds.stop_ends` counts the rounds of a stop.
* `CallRun.leadsTo_call`: the steps of a call come to the lifecycle, the result and the moments of
  the whole call.
* `Lifecycle.calls_stay_in_bounds` says this of every call of every run.
-/

namespace ServiceHost

/-! ### Steps of a call -/

/-- The start of an object that a start call is in: what is left of it, and the objects that come
after it. -/
structure HookRun where
  index : ℕ
  name : String
  hook : Hook
  pending : List ℕ

/-- Where a call stands between two steps. -/
inductive CallStage where
  /-- An object is about to be added. -/
  | adding (name : String) (object : Managed)
  /-- A start is about to read the list. -/
  | reading
  /-- A start is about to start the first of the objects that it has read. -/
  | between (pending : List ℕ)
  /-- A start is in the start of an object. -/
  | within (run : HookRun)
  /-- A stop is about to read the counter. It was called in the start of an object, or on its
  own. -/
  | stopping (caller : Option HookRun)
  /-- The call is over. -/
  | returned (result : Except ManagedError Unit)
  /-- The call has used an index that names no object. -/
  | broken (index : ℕ)

/-- Where a call stands when a stop in it is over. -/
def CallStage.afterStop : Option HookRun → CallStage
  | none => .returned (.ok ())
  | some run => .within run

/-- The objects that a start call has read and not yet counted. -/
def CallStage.uncounted : CallStage → List ℕ
  | .between pending => pending
  | .within run => run.index :: run.pending
  | .stopping (some run) => run.index :: run.pending
  | _ => []

/-- A call under way, with the lifecycle as it stands and the moments so far. -/
structure CallRun where
  lifecycle : Lifecycle
  stage : CallStage
  moments : List Moment := []

namespace CallRun

open Lifecycle

/-- A call that has not taken a step. -/
def ofCall (l : Lifecycle) : LifecycleCall → CallRun
  | .manage name object => { lifecycle := l, stage := .adding name object }
  | .start => { lifecycle := l, stage := .reading }
  | .stop => { lifecycle := l, stage := .stopping none }

/-- Goes on with a lifecycle at a stage, after some events. -/
def next (r : CallRun) (l : Lifecycle) (events : List LifecycleEvent) (stage : CallStage) :
    CallRun :=
  { lifecycle := l, stage, moments := r.moments ++ events.map (⟨·, l⟩) }

/-- Ends where an index names no object. -/
def fail (r : CallRun) (index : ℕ) : CallRun :=
  r.next r.lifecycle [.outOfBounds index] (.broken index)

/-- Reads the part of the list that lies beyond the counter. -/
def read (r : CallRun) : CallRun :=
  let l := r.lifecycle
  if l.started ≤ l.entries.length then
    r.next l [] (.between (List.range' l.started (l.entries.length - l.started)))
  else r.fail l.started

/-- Calls the start of the first pending object. -/
def startNext (r : CallRun) : List ℕ → CallRun
  | [] => r.next r.lifecycle [] (.returned (.ok ()))
  | index :: pending =>
    match r.lifecycle.entries[index]? with
    | none => r.fail index
    | some e =>
      r.next (r.lifecycle.calling index) [.starting index e.name]
        (.within { index, name := e.name, hook := e.object.start e.starts, pending })

/-- Does the next thing in the start of an object. -/
def goOn (r : CallRun) (run : HookRun) : CallRun :=
  match run.hook with
  | .done (.error cause) =>
    r.next r.lifecycle [.startFailed run.index run.name cause]
      (.returned (.error ⟨run.name, cause⟩))
  | .done (.ok ()) =>
    r.next r.lifecycle.counted [.started run.index run.name] (.between run.pending)
  | .note text hook => r.next r.lifecycle [.note text] (.within { run with hook })
  | .stopAll hook => r.next r.lifecycle [] (.stopping (some { run with hook }))
  | .manage name start stop hook =>
    r.next (r.lifecycle.manage name ⟨start, stop⟩) [] (.within { run with hook })

/-- One round of a stop: the last object that is counted as started is taken off and stopped. -/
def stopNext (r : CallRun) (caller : Option HookRun) : CallRun :=
  match r.lifecycle.started with
  | 0 => r.next r.lifecycle [] (.afterStop caller)
  | n + 1 =>
    match r.lifecycle.entries[n]? with
    | none => r.fail n
    | some e =>
      r.next (r.lifecycle.takenOff n) (stopEvents n e.name (e.object.stop e.stops))
        (.stopping caller)

/-- Takes the next step of a call. Nothing follows the end of a call. -/
def step (r : CallRun) : CallRun :=
  match r.stage with
  | .adding name object => r.next (r.lifecycle.manage name object) [] (.returned (.ok ()))
  | .reading => r.read
  | .between pending => r.startNext pending
  | .within run => r.goOn run
  | .stopping caller => r.stopNext caller
  | .returned _ => r
  | .broken _ => r

/-- Takes a number of steps. -/
def steps (r : CallRun) (n : ℕ) : CallRun := step^[n] r

theorem steps_succ (r : CallRun) (n : ℕ) : r.steps (n + 1) = r.step.steps n := rfl

theorem steps_concat (r : CallRun) (n : ℕ) : r.steps (n + 1) = (r.steps n).step :=
  Function.iterate_succ_apply' step n r

theorem steps_add (r : CallRun) (m n : ℕ) : r.steps (m + n) = (r.steps m).steps n := by
  unfold steps
  rw [Nat.add_comm, Function.iterate_add_apply]

/-- Where nothing happens the moments stay as they are. -/
theorem next_nil (r : CallRun) (l : Lifecycle) (stage : CallStage) :
    r.next l [] stage = ⟨l, stage, r.moments⟩ := by
  rw [next, List.map_nil, List.append_nil]

/-! The steps that look at the list or at the counter, where the look is within bounds. -/

section Looks

variable {l : Lifecycle} {e : ManagedEntry} {moments : List Moment}

theorem step_reading (h : l.Room 0) :
    (⟨l, .reading, moments⟩ : CallRun).step =
      (⟨l, .reading, moments⟩ : CallRun).next l []
        (.between (List.range' l.started (l.entries.length - l.started))) := by
  have hle : l.started ≤ l.entries.length := by
    rw [← length_objects]
    exact h
  exact if_pos hle

theorem step_between_cons {i : ℕ} (he : l.entries[i]? = some e) (rest : List ℕ) :
    (⟨l, .between (i :: rest), moments⟩ : CallRun).step =
      (⟨l, .between (i :: rest), moments⟩ : CallRun).next (l.calling i) [.starting i e.name]
        (.within ⟨i, e.name, e.object.start e.starts, rest⟩) := by
  simp only [step, startNext, he]

theorem step_stopping_of_zero (hl : l.started = 0) (caller : Option HookRun) :
    (⟨l, .stopping caller, moments⟩ : CallRun).step =
      (⟨l, .stopping caller, moments⟩ : CallRun).next l [] (.afterStop caller) := by
  simp only [step, stopNext, hl]

theorem step_stopping_of_succ {n : ℕ} (hl : l.started = n + 1) (he : l.entries[n]? = some e)
    (caller : Option HookRun) :
    (⟨l, .stopping caller, moments⟩ : CallRun).step =
      (⟨l, .stopping caller, moments⟩ : CallRun).next (l.takenOff n)
        (stopEvents n e.name (e.object.stop e.stops)) (.stopping caller) := by
  simp only [step, stopNext, hl, he]

end Looks

end CallRun

/-! ### The invariant -/

/-- A moment at which the counter was within the list and no index went beyond it. -/
structure Moment.InBounds (m : Moment) : Prop where
  started_le : m.lifecycle.started ≤ m.lifecycle.objects.length
  event_ne : ∀ i, m.event ≠ .outOfBounds i

namespace Lifecycle

/-- The stop of an object uses no index but its own. -/
theorem outOfBounds_notMem_stopEvents (i n : ℕ) (name : String) (outcome : StopOutcome) :
    .outOfBounds i ∉ stopEvents n name outcome := by
  unfold stopEvents
  intro h
  cases hresult : outcome.result <;> simp [hresult] at h

theorem Room.after_takenOff {k n : ℕ} {l : Lifecycle} (h : l.Room k) (hl : l.started = n + 1) :
    (l.takenOff n).Room k := by
  unfold Room at h ⊢
  rw [objects_takenOff]
  show n + k ≤ l.objects.length
  -- the counter moves back by the one that is taken off
  omega

/-- An object is added at the end of the list. -/
theorem prefix_objects_manage (l : Lifecycle) (name : String) (object : Managed) :
    l.objects <+: (l.manage name object).objects := by
  rw [objects_manage]
  exact List.prefix_append _ _

end Lifecycle

namespace CallRun

open Lifecycle

/-- The counter and the objects that the call has still to count lie within the list. -/
structure InBounds (r : CallRun) : Prop where
  room : r.lifecycle.Room r.stage.uncounted.length
  /-- The objects that the call has read are in the list. -/
  listed : ∀ i ∈ r.stage.uncounted, i < r.lifecycle.objects.length
  unbroken : ∀ i, r.stage ≠ .broken i
  moments : ∀ m ∈ r.moments, m.InBounds

/-- What a step keeps, and that it takes no object away. -/
structure Advances (r r' : CallRun) : Prop where
  inBounds : r'.InBounds
  grows : r.lifecycle.objects <+: r'.lifecycle.objects

theorem InBounds.started_le {r : CallRun} (h : r.InBounds) :
    r.lifecycle.started ≤ r.lifecycle.objects.length :=
  h.room.started_le

/-- A call that begins with the counter within the list is within bounds. -/
theorem inBounds_ofCall {l : Lifecycle} (h : l.Room 0) (c : LifecycleCall) :
    (ofCall l c).InBounds := by
  cases c <;> exact ⟨h, nofun, nofun, nofun⟩

/-- **Going on.** What there is to check when a call goes on: there is still room, and the objects
to be counted are in the list. -/
theorem InBounds.next {r : CallRun} (h : r.InBounds) {l : Lifecycle}
    {events : List LifecycleEvent} {stage : CallStage}
    (grows : r.lifecycle.objects <+: l.objects) (room : l.Room stage.uncounted.length)
    (listed : ∀ i ∈ stage.uncounted, i < l.objects.length) (unbroken : ∀ i, stage ≠ .broken i)
    (events_ne : ∀ i, .outOfBounds i ∉ events) : Advances r (r.next l events stage) where
  grows := grows
  inBounds := by
    refine ⟨room, listed, unbroken, fun m hm => ?_⟩
    rcases List.mem_append.mp hm with hm | hm
    · exact h.moments m hm
    · -- the new moments all show the lifecycle that the call goes on with
      obtain ⟨e, he, rfl⟩ := List.mem_map.mp hm
      exact ⟨room.started_le, fun i hi => events_ne i (hi ▸ he)⟩

/-- **One step.** Every step of a call keeps the call within bounds, and adds objects at the end of
the list only. -/
theorem InBounds.advances {r : CallRun} (h : r.InBounds) : Advances r r.step := by
  -- by where the call stands, and by what the start of an object does next
  obtain ⟨l, stage, moments⟩ := r
  have hroom : l.Room stage.uncounted.length := h.room
  have hlisted : ∀ i ∈ stage.uncounted, i < l.objects.length := h.listed
  cases stage with
  | adding name object =>
    exact h.next (prefix_objects_manage l name object) (hroom.after_manage name object)
      nofun nofun nofun
  | reading =>
    -- what lies beyond the counter is all that there is room for
    rw [step_reading hroom]
    refine h.next (List.prefix_refl _) ?_ ?_ nofun nofun
    · rw [CallStage.uncounted, List.length_range']
      exact hroom.pending
    · intro i hi
      have hlt := (List.mem_range'_1.mp hi).2
      have hle := hroom.started_le
      rw [length_objects] at hle ⊢
      omega
  | between pending =>
    cases pending with
    | nil => exact h.next (List.prefix_refl _) hroom nofun nofun nofun
    | cons i rest =>
      -- the object is one of those that the call has read, so it is in the list
      obtain ⟨e, he⟩ := exists_entry le_rfl (hlisted i List.mem_cons_self)
      rw [step_between_cons he]
      have hobjects := objects_calling l i
      refine h.next ?_ (hroom.after_calling i) ?_ nofun nofun
      · rw [hobjects]
      · rw [hobjects]
        exact hlisted
  | within run =>
    obtain ⟨index, name, hook, pending⟩ := run
    cases hook with
    | done result =>
      cases result with
      | error cause => exact h.next (List.prefix_refl _) hroom.started_le nofun nofun (by simp)
      | ok =>
        -- the object that is counted was one of those to be counted
        refine h.next (List.prefix_refl _) (Room.after_counted hroom) ?_ nofun (by simp)
        exact fun i hi => hlisted i (List.mem_cons_of_mem _ hi)
    | note text hook => exact h.next (List.prefix_refl _) hroom hlisted nofun (by simp)
    | stopAll hook => exact h.next (List.prefix_refl _) hroom hlisted nofun nofun
    -- the list grows, and what was in it stays there
    | manage added start stop hook =>
      have hgrows := prefix_objects_manage l added ⟨start, stop⟩
      refine h.next hgrows (hroom.after_manage added _) (fun i hi => ?_) nofun nofun
      exact lt_of_lt_of_le (hlisted i hi) hgrows.length_le
  | stopping caller =>
    cases hl : l.started with
    | zero =>
      rw [step_stopping_of_zero hl]
      cases caller with
      | none => exact h.next (List.prefix_refl _) hroom nofun nofun nofun
      | some run => exact h.next (List.prefix_refl _) hroom hlisted nofun nofun
    | succ n =>
      -- the counter is within the list, so the object below it is there
      obtain ⟨e, he⟩ := exists_entry hroom.started_le (show n < l.started by omega)
      rw [step_stopping_of_succ hl he]
      have hobjects := objects_takenOff l n
      refine h.next ?_ (hroom.after_takenOff hl) ?_ nofun
        fun i => outOfBounds_notMem_stopEvents i n e.name _
      · rw [hobjects]
      · rw [hobjects]
        exact hlisted
  | returned result => exact ⟨h, List.prefix_refl _⟩
  | broken i => exact absurd rfl (h.unbroken i)

/-- **Every step.** A call that is within bounds stays so. -/
theorem InBounds.steps {r : CallRun} (h : r.InBounds) (n : ℕ) : (r.steps n).InBounds := by
  induction n with
  | zero => exact h
  | succ n ih =>
    rw [steps_concat]
    exact ih.advances.inBounds

/-! ### Whole calls -/

/-- Some number of steps lead from one point of a call to another. -/
def LeadsTo (r r' : CallRun) : Prop := ∃ n, r.steps n = r'

theorem LeadsTo.trans {r₁ r₂ r₃ : CallRun} (h : r₁.LeadsTo r₂) (h' : r₂.LeadsTo r₃) :
    r₁.LeadsTo r₃ := by
  obtain ⟨m, rfl⟩ := h
  obtain ⟨n, rfl⟩ := h'
  exact ⟨m + n, steps_add r₁ m n⟩

theorem LeadsTo.refl (r : CallRun) : r.LeadsTo r := ⟨0, rfl⟩

theorem LeadsTo.head {r r' : CallRun} (h : r.step.LeadsTo r') : r.LeadsTo r' := by
  obtain ⟨n, rfl⟩ := h
  exact ⟨n + 1, steps_succ r n⟩

theorem InBounds.of_leadsTo {r r' : CallRun} (h : r.InBounds) (h' : r.LeadsTo r') :
    r'.InBounds := by
  obtain ⟨n, rfl⟩ := h'
  exact h.steps n

/-- **The rounds of a stop.** A stop goes through as many rounds as the counter says, and then it
has done what the whole stop does. -/
theorem steps_stopping {n : ℕ} {l : Lifecycle} (hl : l.started = n) (hn : n ≤ l.objects.length)
    (caller : Option HookRun) (moments : List Moment) :
    (⟨l, .stopping caller, moments⟩ : CallRun).steps n =
        ⟨(stopLast n l).1, .stopping caller, moments ++ (stopLast n l).2⟩ ∧
      ∀ j ≤ n, ((⟨l, .stopping caller, moments⟩ : CallRun).steps j).stage = .stopping caller := by
  -- by the counter, which each round takes down by one
  induction n generalizing l moments with
  | zero =>
    have hl' : ({ l with started := 0 } : Lifecycle) = l := by rw [← hl]
    refine ⟨?_, fun j hj => ?_⟩
    · show (⟨l, .stopping caller, moments⟩ : CallRun) =
        ⟨{ l with started := 0 }, .stopping caller, moments ++ []⟩
      rw [hl', List.append_nil]
    · obtain rfl : j = 0 := Nat.le_zero.mp hj
      rfl
  | succ n ih =>
    obtain ⟨e, he⟩ := exists_entry hn (Nat.lt_succ_self n)
    have hn' : n ≤ (l.takenOff n).objects.length := by
      rw [objects_takenOff]
      omega
    obtain ⟨hsteps, hstages⟩ := ih (l := l.takenOff n) rfl hn'
      (moments ++ (stopEvents n e.name (e.object.stop e.stops)).map (⟨·, l.takenOff n⟩))
    have hstep : (⟨l, .stopping caller, moments⟩ : CallRun).step = _ :=
      step_stopping_of_succ hl he caller
    refine ⟨?_, fun j hj => ?_⟩
    · rw [steps_succ, hstep, stopLast_succ he, ← List.append_assoc]
      exact hsteps
    · cases j with
      | zero => rfl
      | succ j =>
        rw [steps_succ, hstep]
        exact hstages j (Nat.le_of_succ_le_succ hj)

/-- A stop that is through its rounds is over, and the call goes on where the stop was called. -/
theorem steps_stop {l : Lifecycle} (h : l.Room 0) (caller : Option HookRun)
    (moments : List Moment) :
    (⟨l, .stopping caller, moments⟩ : CallRun).steps (l.started + 1) =
      ⟨l.stop.1, .afterStop caller, moments ++ l.stop.2⟩ := by
  have hzero : l.stop.1.started = 0 := (stopLast_follows rfl h).2
  rw [steps_concat, (steps_stopping rfl h caller moments).1]
  show (⟨l.stop.1, .stopping caller, moments ++ l.stop.2⟩ : CallRun).step = _
  rw [step_stopping_of_zero hzero, next_nil]

/-- **Stops end.** Wherever a call is in a stop, the stop is over after as many further rounds as
there are objects at most. -/
theorem InBounds.stop_ends {r : CallRun} (h : r.InBounds) {caller : Option HookRun}
    (hstage : r.stage = .stopping caller) :
    ∃ rounds ≤ r.lifecycle.objects.length,
      (∀ j ≤ rounds, (r.steps j).stage = .stopping caller) ∧
        (r.steps (rounds + 1)).stage = .afterStop caller := by
  have hroom : r.lifecycle.Room 0 := h.started_le
  obtain ⟨l, stage, moments⟩ := r
  obtain rfl : stage = .stopping caller := hstage
  refine ⟨l.started, hroom, (steps_stopping rfl hroom caller moments).2, ?_⟩
  rw [steps_stop hroom]

/-- The steps in the start of an object come to the result of the start. -/
theorem leadsTo_hook (hook : Hook) {l : Lifecycle} (h : l.Room 0) (index : ℕ) (name : String)
    (pending : List ℕ) (moments : List Moment) :
    (⟨l, .within ⟨index, name, hook, pending⟩, moments⟩ : CallRun).LeadsTo
      ⟨(runHook hook l).2.1, .within ⟨index, name, .done (runHook hook l).1, pending⟩,
        moments ++ (runHook hook l).2.2⟩ := by
  -- along the start of the object; a stop in it takes many steps, the rest of it one each
  induction hook generalizing l moments with
  | done result =>
    show CallRun.LeadsTo _ ⟨l, .within ⟨index, name, .done result, pending⟩, moments ++ []⟩
    rw [List.append_nil]
    exact .refl _
  | note text next ih =>
    have hnext := ih h (moments ++ [⟨.note text, l⟩])
    rw [List.append_assoc] at hnext
    exact .head hnext
  | stopAll next ih =>
    -- the stop comes first, and then the rest of the start
    have hstop : (⟨l, .stopping (some ⟨index, name, next, pending⟩), moments⟩ : CallRun).LeadsTo
        ⟨l.stop.1, .within ⟨index, name, next, pending⟩, moments ++ l.stop.2⟩ :=
      ⟨_, steps_stop h _ _⟩
    have hnext := hstop.trans (ih h.after_stop _)
    rw [List.append_assoc] at hnext
    apply LeadsTo.head
    show (CallRun.next _ l [] (.stopping (some ⟨index, name, next, pending⟩))).LeadsTo _
    rw [next_nil]
    exact hnext
  | manage added start stop next _ ih =>
    apply LeadsTo.head
    show (CallRun.next _ (l.manage added ⟨start, stop⟩) []
      (.within ⟨index, name, next, pending⟩)).LeadsTo _
    rw [next_nil]
    exact ih (h.after_manage added ⟨start, stop⟩) moments

/-- The steps between the starts of objects come to the result of the starts of them all. -/
theorem leadsTo_startEach {pending : List ℕ} {l : Lifecycle} {moments : List Moment}
    (h : (⟨l, .between pending, moments⟩ : CallRun).InBounds) :
    (⟨l, .between pending, moments⟩ : CallRun).LeadsTo
      ⟨(startEach pending l).2.1, .returned (startEach pending l).1,
        moments ++ (startEach pending l).2.2⟩ := by
  -- along the objects that are left to start
  induction pending generalizing l moments with
  | nil => exact .head (.refl _)
  | cons i rest ih =>
    obtain ⟨e, he⟩ := exists_entry le_rfl (h.listed i List.mem_cons_self)
    rcases hrun : runHook (e.object.start e.starts) (l.calling i) with ⟨result, ran, more⟩
    -- the start of the object is called, and runs
    have hroom : (l.calling i).Room 0 := (h.room.after_calling i).started_le
    have hhook := leadsTo_hook (e.object.start e.starts) hroom i e.name rest
      (moments ++ [⟨.starting i e.name, l.calling i⟩])
    rw [hrun] at hhook
    have hran : (⟨l, .between (i :: rest), moments⟩ : CallRun).LeadsTo
        ⟨ran, .within ⟨i, e.name, .done result, rest⟩,
          moments ++ [⟨.starting i e.name, l.calling i⟩] ++ more⟩ := by
      apply LeadsTo.head
      rw [step_between_cons he]
      exact hhook
    cases result with
    | error cause =>
      -- a failure ends the call
      have hfailed : (⟨l, .between (i :: rest), moments⟩ : CallRun).LeadsTo
          ⟨ran, .returned (.error ⟨e.name, cause⟩),
            moments ++ [⟨.starting i e.name, l.calling i⟩] ++ more
              ++ [⟨.startFailed i e.name cause, ran⟩]⟩ :=
        hran.trans (.head (.refl _))
      rw [startEach_of_error he hrun]
      simpa only [List.append_assoc, List.cons_append, List.nil_append] using hfailed
    | ok =>
      -- a success is counted, and the objects that are left come next
      have hcounted : (⟨l, .between (i :: rest), moments⟩ : CallRun).LeadsTo
          ⟨ran.counted, .between rest,
            moments ++ [⟨.starting i e.name, l.calling i⟩] ++ more
              ++ [⟨.started i e.name, ran.counted⟩]⟩ :=
        hran.trans (.head (.refl _))
      have hnext := hcounted.trans (ih (h.of_leadsTo hcounted))
      rw [startEach_of_ok he hrun]
      simpa only [List.append_assoc, List.cons_append, List.nil_append] using hnext

/-- **Steps and calls.** The steps of a call come to the lifecycle, the result and the moments of
the whole call. -/
theorem leadsTo_call {l : Lifecycle} (h : l.Room 0) (c : LifecycleCall) :
    (ofCall l c).LeadsTo ⟨(l.call c).1, .returned (l.call c).2.result, (l.call c).2.moments⟩ := by
  cases c with
  | manage name object => exact .head (.refl _)
  | start =>
    have hread : (ofCall l .start).step =
        ⟨l, .between (List.range' l.started (l.entries.length - l.started)), []⟩ :=
      step_reading h
    -- the objects that the start has read are in the list
    have hin := (inBounds_ofCall h .start).advances.inBounds
    rw [hread] at hin
    apply LeadsTo.head
    rw [hread]
    show CallRun.LeadsTo _ ⟨l.start.2.1, .returned l.start.1, l.start.2.2⟩
    rw [start_eq_startEach h]
    exact leadsTo_startEach hin
  | stop => exact ⟨l.started + 1, steps_stop h none []⟩

end CallRun

/-! ### Runs -/

/-- A call after some of its steps, given the record of the call. -/
def LifecycleStep.point (s : LifecycleStep) (c : LifecycleCall) (n : ℕ) : CallRun :=
  (CallRun.ofCall s.before c).steps n

namespace Lifecycle

/-- What is so at every step of a call, given the record of the call. -/
structure StaysInBounds (c : LifecycleCall) (s : LifecycleStep) : Prop where
  /-- The call comes to an end, and has then done what its record says. -/
  returns : ∃ n, s.point c n = ⟨s.after, .returned s.result, s.moments⟩
  /-- The counter is never beyond the list. -/
  started_le : ∀ n, (s.point c n).lifecycle.started ≤ (s.point c n).lifecycle.objects.length
  /-- The list only grows at its end. -/
  grows : ∀ n, (s.point c n).lifecycle.objects <+: (s.point c (n + 1)).lifecycle.objects
  /-- No look at the list goes beyond it. -/
  unbroken : ∀ n i, (s.point c n).stage ≠ .broken i
  /-- The moments of the call show the same. -/
  moments : ∀ m ∈ s.moments, m.InBounds
  /-- A stop is over after as many rounds as there are objects at most. -/
  stops_end : ∀ n caller, (s.point c n).stage = .stopping caller →
    ∃ rounds ≤ (s.point c n).lifecycle.objects.length,
      (∀ j ≤ rounds, (s.point c (n + j)).stage = .stopping caller) ∧
        (s.point c (n + rounds + 1)).stage = .afterStop caller

/-- **One call.** A call that begins with the counter within the list stays within it. -/
theorem staysInBounds_call {l : Lifecycle} (h : l.Room 0) (c : LifecycleCall) :
    StaysInBounds c (l.call c).2 ∧ (l.call c).1.Room 0 := by
  have hbefore : (l.call c).2.before = l := by cases c <;> rfl
  have hafter : (l.call c).2.after = (l.call c).1 := by cases c <;> rfl
  have hin : ∀ n, ((l.call c).2.point c n).InBounds := by
    intro n
    unfold LifecycleStep.point
    rw [hbefore]
    exact (CallRun.inBounds_ofCall h c).steps n
  have hreturns : ∃ n, (l.call c).2.point c n =
      ⟨(l.call c).2.after, .returned (l.call c).2.result, (l.call c).2.moments⟩ := by
    unfold LifecycleStep.point
    rw [hbefore, hafter]
    exact CallRun.leadsTo_call h c
  -- the end of the call is one of its points
  have hend : CallRun.InBounds
      ⟨(l.call c).2.after, .returned (l.call c).2.result, (l.call c).2.moments⟩ := by
    obtain ⟨n, hn⟩ := hreturns
    exact hn ▸ hin n
  refine ⟨⟨hreturns, fun n => (hin n).started_le, fun n => ?_, fun n => (hin n).unbroken,
    hend.moments, fun n caller hstage => ?_⟩, ?_⟩
  · have hgrows := (hin n).advances.grows
    rwa [LifecycleStep.point, ← CallRun.steps_concat] at hgrows
  · -- the steps from a point on are the later points of the call
    have hsteps : ∀ j, (l.call c).2.point c (n + j) = ((l.call c).2.point c n).steps j :=
      CallRun.steps_add _ n
    obtain ⟨rounds, hle, hrounds, hover⟩ := (hin n).stop_ends hstage
    refine ⟨rounds, hle, fun j hj => ?_, ?_⟩
    · rw [hsteps]
      exact hrounds j hj
    · rw [Nat.add_assoc, hsteps]
      exact hover
  · rw [← hafter]
    exact hend.room

/-- The list at any step of a call is a beginning of the list that the call leaves. -/
theorem StaysInBounds.objects_point {c : LifecycleCall} {s : LifecycleStep}
    (h : StaysInBounds c s) (n : ℕ) : (s.point c n).lifecycle.objects <+: s.after.objects := by
  obtain ⟨last, hlast⟩ := h.returns
  -- along the later points of the call
  have hgrows : ∀ k, (s.point c n).lifecycle.objects <+: (s.point c (n + k)).lifecycle.objects := by
    intro k
    induction k with
    | zero => exact List.prefix_refl _
    | succ k ih => exact ih.trans (h.grows (n + k))
  -- nothing follows the end of the call
  have hend : s.point c (last + n) = ⟨s.after, .returned s.result, s.moments⟩ := by
    unfold LifecycleStep.point at hlast ⊢
    rw [CallRun.steps_add, hlast]
    exact Function.iterate_fixed rfl n
  have hlater := hgrows last
  rwa [Nat.add_comm, hend] at hlater

theorem StaysInBounds.objects_before {c : LifecycleCall} {s : LifecycleStep}
    (h : StaysInBounds c s) : s.before.objects <+: s.after.objects := by
  have hfirst : (s.point c 0).lifecycle = s.before := by cases c <;> rfl
  rw [← hfirst]
  exact h.objects_point 0

/-- How a lifecycle stands after calls: each of them began with what the one before it left and
stayed in bounds, and the list at every step of them is a beginning of the list as it is now. -/
structure KeptInBounds (log : Log) (l : Lifecycle) : Prop where
  eq_last : l = (log.getLast?.map (·.2.after)).getD {}
  started_le : l.started ≤ l.objects.length
  calls : ∀ pre c s post, log = pre ++ (c, s) :: post →
    s.before = (pre.getLast?.map (·.2.after)).getD {} ∧ StaysInBounds c s ∧
      ∀ n, (s.point c n).lifecycle.objects <+: l.objects

/-- **One call more.** A call after others is kept in bounds like them. -/
theorem KeptInBounds.call {log : Log} {l : Lifecycle} (h : KeptInBounds log l)
    (c : LifecycleCall) : KeptInBounds (log ++ [(c, (l.call c).2)]) (l.call c).1 := by
  have hbefore : (l.call c).2.before = l := by cases c <;> rfl
  have hafter : (l.call c).2.after = (l.call c).1 := by cases c <;> rfl
  obtain ⟨hstays, hroom⟩ := staysInBounds_call h.started_le c
  refine ⟨?_, hroom, fun pre c' s post hsplit => ?_⟩
  · rw [List.getLast?_concat]
    exact hafter.symm
  · -- the call is the last one of the log, or one of those before it
    rcases split_of_concat_eq hsplit with ⟨rfl, hx⟩ | ⟨post', hsplit'⟩
    · obtain ⟨rfl, rfl⟩ := Prod.mk.inj hx
      refine ⟨hbefore.trans h.eq_last, hstays, fun n => ?_⟩
      rw [← hafter]
      exact hstays.objects_point n
    · obtain ⟨hfirst, hstays', hgrows⟩ := h.calls pre c' s post' hsplit'
      refine ⟨hfirst, hstays', fun n => (hgrows n).trans ?_⟩
      have hlater := hstays.objects_before
      rwa [hbefore, hafter] at hlater

/-- **Calls stay in bounds.** Take any run of calls on a lifecycle, made one after another through
any of its clones, in which starts and stops may fail and the starts of objects may stop the
lifecycle and add objects to it, whose starts may do so too. Each call begins with what the one
before it left. At every step of every call the counter is within the list, no look goes beyond the
list, and the list is a beginning of the list at the end of the run. Every call comes to an end, and
so does every stop in it, after as many rounds as there are objects at most. -/
theorem calls_stay_in_bounds (ops : List (Board.Op LifecycleCall)) {handle : ℕ} {l : Lifecycle}
    (hl : ((Board.ofValue ({} : Lifecycle)).run call ops).board.value? handle = some l) :
    KeptInBounds ((Board.ofValue ({} : Lifecycle)).run call ops).log l := by
  -- the clones share one lifecycle, so a run of calls through them is one run
  refine Board.run_invariant (P := KeptInBounds) ⟨rfl, le_rfl, ?_⟩ ?_ ops hl
  · intro pre c s post hlog
    simp at hlog
  · intro log l c h
    exact h.call c

/-- An object that stops the lifecycle in its start, adds an object that meddles too, and then
starts. Its stops fail. -/
def spawning : Managed where
  start _ := .stopAll (.manage "c" meddling.start meddling.stop (.done (.ok ())))
  stop _ := { result := .error "stuck" }

/-- Two starts of a list to which an object is added in each of them. -/
def spawningOps : List (Board.Op LifecycleCall) :=
  [.call 0 (.manage "a" ready), .call 0 (.manage "b" spawning), .call 0 .start, .clone 0,
    .call 1 .start, .call 0 .stop]

theorem calls_stay_in_bounds_spawning :
    ∃ l, ((Board.ofValue ({} : Lifecycle)).run call spawningOps).board.value? 1 = some l ∧
      KeptInBounds ((Board.ofValue ({} : Lifecycle)).run call spawningOps).log l := by
  have hsome :
      (((Board.ofValue ({} : Lifecycle)).run call spawningOps).board.value? 1).isSome := rfl
  obtain ⟨l, hl⟩ := Option.isSome_iff_exists.mp hsome
  exact ⟨l, hl, calls_stay_in_bounds spawningOps hl⟩

/-- The counter at the steps of a start in which the second object spawns, and the length of the
list. -/
example :
    (List.range 10).map (fun n =>
      let r := (CallRun.ofCall ((({} : Lifecycle).manage "a" ready).manage "b" spawning)
        .start).steps n
      (r.lifecycle.started, r.lifecycle.objects.length)) =
      [(0, 2), (0, 2), (0, 2), (1, 2), (1, 2), (1, 2), (0, 2), (0, 2), (0, 3), (1, 3)] := rfl

end Lifecycle

end ServiceHost
