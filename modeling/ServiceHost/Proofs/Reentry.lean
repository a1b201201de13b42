import ServiceHost.Proofs.LifecycleRun

/-!
# Starts that act on the lifecycle

The start of an object may stop the lifecycle that it is started by. The counter is then zero, but
the start call counts the object as soon as its start succeeds, and from there on the counter says
that the first object runs when another one does. So a later stop stops an object that does not
run, and leaves one running that does.

* `Lifecycle.Sound` and `Lifecycle.Astray` are the two states that a run is in: the counter is
  right and has always been, or such a start has succeeded.
* `Lifecycle.stops_only_running_iff_undisturbed` says that this is all that goes wrong: every stop
  is a stop of a running object and a stop at the end leaves nothing running, exactly when no start
  succeeds in which an object was stopped. That the stops are the objects' own is
  `Lifecycle.Recorded.call`, as for plain runs.
-/

namespace ServiceHost

namespace LifecycleEvent

/-! ### Checks at every event -/

/-- A check holds at every event, given the events before it. -/
def Always (check : List LifecycleEvent → LifecycleEvent → Prop)
    (events : List LifecycleEvent) : Prop :=
  ∀ done e rest, events = done ++ e :: rest → check done e

section Always

variable {check : List LifecycleEvent → LifecycleEvent → Prop} {xs ys : List LifecycleEvent}

theorem Always.nil : Always check [] := by
  intro done e rest h
  simp at h

/-- What holds at every event holds at every event of a beginning. -/
theorem Always.left (h : Always check (xs ++ ys)) : Always check xs := by
  intro done e rest hxs
  refine h done e (rest ++ ys) ?_
  rw [hxs, List.append_assoc]
  rfl

theorem always_concat {e : LifecycleEvent} :
    Always check (xs ++ [e]) ↔ Always check xs ∧ check xs e := by
  refine ⟨fun h => ⟨h.left, h xs e [] rfl⟩, ?_⟩
  rintro ⟨hxs, he⟩ done e' rest h
  -- the event to be checked is the last one, or stands before it
  rcases split_of_concat_eq h with ⟨rfl, rfl⟩ | ⟨rest', h'⟩
  · exact he
  · exact hxs done e' rest' h'

/-- Events that pass the check whatever was before them are no matter. -/
theorem Always.append_of (h : Always check xs) (hys : ∀ e ∈ ys, ∀ done, check done e) :
    Always check (xs ++ ys) := by
  induction ys generalizing xs with
  | nil => rwa [List.append_nil]
  | cons e ys ih =>
    rw [← List.singleton_append, ← List.append_assoc]
    exact ih (always_concat.mpr ⟨h, hys e List.mem_cons_self xs⟩)
      fun e' he' => hys e' (List.mem_cons_of_mem _ he')

end Always

/-- If an event is the stop of an object, then the object runs. -/
def StopsRunning (done : List LifecycleEvent) (e : LifecycleEvent) : Prop :=
  ∀ i name, e = .stopping i name → i ∈ running done

/-- The objects that were stopped since a start was called last. -/
def stoppedInStart (events : List LifecycleEvent) : List ℕ :=
  events.foldl (fun indices e =>
    match e with
    | .starting .. => []
    | .stopping index _ => indices ++ [index]
    | _ => indices) []

/-- If an event is the success of a start, then no object was stopped in the start. -/
def SucceedsAlone (done : List LifecycleEvent) (e : LifecycleEvent) : Prop :=
  ∀ i name, e = .started i name → stoppedInStart done = []

/-- Every stop is the stop of an object that runs. -/
def StopsOnlyRunning (events : List LifecycleEvent) : Prop := Always StopsRunning events

/-- No start succeeds in which an object was stopped. -/
def Undisturbed (events : List LifecycleEvent) : Prop := Always SucceedsAlone events

/-- Where no start succeeds, it does not matter what was stopped. -/
theorem Undisturbed.append {xs ys : List LifecycleEvent} (h : Undisturbed xs)
    (hys : ∀ i, (i, .ok ()) ∉ answers ys) : Undisturbed (xs ++ ys) := by
  refine Always.append_of h fun e he done i name hi => ?_
  -- a success among the new events would be an answer of theirs
  rw [hi] at he
  exact absurd (show (i, .ok ()) ∈ answers ys from List.mem_filterMap.mpr ⟨_, he, rfl⟩) (hys i)

theorem StopsOnlyRunning.append {xs ys : List LifecycleEvent} (h : StopsOnlyRunning xs)
    (hys : stopped ys = []) : StopsOnlyRunning (xs ++ ys) := by
  refine Always.append_of h fun e he done i name hi => ?_
  rw [hi] at he
  exact absurd he (not_mem_stopping hys i name)

/-- Where no start is called, the stops add up. -/
theorem stoppedInStart_append {xs ys : List LifecycleEvent} (h : attempted ys = []) :
    stoppedInStart (xs ++ ys) = stoppedInStart xs ++ stopped ys := by
  induction ys generalizing xs with
  | nil => rw [List.append_nil, stopped, List.filterMap_nil, List.append_nil]
  | cons e ys ih =>
    have hys : attempted ys = [] :=
      List.filterMap_eq_nil_iff.mpr fun e' he' =>
        List.filterMap_eq_nil_iff.mp h e' (List.mem_cons_of_mem _ he')
    -- one event more is a stop or none, since the calls of starts are excluded
    have hxs : stoppedInStart (xs ++ [e]) = stoppedInStart xs ++ stopped [e] := by
      rw [stoppedInStart, List.foldl_append]
      cases e with
      | starting i name =>
        cases List.filterMap_eq_nil_iff.mp h (.starting i name) List.mem_cons_self
      | stopping i name => rfl
      | _ => exact (List.append_nil _).symm
    rw [← List.singleton_append, ← List.append_assoc, ih hys, hxs, stopped_append,
      List.append_assoc]

theorem running_append_of_asides {xs ys : List LifecycleEvent} (h : ∀ e ∈ ys, e.IsAside) :
    running (xs ++ ys) = running xs := by
  rw [running_append, runningFrom_of_asides h]

end LifecycleEvent

namespace Lifecycle

open LifecycleEvent

/-! ### Two states -/

/-- The counter is right, and it has been right so far. -/
structure Sound (events : List LifecycleEvent) (l : Lifecycle) : Prop where
  running_eq : running events = Finset.range l.started
  stopsOnlyRunning : StopsOnlyRunning events
  undisturbed : Undisturbed events

/-- A start succeeded in which an object was stopped. Then an object was stopped that did not run,
or the counter says of the first object that it runs although it does not. -/
structure Astray (events : List LifecycleEvent) (l : Lifecycle) : Prop where
  disturbed : ¬ Undisturbed events
  wrong : ¬ StopsOnlyRunning events ∨ (0 < l.started ∧ 0 ∉ running events)

/-! #### Stops -/

/-- The events of a stop: the last object is stopped, and then the others. -/
theorem events_stopLast_succ {l : Lifecycle} {n : ℕ} (hn : n + 1 ≤ l.objects.length) :
    ∃ (name : String) (asides : List LifecycleEvent), (∀ e ∈ asides, e.IsAside) ∧
      n ≤ (l.takenOff n).objects.length ∧
      ∀ events : List LifecycleEvent,
        events ++ (stopLast (n + 1) l).2.map (·.event) =
          events ++ [.stopping n name] ++ asides
            ++ (stopLast n (l.takenOff n)).2.map (·.event) := by
  -- only the shape of what the last object shows is needed here
  obtain ⟨e, he⟩ := exists_entry hn (Nat.lt_succ_self n)
  refine ⟨e.name, (e.object.stop e.stops).shown n e.name,
    fun _ => StopOutcome.isAside_of_mem_shown, ?_, fun events => ?_⟩
  · rw [objects_takenOff]
    omega
  · rw [stopLast_succ he, stopEvents_eq_cons, List.map_append, map_event_map]
    simp only [List.append_assoc, List.cons_append, List.nil_append]

theorem running_concat_stopping (events : List LifecycleEvent) (n : ℕ) (name : String) :
    running (events ++ [.stopping n name]) = (running events).erase n := by
  rw [running_append]
  rfl

/-- A stop of objects that run. -/
theorem stopsOnlyRunning_stopLast {n : ℕ} {l : Lifecycle} {events : List LifecycleEvent}
    (hn : n ≤ l.objects.length) (h : StopsOnlyRunning events)
    (hrunning : Finset.range n ⊆ running events) :
    StopsOnlyRunning (events ++ (stopLast n l).2.map (·.event)) := by
  induction n generalizing l events with
  | zero =>
    change StopsOnlyRunning (events ++ [])
    rwa [List.append_nil]
  | succ n ih =>
    obtain ⟨name, asides, hasides, hn', hevents⟩ := events_stopLast_succ hn
    rw [hevents]
    refine ih hn' (StopsOnlyRunning.append (always_concat.mpr ⟨h, ?_⟩) ?_) ?_
    · -- the last object still runs when it is stopped
      intro i name' hi
      injection hi with hi
      exact hrunning (Finset.mem_range.mpr (by omega))
    · exact stopped_of_asides hasides
    · -- and the objects below it run on
      rw [running_append_of_asides hasides, running_concat_stopping]
      intro i hi
      have hin : i < n := Finset.mem_range.mp hi
      exact Finset.mem_erase.mpr ⟨hin.ne, hrunning (Finset.mem_range.mpr (by omega))⟩

/-- A stop that comes down to the first object when that one does not run. -/
theorem not_stopsOnlyRunning_stopLast {n : ℕ} {l : Lifecycle} {events : List LifecycleEvent}
    (hn : n ≤ l.objects.length) (hpos : 0 < n) (hrunning : 0 ∉ running events) :
    ¬ StopsOnlyRunning (events ++ (stopLast n l).2.map (·.event)) := by
  induction n generalizing l events with
  | zero => omega
  | succ n ih =>
    obtain ⟨name, asides, hasides, hn', hevents⟩ := events_stopLast_succ hn
    rw [hevents]
    rcases Nat.eq_zero_or_pos n with rfl | hpos
    · -- this is the stop of the first object
      intro h
      exact hrunning ((always_concat.mp h.left.left).2 0 name rfl)
    · -- the stop of another one does not make the first object run
      refine ih hn' hpos ?_
      rw [running_append_of_asides hasides, running_concat_stopping]
      exact fun h => hrunning (Finset.mem_of_mem_erase h)

theorem Sound.after_stop {events : List LifecycleEvent} {l : Lifecycle} (h : Sound events l)
    (hl : l.started ≤ l.objects.length) :
    Sound (events ++ l.stop.2.map (·.event)) l.stop.1 ∧ l.stop.1.started = 0 := by
  obtain ⟨hfollows, hzero⟩ := stopLast_follows rfl hl
  obtain ⟨-, -, hanswers⟩ := calls_stopLast hl
  refine ⟨⟨?_, ?_, h.undisturbed.append fun i hi => ?_⟩, hzero⟩
  · rw [running_append, h.running_eq]
    exact hfollows.running_eq
  · exact stopsOnlyRunning_stopLast hl h.stopsOnlyRunning h.running_eq.ge
  · rw [show answers (l.stop.2.map (·.event)) = [] from hanswers] at hi
    exact List.not_mem_nil hi

theorem Astray.after_stop {events : List LifecycleEvent} {l : Lifecycle} (h : Astray events l)
    (hl : l.started ≤ l.objects.length) :
    Astray (events ++ l.stop.2.map (·.event)) l.stop.1 ∧
      ¬ StopsOnlyRunning (events ++ l.stop.2.map (·.event)) := by
  have hstops : ¬ StopsOnlyRunning (events ++ l.stop.2.map (·.event)) := by
    -- the counter says that the first object runs, so the stop comes down to it
    rcases h.wrong with hstops | ⟨hpos, hrunning⟩
    · exact fun hs => hstops hs.left
    · exact not_stopsOnlyRunning_stopLast hl hpos hrunning
  exact ⟨⟨fun hu => h.disturbed hu.left, Or.inl hstops⟩, hstops⟩

/-! #### Other events -/

/-- An event that changes neither what runs nor what was stopped. -/
theorem Sound.append {events more : List LifecycleEvent} {l l' : Lifecycle}
    (h : Sound events l) (hrunning : running (events ++ more) = running events)
    (hstopped : stopped more = []) (hanswers : ∀ i, (i, .ok ()) ∉ answers more)
    (hl : l'.started = l.started) : Sound (events ++ more) l' where
  running_eq := by rw [hrunning, h.running_eq, hl]
  stopsOnlyRunning := h.stopsOnlyRunning.append hstopped
  undisturbed := h.undisturbed.append hanswers

/-- Nothing that happens sets a lifecycle right again while the counter does not fall and the
first object is not started. -/
theorem Astray.append {events : List LifecycleEvent} {l l' : Lifecycle} (h : Astray events l)
    (more : List LifecycleEvent)
    (hmore : StopsOnlyRunning (events ++ more) → 0 ∉ running events →
      0 ∉ running (events ++ more))
    (hl : l.started ≤ l'.started) : Astray (events ++ more) l' := by
  refine ⟨fun hu => h.disturbed hu.left, ?_⟩
  by_cases hstops : StopsOnlyRunning (events ++ more)
  · -- no wrong stop so far, so it is the counter that is wrong
    rcases h.wrong with hstops' | ⟨hpos, hrunning⟩
    · exact absurd hstops.left hstops'
    · exact Or.inr ⟨lt_of_lt_of_le hpos hl, hmore hstops hrunning⟩
  · exact Or.inl hstops

/-! #### Hooks -/

/-- There is room for more starts: the list reaches as far beyond the counter as they need. -/
def Room (k : ℕ) (l : Lifecycle) : Prop :=
  l.started + k ≤ l.objects.length

theorem Room.started_le {k : ℕ} {l : Lifecycle} (h : l.Room k) :
    l.started ≤ l.objects.length :=
  le_trans (Nat.le_add_right _ _) h

theorem Room.after_stop {k : ℕ} {l : Lifecycle} (h : l.Room k) : l.stop.1.Room k := by
  obtain ⟨hfollows, hzero⟩ := stopLast_follows rfl h.started_le
  -- the counter falls to zero and the list stays as long
  have hobjects : l.stop.1.objects = l.objects := hfollows.objects_eq
  have hzero' : l.stop.1.started = 0 := hzero
  unfold Room at h ⊢
  rw [hobjects, hzero']
  omega

theorem Room.after_manage {k : ℕ} {l : Lifecycle} (h : l.Room k) (name : String)
    (object : Managed) : (l.manage name object).Room k := by
  unfold Room at h ⊢
  rw [objects_manage, List.length_append]
  exact Nat.le_add_right_of_le h

/-- How things stand within the start of an object that began with a sound lifecycle: either
nothing was stopped, or everything was, and then it is not the first object that is started. -/
structure Within (k i : ℕ) (events : List LifecycleEvent) (l : Lifecycle) : Prop where
  room : l.Room k
  sound : Sound events l
  stopped : (stoppedInStart events = [] ∧ l.started = i) ∨
    (stoppedInStart events ≠ [] ∧ l.started = 0 ∧ 0 < i)

theorem Within.after_runHook {k i : ℕ} {events : List LifecycleEvent} {l : Lifecycle}
    (h : Within k i events l) (hook : Hook) :
    Within k i (events ++ (runHook hook l).2.2.map (·.event)) (runHook hook l).2.1 := by
  refine runHook_invariant (P := Within k i) ?_ ?_ ?_ hook h
  · intro events l text h
    have hasides : ∀ e ∈ [LifecycleEvent.note text], e.IsAside := by simp [IsAside]
    refine ⟨h.room,
      h.sound.append (running_append_of_asides hasides) rfl (by simp [answers]) rfl, ?_⟩
    rw [stoppedInStart_append rfl]
    change (stoppedInStart events ++ [] = [] ∧ _) ∨ (stoppedInStart events ++ [] ≠ [] ∧ _)
    rw [List.append_nil]
    exact h.stopped
  · intro events l h
    obtain ⟨hsound, hzero⟩ := h.sound.after_stop h.room.started_le
    obtain ⟨hstopped, hattempted, -⟩ := calls_stopLast h.room.started_le
    refine ⟨h.room.after_stop, hsound, ?_⟩
    rw [stoppedInStart_append (show attempted (l.stop.2.map (·.event)) = [] from hattempted),
      show LifecycleEvent.stopped (l.stop.2.map (·.event)) = _ from hstopped, hzero]
    rcases h.stopped with ⟨hnone, hi⟩ | ⟨hsome, hl, hi⟩
    · -- the stop is the first one of the start: it stops nothing if the first object is started
      rw [hnone, hi]
      rcases Nat.eq_zero_or_pos i with rfl | hpos
      · exact Or.inl ⟨rfl, rfl⟩
      · refine Or.inr ⟨fun h => ?_, rfl, hpos⟩
        have hlength := congrArg List.length h
        simp at hlength
        omega
    · -- everything was stopped before, and the stop has nothing to do
      exact Or.inr ⟨fun h => hsome (List.append_eq_nil_iff.mp h).1, rfl, hi⟩
  · -- an object that is added is not started and not stopped
    intro events l name object h
    exact ⟨h.room.after_manage name object,
      ⟨h.sound.running_eq, h.sound.stopsOnlyRunning, h.sound.undisturbed⟩, h.stopped⟩

theorem Astray.after_runHook {k : ℕ} {events : List LifecycleEvent} {l : Lifecycle}
    (h : Astray events l ∧ l.Room k) (hook : Hook) :
    Astray (events ++ (runHook hook l).2.2.map (·.event)) (runHook hook l).2.1 ∧
      (runHook hook l).2.1.Room k := by
  refine runHook_invariant (P := fun events l => Astray events l ∧ l.Room k) ?_ ?_ ?_ hook h
  · rintro events l text ⟨h, hroom⟩
    have hasides : ∀ e ∈ [LifecycleEvent.note text], e.IsAside := by simp [IsAside]
    refine ⟨h.append _ (fun _ h0 => ?_) le_rfl, hroom⟩
    rwa [running_append_of_asides hasides]
  · -- a stop on the way stops an object that does not run, if none has been before
    rintro events l ⟨h, hroom⟩
    exact ⟨(h.after_stop hroom.started_le).1, hroom.after_stop⟩
  · rintro events l name object ⟨h, hroom⟩
    exact ⟨⟨h.disturbed, h.wrong⟩, hroom.after_manage name object⟩

/-! ### Starting -/

theorem Room.after_calling {k : ℕ} {l : Lifecycle} (h : l.Room k) (i : ℕ) :
    (l.calling i).Room k := by
  unfold Room
  rw [objects_calling]
  exact h

theorem Room.after_counted {k : ℕ} {l : Lifecycle} (h : l.Room (k + 1)) : l.counted.Room k := by
  change l.started + 1 + k ≤ l.objects.length
  unfold Room at h
  omega

/-- A start call that begins with a lifecycle gone astray, or goes on with one, leaves it so. -/
theorem Astray.after_startEach {pending : List ℕ} {events : List LifecycleEvent} {l : Lifecycle}
    (h : Astray events l) (hroom : l.Room pending.length)
    (hpending : ¬ StopsOnlyRunning events ∨ ∀ i ∈ pending, 0 < i) :
    Astray (events ++ (startEach pending l).2.2.map (·.event)) (startEach pending l).2.1 ∧
      (startEach pending l).2.1.Room 0 := by
  induction pending generalizing events l with
  | nil =>
    refine ⟨?_, hroom⟩
    change Astray (events ++ []) l
    rwa [List.append_nil]
  | cons i rest ih =>
    cases he : l.entries[i]? with
    | none =>
      -- the list does not reach as far, and the call ends there
      have hasides : ∀ e ∈ [LifecycleEvent.outOfBounds i], e.IsAside := by simp [IsAside]
      rw [startEach_of_none he]
      refine ⟨h.append _ (fun _ h0 => ?_) le_rfl, hroom.started_le⟩
      rwa [List.map_singleton, running_append_of_asides hasides]
    | some e =>
      have hcalled : Astray (events ++ [.starting i e.name]) (l.calling i) :=
        h.append _ (fun _ h0 => by rw [running_append]; exact h0) le_rfl
      obtain ⟨hran, hroom'⟩ := Astray.after_runHook ⟨hcalled, hroom.after_calling i⟩
        (e.object.start e.starts)
      rcases hrun : runHook (e.object.start e.starts) (l.calling i) with ⟨result, ran, moments⟩
      rw [hrun] at hran hroom'
      cases result with
      | error cause =>
        -- a failed start is not counted, and sets nothing right
        rw [startEach_of_error he hrun, events_startEach]
        refine ⟨?_, hroom'.started_le⟩
        rw [List.map_nil, List.append_nil]
        exact hran.append _ (fun _ h0 => by rw [running_append]; exact h0) le_rfl
      | ok =>
        rw [startEach_of_ok he hrun, events_startEach]
        refine ih (hran.append _ (fun hs h0 => ?_) (Nat.le_succ _)) hroom'.after_counted ?_
        · -- the object that is started is not the first one
          have hi : 0 < i := by
            rcases hpending with hstops | hpos
            · refine absurd ?_ hstops
              rw [List.append_assoc, List.append_assoc] at hs
              exact hs.left
            · exact hpos i List.mem_cons_self
          rw [running_append]
          exact fun hmem => (Finset.mem_insert.mp hmem).elim (fun h => hi.ne h) h0
        · -- what was wrong before the start is wrong after it, for the objects that remain
          rcases hpending with hstops | hpos
          · refine Or.inl fun hs => hstops ?_
            rw [List.append_assoc, List.append_assoc] at hs
            exact hs.left
          · exact Or.inr fun j hj => hpos j (List.mem_cons_of_mem _ hj)

/-- **One start call.** A start call on a sound lifecycle leaves it sound or makes it go astray. -/
theorem Sound.after_startEach {k : ℕ} {events : List LifecycleEvent} {l : Lifecycle}
    (h : Sound events l) (hroom : l.Room k) :
    let run := startEach (List.range' l.started k) l
    (Sound (events ++ run.2.2.map (·.event)) run.2.1 ∨
      Astray (events ++ run.2.2.map (·.event)) run.2.1) ∧ run.2.1.Room 0 := by
  induction k generalizing events l with
  | zero =>
    refine ⟨Or.inl ?_, hroom⟩
    change Sound (events ++ []) l
    rwa [List.append_nil]
  | succ k ih =>
    obtain ⟨e, he⟩ := exists_entry hroom (show l.started < l.started + (k + 1) by omega)
    -- as the start is called nothing has been stopped in it
    have hcalled : Within (k + 1) l.started (events ++ [.starting l.started e.name])
        (l.calling l.started) := by
      refine ⟨hroom.after_calling _, h.append ?_ rfl (by simp [answers]) rfl, Or.inl ⟨?_, rfl⟩⟩
      · rw [running_append]
        rfl
      · rw [stoppedInStart, List.foldl_append]
        rfl
    have hran := hcalled.after_runHook (e.object.start e.starts)
    rcases hrun : runHook (e.object.start e.starts) (l.calling l.started)
      with ⟨result, ran, moments⟩
    rw [hrun] at hran
    rw [List.range'_succ]
    intro run
    cases result with
    | error cause =>
      -- the start fails: nothing is counted, whatever was stopped in it
      have hfailed : run = _ := startEach_of_error he hrun
      rw [hfailed, events_startEach, List.map_nil, List.append_nil]
      refine ⟨Or.inl (hran.sound.append ?_ rfl (by simp [answers]) rfl), hran.room.started_le⟩
      rw [running_append]
      rfl
    | ok =>
      have hok : run = _ := startEach_of_ok he hrun
      rw [hok, events_startEach]
      rcases hran.stopped with ⟨hnone, hi⟩ | ⟨hsome, hl, hi⟩
      · -- the counter was right when the start succeeded, and so it is afterwards
        change ran.started = l.started at hi
        have hnext : Sound (events ++ [.starting l.started e.name] ++ moments.map (·.event)
            ++ [.started l.started e.name]) ran.counted := by
          refine ⟨?_, hran.sound.stopsOnlyRunning.append rfl,
            always_concat.mpr ⟨hran.sound.undisturbed, fun _ _ _ => hnone⟩⟩
          rw [running_append, hran.sound.running_eq]
          change insert l.started (Finset.range ran.started) = Finset.range (ran.started + 1)
          rw [hi, Finset.range_add_one]
        have hlater := ih hnext hran.room.after_counted
        rw [show ran.counted.started = l.started + 1 by rw [← hi]; rfl] at hlater
        exact hlater
      · -- nothing ran when the start succeeded, and it is not the first object that it started
        change ran.started = 0 at hl
        have hnext : Astray (events ++ [.starting l.started e.name] ++ moments.map (·.event)
            ++ [.started l.started e.name]) ran.counted := by
          refine ⟨fun hu => hsome ((always_concat.mp hu).2 _ _ rfl),
            Or.inr ⟨Nat.succ_pos _, ?_⟩⟩
          rw [running_append, hran.sound.running_eq]
          change 0 ∉ insert l.started (Finset.range ran.started)
          rw [hl]
          exact fun hmem => (Finset.mem_insert.mp hmem).elim (fun h => hi.ne h) (by simp)
        have hroom' : ran.counted.Room (List.range' (l.started + 1) k).length := by
          rw [List.length_range']
          exact hran.room.after_counted
        have hlater := hnext.after_startEach hroom'
          (Or.inr fun j hj => by have := (List.mem_range'_1.mp hj).1; omega)
        exact ⟨Or.inr hlater.1, hlater.2⟩

/-! ### Runs -/

/-- What a run keeps: it is sound or gone astray, and the counter is within the list. -/
def Kept (log : Log) (l : Lifecycle) : Prop :=
  (Sound (history log) l ∨ Astray (history log) l) ∧ l.Room 0

theorem start_eq_startEach {l : Lifecycle} (h : l.Room 0) :
    l.start = startEach (List.range' l.started (l.entries.length - l.started)) l := by
  -- a counter within the list is never reported as beyond it
  have hle : l.started ≤ l.entries.length := by
    rw [← length_objects]
    exact h
  rw [start, if_pos hle]

theorem Room.pending {l : Lifecycle} (h : l.Room 0) :
    l.Room (l.entries.length - l.started) := by
  unfold Room at h ⊢
  rw [length_objects] at h ⊢
  omega

/-- **One call.** Every call keeps a run sound or gone astray. -/
theorem Kept.call {log : Log} {l : Lifecycle} (h : Kept log l) (c : LifecycleCall) :
    Kept (log ++ [(c, (l.call c).2)]) (l.call c).1 := by
  obtain ⟨hstate, hroom⟩ := h
  unfold Kept
  rw [history_append, history_single]
  cases c with
  | manage name object =>
    -- an object that is added changes nothing of what the two states speak of
    refine ⟨?_, hroom.after_manage name object⟩
    change (Sound (history log ++ []) _ ∨ Astray (history log ++ []) _)
    rw [List.append_nil]
    exact hstate.imp (fun h => ⟨h.running_eq, h.stopsOnlyRunning, h.undisturbed⟩)
      fun h => ⟨h.disturbed, h.wrong⟩
  | start =>
    change (Sound (history log ++ l.start.2.2.map (·.event)) l.start.2.1 ∨
      Astray (history log ++ l.start.2.2.map (·.event)) l.start.2.1) ∧ l.start.2.1.Room 0
    rw [start_eq_startEach hroom]
    rcases hstate with hsound | hastray
    · exact hsound.after_startEach hroom.pending
    · -- the counter is not zero if it is wrong, so the first object is not pending
      have hroom' : l.Room
          (List.range' l.started (l.entries.length - l.started)).length := by
        rw [List.length_range']
        exact hroom.pending
      have hlater := hastray.after_startEach hroom' (hastray.wrong.imp_right fun hpos i hi =>
        lt_of_lt_of_le hpos.1 (List.mem_range'_1.mp hi).1)
      exact ⟨Or.inr hlater.1, hlater.2⟩
  | stop =>
    exact ⟨hstate.imp (fun h => (h.after_stop hroom).1) fun h => (h.after_stop hroom).1,
      hroom.after_stop⟩

/-- **When stops are right.** Take any run of calls on a lifecycle, made through any of its
clones, in which starts may stop the lifecycle and add objects to it, and then a last stop. In all
of this only objects that run are stopped, and nothing runs at the end, exactly when no start
succeeds in which an object was stopped. Right or wrong, every stop is a stop of the object itself,
which does what it does in the stop of that number. -/
theorem stops_only_running_iff_undisturbed (ops : List (Board.Op LifecycleCall)) {handle : ℕ}
    {l : Lifecycle}
    (hl : ((Board.ofValue ({} : Lifecycle)).run call ops).board.value? handle = some l) :
    let log := ((Board.ofValue ({} : Lifecycle)).run call ops).log
    let events := history log ++ l.stop.2.map (·.event)
    ((StopsOnlyRunning events ∧ running events = ∅) ↔ Undisturbed (history log)) ∧
      OwnStops l.objects events := by
  intro log events
  -- whose stops they are does not depend on whether the counter is right
  have hrecorded : Recorded (history log) l := by
    refine Board.run_invariant (P := fun log l => Recorded (history log) l) .empty
      (fun log l c h => ?_) ops hl
    rw [history_append, history_single]
    exact h.call c
  refine ⟨?_, objects_stopLast l.started l ▸ (hrecorded.stopLast l.started).ownStops⟩
  have hkept : Kept log l := by
    refine Board.run_invariant (P := Kept) ⟨Or.inl ⟨rfl, Always.nil, Always.nil⟩, le_rfl⟩
      (fun log l c h => h.call c) ops hl
  obtain ⟨hsound | hastray, hroom⟩ := hkept
  · -- the run is sound, and so is the last stop
    refine ⟨fun _ => hsound.undisturbed, fun _ => ?_⟩
    obtain ⟨hstopped, hzero⟩ := hsound.after_stop hroom
    refine ⟨hstopped.stopsOnlyRunning, ?_⟩
    rw [hstopped.running_eq, hzero]
    rfl
  · -- the run has gone astray: at the latest the last stop stops an object that does not run
    exact ⟨fun h => absurd h.1 (hastray.after_stop hroom).2,
      fun h => absurd h hastray.disturbed⟩

/-- An object that starts at once. -/
def ready : Managed where
  start _ := .done (.ok ())
  stop _ := {}

/-- An object that stops the lifecycle in its start, and then starts. -/
def meddling : Managed where
  start _ := .stopAll (.done (.ok ()))
  stop _ := {}

/-- A start of two objects of which the first one meddles: there is nothing to stop yet. -/
def meddlingFirstOps : List (Board.Op LifecycleCall) :=
  [.call 0 (.manage "a" meddling), .call 0 (.manage "b" ready), .clone 0, .call 1 .start]

theorem stops_only_running_iff_undisturbed_meddling :
    ∃ l, ((Board.ofValue ({} : Lifecycle)).run call meddlingFirstOps).board.value? 1 = some l ∧
      ((StopsOnlyRunning (history ((Board.ofValue ({} : Lifecycle)).run call meddlingFirstOps).log
            ++ l.stop.2.map (·.event)) ∧
          running (history ((Board.ofValue ({} : Lifecycle)).run call meddlingFirstOps).log
            ++ l.stop.2.map (·.event)) = ∅) ↔
        Undisturbed
          (history ((Board.ofValue ({} : Lifecycle)).run call meddlingFirstOps).log)) ∧
      OwnStops l.objects (history ((Board.ofValue ({} : Lifecycle)).run call meddlingFirstOps).log
        ++ l.stop.2.map (·.event)) := by
  have hsome :
      (((Board.ofValue ({} : Lifecycle)).run call meddlingFirstOps).board.value? 1).isSome := rfl
  obtain ⟨l, hl⟩ := Option.isSome_iff_exists.mp hsome
  exact ⟨l, hl, stops_only_running_iff_undisturbed meddlingFirstOps hl⟩

/-- A start of two objects of which the second one meddles. -/
def meddlingLastOps : List (Board.Op LifecycleCall) :=
  [.call 0 (.manage "a" ready), .call 0 (.manage "b" meddling), .call 0 .start, .call 0 .stop]

/-- The first object is stopped twice, and the second one is left running. -/
theorem not_stops_only_running_meddling :
    ¬ StopsOnlyRunning (history ((Board.ofValue ({} : Lifecycle)).run call meddlingLastOps).log) ∧
      running (history ((Board.ofValue ({} : Lifecycle)).run call meddlingLastOps).log) = {1} := by
  have hhistory : history ((Board.ofValue ({} : Lifecycle)).run call meddlingLastOps).log =
      [.starting 0 "a", .started 0 "a", .starting 1 "b", .stopping 0 "a", .started 1 "b",
        .stopping 0 "a"] := rfl
  rw [hhistory]
  refine ⟨fun h => ?_, by decide⟩
  -- the last stop is the wrong one
  have hmem := h [.starting 0 "a", .started 0 "a", .starting 1 "b", .stopping 0 "a",
    .started 1 "b"] (.stopping 0 "a") [] rfl 0 "a" rfl
  exact absurd hmem (by decide)

end Lifecycle

end ServiceHost
