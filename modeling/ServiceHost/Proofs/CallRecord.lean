import Mathlib.Algebra.Group.Nat.Defs
import Mathlib.Algebra.Group.Prod
import ServiceHost.Proofs.Running

/-!
# What is recorded of calls on objects

A start or a stop of an object may differ from one call to the next, so it matters which call it
is. A lifecycle keeps the numbers of the calls, its *tally*, and the events of a run count them: the
two agree, whatever the starts of the objects do to the lifecycle. So the call that an object is
asked for next is the one after all that were made, and everything that its stop does is on record
behind the event that says that it is called.

* `LifecycleEvent.OwnStops` says of events that each stop in them is the stop of the object itself.
* `Lifecycle.Recorded` is the invariant, the agreement of the numbers and that the stops are the
  objects' own. It does not depend on the counter.
* `Lifecycle.Recorded.call` is the step: every call of every kind keeps it. Stops keep it by
  `Lifecycle.Recorded.stopLast`, and the starts of objects by induction over their scripts.
-/

namespace ServiceHost

namespace LifecycleEvent

/-- How often the start and the stop of an object are called. -/
def calls (events : List LifecycleEvent) (i : ℕ) : ℕ × ℕ :=
  ((attempted events).count i, (stopped events).count i)

theorem calls_append (xs ys : List LifecycleEvent) (i : ℕ) :
    calls (xs ++ ys) i = calls xs i + calls ys i := by
  unfold calls
  rw [attempted_append, stopped_append, List.count_append, List.count_append]
  rfl

theorem calls_starting (i : ℕ) (name : String) (j : ℕ) :
    calls [.starting i name] j = if i = j then (1, 0) else (0, 0) := by
  change ([i].count j, 0) = _
  rw [List.count_singleton]
  by_cases hij : i = j <;> simp [hij]

theorem calls_stopping (i : ℕ) (name : String) (j : ℕ) :
    calls [.stopping i name] j = if i = j then (0, 1) else (0, 0) := by
  change (0, [i].count j) = _
  rw [List.count_singleton]
  by_cases hij : i = j <;> simp [hij]

/-- Each stop in events is a stop of the object itself. It has its number among the stops of the
object, and what the object does in this stop comes next. -/
def OwnStops (objects : List (String × Managed)) (events : List LifecycleEvent) : Prop :=
  ∀ done i name rest, events = done ++ .stopping i name :: rest →
    ∃ object, objects[i]? = some (name, object) ∧
      (object.stop ((stopped done).count i)).shown i name <+: rest

theorem not_mem_stopping {events : List LifecycleEvent} (h : stopped events = []) (i : ℕ)
    (name : String) : LifecycleEvent.stopping i name ∉ events := by
  intro hmem
  cases List.filterMap_eq_nil_iff.mp h _ hmem

section OwnStops

variable {objects objects' : List (String × Managed)} {xs ys : List LifecycleEvent}

/-- What comes behind is no matter as long as its own stops are recorded, with their numbers. -/
theorem OwnStops.append (h : OwnStops objects xs) (hobjects : objects <+: objects')
    (hys : ∀ done i name rest, ys = done ++ .stopping i name :: rest →
      ∃ object, objects'[i]? = some (name, object) ∧
        (object.stop ((stopped (xs ++ done)).count i)).shown i name <+: rest) :
    OwnStops objects' (xs ++ ys) := by
  intro done i name rest hsplit
  -- a stop of the first part keeps its number, and one of the second has those of the first before
  -- it
  rcases split_of_append_eq hsplit with ⟨rest', hxs, rfl⟩ | ⟨done', hys', rfl⟩
  · obtain ⟨object, hobject, hshown⟩ := h done i name rest' hxs
    obtain ⟨more, rfl⟩ := hobjects
    obtain ⟨hlt, -⟩ := List.getElem?_eq_some_iff.mp hobject
    refine ⟨object, ?_, hshown.trans (List.prefix_append _ _)⟩
    rw [List.getElem?_append_left hlt, hobject]
  · exact hys done' i name rest hys'

theorem OwnStops.append_of_stopped_eq_nil (h : OwnStops objects xs)
    (hobjects : objects <+: objects') (hys : stopped ys = []) : OwnStops objects' (xs ++ ys) := by
  refine h.append hobjects fun done i name rest hsplit => absurd ?_ (not_mem_stopping hys i name)
  rw [hsplit]
  exact List.mem_append_right _ List.mem_cons_self

end OwnStops

end LifecycleEvent

namespace Lifecycle

open LifecycleEvent

/-! ### Tallies -/

/-- The numbers of calls that a lifecycle keeps for the start and the stop of the object at an
index. -/
def tally (l : Lifecycle) (i : ℕ) : ℕ × ℕ :=
  (l.entries[i]?.map fun e => (e.starts, e.stops)).getD (0, 0)

theorem tally_of_entry {l : Lifecycle} {i : ℕ} {e : ManagedEntry} (he : l.entries[i]? = some e) :
    l.tally i = (e.starts, e.stops) := by
  rw [tally, he]
  rfl

/-- An object that is added has been called no more than one that is not there. -/
theorem tally_manage (l : Lifecycle) (name : String) (object : Managed) (i : ℕ) :
    (l.manage name object).tally i = l.tally i := by
  unfold tally manage
  -- the new object has been called neither to start nor to stop, like one that is not there
  by_cases hi : i < l.entries.length
  · rw [List.getElem?_append_left hi]
  · have hle : l.entries.length ≤ i := Nat.le_of_not_lt hi
    rw [List.getElem?_append_right hle, List.getElem?_eq_none hle]
    cases i - l.entries.length <;> rfl

/-- A change of an entry that counts a call adds this call to the tally at its index. -/
theorem tally_modify {l : Lifecycle} {i : ℕ} {e : ManagedEntry} (he : l.entries[i]? = some e)
    {f : ManagedEntry → ManagedEntry} {call : ℕ × ℕ}
    (hf : ((f e).starts, (f e).stops) = (e.starts, e.stops) + call) (j : ℕ) :
    (l.modify i f).tally j = l.tally j + if i = j then call else (0, 0) := by
  unfold tally
  change (((l.entries.modify i f)[j]?).map _).getD (0, 0) = _
  rw [List.getElem?_modify]
  by_cases hij : i = j
  · subst hij
    rw [he, if_pos rfl]
    simp only [↓reduceIte]
    exact hf
  · rw [if_neg hij]
    simp only [hij, ↓reduceIte, id_map']
    exact (add_zero (l.tally j)).symm

section OneCall

variable {l : Lifecycle} {i : ℕ} {e : ManagedEntry} (he : l.entries[i]? = some e) (name : String)
  (j : ℕ)

include he

theorem tally_takenOff :
    (l.takenOff i).tally j = l.tally j + calls [.stopping i name] j := by
  rw [calls_stopping]
  exact tally_modify (l := { l with started := i }) he rfl j

theorem tally_calling :
    (l.calling i).tally j = l.tally j + calls [.starting i name] j := by
  rw [calls_starting]
  exact tally_modify he rfl j

end OneCall

/-! ### The invariant -/

/-- A lifecycle after events: the tally says how often each object has been called, and the stops
are the objects' own. -/
structure Recorded (events : List LifecycleEvent) (l : Lifecycle) : Prop where
  tally_eq : ∀ i, l.tally i = calls events i
  ownStops : OwnStops l.objects events

theorem Recorded.empty : Recorded [] {} where
  tally_eq := fun _ => rfl
  ownStops := fun done _ _ _ h => by simp at h

/-- An event that is no call. The counter may be another one after it. -/
theorem Recorded.append {events : List LifecycleEvent} {l : Lifecycle} (h : Recorded events l)
    (l' : Lifecycle) (hentries : l'.entries = l.entries) {e : LifecycleEvent}
    (hattempted : attempted [e] = []) (hstopped : stopped [e] = []) :
    Recorded (events ++ [e]) l' where
  tally_eq := by
    intro i
    have hnone : calls [e] i = 0 := by
      unfold calls
      rw [hattempted, hstopped]
      rfl
    have htally : l'.tally i = l.tally i := by rw [tally, tally, hentries]
    rw [htally, h.tally_eq, calls_append, hnone]
    exact (add_zero (calls events i)).symm
  ownStops := by
    have hobjects : l'.objects = l.objects := by rw [objects, objects, hentries]
    exact h.ownStops.append_of_stopped_eq_nil (by rw [hobjects]) hstopped

theorem Recorded.manage {events : List LifecycleEvent} {l : Lifecycle} (h : Recorded events l)
    (name : String) (object : Managed) : Recorded events (l.manage name object) where
  tally_eq := fun i => (tally_manage l name object i).trans (h.tally_eq i)
  ownStops := by
    have hobjects : l.objects <+: (l.manage name object).objects := by
      rw [objects_manage]
      exact List.prefix_append _ _
    have hsame : OwnStops (l.manage name object).objects (events ++ []) :=
      h.ownStops.append_of_stopped_eq_nil hobjects rfl
    rwa [List.append_nil] at hsame

/-- The start of an object is called. -/
theorem Recorded.calling {events : List LifecycleEvent} {l : Lifecycle} (h : Recorded events l)
    {i : ℕ} {e : ManagedEntry} (he : l.entries[i]? = some e) :
    Recorded (events ++ [.starting i e.name]) (l.calling i) where
  tally_eq := by
    intro j
    rw [tally_calling he e.name, calls_append, h.tally_eq]
  ownStops := by
    refine h.ownStops.append_of_stopped_eq_nil ?_ rfl
    rw [objects_calling]

/-- The stop of an object is called, and does what the object does in this stop. -/
theorem Recorded.takenOff {events : List LifecycleEvent} {l : Lifecycle} (h : Recorded events l)
    {i : ℕ} {e : ManagedEntry} (he : l.entries[i]? = some e) :
    Recorded (events ++ stopEvents i e.name (e.object.stop e.stops)) (l.takenOff i) where
  tally_eq := by
    intro j
    -- the one call is that of the stop, since what it shows are no calls
    have hshown : calls ((e.object.stop e.stops).shown i e.name) j = 0 := by
      have hasides : ∀ x ∈ (e.object.stop e.stops).shown i e.name, x.IsAside :=
        fun _ => StopOutcome.isAside_of_mem_shown
      unfold calls
      rw [attempted_of_asides hasides, stopped_of_asides hasides]
      rfl
    rw [stopEvents_eq_cons, ← List.singleton_append, calls_append, calls_append, hshown,
      tally_takenOff he e.name, h.tally_eq]
    exact congrArg _ (add_zero (calls [.stopping i e.name] j)).symm
  ownStops := by
    refine h.ownStops.append (by rw [objects_takenOff]) fun done j name rest hsplit => ?_
    rw [stopEvents_eq_cons] at hsplit
    cases done with
    | nil =>
      -- this is the stop: as many came before it as the entry says
      obtain ⟨hj, rfl⟩ := List.cons.inj hsplit
      injection hj with hj hname
      subst hj hname
      have hstops : (stopped events).count i = e.stops := by
        have htally := h.tally_eq i
        rw [tally_of_entry he] at htally
        exact (congrArg Prod.snd htally).symm
      refine ⟨e.object, ?_, ?_⟩
      · rw [objects_takenOff, getElem?_objects, he]
        rfl
      · rw [List.append_nil, hstops]
    | cons x done =>
      -- what the object does in it stops no other
      obtain ⟨-, hshown⟩ := List.cons.inj hsplit
      have hmem : LifecycleEvent.stopping j name ∈ (e.object.stop e.stops).shown i e.name := by
        rw [hshown]
        exact List.mem_append_right _ List.mem_cons_self
      exact absurd (StopOutcome.isAside_of_mem_shown hmem) id

/-- **Stops are recorded**, also one that comes to an index without an object. -/
theorem Recorded.stopLast {events : List LifecycleEvent} {l : Lifecycle} (h : Recorded events l)
    (n : ℕ) :
    Recorded (events ++ (Lifecycle.stopLast n l).2.map (·.event)) (Lifecycle.stopLast n l).1 := by
  induction n generalizing events l with
  | zero =>
    change Recorded (events ++ []) { l with started := 0 }
    rw [List.append_nil]
    exact ⟨h.tally_eq, h.ownStops⟩
  | succ n ih =>
    cases he : l.entries[n]? with
    | none =>
      unfold Lifecycle.stopLast
      rw [he]
      exact h.append { l with started := n } rfl rfl rfl
    | some e =>
      have hlater := ih (h.takenOff he)
      rw [stopLast_succ he, List.map_append, map_event_map]
      rwa [List.append_assoc] at hlater

/-! ### Starts that act on the lifecycle -/

/-- **What a hook keeps.** What is kept by notes, by stops and by the adding of objects is kept by
every start. -/
theorem runHook_invariant {P : List LifecycleEvent → Lifecycle → Prop}
    (note : ∀ events l text, P events l → P (events ++ [.note text]) l)
    (stop : ∀ events l, P events l → P (events ++ l.stop.2.map (·.event)) l.stop.1)
    (manage : ∀ events l name object, P events l → P events (l.manage name object))
    (hook : Hook) {events : List LifecycleEvent} {l : Lifecycle} (h : P events l) :
    P (events ++ (runHook hook l).2.2.map (·.event)) (runHook hook l).2.1 := by
  -- the induction is on the script, with what it does first put behind the events before
  induction hook generalizing events l with
  | done result =>
    change P (events ++ []) l
    rwa [List.append_nil]
  | note text next ih =>
    have hnext := ih (note events l text h)
    rwa [List.append_assoc] at hnext
  | stopAll next ih =>
    have hnext := ih (stop events l h)
    rwa [List.append_assoc, ← List.map_append] at hnext
  | manage name start stop next _ ih => exact ih (manage events l name ⟨start, stop⟩ h)

theorem Recorded.runHook {events : List LifecycleEvent} {l : Lifecycle} (h : Recorded events l)
    (hook : Hook) :
    Recorded (events ++ (Lifecycle.runHook hook l).2.2.map (·.event))
      (Lifecycle.runHook hook l).2.1 := by
  refine runHook_invariant (P := Recorded) ?_ ?_ ?_ hook h
  · intro events l text h
    exact h.append l rfl rfl rfl
  · intro events l h
    exact h.stopLast l.started
  · intro events l name object h
    exact h.manage name object

/-- The events of a start that fails, and of one that succeeds and is followed by others. -/
theorem events_startEach (events : List LifecycleEvent) (first last : Moment)
    (moments more : List Moment) :
    events ++ (first :: moments ++ last :: more).map (·.event) =
      events ++ [first.event] ++ moments.map (·.event) ++ [last.event]
        ++ more.map (·.event) := by
  simp only [List.map_cons, List.map_append, List.append_assoc, List.cons_append, List.nil_append]

theorem Recorded.startEach {pending : List ℕ} {events : List LifecycleEvent} {l : Lifecycle}
    (h : Recorded events l) :
    Recorded (events ++ (Lifecycle.startEach pending l).2.2.map (·.event))
      (Lifecycle.startEach pending l).2.1 := by
  induction pending generalizing events l with
  | nil =>
    change Recorded (events ++ []) l
    rwa [List.append_nil]
  | cons i rest ih =>
    cases he : l.entries[i]? with
    | none =>
      rw [startEach_of_none he]
      exact h.append l rfl rfl rfl
    | some e =>
      -- the call comes first, then what the script does, and then the result
      have hran := (h.calling he).runHook (e.object.start e.starts)
      rcases hrun : Lifecycle.runHook (e.object.start e.starts) (l.calling i)
        with ⟨result, ran, moments⟩
      rw [hrun] at hran
      change Recorded (events ++ [.starting i e.name] ++ moments.map (·.event)) ran at hran
      cases result with
      | error cause =>
        rw [startEach_of_error he hrun, events_startEach, List.map_nil, List.append_nil]
        exact hran.append ran rfl rfl rfl
      | ok =>
        -- that the object counts as started is no call
        have hcounted : Recorded (events ++ [.starting i e.name] ++ moments.map (·.event)
            ++ [.started i e.name]) ran.counted :=
          hran.append ran.counted rfl rfl rfl
        rw [startEach_of_ok he hrun, events_startEach]
        exact ih hcounted

/-- **Calls are recorded**, whatever they are and whatever the starts do in them. -/
theorem Recorded.call {events : List LifecycleEvent} {l : Lifecycle} (h : Recorded events l)
    (c : LifecycleCall) :
    Recorded (events ++ (l.call c).2.moments.map (·.event)) (l.call c).1 := by
  cases c with
  | manage name object =>
    change Recorded (events ++ []) (l.manage name object)
    rw [List.append_nil]
    exact h.manage name object
  | start =>
    change Recorded (events ++ l.start.2.2.map (·.event)) l.start.2.1
    unfold Lifecycle.start
    -- a counter beyond the list is reported, and nothing is called
    split
    · exact h.startEach
    · exact h.append l rfl rfl rfl
  | stop => exact h.stopLast l.started

end Lifecycle

end ServiceHost
