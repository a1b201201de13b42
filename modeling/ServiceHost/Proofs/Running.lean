import Mathlib.Data.Finset.Basic
import Mathlib.Data.Finset.Range
import Mathlib.Data.List.Range
import ServiceHost.Lifecycle

/-!
# What runs in a lifecycle

A lifecycle keeps no list of the objects that run. It keeps a counter, and which objects run is
said here by what happened to them: an object runs when its last start succeeded and it was not
stopped after that. `LifecycleEvent.running` folds the events of a run into the set of the
indices of those objects.

* `Lifecycle.Follows` is a piece of a run in which, at every moment, the objects that run are the
  first ones of the list, as many as the counter says.
* `Lifecycle.ownStop` is what the stop of an object itself does when it is called next, and
  `Lifecycle.events_stopLast` says that a stop shows just this, the last object first.
* `Lifecycle.StopsAll` is how a stop call goes, and `Lifecycle.stop_stopsAll` says that every stop of
  objects that are there goes so.
* `Lifecycle.objects_start` says that a start takes no object away, whatever the starts of the
  objects do.
-/

namespace ServiceHost

/-- Where two lists after one another are split: in the first of them, or in the second. -/
theorem split_of_append_eq {α : Type} {xs ys done rest : List α} {x : α}
    (h : xs ++ ys = done ++ x :: rest) :
    (∃ rest', xs = done ++ x :: rest' ∧ rest = rest' ++ ys) ∨
      ∃ done', ys = done' ++ x :: rest ∧ done = xs ++ done' := by
  rcases List.append_eq_append_iff.mp h with ⟨done', hdone, hys⟩ | ⟨mid, hxs, hrest⟩
  · exact Or.inr ⟨done', hys, hdone⟩
  · cases mid with
    | nil =>
      -- the second list begins at the split
      rw [List.append_nil] at hxs
      exact Or.inr ⟨[], hrest.symm, by rw [hxs, List.append_nil]⟩
    | cons y mid =>
      obtain ⟨rfl, hrest'⟩ := List.cons.inj hrest
      exact Or.inl ⟨mid, hxs, hrest'⟩

/-- Where a list that ends in an element is split: at that element, or before it. -/
theorem split_of_concat_eq {α : Type} {xs done rest : List α} {x y : α}
    (h : xs ++ [x] = done ++ y :: rest) :
    (done = xs ∧ y = x) ∨ ∃ rest', xs = done ++ y :: rest' := by
  rcases split_of_append_eq h with ⟨rest', hxs, -⟩ | ⟨done', hx, rfl⟩
  · exact Or.inr ⟨rest', hxs⟩
  · cases done' with
    | nil => exact Or.inl ⟨List.append_nil xs, (List.cons.inj hx).1.symm⟩
    | cons z done' => simp at hx

/-! ### Readings of events -/

namespace LifecycleEvent

/-- The objects that run after an event, given those that ran before it. An object that is being
stopped does not run any more. -/
def runningAfter (R : Finset ℕ) : LifecycleEvent → Finset ℕ
  | .started index _ => insert index R
  | .stopping index _ => R.erase index
  | _ => R

/-- The objects that run after events, given those that ran before them. -/
def runningFrom (R : Finset ℕ) (events : List LifecycleEvent) : Finset ℕ :=
  events.foldl runningAfter R

/-- The objects that run after events that begin with nothing running. -/
def running (events : List LifecycleEvent) : Finset ℕ := runningFrom ∅ events

/-- The objects whose starts are called, in order. -/
def attempted (events : List LifecycleEvent) : List ℕ :=
  events.filterMap fun
    | .starting index _ => some index
    | _ => none

/-- The results of the starts, each with its object, in order. -/
def answers (events : List LifecycleEvent) : List (ℕ × Except ManagedError Unit) :=
  events.filterMap fun
    | .started index _ => some (index, .ok ())
    | .startFailed index name cause => some (index, .error ⟨name, cause⟩)
    | _ => none

/-- The objects whose starts succeed, in order. -/
def succeeded (events : List LifecycleEvent) : List ℕ :=
  (answers events).filterMap fun
    | (index, .ok ()) => some index
    | (_, .error _) => none

/-- The objects whose stops are called, in order. -/
def stopped (events : List LifecycleEvent) : List ℕ :=
  events.filterMap fun
    | .stopping index _ => some index
    | _ => none

/-- An event beside the calls on objects and the results of their starts. -/
def IsAside : LifecycleEvent → Prop
  | .note _ | .stopFailed .. | .outOfBounds _ => True
  | _ => False

theorem runningFrom_append (R : Finset ℕ) (xs ys : List LifecycleEvent) :
    runningFrom R (xs ++ ys) = runningFrom (runningFrom R xs) ys :=
  List.foldl_append

theorem running_append (xs ys : List LifecycleEvent) :
    running (xs ++ ys) = runningFrom (running xs) ys :=
  runningFrom_append ∅ xs ys

@[simp] theorem attempted_append (xs ys : List LifecycleEvent) :
    attempted (xs ++ ys) = attempted xs ++ attempted ys :=
  List.filterMap_append

@[simp] theorem answers_append (xs ys : List LifecycleEvent) :
    answers (xs ++ ys) = answers xs ++ answers ys :=
  List.filterMap_append

theorem succeeded_append (xs ys : List LifecycleEvent) :
    succeeded (xs ++ ys) = succeeded xs ++ succeeded ys := by
  rw [succeeded, answers_append, List.filterMap_append]
  rfl

@[simp] theorem stopped_append (xs ys : List LifecycleEvent) :
    stopped (xs ++ ys) = stopped xs ++ stopped ys :=
  List.filterMap_append

/-! What stands beside the calls is read over. -/

section Asides

variable {events : List LifecycleEvent} (h : ∀ e ∈ events, e.IsAside)

include h

theorem runningFrom_of_asides (R : Finset ℕ) : runningFrom R events = R := by
  induction events with
  | nil => rfl
  | cons e rest ih =>
    have he : e.IsAside := h e List.mem_cons_self
    -- such an event neither starts nor stops an object
    have hR : e.runningAfter R = R := by cases e <;> first | rfl | exact absurd he id
    rw [runningFrom, List.foldl_cons, hR]
    exact ih fun e' he' => h e' (List.mem_cons_of_mem _ he')

theorem attempted_of_asides : attempted events = [] := by
  refine List.filterMap_eq_nil_iff.mpr fun e he => ?_
  cases e <;> first | rfl | exact absurd (h _ he) id

theorem answers_of_asides : answers events = [] := by
  refine List.filterMap_eq_nil_iff.mpr fun e he => ?_
  cases e <;> first | rfl | exact absurd (h _ he) id

theorem stopped_of_asides : stopped events = [] := by
  refine List.filterMap_eq_nil_iff.mpr fun e he => ?_
  cases e <;> first | rfl | exact absurd (h _ he) id

end Asides

end LifecycleEvent

/-- What the stop of an object shows once it is called: the notes of the object, and its error if it
fails. -/
def StopOutcome.shown (outcome : StopOutcome) (i : ℕ) (name : String) : List LifecycleEvent :=
  outcome.notes.map .note ++
    match outcome.result with
    | .ok () => []
    | .error cause => [.stopFailed i name cause]

theorem StopOutcome.isAside_of_mem_shown {outcome : StopOutcome} {i : ℕ} {name : String}
    {e : LifecycleEvent} (he : e ∈ outcome.shown i name) : e.IsAside := by
  rcases List.mem_append.mp he with he | he
  · obtain ⟨text, -, rfl⟩ := List.mem_map.mp he
    trivial
  · cases hr : outcome.result with
    | ok =>
      rw [hr] at he
      exact absurd he List.not_mem_nil
    | error cause =>
      rw [hr] at he
      rw [List.mem_singleton.mp he]
      trivial

namespace Lifecycle

open LifecycleEvent

/-- The objects with their names, in the order of their adding. -/
def objects (l : Lifecycle) : List (String × Managed) :=
  l.entries.map fun e => (e.name, e.object)

theorem length_objects (l : Lifecycle) : l.objects.length = l.entries.length :=
  List.length_map _

theorem getElem?_objects (l : Lifecycle) (i : ℕ) :
    l.objects[i]? = l.entries[i]?.map fun e => (e.name, e.object) :=
  List.getElem?_map

@[simp] theorem objects_manage (l : Lifecycle) (name : String) (object : Managed) :
    (l.manage name object).objects = l.objects ++ [(name, object)] :=
  List.map_append

/-- Counting a call of an entry leaves the objects as they are. -/
theorem objects_modify (l : Lifecycle) (i : ℕ) {f : ManagedEntry → ManagedEntry}
    (hf : ∀ e, ((f e).name, (f e).object) = (e.name, e.object)) :
    (l.modify i f).objects = l.objects := by
  refine List.ext_getElem? fun j => ?_
  rw [getElem?_objects, getElem?_objects]
  change ((l.entries.modify i f)[j]?).map _ = _
  rw [List.getElem?_modify]
  cases l.entries[j]? with
  | none => rfl
  | some e =>
    change some _ = some _
    -- only one entry is touched, and its name and its object stay
    by_cases hij : i = j
    · simp only [hij, ↓reduceIte, hf]
    · simp only [hij, ↓reduceIte]

/-! ### Pieces of a run -/

/-- A moment after a lifecycle: the objects are the same, and if the first ones ran, as many as
the counter said, then so they do now. -/
structure Keeps (l : Lifecycle) (m : Moment) : Prop where
  running_eq : m.event.runningAfter (Finset.range l.started) = Finset.range m.lifecycle.started
  objects_eq : m.lifecycle.objects = l.objects
  started_le : m.lifecycle.started ≤ m.lifecycle.objects.length

/-- A piece of a run, from one lifecycle over moments to another. At every moment the objects that
run are the first ones, as many as the counter says. -/
inductive Follows : Lifecycle → List Moment → Lifecycle → Prop
  | refl (l : Lifecycle) : Follows l [] l
  | step {l : Lifecycle} {m : Moment} {rest : List Moment} {after : Lifecycle}
      (now : l.Keeps m) (later : Follows m.lifecycle rest after) : Follows l (m :: rest) after

theorem Follows.trans {l mid after : Lifecycle} {xs ys : List Moment} (h : Follows l xs mid)
    (h' : Follows mid ys after) : Follows l (xs ++ ys) after := by
  -- the induction is on the first piece, in front of which the second stands unchanged
  induction h with
  | refl l => exact h'
  | step now _ ih => exact .step now (ih h')

theorem Follows.single {l : Lifecycle} {m : Moment} (h : l.Keeps m) :
    Follows l [m] m.lifecycle :=
  .step h (.refl _)

/-- What runs after a piece of a run. -/
theorem Follows.running_eq {l after : Lifecycle} {moments : List Moment}
    (h : Follows l moments after) :
    runningFrom (Finset.range l.started) (moments.map (·.event)) = Finset.range after.started := by
  induction h with
  | refl l => rfl
  | step now _ ih =>
    rw [List.map_cons, runningFrom, List.foldl_cons, now.running_eq]
    exact ih

theorem Follows.objects_eq {l after : Lifecycle} {moments : List Moment}
    (h : Follows l moments after) : after.objects = l.objects := by
  induction h with
  | refl l => rfl
  | step now _ ih => exact ih.trans now.objects_eq

/-- **Every point of a piece.** The moments up to any one of them are a piece that ends with it. -/
theorem Follows.upTo {l after : Lifecycle} {moments : List Moment} (h : Follows l moments after)
    {done rest : List Moment} {m : Moment} (hm : moments = done ++ m :: rest) :
    Follows l (done ++ [m]) m.lifecycle := by
  induction h generalizing done with
  | refl l => simp at hm
  | step now _ ih =>
    -- the point is the first moment, or lies behind it
    cases done with
    | nil =>
      obtain ⟨rfl, rfl⟩ := List.cons.inj hm
      exact .single now
    | cons d done =>
      obtain ⟨rfl, hrest⟩ := List.cons.inj hm
      exact .step now (ih hrest)

theorem Follows.started_le {l after : Lifecycle} {moments : List Moment}
    (h : Follows l moments after) (hl : l.started ≤ l.objects.length) :
    after.started ≤ after.objects.length := by
  induction h with
  | refl l => exact hl
  | step now _ ih => exact ih now.started_le

/-- What happens beside the calls while the lifecycle stands still is a piece. -/
theorem Follows.asides {l : Lifecycle} (hl : l.started ≤ l.objects.length)
    {events : List LifecycleEvent} (h : ∀ e ∈ events, e.IsAside) :
    Follows l (events.map (⟨·, l⟩)) l := by
  induction events with
  | nil => exact .refl l
  | cons e rest ih =>
    have he : ∀ e' ∈ [e], e'.IsAside := by
      intro e' he'
      rw [List.mem_singleton.mp he']
      exact h e List.mem_cons_self
    -- the lifecycle is the same at every one of these moments
    exact .step ⟨runningFrom_of_asides he _, rfl, hl⟩
      (ih fun e' he' => h e' (List.mem_cons_of_mem _ he'))

/-- The events of moments at one lifecycle. -/
@[simp] theorem map_event_map (events : List LifecycleEvent) (l : Lifecycle) :
    (events.map (Moment.mk · l)).map (·.event) = events := by
  rw [List.map_map]
  exact List.map_id _

/-! ### Stopping -/

/-- What the stop of the object at an index does when it is called next. Which call that
is says the count of its calls. -/
def ownStop (l : Lifecycle) (i : ℕ) : List LifecycleEvent :=
  match l.entries[i]? with
  | none => []
  | some e => .stopping i e.name :: (e.object.stop e.stops).shown i e.name

theorem stopEvents_eq_cons (i : ℕ) (name : String) (outcome : StopOutcome) :
    stopEvents i name outcome = .stopping i name :: outcome.shown i name :=
  rfl

theorem ownStop_of_entry {l : Lifecycle} {i : ℕ} {e : ManagedEntry} (he : l.entries[i]? = some e) :
    l.ownStop i = .stopping i e.name :: (e.object.stop e.stops).shown i e.name := by
  unfold ownStop
  rw [he]

/-- The lifecycle while the object at an index is being stopped: it is off the count, and the call
is noted. -/
def takenOff (l : Lifecycle) (i : ℕ) : Lifecycle :=
  ({ l with started := i } : Lifecycle).modify i fun e => { e with stops := e.stops + 1 }

theorem objects_takenOff (l : Lifecycle) (i : ℕ) : (l.takenOff i).objects = l.objects :=
  objects_modify _ i fun _ => rfl

/-- The stop of one object is not that of another. -/
theorem ownStop_takenOff (l : Lifecycle) {i j : ℕ} (h : i ≠ j) :
    (l.takenOff i).ownStop j = l.ownStop j := by
  -- the count of another object is touched, and not its own
  have hentry : (l.takenOff i).entries[j]? = l.entries[j]? := by
    change (l.entries.modify i _)[j]? = _
    rw [List.getElem?_modify]
    simp only [h, ↓reduceIte, id_map']
  unfold ownStop
  rw [hentry]

theorem stopLast_succ {l : Lifecycle} {n : ℕ} {e : ManagedEntry} (he : l.entries[n]? = some e) :
    stopLast (n + 1) l =
      ((stopLast n (l.takenOff n)).1,
        (stopEvents n e.name (e.object.stop e.stops)).map (⟨·, l.takenOff n⟩)
          ++ (stopLast n (l.takenOff n)).2) := by
  simp only [stopLast, he, takenOff]

/-- Below a number that the list reaches there is an entry. -/
theorem exists_entry {l : Lifecycle} {n i : ℕ} (hn : n ≤ l.objects.length) (hi : i < n) :
    ∃ e, l.entries[i]? = some e := by
  rw [length_objects] at hn
  exact ⟨_, List.getElem?_eq_getElem (lt_of_lt_of_le hi hn)⟩

/-- **The counter follows a stop.** A stop of all that the counter says is a piece of a run, at the
end of which nothing runs. -/
theorem stopLast_follows {n : ℕ} {l : Lifecycle} (hl : l.started = n)
    (hn : n ≤ l.objects.length) :
    Follows l (stopLast n l).2 (stopLast n l).1 ∧ (stopLast n l).1.started = 0 := by
  induction n generalizing l with
  | zero =>
    -- the counter is zero already
    have hl' : ({ l with started := 0 } : Lifecycle) = l := by rw [← hl]
    refine ⟨?_, rfl⟩
    change Follows l [] { l with started := 0 }
    rw [hl']
    exact .refl l
  | succ n ih =>
    obtain ⟨e, he⟩ := exists_entry hn (Nat.lt_succ_self n)
    have hn' : n ≤ (l.takenOff n).objects.length := by
      rw [objects_takenOff]
      omega
    obtain ⟨later, hzero⟩ := ih (l := l.takenOff n) rfl hn'
    have hnow : l.Keeps ⟨.stopping n e.name, l.takenOff n⟩ := by
      refine ⟨?_, objects_takenOff l n, hn'⟩
      -- the object that is taken off is the last of those that run
      change (Finset.range l.started).erase n = Finset.range n
      rw [hl, Finset.range_add_one, Finset.erase_insert Finset.notMem_range_self]
    -- what the stop of the object shows changes nothing that runs, also where it fails
    have hshown : Follows (l.takenOff n)
        (((e.object.stop e.stops).shown n e.name).map (⟨·, l.takenOff n⟩)) (l.takenOff n) :=
      Follows.asides hn' fun _ => StopOutcome.isAside_of_mem_shown
    rw [stopLast_succ he, stopEvents_eq_cons, List.map_cons, List.cons_append]
    exact ⟨.step hnow (hshown.trans later), hzero⟩

/-- **A stop is the stops of the objects.** It shows what the own stop of every object below the
number does, the last one first, and nothing else. -/
theorem events_stopLast {n : ℕ} {l : Lifecycle} (hn : n ≤ l.objects.length) :
    (stopLast n l).2.map (·.event) = (List.range n).reverse.flatMap l.ownStop := by
  induction n generalizing l with
  | zero => rfl
  | succ n ih =>
    obtain ⟨e, he⟩ := exists_entry hn (Nat.lt_succ_self n)
    have hn' : n ≤ (l.takenOff n).objects.length := by
      rw [objects_takenOff]
      omega
    -- the stop of the last object changes nothing in what the others will do
    have hothers : (List.range n).reverse.flatMap (l.takenOff n).ownStop =
        (List.range n).reverse.flatMap l.ownStop := by
      refine List.flatMap_congr fun i hi => ?_
      have hin : i < n := List.mem_range.mp (List.mem_reverse.mp hi)
      exact ownStop_takenOff l hin.ne'
    rw [stopLast_succ he, stopEvents_eq_cons, List.map_append, map_event_map, ih hn', hothers,
      ← ownStop_of_entry he, List.range_succ, List.reverse_append]
    rfl

/-- The stop of an object is one call, of this object. -/
theorem calls_ownStop {l : Lifecycle} {i : ℕ} {e : ManagedEntry} (he : l.entries[i]? = some e) :
    stopped (l.ownStop i) = [i] ∧ attempted (l.ownStop i) = [] ∧ answers (l.ownStop i) = [] := by
  have hshown : ∀ x ∈ (e.object.stop e.stops).shown i e.name, x.IsAside :=
    fun _ => StopOutcome.isAside_of_mem_shown
  rw [ownStop_of_entry he, ← List.singleton_append, stopped_append, attempted_append,
    answers_append, stopped_of_asides hshown, attempted_of_asides hshown, answers_of_asides hshown]
  exact ⟨rfl, rfl, rfl⟩

/-- A stop does nothing but stop: every object below the number once, the last one first. -/
theorem calls_stopLast {n : ℕ} {l : Lifecycle} (hn : n ≤ l.objects.length) :
    stopped ((stopLast n l).2.map (·.event)) = (List.range n).reverse ∧
      attempted ((stopLast n l).2.map (·.event)) = [] ∧
      answers ((stopLast n l).2.map (·.event)) = [] := by
  have hcalls : ∀ i ∈ (List.range n).reverse, stopped (l.ownStop i) = [i] ∧
      attempted (l.ownStop i) = [] ∧ answers (l.ownStop i) = [] := by
    intro i hi
    obtain ⟨e, he⟩ := exists_entry hn (List.mem_range.mp (List.mem_reverse.mp hi))
    exact calls_ownStop he
  -- the stops are those of the objects one by one, so that each reading goes through them
  rw [events_stopLast hn]
  refine ⟨?_, ?_, ?_⟩
  · rw [stopped, List.filterMap_flatMap]
    exact (List.flatMap_congr fun i hi => (hcalls i hi).1).trans (List.flatMap_singleton' _)
  · rw [attempted, List.filterMap_flatMap]
    exact List.flatMap_eq_nil_iff.mpr fun i hi => (hcalls i hi).2.1
  · rw [answers, List.filterMap_flatMap]
    exact List.flatMap_eq_nil_iff.mpr fun i hi => (hcalls i hi).2.2

/-- How a stop call goes. The own stop of each object that runs is called, the last one first and
whether the others fail or not, and at the end nothing runs. -/
structure StopsAll (l after : Lifecycle) (moments : List Moment) : Prop where
  /-- At every point the first objects run, as many as the counter says. -/
  follows : Follows l moments after
  events_eq : moments.map (·.event) = (List.range l.started).reverse.flatMap l.ownStop
  /-- The stops that are called, in order. -/
  stopped_eq : stopped (moments.map (·.event)) = (List.range l.started).reverse
  /-- No start is called. -/
  attempted_eq : attempted (moments.map (·.event)) = []
  started_eq : after.started = 0
  /-- Where nothing runs there is nothing to do. -/
  idle : l.started = 0 → moments = [] ∧ after = l

/-- **Stop calls.** A stop call stops what runs by the objects' own stops, and nothing else. -/
theorem stop_stopsAll {l : Lifecycle} (hl : l.started ≤ l.objects.length) :
    StopsAll l l.stop.1 l.stop.2 := by
  obtain ⟨hfollows, hzero⟩ := stopLast_follows rfl hl
  obtain ⟨hstopped, hattempted, -⟩ := calls_stopLast hl
  refine ⟨hfollows, events_stopLast hl, hstopped, hattempted, hzero, fun hidle => ?_⟩
  change (stopLast l.started l).2 = [] ∧ (stopLast l.started l).1 = l
  -- a stop of nothing sets a counter to zero that is zero
  rw [hidle]
  refine ⟨rfl, ?_⟩
  change ({ l with started := 0 } : Lifecycle) = l
  rw [← hidle]

/-! ### Starting -/

/-- The lifecycle while the object at an index is being started: the call is noted. -/
def calling (l : Lifecycle) (i : ℕ) : Lifecycle :=
  l.modify i fun e => { e with starts := e.starts + 1 }

theorem objects_calling (l : Lifecycle) (i : ℕ) : (l.calling i).objects = l.objects :=
  objects_modify _ i fun _ => rfl

/-- The lifecycle with one more object counted as started. -/
def counted (l : Lifecycle) : Lifecycle :=
  { l with started := l.started + 1 }

/-- A start of an index beyond the list ends the call. -/
theorem startEach_of_none {l : Lifecycle} {i : ℕ} (he : l.entries[i]? = none) (rest : List ℕ) :
    startEach (i :: rest) l = (.ok (), l, [⟨.outOfBounds i, l⟩]) := by
  simp only [startEach, he]

section StartEach

variable {l : Lifecycle} {i : ℕ} {rest : List ℕ} {e : ManagedEntry}
  (he : l.entries[i]? = some e) {ran : Lifecycle} {moments : List Moment}

include he

theorem startEach_of_error {cause : String}
    (h : runHook (e.object.start e.starts) (l.calling i) = (.error cause, ran, moments)) :
    startEach (i :: rest) l = (.error ⟨e.name, cause⟩, ran,
      ⟨.starting i e.name, l.calling i⟩ :: moments ++ [⟨.startFailed i e.name cause, ran⟩]) := by
  unfold calling at h ⊢
  simp only [startEach, he, h]

theorem startEach_of_ok
    (h : runHook (e.object.start e.starts) (l.calling i) = (.ok (), ran, moments)) :
    startEach (i :: rest) l = ((startEach rest ran.counted).1, (startEach rest ran.counted).2.1,
      ⟨.starting i e.name, l.calling i⟩ :: moments
        ++ ⟨.started i e.name, ran.counted⟩ :: (startEach rest ran.counted).2.2) := by
  unfold counted
  unfold calling at h ⊢
  simp only [startEach, he, h]

end StartEach

/-! ### The list of objects -/

theorem objects_stopLast (n : ℕ) (l : Lifecycle) : (stopLast n l).1.objects = l.objects := by
  induction n generalizing l with
  | zero => rfl
  | succ n ih =>
    unfold stopLast
    cases l.entries[n]? with
    | none => rfl
    | some e => exact (ih _).trans (objects_takenOff l n)

/-- The start of an object may add objects behind the others. -/
theorem objects_runHook (hook : Hook) (l : Lifecycle) :
    l.objects <+: (runHook hook l).2.1.objects := by
  induction hook generalizing l with
  | done result => exact List.prefix_refl _
  | note text next ih => exact ih l
  | stopAll next ih =>
    -- a stop on the way takes no object away
    have hnext := ih l.stop.1
    rw [show l.stop.1.objects = l.objects from objects_stopLast l.started l] at hnext
    exact hnext
  | manage name start stop next _ ih =>
    have hnext := ih (l.manage name ⟨start, stop⟩)
    rw [objects_manage] at hnext
    exact (List.prefix_append _ _).trans hnext

theorem objects_startEach (indices : List ℕ) (l : Lifecycle) :
    l.objects <+: (startEach indices l).2.1.objects := by
  induction indices generalizing l with
  | nil => exact List.prefix_refl _
  | cons i rest ih =>
    cases he : l.entries[i]? with
    | none =>
      unfold startEach
      rw [he]
    | some e =>
      have hhook := objects_runHook (e.object.start e.starts) (l.calling i)
      rw [objects_calling] at hhook
      rcases hrun : runHook (e.object.start e.starts) (l.calling i) with ⟨result, ran, moments⟩
      rw [hrun] at hhook
      -- a start that fails ends the call, and what its script has added stays
      cases result with
      | error cause =>
        rw [startEach_of_error he hrun]
        exact hhook
      | ok =>
        rw [startEach_of_ok he hrun]
        exact hhook.trans (ih ran.counted)

/-- **A start takes no object away**, and objects that are added on it stand behind the others. -/
theorem objects_start (l : Lifecycle) : l.objects <+: l.start.2.1.objects := by
  unfold start
  split
  · exact objects_startEach _ l
  · exact List.prefix_refl _

end Lifecycle

end ServiceHost
