import ServiceHost.Proofs.Reentry

/-!
# Starts in which every object starts

The start of an object may act on the lifecycle: it may stop the objects that run and add others.
None of that changes what the other objects answer when they are started in turn, so a start call
on objects that all answer with success succeeds, and calls each of them once, in order.

* `Lifecycle.answer?_runHook` says that what a start does leaves the next answer of every object as
  it is.
* `Lifecycle.startEach_of_answers` is the induction over the objects, and
  `Lifecycle.start_of_uncalled` the start of objects that were never called before.
-/

namespace ServiceHost

namespace Lifecycle

open LifecycleEvent

/-! ### What a start leaves alone -/

/-- The answer of a start is the end of its script, whatever it does on the way. -/
theorem result_runHook (hook : Hook) (l : Lifecycle) : (runHook hook l).1 = hook.result := by
  induction hook generalizing l with
  | done result => rfl
  | note text next ih => exact ih l
  | stopAll next ih => exact ih l.stop.1
  | manage name start stop next _ ih => exact ih (l.manage name ⟨start, stop⟩)

/-- A stop counts the stops of the objects, and their starts answer as before. -/
theorem answer?_stopLast (n : ℕ) (l : Lifecycle) (i : ℕ) :
    (stopLast n l).1.answer? i = l.answer? i := by
  induction n generalizing l with
  | zero => rfl
  | succ n ih =>
    -- a step of the stop changes one entry, and of this one the number of its stops
    cases he : l.entries[n]? with
    | none =>
      unfold stopLast
      rw [he]
      rfl
    | some e =>
      rw [stopLast_succ he, ih]
      unfold answer?
      change ((l.entries.modify n _)[i]?).map _ = _
      rw [List.getElem?_modify]
      cases l.entries[i]? with
      | none => rfl
      | some other =>
        change some _ = some _
        split <;> rfl

/-- An object that is added stands behind the others. -/
theorem answer?_manage {l : Lifecycle} {i : ℕ} {r : Except ManagedError Unit}
    (h : l.answer? i = some r) (name : String) (object : Managed) :
    (l.manage name object).answer? i = some r := by
  obtain ⟨e, he, hr⟩ := Option.map_eq_some_iff.mp h
  obtain ⟨hlt, -⟩ := List.getElem?_eq_some_iff.mp he
  unfold answer?
  change ((l.entries ++ _)[i]?).map _ = _
  rw [List.getElem?_append_left hlt, he]
  exact congrArg some hr

/-- **What a start does** to the lifecycle leaves the next answer of every object as it is. -/
theorem answer?_runHook {l : Lifecycle} {i : ℕ} {r : Except ManagedError Unit}
    (h : l.answer? i = some r) (hook : Hook) : (runHook hook l).2.1.answer? i = some r :=
  @runHook_invariant (fun _ l => l.answer? i = some r) (fun _ _ _ h => h)
    (fun _ l h => (answer?_stopLast l.started l i).trans h)
    (fun _ _ name object h => answer?_manage h name object) hook [] l h

/-- A stop calls no start. -/
theorem attempted_stopLast (n : ℕ) (l : Lifecycle) :
    attempted ((stopLast n l).2.map (·.event)) = [] := by
  induction n generalizing l with
  | zero => rfl
  | succ n ih =>
    cases he : l.entries[n]? with
    | none =>
      unfold stopLast
      rw [he]
      rfl
    | some e =>
      -- what a stop shows of an object are its own notes and its stop
      rw [stopLast_succ he, List.map_append, attempted_append, ih, map_event_map, List.append_nil]
      change attempted ((e.object.stop e.stops).shown n e.name) = []
      exact attempted_of_asides fun _ => StopOutcome.isAside_of_mem_shown

/-- What a start does calls no other start. -/
theorem attempted_runHook (hook : Hook) (l : Lifecycle) :
    attempted ((runHook hook l).2.2.map (·.event)) = [] := by
  refine @runHook_invariant (fun events _ => attempted events = []) (fun _ _ _ h => ?_)
    (fun _ l h => ?_) (fun _ _ _ _ h => h) hook [] l rfl
  · -- a note is no start, and the stops within the script call none either
    rw [attempted_append, h]
    rfl
  · rw [attempted_append, h]
    exact attempted_stopLast l.started l

/-! ### Objects that all start -/

/-- **Objects that answer with success** are all called, in order, and the call succeeds. -/
theorem startEach_of_answers {indices : List ℕ} (once : indices.Nodup) {l : Lifecycle}
    (h : ∀ i ∈ indices, l.answer? i = some (.ok ())) :
    (startEach indices l).1 = .ok () ∧
      attempted ((startEach indices l).2.2.map (·.event)) = indices := by
  induction indices generalizing l with
  | nil => exact ⟨rfl, rfl⟩
  | cons i rest ih =>
    obtain ⟨hi, hrest⟩ := List.nodup_cons.mp once
    obtain ⟨e, he, hr⟩ := Option.map_eq_some_iff.mp (h i List.mem_cons_self)
    have hresult : (e.object.start e.starts).result = .ok () := by
      cases hr' : (e.object.start e.starts).result with
      | ok => rfl
      | error cause =>
        rw [hr'] at hr
        cases hr
    rcases hrun : runHook (e.object.start e.starts) (l.calling i) with ⟨result, ran, moments⟩
    -- the script may stop and add objects, but its end was fixed before
    have hran : result = .ok () := by
      have hanswer := result_runHook (e.object.start e.starts) (l.calling i)
      rwa [hrun, hresult] at hanswer
    subst hran
    -- the objects behind this one answer as they did before it was called
    have hlater : ∀ j ∈ rest, ran.counted.answer? j = some (.ok ()) := by
      intro j hj
      have hne : i ≠ j := fun heq => hi (heq ▸ hj)
      have hcalled : (l.calling i).answer? j = some (.ok ()) :=
        (answer?_calling l hne).trans (h j (List.mem_cons_of_mem _ hj))
      have hafter := answer?_runHook hcalled (e.object.start e.starts)
      rw [hrun] at hafter
      exact hafter
    have hmoments := attempted_runHook (e.object.start e.starts) (l.calling i)
    rw [hrun] at hmoments
    obtain ⟨hok, hattempted⟩ := ih hrest hlater
    rw [startEach_of_ok he hrun]
    refine ⟨hok, ?_⟩
    rw [List.map_append, attempted_append]
    change i :: attempted (moments.map (·.event)) ++
      attempted ((startEach rest ran.counted).2.2.map (·.event)) = _
    rw [hmoments, hattempted]
    rfl

/-- **A first start.** Objects none of which was called before, and which all start the first time,
are called in the order in which they were added, and the start succeeds. -/
theorem start_of_uncalled {l : Lifecycle} (started : l.started = 0)
    (uncalled : ∀ e ∈ l.entries, e.starts = 0)
    (h : ∀ x ∈ l.objects, (x.2.start 0).result = .ok ()) :
    l.start.1 = .ok () ∧
      attempted (l.start.2.2.map (·.event)) = List.range l.objects.length := by
  have hstart : l.start = startEach (List.range l.objects.length) l := by
    rw [start, started, if_pos (Nat.zero_le _), Nat.sub_zero, List.range_eq_range',
      length_objects]
  -- an object that was never called answers as it does the first time
  have hanswers : ∀ i ∈ List.range l.objects.length, l.answer? i = some (.ok ()) := by
    intro i hi
    obtain ⟨e, he⟩ := exists_entry (Nat.le_refl _) (List.mem_range.mp hi)
    have hobject : (e.name, e.object) ∈ l.objects := by
      refine List.mem_of_getElem? (i := i) ?_
      rw [getElem?_objects, he]
      rfl
    have hcalls : e.starts = 0 := uncalled e (List.mem_of_getElem? he)
    rw [answer?, he, Option.map_some, hcalls, h _ hobject]
    rfl
  rw [hstart]
  exact startEach_of_answers List.nodup_range hanswers

end Lifecycle

end ServiceHost
