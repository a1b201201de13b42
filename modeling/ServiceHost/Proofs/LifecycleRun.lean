import ServiceHost.Board
import ServiceHost.Proofs.CallRecord

/-!
# Runs of a lifecycle

A run is any sequence of calls that add objects, start and stop, made one after another through
the clones of one lifecycle. Each start and each stop may fail in one call and succeed in the next.
The starts are plain here: they leave notes and do not act on the lifecycle themselves.

* `Lifecycle.StartsUpTo` says how a start call goes, and `Lifecycle.start_startsUpTo` that every
  start call goes so: it goes on where the counter stands and ends at the first failure.
* `Lifecycle.Accounts` is what the record of a call says about what ran before it, at every point
  in it and after it, and `Lifecycle.run_accounts` that every call of every run has such a record.
  The stops in it are those of `Lifecycle.StopsAll`.
-/

namespace ServiceHost

/-! ### Plain starts -/

/-- A start that leaves notes and does nothing else. -/
def Hook.Plain : Hook → Prop
  | .done _ => True
  | .note _ next => next.Plain
  | .stopAll _ => False
  | .manage .. => False

/-- The result of a start. -/
def Hook.result : Hook → Except String Unit
  | .done result => result
  | .note _ next => next.result
  | .stopAll next => next.result
  | .manage _ _ _ next => next.result

/-- An object each of whose starts is plain. -/
def Managed.Plain (object : Managed) : Prop :=
  ∀ n, (object.start n).Plain

/-- A call that adds a plain object, or that adds none. -/
def LifecycleCall.Plain : LifecycleCall → Prop
  | .manage _ object => object.Plain
  | _ => True

/-- A call that adds an object. -/
def LifecycleCall.Adds : LifecycleCall → Prop
  | .manage .. => True
  | _ => False

namespace Lifecycle

open LifecycleEvent

/-- Every object of a lifecycle is plain. -/
def Plain (l : Lifecycle) : Prop :=
  ∀ x ∈ l.objects, x.2.Plain

/-- What the start of the object at an index answers when it is called next. A failure goes with
the name of the object. -/
def answer? (l : Lifecycle) (i : ℕ) : Option (Except ManagedError Unit) :=
  l.entries[i]?.map fun e => (e.object.start e.starts).result.mapError (⟨e.name, ·⟩)

theorem Plain.hook {l : Lifecycle} (h : l.Plain) {i : ℕ} {e : ManagedEntry}
    (he : l.entries[i]? = some e) : (e.object.start e.starts).Plain := by
  refine h (e.name, e.object) (List.mem_of_getElem? (i := i) ?_) e.starts
  rw [getElem?_objects, he]
  rfl

/-- A plain start leaves the lifecycle alone. -/
theorem runHook_of_plain {hook : Hook} (h : hook.Plain) (l : Lifecycle) :
    ∃ events : List LifecycleEvent, (∀ e ∈ events, e.IsAside) ∧
      runHook hook l = (hook.result, l, events.map (⟨·, l⟩)) := by
  -- of the four kinds of script, two are not plain
  induction hook with
  | done result => exact ⟨[], by simp, rfl⟩
  | note text next ih =>
    obtain ⟨events, hasides, hrun⟩ := ih h
    refine ⟨.note text :: events, fun e he => ?_, ?_⟩
    · rcases List.mem_cons.mp he with rfl | he
      · trivial
      · exact hasides e he
    · simp only [runHook, hrun, Hook.result, List.map_cons]
  | stopAll next => exact absurd h id
  | manage name start stop next => exact absurd h id

/-! ### Starting -/

/-- How a start call goes. It calls the starts of the objects from the counter on, in order, each
after all the objects before it run, up to an object that fails or to the end of the list. -/
structure StartsUpTo (l : Lifecycle) (upTo : ℕ) (failure : Option ManagedError)
    (after : Lifecycle) (moments : List Moment) : Prop where
  /-- At every point the first objects run, as many as the counter says. -/
  follows : Follows l moments after
  /-- After the call the objects below the given one run. -/
  started_eq : after.started = upTo
  started_le : l.started ≤ upTo
  /-- The starts that are called, in order. The object that fails is the last one. -/
  attempted_eq : attempted (moments.map (·.event)) =
    List.range' l.started (upTo - l.started) ++ failure.toList.map fun _ => upTo
  /-- The results of the starts: all but that of the object that fails are successes. -/
  answers_eq : answers (moments.map (·.event)) =
    (List.range' l.started (upTo - l.started)).map (·, .ok ())
      ++ failure.toList.map fun e => (upTo, .error e)
  /-- Every result is what the object answered. -/
  answered : ∀ i r, (i, r) ∈ answers (moments.map (·.event)) → l.answer? i = some r
  /-- When a start is called, the objects before it run and no others. -/
  inOrder : ∀ m ∈ moments, ∀ i name, m.event = .starting i name → m.lifecycle.started = i
  /-- No object is stopped. -/
  stopped_eq : stopped (moments.map (·.event)) = []

/-- The call of one object changes the next answer of no other. -/
theorem answer?_calling (l : Lifecycle) {i j : ℕ} (h : i ≠ j) :
    (l.calling i).counted.answer? j = l.answer? j := by
  unfold answer?
  change ((l.entries.modify i _)[j]?).map _ = _
  rw [List.getElem?_modify]
  -- the entry of the other object is not touched
  cases l.entries[j]? with
  | none => rfl
  | some e =>
    change some _ = some _
    simp only [if_neg h]

/-- The moments of a start up to its result. -/
def opening (l : Lifecycle) (i : ℕ) (name : String) (asides : List LifecycleEvent) :
    List Moment :=
  ⟨.starting i name, l.calling i⟩ :: asides.map (⟨·, l.calling i⟩)

theorem startEach_cons_of_error {l : Lifecycle} (hl : l.Plain) {i : ℕ} (rest : List ℕ)
    {e : ManagedEntry} (he : l.entries[i]? = some e) {cause : String}
    (hr : (e.object.start e.starts).result = .error cause) :
    ∃ asides : List LifecycleEvent, (∀ e' ∈ asides, e'.IsAside) ∧
      startEach (i :: rest) l = (.error ⟨e.name, cause⟩, l.calling i,
        l.opening i e.name asides ++ [⟨.startFailed i e.name cause, l.calling i⟩]) := by
  obtain ⟨asides, hasides, hrun⟩ := runHook_of_plain (hl.hook he) (l.calling i)
  rw [hr] at hrun
  exact ⟨asides, hasides, startEach_of_error he hrun⟩

theorem startEach_cons_of_ok {l : Lifecycle} (hl : l.Plain) {i : ℕ} (rest : List ℕ)
    {e : ManagedEntry} (he : l.entries[i]? = some e)
    (hr : (e.object.start e.starts).result = .ok ()) :
    ∃ asides : List LifecycleEvent, (∀ e' ∈ asides, e'.IsAside) ∧
      startEach (i :: rest) l =
        ((startEach rest (l.calling i).counted).1, (startEach rest (l.calling i).counted).2.1,
          l.opening i e.name asides
            ++ ⟨.started i e.name, (l.calling i).counted⟩
              :: (startEach rest (l.calling i).counted).2.2) := by
  obtain ⟨asides, hasides, hrun⟩ := runHook_of_plain (hl.hook he) (l.calling i)
  rw [hr] at hrun
  exact ⟨asides, hasides, startEach_of_ok he hrun⟩

section Opening

variable (l : Lifecycle) (i : ℕ) (name : String) {asides : List LifecycleEvent}
  (h : ∀ e ∈ asides, e.IsAside)

include h

theorem attempted_opening : attempted ((l.opening i name asides).map (·.event)) = [i] := by
  rw [opening, List.map_cons, map_event_map]
  change i :: attempted asides = [i]
  rw [attempted_of_asides h]

theorem answers_opening : answers ((l.opening i name asides).map (·.event)) = [] := by
  rw [opening, List.map_cons, map_event_map]
  change answers asides = []
  exact answers_of_asides h

theorem stopped_opening : stopped ((l.opening i name asides).map (·.event)) = [] := by
  rw [opening, List.map_cons, map_event_map]
  change stopped asides = []
  exact stopped_of_asides h

theorem eq_of_mem_opening {m : Moment} (hm : m ∈ l.opening i name asides) {j : ℕ}
    {other : String} (hj : m.event = .starting j other) :
    j = i ∧ m.lifecycle.started = l.started := by
  rcases List.mem_cons.mp hm with rfl | hm
  · injection hj with hj
    exact ⟨hj.symm, rfl⟩
  · obtain ⟨aside, haside, rfl⟩ := List.mem_map.mp hm
    -- behind the call there is only what stands beside calls
    have hnot := h aside haside
    rw [show aside = .starting j other from hj] at hnot
    exact absurd hnot id

/-- The moments of a start up to its result are a piece of a run. -/
theorem follows_opening (hl : l.started ≤ l.objects.length) :
    Follows l (l.opening i name asides) (l.calling i) := by
  have hl' : (l.calling i).started ≤ (l.calling i).objects.length := by
    rw [objects_calling]
    exact hl
  exact .step ⟨rfl, objects_calling l i, hl'⟩ (Follows.asides hl' h)

end Opening

section OneStart

variable {l : Lifecycle} (hl : l.started < l.objects.length) {e : ManagedEntry}
  (he : l.entries[l.started]? = some e) {asides : List LifecycleEvent}
  (hasides : ∀ e' ∈ asides, e'.IsAside)

include hl he hasides

/-- The next object fails to start. -/
theorem StartsUpTo.fail {cause : String}
    (hr : (e.object.start e.starts).result = .error cause) :
    StartsUpTo l l.started (some ⟨e.name, cause⟩) (l.calling l.started)
      (l.opening l.started e.name asides
        ++ [⟨.startFailed l.started e.name cause, l.calling l.started⟩]) where
  follows := by
    refine (follows_opening l _ e.name hasides hl.le).trans (.single ⟨rfl, rfl, ?_⟩)
    rw [objects_calling]
    exact hl.le
  started_eq := rfl
  started_le := le_refl _
  attempted_eq := by
    rw [List.map_append, attempted_append, attempted_opening l _ _ hasides, Nat.sub_self]
    rfl
  answers_eq := by
    rw [List.map_append, answers_append, answers_opening l _ _ hasides, Nat.sub_self]
    rfl
  answered := by
    intro i r h
    rw [List.map_append, answers_append, answers_opening l _ _ hasides] at h
    obtain ⟨rfl, rfl⟩ := Prod.mk.inj (List.mem_singleton.mp h)
    rw [answer?, he, Option.map_some, hr]
    rfl
  inOrder := by
    intro m hm i name hi
    rcases List.mem_append.mp hm with hm | hm
    · obtain ⟨rfl, hm⟩ := eq_of_mem_opening l _ _ hasides hm hi
      exact hm
    · rw [List.mem_singleton.mp hm] at hi
      injection hi
  stopped_eq := by
    rw [List.map_append, stopped_append, stopped_opening l _ _ hasides]
    rfl

/-- The next object starts, and the start of the others goes on. -/
theorem StartsUpTo.next (hr : (e.object.start e.starts).result = .ok ()) {upTo : ℕ}
    {failure : Option ManagedError} {after : Lifecycle} {moments : List Moment}
    (later : StartsUpTo (l.calling l.started).counted upTo failure after moments) :
    StartsUpTo l upTo failure after
      (l.opening l.started e.name asides
        ++ ⟨.started l.started e.name, (l.calling l.started).counted⟩ :: moments) := by
  have hle : l.started + 1 ≤ upTo := later.started_le
  -- the objects that are started later are those after the next one
  have hsplit : List.range' l.started (upTo - l.started) =
      l.started :: List.range' (l.started + 1) (upTo - (l.started + 1)) := by
    rw [← List.range'_succ]
    congr 1
    omega
  have hobjects : (l.calling l.started).counted.objects = l.objects := objects_calling l _
  have hanswers : answers ((l.opening l.started e.name asides
      ++ ⟨.started l.started e.name, (l.calling l.started).counted⟩ :: moments).map (·.event)) =
      (l.started, .ok ()) :: answers (moments.map (·.event)) := by
    rw [List.map_append, answers_append, answers_opening l _ _ hasides]
    rfl
  refine ⟨?_, later.started_eq, by omega, ?_, ?_, ?_, ?_, ?_⟩
  · -- the object that starts is the next one behind those that run
    refine (follows_opening l _ e.name hasides hl.le).trans (.step ⟨?_, rfl, ?_⟩ later.follows)
    · change insert l.started (Finset.range l.started) = Finset.range (l.started + 1)
      rw [Finset.range_add_one]
    · change l.started + 1 ≤ (l.calling l.started).counted.objects.length
      rw [hobjects]
      exact hl
  · rw [List.map_append, attempted_append, attempted_opening l _ _ hasides, hsplit]
    change [l.started] ++ attempted (moments.map (·.event)) = _
    rw [later.attempted_eq]
    rfl
  · rw [hanswers, later.answers_eq, hsplit]
    rfl
  · -- the results: that of the next object first, and then those of the others
    intro i r h
    rw [hanswers] at h
    rcases List.mem_cons.mp h with h | h
    · obtain ⟨rfl, rfl⟩ := Prod.mk.inj h
      rw [answer?, he, Option.map_some, hr]
      rfl
    · -- the later results are of other objects, whose next answers are the same as before
      have hi : l.started ≠ i := by
        rw [later.answers_eq] at h
        rcases List.mem_append.mp h with h | h
        · obtain ⟨j, hj, hji⟩ := List.mem_map.mp h
          have hj' : l.started + 1 ≤ j := (List.mem_range'_1.mp hj).1
          have : j = i := (Prod.mk.inj hji).1
          omega
        · obtain ⟨err, -, hei⟩ := List.mem_map.mp h
          have : upTo = i := (Prod.mk.inj hei).1
          omega
      rw [← answer?_calling l hi]
      exact later.answered i r h
  · -- the calls: that of the next object comes when those before it run
    intro m hm i name hi
    rcases List.mem_append.mp hm with hm | hm
    · obtain ⟨rfl, hm⟩ := eq_of_mem_opening l _ _ hasides hm hi
      exact hm
    · rcases List.mem_cons.mp hm with rfl | hm
      · injection hi
      · exact later.inOrder m hm i name hi
  · rw [List.map_append, stopped_append, stopped_opening l _ _ hasides]
    exact later.stopped_eq

end OneStart

/-- **The start of pending objects.** From the counter on, the starts of the next objects go on up
to a failure or to the last of them. -/
theorem startEach_startsUpTo {k : ℕ} {l : Lifecycle} (hplain : l.Plain)
    (hk : l.started + k ≤ l.objects.length) :
    ∃ upTo failure,
      (startEach (List.range' l.started k) l).1 = failure.elim (.ok ()) .error ∧
      (failure = none → upTo = l.started + k) ∧
      StartsUpTo l upTo failure (startEach (List.range' l.started k) l).2.1
        (startEach (List.range' l.started k) l).2.2 := by
  induction k generalizing l with
  | zero =>
    refine ⟨l.started, none, rfl, fun _ => rfl, ?_⟩
    exact
      { follows := .refl l
        started_eq := rfl
        started_le := le_refl _
        attempted_eq := by rw [Nat.sub_self]; rfl
        answers_eq := by rw [Nat.sub_self]; rfl
        answered := fun i r h => absurd h List.not_mem_nil
        inOrder := fun m h => absurd h List.not_mem_nil
        stopped_eq := rfl }
  | succ k ih =>
    have hlt : l.started < l.objects.length := by omega
    obtain ⟨e, he⟩ := exists_entry hk (show l.started < l.started + (k + 1) by omega)
    rw [List.range'_succ]
    cases hr : (e.object.start e.starts).result with
    | error cause =>
      obtain ⟨asides, hasides, hrun⟩ :=
        startEach_cons_of_error hplain (List.range' (l.started + 1) k) he hr
      rw [hrun]
      exact ⟨l.started, some ⟨e.name, cause⟩, rfl, (nomatch ·), .fail hlt he hasides hr⟩
    | ok =>
      obtain ⟨asides, hasides, hrun⟩ :=
        startEach_cons_of_ok hplain (List.range' (l.started + 1) k) he hr
      have hobjects : (l.calling l.started).counted.objects = l.objects := objects_calling l _
      -- the rest is started on a lifecycle that counts this object
      obtain ⟨upTo, failure, hresult, hall, later⟩ := ih (l := (l.calling l.started).counted)
        (by rw [Plain, hobjects]; exact hplain)
        (by rw [hobjects]; change l.started + 1 + k ≤ _; omega)
      rw [hrun]
      refine ⟨upTo, failure, hresult, fun h => ?_, .next hlt he hasides hr later⟩
      rw [hall h]
      change l.started + 1 + k = _
      omega

theorem StartsUpTo.lt_of_failure {l after : Lifecycle} {upTo : ℕ} {e : ManagedError}
    {moments : List Moment} (h : StartsUpTo l upTo (some e) after moments) :
    upTo < l.objects.length := by
  -- the failure is an answer, and only an object that is there can have given it
  have hmem : (upTo, .error e) ∈ answers (moments.map (·.event)) := by
    rw [h.answers_eq]
    exact List.mem_append_right _ List.mem_cons_self
  obtain ⟨entry, hentry, -⟩ := Option.map_eq_some_iff.mp (h.answered upTo _ hmem)
  rw [length_objects]
  exact (List.getElem?_eq_some_iff.mp hentry).1

/-- **Start calls.** A start call goes on from the counter up to the first failure, which it
returns, or to the end of the list, and that is when it succeeds. -/
theorem start_startsUpTo {l : Lifecycle} (hplain : l.Plain)
    (hl : l.started ≤ l.objects.length) :
    ∃ upTo failure, StartsUpTo l upTo failure l.start.2.1 l.start.2.2 ∧
      l.start.1 = failure.elim (.ok ()) .error ∧
      (l.start.1 = .ok () ↔ l.start.2.1.started = l.start.2.1.objects.length) := by
  have hk : l.started + (l.entries.length - l.started) = l.objects.length := by
    rw [length_objects] at hl ⊢
    omega
  obtain ⟨upTo, failure, hresult, hall, hstarts⟩ := startEach_startsUpTo hplain hk.le
  have hstart : l.start =
      startEach (List.range' l.started (l.entries.length - l.started)) l := by
    rw [length_objects] at hl
    rw [start, if_pos hl]
  rw [hstart]
  refine ⟨upTo, failure, hstarts, hresult, ?_⟩
  rw [hresult, hstarts.started_eq, hstarts.follows.objects_eq]
  -- without a failure the starts went to the end of the list, and with one they stopped before it
  cases failure with
  | none => exact ⟨fun _ => (hall rfl).trans hk, fun _ => rfl⟩
  | some e => exact ⟨(nomatch ·), fun h => absurd h hstarts.lt_of_failure.ne⟩

/-! ### Records of calls -/

/-- Calls with their records, in order. -/
abbrev Log := List (LifecycleCall × LifecycleStep)

/-- What happened in calls. -/
def history (log : Log) : List LifecycleEvent :=
  log.flatMap fun x => x.2.moments.map (·.event)

/-- The objects that calls added. -/
def added (log : Log) : List (String × Managed) :=
  log.filterMap fun
    | (.manage name object, _) => some (name, object)
    | _ => none

/-- How a lifecycle stands after calls: its list has the objects in the order in which they were
added, and the first ones of them run, as many as the counter says. The calls on the objects are
recorded. -/
structure Standing (log : Log) (l : Lifecycle) : Prop where
  eq_last : l = (log.getLast?.map (·.2.after)).getD {}
  objects_eq : l.objects = added log
  started_le : l.started ≤ l.objects.length
  running_eq : running (history log) = Finset.range l.started
  recorded : Recorded (history log) l

/-- What the record of a call says for its kind. -/
def Fits : LifecycleCall → LifecycleStep → Prop
  | .manage name object, s =>
    s.moments = [] ∧ s.result = .ok () ∧ s.after = s.before.manage name object
  | .start, s =>
    ∃ upTo failure, StartsUpTo s.before upTo failure s.after s.moments ∧
      s.result = failure.elim (.ok ()) .error ∧
      (s.result = .ok () ↔ s.after.started = s.after.objects.length)
  | .stop, s => StopsAll s.before s.after s.moments ∧ s.result = .ok ()

/-- What the record of a call says, given the calls before it. -/
structure Accounts (pre : Log) (c : LifecycleCall) (s : LifecycleStep) : Prop where
  before : Standing pre s.before
  after : Standing (pre ++ [(c, s)]) s.after
  /-- At every point of the call the first objects run, as many as the counter says. -/
  points : ∀ done m rest, s.moments = done ++ m :: rest →
    running (history pre ++ (done ++ [m]).map (·.event)) = Finset.range m.lifecycle.started ∧
      m.lifecycle.objects = s.before.objects
  fits : Fits c s

/-- How calls follow on each other. -/
structure Resumes (log : Log) : Prop where
  /-- A start after a failed one first tries the object that failed. -/
  after_failure : ∀ pre s mid s' post i err,
    log = pre ++ (.start, s) :: mid ++ (.start, s') :: post → (∀ x ∈ mid, x.1.Adds) →
    (i, .error err) ∈ answers (s.moments.map (·.event)) →
    (attempted (s'.moments.map (·.event))).head? = some i
  /-- A start after a stop begins with the first object. -/
  after_stop : ∀ pre s mid s' post,
    log = pre ++ (.stop, s) :: mid ++ (.start, s') :: post → (∀ x ∈ mid, x.1.Adds) →
    ∃ n, attempted (s'.moments.map (·.event)) = List.range n ∧
      (s'.result = .ok () → n = s'.before.objects.length)
  /-- A stop right after a stop does nothing. -/
  stop_after_stop : ∀ pre s s' post,
    log = pre ++ (.stop, s) :: (.stop, s') :: post → s'.moments = [] ∧ s'.after = s'.before

theorem history_append (xs ys : Log) : history (xs ++ ys) = history xs ++ history ys :=
  List.flatMap_append

theorem history_single (c : LifecycleCall) (s : LifecycleStep) :
    history [(c, s)] = s.moments.map (·.event) :=
  List.flatMap_singleton _ _

theorem added_append (xs ys : Log) : added (xs ++ ys) = added xs ++ added ys :=
  List.filterMap_append

theorem Standing.empty : Standing [] {} where
  eq_last := rfl
  objects_eq := rfl
  started_le := le_refl _
  running_eq := rfl
  recorded := .empty

theorem Standing.plain {log : Log} {l : Lifecycle} (h : Standing log l)
    (hplain : ∀ x ∈ log, x.1.Plain) : l.Plain := by
  intro object hobject
  rw [h.objects_eq] at hobject
  obtain ⟨⟨c, s⟩, hx, hc⟩ := List.mem_filterMap.mp hobject
  cases c with
  | manage name managed =>
    rw [← Option.some.inj hc]
    exact hplain _ hx
  | start => cases hc
  | stop => cases hc

/-- Calls other than those that add objects are pieces of a run. -/
theorem Standing.append_of_follows {log : Log} {l : Lifecycle} (h : Standing log l)
    {c : LifecycleCall} (hc : ¬ c.Adds) {s : LifecycleStep} (hs : Follows l s.moments s.after)
    (hrecorded : Recorded (history (log ++ [(c, s)])) s.after) :
    Standing (log ++ [(c, s)]) s.after where
  eq_last := by
    rw [List.getLast?_concat]
    rfl
  objects_eq := by
    have hadded : added [(c, s)] = [] := by cases c <;> first | rfl | exact absurd trivial hc
    rw [hs.objects_eq, h.objects_eq, added_append, hadded, List.append_nil]
  started_le := hs.started_le h.started_le
  running_eq := by
    rw [history_append, history_single, running_append, h.running_eq]
    exact hs.running_eq
  recorded := hrecorded

/-- **One call more.** A call on a lifecycle that stands after others leaves a record of what it
did. -/
theorem Standing.call {log : Log} {l : Lifecycle} (h : Standing log l)
    (hplain : ∀ x ∈ log, x.1.Plain) (c : LifecycleCall) :
    Accounts log c (l.call c).2 ∧ (l.call c).2.after = (l.call c).1 := by
  refine ⟨?_, by cases c <;> rfl⟩
  have hrecorded : Recorded (history (log ++ [(c, (l.call c).2)])) (l.call c).1 := by
    rw [history_append, history_single]
    exact h.recorded.call c
  -- a piece of a run has its points
  have hpoints : ∀ {moments : List Moment} {after : Lifecycle}, Follows l moments after →
      ∀ done m rest, moments = done ++ m :: rest →
        running (history log ++ (done ++ [m]).map (·.event)) = Finset.range m.lifecycle.started ∧
          m.lifecycle.objects = l.objects := by
    intro moments after hf done m rest hm
    have hupTo := hf.upTo hm
    rw [running_append, h.running_eq]
    exact ⟨hupTo.running_eq, hupTo.objects_eq⟩
  cases c with
  | manage name object =>
    -- the object is added behind the others and does not run
    refine ⟨h, ?_, hpoints (.refl l), rfl, rfl, rfl⟩
    refine ⟨?_, ?_, ?_, ?_, hrecorded⟩
    · rw [List.getLast?_concat]
      rfl
    · change (l.manage name object).objects = _
      rw [objects_manage, h.objects_eq, added_append]
      rfl
    · change l.started ≤ (l.manage name object).objects.length
      rw [objects_manage, List.length_append]
      exact Nat.le_add_right_of_le h.started_le
    · rw [history_append, history_single]
      change running (history log ++ []) = Finset.range l.started
      rw [List.append_nil, h.running_eq]
  | start =>
    have hfits := start_startsUpTo (h.plain hplain) h.started_le
    have ⟨_, _, hstarts, _⟩ := hfits
    exact ⟨h, h.append_of_follows id hstarts.follows hrecorded, hpoints hstarts.follows, hfits⟩
  | stop =>
    have hstops := stop_stopsAll h.started_le
    exact ⟨h, h.append_of_follows id hstops.follows hrecorded, hpoints hstops.follows, hstops,
      rfl⟩

/-! ### Runs -/

/-- Every call of a log has the record that the calls before it give it. -/
def Accounted (log : Log) : Prop :=
  ∀ pre c s post, log = pre ++ (c, s) :: post → Accounts pre c s

theorem Accounted.append {log : Log} (h : Accounted log) {c : LifecycleCall} {s : LifecycleStep}
    (hs : Accounts log c s) : Accounted (log ++ [(c, s)]) := by
  intro pre c' s' post hlog
  rcases split_of_concat_eq hlog with ⟨rfl, hx⟩ | ⟨post', hlog'⟩
  · obtain ⟨rfl, rfl⟩ := Prod.mk.inj hx
    exact hs
  · exact h pre c' s' post' hlog'

/-- Adding objects leaves the counter as it is. -/
theorem Accounted.started_eq {log : Log} (h : Accounted log) {mid : Log} :
    ∀ {pre c s c' s' post}, log = pre ++ (c, s) :: mid ++ (c', s') :: post →
      (∀ x ∈ mid, x.1.Adds) → s'.before.started = s.after.started := by
  induction mid with
  | nil =>
    intro pre c s c' s' post hlog _
    have hnext := (h (pre ++ [(c, s)]) c' s' post (by simpa using hlog)).before.eq_last
    rw [List.getLast?_concat] at hnext
    rw [hnext]
    rfl
  | cons x mid ih =>
    intro pre c s c' s' post hlog hmid
    obtain ⟨cx, sx⟩ := x
    -- the induction begins at the first of the calls between, which adds an object
    have hlog' : log = (pre ++ [(c, s)]) ++ (cx, sx) :: mid ++ (c', s') :: post := by
      simpa using hlog
    have hx : s'.before.started = sx.after.started :=
      ih hlog' fun y hy => hmid y (List.mem_cons_of_mem _ hy)
    have haccount := h (pre ++ [(c, s)]) cx sx (mid ++ (c', s') :: post) (by simpa using hlog)
    have hbefore := haccount.before.eq_last
    rw [List.getLast?_concat] at hbefore
    -- an added object leaves the counter, and no other call stands between
    cases cx with
    | manage name object =>
      obtain ⟨-, -, hafter⟩ := haccount.fits
      rw [hx, hafter, hbefore]
      rfl
    | start => exact absurd (hmid _ List.mem_cons_self) id
    | stop => exact absurd (hmid _ List.mem_cons_self) id

theorem Accounted.resumes {log : Log} (h : Accounted log) : Resumes log where
  after_failure := by
    intro pre s mid s' post i err hlog hmid hi
    have hbefore := h pre _ s (mid ++ (.start, s') :: post) (by simpa using hlog)
    have hafter := h (pre ++ (.start, s) :: mid) _ s' post hlog
    obtain ⟨upTo, failure, hs, -⟩ := hbefore.fits
    obtain ⟨upTo', failure', hs', hresult', hall'⟩ := hafter.fits
    have hstarted : s'.before.started = upTo :=
      (h.started_eq hlog hmid).trans hs.started_eq
    -- the result that is a failure is the last one, of the object below which all run
    have hupTo : upTo = i ∧ i < s.before.objects.length := by
      rw [hs.answers_eq] at hi
      rcases List.mem_append.mp hi with hi | hi
      · obtain ⟨j, -, hj⟩ := List.mem_map.mp hi
        exact nomatch (Prod.mk.inj hj).2
      · obtain ⟨e, he, hei⟩ := List.mem_map.mp hi
        obtain rfl : upTo = i := (Prod.mk.inj hei).1
        rw [Option.mem_toList.mp he] at hs
        exact ⟨rfl, hs.lt_of_failure⟩
    obtain ⟨rfl, hlt⟩ := hupTo
    have hlt' : upTo < s'.before.objects.length := by
      rw [hbefore.before.objects_eq] at hlt
      rw [hafter.before.objects_eq, added_append, List.length_append]
      omega
    rw [hs'.attempted_eq, hstarted]
    rcases Nat.eq_or_lt_of_le (hstarted ▸ hs'.started_le) with heq | hgt
    · -- nothing starts, so the later start fails, and at the same object
      cases failure' with
      | some e =>
        rw [← heq, Nat.sub_self]
        rfl
      | none =>
        have hall := hall'.mp hresult'
        rw [hs'.started_eq, hs'.follows.objects_eq] at hall
        exact absurd (heq.trans hall) hlt'.ne
    · -- something starts, and the first of it is the object that failed
      obtain ⟨k, hk⟩ : ∃ k, upTo' - upTo = k + 1 := ⟨upTo' - upTo - 1, by omega⟩
      rw [hk, List.range'_succ]
      rfl
  after_stop := by
    intro pre s mid s' post hlog hmid
    obtain ⟨hstops, -⟩ := (h pre _ s (mid ++ (.start, s') :: post) (by simpa using hlog)).fits
    obtain ⟨upTo, failure, hs, hresult, hall⟩ :=
      (h (pre ++ (.stop, s) :: mid) _ s' post hlog).fits
    -- nothing runs after a stop, and what comes between starts nothing
    have hstarted : s'.before.started = 0 := (h.started_eq hlog hmid).trans hstops.started_eq
    rw [hs.attempted_eq, hstarted, Nat.sub_zero, ← List.range_eq_range']
    cases failure with
    | none =>
      refine ⟨upTo, List.append_nil _, fun hok => ?_⟩
      rw [← hs.started_eq, hall.mp hok, hs.follows.objects_eq]
    | some e =>
      refine ⟨upTo + 1, List.range_succ.symm, fun hok => ?_⟩
      rw [hresult] at hok
      cases hok
  stop_after_stop := by
    intro pre s s' post hlog
    obtain ⟨hstops, -⟩ := (h pre _ s ((.stop, s') :: post) hlog).fits
    obtain ⟨hstops', -⟩ := (h (pre ++ [(.stop, s)]) _ s' post (by simpa using hlog)).fits
    have hlog' : log = pre ++ (.stop, s) :: [] ++ (.stop, s') :: post := by simpa using hlog
    exact hstops'.idle ((h.started_eq hlog' (fun x hx => nomatch hx)).trans hstops.started_eq)

/-- **Runs keep account.** After any run of calls on a lifecycle with plain objects, made through
any of its clones: the objects stand in the order of their adding, and those that run are the first
ones, as many as the counter says. It was so before each call, at every point in it and after it.
Each start call went on from the counter, called no start of an object that was running, and ended
at the first failure, which it returned with nothing tried after it; it succeeded exactly when all
objects ran after it. Each stop call stopped the objects that ran, each once and in reverse order,
and left none running. -/
theorem run_accounts (ops : List (Board.Op LifecycleCall))
    (hplain : ∀ handle c, .call handle c ∈ ops → c.Plain) {handle : ℕ} {l : Lifecycle}
    (hl : ((Board.ofValue ({} : Lifecycle)).run call ops).board.value? handle = some l) :
    let log := ((Board.ofValue ({} : Lifecycle)).run call ops).log
    Standing log l ∧ Accounted log ∧ Resumes log := by
  intro log
  have hlog : ∀ x ∈ log, x.1.Plain := by
    intro x hx
    obtain ⟨handle, hop⟩ := Board.exists_op_of_mem_log hx
    exact hplain handle x.1 hop
  -- the calls of the log so far are assumed plain, since the run does not know them beforehand
  have hrun : (∀ x ∈ log, x.1.Plain) → Standing log l ∧ Accounted log := by
    refine Board.run_invariant
      (P := fun log l => (∀ x ∈ log, x.1.Plain) → Standing log l ∧ Accounted log)
      (fun _ => ⟨.empty, ?_⟩) (fun log l c ih hplain => ?_) ops hl
    · intro pre c s post h
      simp at h
    · have hpre : ∀ x ∈ log, x.1.Plain := fun x hx => hplain x (List.mem_append_left _ hx)
      obtain ⟨hstanding, haccounted⟩ := ih hpre
      obtain ⟨hcall, hafter⟩ := hstanding.call hpre c
      exact ⟨hafter ▸ hcall.after, haccounted.append hcall⟩
  exact ⟨(hrun hlog).1, (hrun hlog).2, (hrun hlog).2.resumes⟩

/-- A plain object that fails when it is started for the first time, and starts afterwards. -/
def shy : Managed where
  start n := .note "trying" (.done (if n = 0 then .error "not yet" else .ok ()))
  stop _ := { result := .error "stuck" }

/-- Two objects, a start that fails, and then a stop and a start through a clone. -/
def shyOps : List (Board.Op LifecycleCall) :=
  [.call 0 (.manage "a" shy), .call 0 .start, .clone 0, .call 1 .start, .call 1 (.manage "b" shy),
    .call 0 .start, .call 0 .stop, .call 1 .start]

theorem run_accounts_shy :
    (∀ handle c, .call handle c ∈ shyOps → c.Plain) ∧
      ∃ l, ((Board.ofValue ({} : Lifecycle)).run call shyOps).board.value? 1 = some l ∧
        Standing ((Board.ofValue ({} : Lifecycle)).run call shyOps).log l := by
  have hplain : ∀ handle c, .call handle c ∈ shyOps → c.Plain := by
    intro handle c hc
    simp only [shyOps, List.mem_cons, List.not_mem_nil, or_false, Board.Op.call.injEq,
      reduceCtorEq, false_or] at hc
    -- each object of the run is plain, and the other calls add none
    rcases hc with ⟨-, rfl⟩ | ⟨-, rfl⟩ | ⟨-, rfl⟩ | ⟨-, rfl⟩ | ⟨-, rfl⟩ | ⟨-, rfl⟩ | ⟨-, rfl⟩
    all_goals first | trivial | exact fun _ => trivial
  have hsome : (((Board.ofValue ({} : Lifecycle)).run call shyOps).board.value? 1).isSome := rfl
  obtain ⟨l, hl⟩ := Option.isSome_iff_exists.mp hsome
  exact ⟨hplain, l, hl, (run_accounts shyOps hplain hl).1⟩

end Lifecycle

end ServiceHost
