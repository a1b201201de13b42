import Mathlib.Data.List.Nodup
import Mathlib.Data.List.Range
import ServiceHost.Server.Managed

/-!
# How a watch ends

A server that is started watches over the runs of its connectors. What arrives during the watch
(results, runs that are gone, the interrupt) takes turns with the looks of the watch in any order,
and the watch ends as the arrivals alone say: `Supervision.outcome?` reads it off them, with no
queue and no counter.

* `Supervision.Hearing` is the invariant of a watch that is not over: what it has heard of are
  successes, fewer than there are runs, and what waits is the rest of what has been delivered.
  `Hearing.look` says what one look gives then, and `Hearing.run` carries it through any turns.
* `Supervision.endsByArrivals` says of every watch which outcome it ends with, and that enough
  looks bring it there.
* `Server.start_ends_by_arrivals` says so of a start from any state of a server.
-/

namespace ServiceHost

variable {E : Type}

/-! ### What has arrived -/

namespace Arrival

/-- The result that arrives. -/
def result? : Arrival E → Option (Except E Unit)
  | .delivered _ result => some result
  | _ => none

/-- The run that is gone. -/
def gone? : Arrival E → Option ℕ
  | .gone run => some run
  | _ => none

/-- Whether it is the interrupt that arrives. -/
def isInterrupt : Arrival E → Bool
  | .interrupt => true
  | _ => false

/-- The results among arrivals, in the order of their delivery. -/
def results (as : List (Arrival E)) : List (Except E Unit) := as.filterMap result?

/-- The runs that are gone. -/
def goneRuns (as : List (Arrival E)) : List ℕ := as.filterMap gone?

/-- Whether the interrupt has come. -/
def hasInterrupt (as : List (Arrival E)) : Bool := as.any isInterrupt

theorem results_append (as bs : List (Arrival E)) :
    results (as ++ bs) = results as ++ results bs := List.filterMap_append

theorem goneRuns_append (as bs : List (Arrival E)) :
    goneRuns (as ++ bs) = goneRuns as ++ goneRuns bs := List.filterMap_append

theorem hasInterrupt_append (as bs : List (Arrival E)) :
    hasInterrupt (as ++ bs) = (hasInterrupt as || hasInterrupt bs) := List.any_append

/-- The error of a result. -/
def error? : Except E Unit → Option E
  | .ok () => none
  | .error e => some e

/-- Whether a result is a success. -/
def isSuccess (result : Except E Unit) : Bool := (error? result).isNone

/-- Behind successes the first error is the first one of the rest. -/
theorem findSome?_successes (heard : ℕ) (rest : List (Except E Unit)) :
    (List.replicate heard (Except.ok ()) ++ rest).findSome? error? = rest.findSome? error? := by
  -- by the successes, none of which holds an error
  induction heard with
  | zero => rfl
  | succ heard ih =>
    rw [List.replicate_succ, List.cons_append, List.findSome?_cons]
    exact ih

/-- The successes at the start of a list that begins with successes. -/
theorem takeWhile_successes (heard : ℕ) (rest : List (Except E Unit)) :
    ((List.replicate heard (Except.ok ()) ++ rest).takeWhile isSuccess).length =
      heard + (rest.takeWhile isSuccess).length := by
  induction heard with
  | zero => simp
  | succ heard ih =>
    have hok : isSuccess (.ok () : Except E Unit) = true := rfl
    rw [List.replicate_succ, List.cons_append, List.takeWhile_cons_of_pos hok, List.length_cons,
      ih]
    omega

end Arrival

open Arrival

/-- What arrives in the turns of a watch. -/
def Turn.arrivals (turns : List (Turn E)) : List (Arrival E) :=
  turns.filterMap fun
    | .arrival a => some a
    | .look => none

namespace Supervision

/-- What a watch over `n` runs comes to when it has heard of everything that has arrived: the first
error, unless it stands behind `n` successes; then that all runs have succeeded or are gone; then
the interrupt. None where the watch goes on. -/
def outcome? (n : ℕ) (as : List (Arrival E)) : Option (Verdict E) :=
  -- a watch that has heard of all its successes hears nothing more, not even an error
  if n ≤ ((results as).takeWhile isSuccess).length then some .finished
  else match (results as).findSome? error? with
    | some e => some (.failed e)
    | none =>
      if ∀ run < n, run ∈ goneRuns as then some .finished
      else if hasInterrupt as then some .interrupted
      else none

/-- An interrupt that has come gives an outcome. -/
theorem isSome_outcome? {n : ℕ} {as : List (Arrival E)} (h : hasInterrupt as = true) :
    (outcome? n as).isSome = true := by
  -- what stands before the interrupt gives an outcome, too
  unfold outcome?
  rw [if_pos h]
  split
  · rfl
  · split
    · rfl
    · split <;> rfl

/-- An interrupt is the outcome only where no error has been delivered. -/
theorem eq_ok_of_outcome?_interrupted {n : ℕ} {as : List (Arrival E)}
    (h : outcome? n as = some .interrupted) : ∀ result ∈ results as, result = .ok () := by
  unfold outcome? at h
  split at h
  · cases h
  · split at h
    · cases h
    · next hnone =>
      intro result hresult
      -- the case is reached only where the results have no error
      have herror := List.findSome?_eq_none_iff.mp hnone result hresult
      cases result with
      | ok => rfl
      | error e => cases herror

/-! ### A watch that is not over -/

/-- A watch over `n` runs that is not over, after what has arrived: it has heard of successes,
fewer than `n`, and what waits are the results behind them. -/
structure Hearing (n : ℕ) (as : List (Arrival E)) (s : Supervision E) (heard : ℕ) : Prop where
  results_eq : results as = List.replicate heard (.ok ()) ++ s.queue
  count : s.remaining + heard = n
  remaining_pos : 0 < s.remaining
  mem_live : ∀ run, run ∈ s.live ↔ run < n ∧ run ∉ goneRuns as
  nodup_live : s.live.Nodup
  interrupted_eq : s.interrupted = hasInterrupt as

namespace Hearing

variable {n heard : ℕ} {as : List (Arrival E)} {s : Supervision E}

theorem start (h : 0 < n) : Hearing n [] (ofCount n : Supervision E) 0 where
  results_eq := rfl
  count := rfl
  remaining_pos := h
  mem_live run := by
    change run ∈ List.range n ↔ _
    rw [List.mem_range]
    exact ⟨fun hlt => ⟨hlt, List.not_mem_nil⟩, fun hrun => hrun.1⟩
  nodup_live := List.nodup_range
  interrupted_eq := rfl

/-- Arrivals are taken note of without a look. -/
theorem arrive (h : Hearing n as s heard) (a : Arrival E) :
    Hearing n (as ++ [a]) (s.arrive a) heard := by
  cases a with
  | delivered run result =>
    refine ⟨?_, h.count, h.remaining_pos, fun r => ?_, h.nodup_live, ?_⟩
    · -- the result waits behind those that wait already
      rw [results_append, h.results_eq, List.append_assoc]
      rfl
    · rw [goneRuns_append]
      exact (h.mem_live r).trans (by simp [goneRuns, gone?])
    · rw [hasInterrupt_append]
      exact h.interrupted_eq.trans (by simp [hasInterrupt, isInterrupt])
  | gone run =>
    refine ⟨?_, h.count, h.remaining_pos, fun r => ?_, h.nodup_live.erase run, ?_⟩
    · rw [results_append, h.results_eq, List.append_assoc]
      simp [results, result?, Supervision.arrive]
    · -- the run itself is taken off the list, every other one stays as it was
      change r ∈ s.live.erase run ↔ _
      have hgone : goneRuns (as ++ [.gone run]) = goneRuns as ++ [run] := goneRuns_append as _
      rw [h.nodup_live.mem_erase_iff, h.mem_live, hgone, List.mem_append, List.mem_singleton]
      tauto
    · rw [hasInterrupt_append]
      exact h.interrupted_eq.trans (by simp [hasInterrupt, isInterrupt])
  | interrupt =>
    -- an interrupt is remembered, whatever waits
    refine ⟨?_, h.count, h.remaining_pos, fun r => ?_, h.nodup_live, ?_⟩
    · rw [results_append, h.results_eq, List.append_assoc]
      simp [results, result?, Supervision.arrive]
    · rw [goneRuns_append]
      exact (h.mem_live r).trans (by simp [goneRuns, gone?])
    · rw [hasInterrupt_append]
      exact (Bool.or_true _).symm

/-- Every run is gone exactly when none is left. -/
theorem live_eq_nil_iff (h : Hearing n as s heard) :
    s.live = [] ↔ ∀ run < n, run ∈ goneRuns as := by
  constructor
  · -- a run that is not gone would be left
    intro hnil run hrun
    by_contra hgone
    have hlive := (h.mem_live run).mpr ⟨hrun, hgone⟩
    rw [hnil] at hlive
    exact List.not_mem_nil hlive
  · intro hall
    refine List.eq_nil_iff_forall_not_mem.mpr fun run hlive => ?_
    obtain ⟨hrun, hgone⟩ := (h.mem_live run).mp hlive
    exact hgone (hall run hrun)

/-- The outcome where the results that wait are known. -/
theorem outcome?_eq (h : Hearing n as s heard) :
    outcome? n as =
      if n ≤ heard + (s.queue.takeWhile isSuccess).length then some .finished
      else match s.queue.findSome? error? with
        | some e => some (.failed e)
        | none =>
          if s.live = [] then some .finished
          else if s.interrupted then some .interrupted
          else none := by
  unfold outcome?
  rw [h.results_eq, takeWhile_successes, findSome?_successes, h.interrupted_eq]
  simp only [h.live_eq_nil_iff]

theorem outcome?_of_error (h : Hearing n as s heard) {e : E} {rest : List (Except E Unit)}
    (hqueue : s.queue = .error e :: rest) : outcome? n as = some (.failed e) := by
  have hcount := h.count
  have hpos := h.remaining_pos
  -- the error is the first one, and too few successes stand before it
  have htake : (s.queue.takeWhile isSuccess).length = 0 := by
    rw [hqueue]
    rfl
  have hlt : ¬ n ≤ heard + (s.queue.takeWhile isSuccess).length := by omega
  rw [h.outcome?_eq, if_neg hlt, hqueue]
  rfl

theorem outcome?_of_last (h : Hearing n as s heard) {rest : List (Except E Unit)}
    (hqueue : s.queue = .ok () :: rest) (hlast : s.remaining - 1 = 0) :
    outcome? n as = some .finished := by
  have hcount := h.count
  -- this success is the one that was still missing
  have htake : (s.queue.takeWhile isSuccess).length = (rest.takeWhile isSuccess).length + 1 := by
    rw [hqueue]
    rfl
  have hle : n ≤ heard + (s.queue.takeWhile isSuccess).length := by omega
  rw [h.outcome?_eq, if_pos hle]

theorem outcome?_of_nil (h : Hearing n as s heard) (hqueue : s.queue = []) :
    outcome? n as =
      if s.live = [] then some .finished
      else if s.interrupted then some .interrupted
      else none := by
  have hcount := h.count
  have hpos := h.remaining_pos
  -- no success is left to hear of, and no error waits
  have hlt : ¬ n ≤ heard + (s.queue.takeWhile isSuccess).length := by
    rw [hqueue, List.takeWhile_nil, List.length_nil]
    omega
  rw [h.outcome?_eq, if_neg hlt, hqueue]
  rfl

/-- A success that is not the last one is heard of. -/
theorem next (h : Hearing n as s heard) {rest : List (Except E Unit)}
    (hqueue : s.queue = .ok () :: rest) (hmore : s.remaining - 1 ≠ 0) :
    Hearing n as { s with remaining := s.remaining - 1, queue := rest } (heard + 1) := by
  have hcount := h.count
  refine ⟨?_, ?_, Nat.pos_of_ne_zero hmore, h.mem_live, h.nodup_live, h.interrupted_eq⟩
  · -- the success moves from what waits to what is heard
    rw [h.results_eq, hqueue, List.replicate_succ', List.append_assoc]
    rfl
  · change s.remaining - 1 + (heard + 1) = n
    omega

/-- **One look.** A look that ends the watch gives the outcome of what has arrived. One that hears
of a success leaves a watch that is not over and has heard of one more. One that has nothing to see
tells that there is no outcome yet. -/
theorem look_cases (h : Hearing n as s heard) :
    (∃ verdict, s.look = .ended verdict ∧ outcome? n as = some verdict) ∨
      (∃ s', s.look = .heard s' ∧ Hearing n as s' (heard + 1)) ∨
      (s.look = .waits ∧ outcome? n as = none) := by
  -- what waits decides what is looked at: results first, then the runs, then the interrupt
  cases hqueue : s.queue with
  | nil =>
    have houtcome := h.outcome?_of_nil hqueue
    have hlook : s.look = if s.live.isEmpty then .ended .finished
        else if s.interrupted then .ended .interrupted else .waits := by
      rw [look, hqueue]
    by_cases hlive : s.live = []
    · rw [if_pos hlive] at houtcome
      rw [if_pos (List.isEmpty_iff.mpr hlive)] at hlook
      exact Or.inl ⟨_, hlook, houtcome⟩
    · rw [if_neg hlive] at houtcome
      rw [if_neg fun hempty => hlive (List.isEmpty_iff.mp hempty)] at hlook
      by_cases hinterrupted : s.interrupted = true
      · rw [if_pos hinterrupted] at houtcome hlook
        exact Or.inl ⟨_, hlook, houtcome⟩
      · rw [if_neg hinterrupted] at houtcome hlook
        exact Or.inr (Or.inr ⟨hlook, houtcome⟩)
  | cons result rest =>
    cases result with
    | error e =>
      have hlook : s.look = .ended (.failed e) := by rw [look, hqueue]
      exact Or.inl ⟨_, hlook, h.outcome?_of_error hqueue⟩
    | ok value =>
      have hlook : s.look = if s.remaining - 1 = 0 then .ended .finished
          else .heard { s with remaining := s.remaining - 1, queue := rest } := by
        rw [look, hqueue]
      by_cases hlast : s.remaining - 1 = 0
      · rw [if_pos hlast] at hlook
        exact Or.inl ⟨_, hlook, h.outcome?_of_last hqueue hlast⟩
      · rw [if_neg hlast] at hlook
        exact Or.inr (Or.inl ⟨_, hlook, h.next hqueue hlast⟩)

end Hearing

/-! ### Runs of a watch -/

/-- A look that hears of a success takes it off what waits. -/
theorem length_queue_of_heard {s s' : Supervision E} (h : s.look = .heard s') :
    s.queue.length = s'.queue.length + 1 := by
  unfold look at h
  cases hqueue : s.queue with
  -- where nothing waits, a look hears of no success
  | nil =>
    rw [hqueue] at h
    simp only at h
    split at h
    · cases h
    · split at h <;> cases h
  | cons result rest =>
    rw [hqueue] at h
    cases result with
    | error e => cases h
    | ok value =>
      simp only at h
      split at h
      · cases h
      · rw [← Look.heard.inj h, List.length_cons]

/-- A look that has nothing to see found nothing waiting. -/
theorem queue_of_waits {s : Supervision E} (h : s.look = .waits) : s.queue = [] := by
  unfold look at h
  cases hqueue : s.queue with
  | nil => rfl
  | cons result rest =>
    rw [hqueue] at h
    cases result with
    | error e => cases h
    | ok value =>
      simp only at h
      split at h <;> cases h

theorem run_look_of_ended {s : Supervision E} {verdict : Verdict E} (h : s.look = .ended verdict)
    (rest : List (Turn E)) : s.run (.look :: rest) = (some verdict, s) := by
  rw [run, h]

theorem run_look_of_heard {s s' : Supervision E} (h : s.look = .heard s')
    (rest : List (Turn E)) : s.run (.look :: rest) = s'.run rest := by
  rw [run, h]

theorem run_look_of_waits {s : Supervision E} (h : s.look = .waits) (rest : List (Turn E)) :
    s.run (.look :: rest) = s.run rest := by
  rw [run, h]

/-- A watch that is over after some turns stays so, and one that is not goes on with what follows
them. -/
theorem run_append (s : Supervision E) (turns more : List (Turn E)) :
    s.run (turns ++ more) =
      if (s.run turns).1.isSome then s.run turns else (s.run turns).2.run more := by
  -- along the first turns; a look that ends the watch leaves the others unseen
  induction turns generalizing s with
  | nil => rfl
  | cons turn rest ih =>
    cases turn with
    | arrival a => exact ih (s.arrive a)
    | look =>
      rw [List.cons_append]
      cases hlook : s.look with
      | ended verdict =>
        rw [run_look_of_ended hlook, run_look_of_ended hlook]
        rfl
      | heard s' =>
        rw [run_look_of_heard hlook, run_look_of_heard hlook]
        exact ih s'
      | waits =>
        rw [run_look_of_waits hlook, run_look_of_waits hlook]
        exact ih s

theorem run_append_of_none {s : Supervision E} {turns : List (Turn E)}
    (h : (s.run turns).1 = none) (more : List (Turn E)) :
    s.run (turns ++ more) = (s.run turns).2.run more := by
  rw [run_append, h]
  rfl

theorem run_append_of_some {s : Supervision E} {turns : List (Turn E)} {verdict : Verdict E}
    (h : (s.run turns).1 = some verdict) (more : List (Turn E)) :
    s.run (turns ++ more) = s.run turns := by
  rw [run_append, h]
  rfl

theorem run_arrivals (s : Supervision E) (as : List (Arrival E)) (more : List (Turn E)) :
    s.run (as.map .arrival ++ more) = (as.foldl arrive s).run more := by
  induction as generalizing s with
  | nil => rfl
  | cons a rest ih => exact ih (s.arrive a)

theorem arrivals_cons_arrival (a : Arrival E) (turns : List (Turn E)) :
    Turn.arrivals (.arrival a :: turns) = a :: Turn.arrivals turns := rfl

theorem arrivals_cons_look (turns : List (Turn E)) :
    Turn.arrivals (.look :: turns) = Turn.arrivals turns := rfl

namespace Hearing

variable {n heard : ℕ} {as : List (Arrival E)} {s : Supervision E}

/-- **A watch that is over** ended at a look, with the outcome of what had arrived before it. -/
theorem of_run_eq_some (h : Hearing n as s heard) {turns : List (Turn E)} {verdict : Verdict E}
    (hrun : (s.run turns).1 = some verdict) :
    ∃ pre post, turns = pre ++ .look :: post ∧ (s.run pre).1 = none ∧
      outcome? n (as ++ Turn.arrivals pre) = some verdict := by
  -- along the turns; what has arrived before them is carried in `as`
  induction turns generalizing as s heard with
  | nil => cases hrun
  | cons turn rest ih =>
    cases turn with
    | arrival a =>
      obtain ⟨pre, post, rfl, hbefore, houtcome⟩ := ih (h.arrive a) hrun
      refine ⟨.arrival a :: pre, post, rfl, hbefore, ?_⟩
      rw [arrivals_cons_arrival, ← List.singleton_append, ← List.append_assoc]
      exact houtcome
    | look =>
      rcases h.look_cases with ⟨v, hlook, houtcome⟩ | ⟨s', hlook, hnext⟩ | ⟨hlook, -⟩
      · -- the watch ends here
        rw [run_look_of_ended hlook] at hrun
        obtain rfl := Option.some.inj hrun
        exact ⟨[], rest, rfl, rfl, by rwa [Turn.arrivals, List.filterMap_nil, List.append_nil]⟩
      · -- a look that hears of a success leaves what has arrived as it is
        rw [run_look_of_heard hlook] at hrun
        obtain ⟨pre, post, rfl, hbefore, houtcome⟩ := ih hnext hrun
        refine ⟨.look :: pre, post, rfl, ?_, houtcome⟩
        rw [run_look_of_heard hlook]
        exact hbefore
      · rw [run_look_of_waits hlook] at hrun
        obtain ⟨pre, post, rfl, hbefore, houtcome⟩ := ih h hrun
        refine ⟨.look :: pre, post, rfl, ?_, houtcome⟩
        rw [run_look_of_waits hlook]
        exact hbefore

/-- **A watch that is not over** still hears, after any turns. -/
theorem of_run_eq_none (h : Hearing n as s heard) {turns : List (Turn E)}
    (hrun : (s.run turns).1 = none) :
    ∃ heard', Hearing n (as ++ Turn.arrivals turns) (s.run turns).2 heard' := by
  -- along the turns, as above; here no look ends the watch
  induction turns generalizing as s heard with
  | nil => exact ⟨heard, by rwa [Turn.arrivals, List.filterMap_nil, List.append_nil]⟩
  | cons turn rest ih =>
    cases turn with
    | arrival a =>
      rw [arrivals_cons_arrival, ← List.singleton_append, ← List.append_assoc]
      exact ih (h.arrive a) hrun
    | look =>
      rw [arrivals_cons_look]
      rcases h.look_cases with ⟨v, hlook, -⟩ | ⟨s', hlook, hnext⟩ | ⟨hlook, -⟩
      · rw [run_look_of_ended hlook] at hrun
        cases hrun
      · rw [run_look_of_heard hlook] at hrun ⊢
        exact ih hnext hrun
      · rw [run_look_of_waits hlook] at hrun ⊢
        exact ih h hrun

/-- **Enough looks.** As many looks as results wait, and one more, give the outcome of what has
arrived. -/
theorem poll_eq (h : Hearing n as s heard) : s.poll.1 = outcome? n as := by
  unfold poll
  -- each look but the last hears of a success, so the queue carries the induction
  induction hlength : s.queue.length generalizing s heard with
  | zero =>
    rw [List.replicate_one]
    rcases h.look_cases with ⟨v, hlook, houtcome⟩ | ⟨s', hlook, -⟩ | ⟨hlook, houtcome⟩
    · rw [run_look_of_ended hlook, houtcome]
    · rw [length_queue_of_heard hlook] at hlength
      cases hlength
    · rw [run_look_of_waits hlook, houtcome]
      rfl
  | succ waiting ih =>
    rw [List.replicate_succ]
    -- something waits, so the look cannot come away with nothing
    rcases h.look_cases with ⟨v, hlook, houtcome⟩ | ⟨s', hlook, hnext⟩ | ⟨hlook, -⟩
    · rw [run_look_of_ended hlook, houtcome]
    · rw [run_look_of_heard hlook]
      rw [length_queue_of_heard hlook] at hlength
      exact ih hnext (Nat.succ.inj hlength)
    · rw [queue_of_waits hlook] at hlength
      cases hlength

end Hearing

/-- How a watch over `n` runs stands after any turns of arrivals and looks. -/
structure EndsByArrivals (n : ℕ) (turns : List (Turn E)) : Prop where
  /-- A watch that is over ended at a look, with the outcome of what had arrived by then. -/
  ended : ∀ verdict, ((ofCount n).run turns).1 = some verdict →
    ∃ pre post, turns = pre ++ .look :: post ∧ ((ofCount n).run pre).1 = none ∧
      outcome? n (Turn.arrivals pre) = some verdict
  /-- A watch that ended at the interrupt had no error before it, heard of or not. -/
  unmasked : ((ofCount n).run turns).1 = some .interrupted →
    ∃ pre post, turns = pre ++ .look :: post ∧ ((ofCount n).run pre).1 = none ∧
      ∀ result ∈ results (Turn.arrivals pre), result = .ok ()
  /-- A watch that is not over has heard of fewer than `n` successes and counts down from `n`,
  and what waits is the rest of what has been delivered. -/
  counted : ((ofCount n).run turns).1 = none →
    ∃ heard, results (Turn.arrivals turns) =
        List.replicate heard (Except.ok ()) ++ ((ofCount n).run turns).2.queue ∧
      ((ofCount n).run turns).2.remaining + heard = n ∧ 0 < ((ofCount n).run turns).2.remaining
  /-- A look for each result that waits and one more bring it to the outcome of what has
  arrived. -/
  settles : ((ofCount n).run turns).1 = none →
    ((ofCount n).run (turns ++
      List.replicate (((ofCount n).run turns).2.queue.length + 1) .look)).1 =
        outcome? n (Turn.arrivals turns)
  /-- Where nothing waits, one look heeds an interrupt that has come. -/
  heeded : ((ofCount n).run turns).1 = none → ((ofCount n).run turns).2.queue = [] →
    hasInterrupt (Turn.arrivals turns) = true →
      (((ofCount n).run (turns ++ [.look])).1).isSome = true

/-- **A watch ends as its arrivals say**, in whatever order arrivals and looks take turns. -/
theorem endsByArrivals {n : ℕ} (hn : 0 < n) (turns : List (Turn E)) : EndsByArrivals n turns := by
  -- the watch begins with nothing heard and nothing waiting
  have hstart : Hearing n [] (ofCount n : Supervision E) 0 := .start hn
  have hsettles : ((ofCount n).run turns).1 = none →
      ((ofCount n).run (turns ++
        List.replicate (((ofCount n).run turns).2.queue.length + 1) .look)).1 =
          outcome? n (Turn.arrivals turns) := by
    intro hrun
    obtain ⟨heard, hhearing⟩ := hstart.of_run_eq_none hrun
    rw [run_append_of_none hrun]
    exact hhearing.poll_eq
  refine ⟨fun verdict hrun => hstart.of_run_eq_some hrun, fun hrun => ?_, fun hrun => ?_, hsettles,
    fun hrun hqueue hinterrupt => ?_⟩
  · obtain ⟨pre, post, hsplit, hbefore, houtcome⟩ := hstart.of_run_eq_some hrun
    exact ⟨pre, post, hsplit, hbefore, eq_ok_of_outcome?_interrupted houtcome⟩
  · obtain ⟨heard, hhearing⟩ := hstart.of_run_eq_none hrun
    exact ⟨heard, hhearing.results_eq, hhearing.count, hhearing.remaining_pos⟩
  · -- a single look settles it
    have hlook := hsettles hrun
    rw [hqueue] at hlook
    change ((ofCount n).run (turns ++ [.look])).1 = _ at hlook
    rw [hlook]
    exact isSome_outcome? hinterrupt

end Supervision

/-! ### Starts of a server -/

namespace Supervision

theorem queue_arrivals (s : Supervision E) (as : List (Arrival E)) :
    (as.foldl arrive s).queue = s.queue ++ results as := by
  -- only a result is put behind those that wait
  induction as generalizing s with
  | nil => exact (List.append_nil _).symm
  | cons a rest ih =>
    rw [List.foldl_cons, ih]
    cases a with
    | delivered run result =>
      change s.queue ++ [result] ++ results rest = _
      rw [List.append_assoc]
      rfl
    | gone run => rfl
    | interrupt => rfl

/-- Where a poll ends without a verdict nothing waits any more. -/
theorem queue_poll {s : Supervision E} (h : s.poll.1 = none) : s.poll.2.queue = [] := by
  unfold poll at h ⊢
  -- the looks before the last one take off a success each
  induction hlength : s.queue.length generalizing s with
  | zero =>
    rw [hlength, List.replicate_one] at h
    rw [List.replicate_one]
    cases hlook : s.look with
    | ended verdict =>
      rw [run_look_of_ended hlook] at h
      cases h
    | heard s' =>
      rw [length_queue_of_heard hlook] at hlength
      cases hlength
    | waits =>
      rw [run_look_of_waits hlook]
      exact queue_of_waits hlook
  | succ waiting ih =>
    rw [hlength, List.replicate_succ] at h
    rw [List.replicate_succ]
    cases hlook : s.look with
    | ended verdict =>
      rw [run_look_of_ended hlook] at h
      cases h
    | heard s' =>
      have hrest : s'.queue.length = waiting := by
        rw [length_queue_of_heard hlook] at hlength
        exact Nat.succ.inj hlength
      rw [run_look_of_heard hlook] at h ⊢
      exact ih (by rw [hrest]; exact h) hrest
    | waits =>
      rw [queue_of_waits hlook] at hlength
      cases hlength

end Supervision

namespace Server

variable {R : Type}

/-- What the watch of a round takes note of before it looks. -/
def noted (s : Server R) (interrupt : Interrupt) (supervision : Supervision ConnectorError) :
    Supervision ConnectorError :=
  if s.hasCome interrupt then supervision.arrive .interrupt else supervision

/-- The turns of a watch before it looks and while something waits, given what has arrived in the
round before: that arrives, then the interrupt if it has come. -/
def roundTurns (s : Server R) (interrupt : Interrupt) (arrived : List (Arrival ConnectorError)) :
    List (Turn ConnectorError) :=
  (arrived ++ if s.hasCome interrupt then [Arrival.interrupt] else []).map .arrival ++
    List.replicate ((results arrived).length + 1) .look

/-- The turns of a watch that goes by rounds. -/
def turnsFrom (interrupt : Interrupt) : ℕ → Server R → Host → List (Arrival ConnectorError) →
    List (Turn ConnectorError)
  | 0, s, _, arrived => s.roundTurns interrupt arrived
  | rounds + 1, s, h, arrived =>
    let round := pollSlots s.slots h
    s.roundTurns interrupt arrived ++
      turnsFrom interrupt rounds { s with slots := round.slots } round.host round.arrivals

/-- The turns of the watch of a start. -/
def turnsOf (s : Server R) (interrupt : Interrupt) (h : Host) : List (Turn ConnectorError) :=
  turnsFrom interrupt settlingRounds
    { s with state := .running, slots := s.slots.map Slot.begin } h []

/-- The turns of a round are a poll of what has been taken note of. -/
theorem run_roundTurns (s : Server R) (interrupt : Interrupt)
    {supervision : Supervision ConnectorError} (hqueue : supervision.queue = [])
    (arrived : List (Arrival ConnectorError)) :
    supervision.run (s.roundTurns interrupt arrived) =
      (s.noted interrupt (arrived.foldl Supervision.arrive supervision)).poll := by
  have hnoted : (arrived ++ if s.hasCome interrupt then [Arrival.interrupt] else []).foldl
      Supervision.arrive supervision =
        s.noted interrupt (arrived.foldl Supervision.arrive supervision) := by
    unfold noted
    rw [List.foldl_append]
    split <;> rfl
  -- nothing waited before the round, so the looks are as many as a poll makes
  have hwaiting : (s.noted interrupt (arrived.foldl Supervision.arrive supervision)).queue =
      results arrived := by
    have harrived := supervision.queue_arrivals arrived
    rw [hqueue, List.nil_append] at harrived
    unfold noted
    split <;> exact harrived
  rw [roundTurns, Supervision.run_arrivals, hnoted, Supervision.poll, hwaiting]

/-- A watch that goes by rounds goes through its turns. -/
theorem verdict_watch (interrupt : Interrupt) (rounds : ℕ) (s : Server R) (h : Host)
    (supervision : Supervision ConnectorError) (hqueue : supervision.queue = [])
    (arrived : List (Arrival ConnectorError)) :
    (watch interrupt rounds s h (arrived.foldl Supervision.arrive supervision)).verdict =
      (supervision.run (turnsFrom interrupt rounds s h arrived)).1 := by
  have hround := s.run_roundTurns interrupt hqueue arrived
  -- along the rounds; a round that ends without a verdict has left nothing waiting
  induction rounds generalizing s h supervision arrived with
  | zero =>
    rw [turnsFrom, hround]
    unfold watch
    cases hpoll : (s.noted interrupt (arrived.foldl Supervision.arrive supervision)).poll with
    | mk verdict after =>
      unfold noted at hpoll
      simp only [hpoll]
      cases verdict with
      | some verdict => rfl
      | none => rfl
  | succ rounds ih =>
    rw [turnsFrom]
    unfold watch
    cases hpoll : (s.noted interrupt (arrived.foldl Supervision.arrive supervision)).poll with
    | mk verdict after =>
      rw [hpoll] at hround
      have hpoll' := hpoll
      unfold noted at hpoll'
      simp only [hpoll']
      cases verdict with
      | some verdict =>
        -- the watch is over in this round
        have hsome : (supervision.run (s.roundTurns interrupt arrived)).1 = some verdict := by
          rw [hround]
        rw [Supervision.run_append_of_some hsome, hsome]
      | none =>
        have hnone : (supervision.run (s.roundTurns interrupt arrived)).1 = none := by
          rw [hround]
        have hempty : after.queue = [] := by
          have h := Supervision.queue_poll
            (s := s.noted interrupt (arrived.foldl Supervision.arrive supervision))
          rw [hpoll] at h
          exact h rfl
        rw [Supervision.run_append_of_none hnone, hround]
        exact ih _ _ after hempty _ (run_roundTurns _ interrupt hempty _)

/-- **The turns of a start.** The result of a start is the one that the turns of its rounds
give. -/
theorem result_runUntil (s : Server R) (interrupt : Interrupt) (h : Host) :
    (s.runUntil interrupt h).result = (s.startDuring (s.turnsOf interrupt h)).1 := by
  unfold runUntil startDuring
  cases hbegin : s.beginStart with
  | error state => rfl
  | ok s' =>
    -- a start that is let through has changed the state alone
    have hslots : s'.slots = s.slots := by
      unfold beginStart at hbegin
      split at hbegin
      · rw [← Except.ok.inj hbegin]
      · cases hbegin
    simp only
    split
    · rfl
    · have hverdict := verdict_watch interrupt settlingRounds
        { s'.markRunning with slots := s'.slots.map Slot.begin } h
        (.ofCount s'.slots.length) rfl []
      have hrunning : ({ s'.markRunning with slots := s'.slots.map Slot.begin } : Server R) =
          { s with state := .running, slots := s.slots.map Slot.begin } := by
        rw [hslots]
        rfl
      have hlength : (s'.slots.map Slot.begin).length = s'.slots.length := List.length_map _
      rw [hlength]
      rw [turnsOf, ← hrunning, ← hverdict, List.foldl_nil]
      split
      · next hwatched => rw [hwatched]; rfl
      · next hwatched => rw [hwatched]; rfl
      · next hwatched => rw [hwatched]; rfl
      · next hwatched => rw [hwatched]; rfl

/-- **Starts end as their arrivals say.** A built server with connectors ends its start as the
watch over its runs does, whatever order arrivals and looks take turns in, and the start that goes
by rounds is one such start. One without connectors has started at once. In any other state the
start is refused with that state, and no run begins. -/
theorem start_ends_by_arrivals (s : Server R) :
    (s.state = .built → s.slots ≠ [] →
      (∀ turns, Supervision.EndsByArrivals s.slots.length turns ∧
        (s.startDuring turns).1 =
          ((Supervision.ofCount s.slots.length).run turns).1.map resultOf) ∧
      ∀ interrupt h, (s.runUntil interrupt h).result =
        (s.startDuring (s.turnsOf interrupt h)).1) ∧
    (s.state = .built → s.slots = [] →
      (∀ turns, (s.startDuring turns).1 = some (.ok ())) ∧
      ∀ interrupt h, (s.runUntil interrupt h).result = some (.ok ())) ∧
    (s.state ≠ .built →
      (∀ turns, s.startDuring turns = (some (.error (.invalidState s.state)), s)) ∧
      ∀ interrupt h, s.runUntil interrupt h =
        ⟨some (.error (.invalidState s.state)), s, h, [], false⟩) := by
  refine ⟨fun hbuilt hslots => ⟨fun turns => ⟨?_, ?_⟩, s.result_runUntil⟩,
    fun hbuilt hempty => ⟨fun turns => ?_, fun interrupt h => ?_⟩, fun hstate => ?_⟩
  · exact Supervision.endsByArrivals (List.length_pos_of_ne_nil hslots) turns
  · have hbegin : s.beginStart = .ok { s with state := .starting } := by
      rw [beginStart, hbuilt]
    have hsome : ¬ s.slots.isEmpty = true := fun h => hslots (List.isEmpty_iff.mp h)
    rw [startDuring, hbegin]
    simp only
    rw [if_neg hsome]
  · have hbegin : s.beginStart = .ok { s with state := .starting } := by
      rw [beginStart, hbuilt]
    rw [startDuring, hbegin]
    simp only [hempty, List.isEmpty_nil, ↓reduceIte]
  · have hbegin : s.beginStart = .ok { s with state := .starting } := by
      rw [beginStart, hbuilt]
    rw [runUntil, hbegin]
    simp only [hempty, List.isEmpty_nil, ↓reduceIte]
  · have hbegin : s.beginStart = .error s.state := by
      unfold beginStart
      split
      · next hbuilt => exact absurd hbuilt hstate
      · rfl
    refine ⟨fun turns => ?_, fun interrupt h => ?_⟩
    · rw [startDuring, hbegin]
    · rw [runUntil, hbegin]

/-- A server of two connectors. -/
def twin : Server Unit :=
  .ofConnectors (List.replicate 2 { spec := .http ":8080", target := (), contextPath := "" })

/-- An error is delivered, and the interrupt comes before the watch looks at it. -/
def racingTurns : List (Turn ConnectorError) :=
  [.look, .arrival (.delivered 1 (.ok ())), .arrival (.gone 1), .look,
    .arrival (.delivered 0 (.error (.accept "reset"))), .arrival .interrupt, .look]

theorem start_ends_by_arrivals_racing :
    (twin.state = .built ∧ twin.slots ≠ [] ∧
      Supervision.EndsByArrivals 2 racingTurns ∧
      (twin.startDuring racingTurns).1 = some (.error (.connector (.accept "reset")))) ∧
    (∀ interrupt h, ((.ofConnectors [] : Server Unit).runUntil interrupt h).result =
      some (.ok ())) ∧
    twin.stop.1.state ≠ .built ∧
      ∀ interrupt h, (twin.stop.1.runUntil interrupt h).result =
        some (.error (.invalidState .stopped)) := by
  have hslots : twin.slots ≠ [] := List.cons_ne_nil _ _
  have hstopped : twin.stop.1.state ≠ .built := by decide
  -- the watch looks at results first, so the error comes before the interrupt
  obtain ⟨hturns, -⟩ := (start_ends_by_arrivals twin).1 rfl hslots
  obtain ⟨hends, hresult⟩ := hturns racingTurns
  obtain ⟨-, hidle⟩ := (start_ends_by_arrivals (.ofConnectors [] : Server Unit)).2.1 rfl rfl
  obtain ⟨-, hrefused⟩ := (start_ends_by_arrivals twin.stop.1).2.2 hstopped
  refine ⟨⟨rfl, hslots, hends, hresult.trans rfl⟩, hidle, hstopped, fun interrupt h => ?_⟩
  rw [hrefused]
  rfl

end Server

end ServiceHost
