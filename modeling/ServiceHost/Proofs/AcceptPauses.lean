import Mathlib.Algebra.Group.Nat.Defs
import Mathlib.Data.List.Induction
import Mathlib.Order.Monotone.Basic
import ServiceHost.Net.Connector

/-!
# Pauses between accepts

A connector that serves takes one turn after the other, and each turn leaves, waits out a pause or
accepts. What the turns have done so far is their history, and it determines where the run stands:
the pause that is pending is the one that the last turn chose, and the back-off is as long as the
streak of accepts that failed for want of resources since a connection was last accepted.

* `Backoff.next_ofStreak` is the closed form of the back-off.
* `Connector.Follows` says what a turn may do after those before it, and `Connector.Standing` where
  the run stands then. `Connector.Standing.take` carries it over a turn, and
  `Connector.standing_serve` over a run.
* `Connector.PausesAccepts` says what this means for the pauses of a history, and
  `Connector.serve_pauses` says it of every run of turns.
-/

namespace ServiceHost

/-! ### The back-off in closed form -/

namespace Backoff

/-- The pause after as many failures in a row as given and one more. -/
def pauseAfter (streak : ℕ) : ℕ := min (shortest * 2 ^ streak) longest

/-- The back-off after as many failures in a row as given. -/
def ofStreak : ℕ → Backoff
  | 0 => {}
  | streak + 1 => ⟨some (pauseAfter streak)⟩

theorem next_ofStreak (streak : ℕ) :
    (ofStreak streak).next = (pauseAfter streak, ofStreak (streak + 1)) := by
  cases streak with
  | zero => rfl
  | succ k =>
    -- the bound on the last pause makes no difference to twice as much under the same bound
    have hdouble : min (2 * pauseAfter k) longest = pauseAfter (k + 1) :=
      calc min (2 * min (shortest * 2 ^ k) longest) longest
          = min (shortest * 2 ^ k * 2) longest := by omega
        _ = min (shortest * 2 ^ (k + 1)) longest := by rw [Nat.mul_assoc, ← Nat.pow_succ]
    simp only [next, ofStreak, hdouble]

theorem shortest_le_pauseAfter (streak : ℕ) : shortest ≤ pauseAfter streak :=
  Nat.le_min.mpr ⟨Nat.le_mul_of_pos_right _ (Nat.two_pow_pos streak), by decide⟩

theorem pauseAfter_le_longest (streak : ℕ) : pauseAfter streak ≤ longest := Nat.min_le_right _ _

theorem pauseAfter_mono : Monotone pauseAfter := by
  intro j k h
  -- the doubling grows, and so does the smaller of it and the bound
  have hpow : shortest * 2 ^ j ≤ shortest * 2 ^ k :=
    Nat.mul_le_mul_left _ (Nat.pow_le_pow_right Nat.two_pos h)
  unfold pauseAfter
  omega

/-- The longest duration in milliseconds: its seconds are counted in a word of 64 bits. -/
def longestDuration : ℕ := (2 ^ 64 - 1) * 1000 + 999

/-- Whether a back-off can double its last pause. -/
def HasRoom (b : Backoff) : Prop := ∀ last, b.last = some last → 2 * last ≤ longestDuration

theorem hasRoom_ofStreak (streak : ℕ) : (ofStreak streak).HasRoom := by
  intro last hlast
  -- no pause is longer than a second, whatever the streak
  cases streak with
  | zero => nomatch hlast
  | succ k =>
    obtain rfl : pauseAfter k = last := Option.some.inj hlast
    exact (Nat.mul_le_mul_left 2 (pauseAfter_le_longest k)).trans (by decide)

end Backoff

/-! ### Histories of turns -/

namespace AcceptOutcome

/-- Whether an accept gave a connection. -/
def isConnection : AcceptOutcome → Bool
  | .connection _ => true
  | _ => false

/-- Whether an accept failed for want of resources. -/
def isExhausted : AcceptOutcome → Bool
  | .exhausted _ => true
  | _ => false

/-- How many accepts have failed for want of resources since one last gave a connection, or from the
first one on if none did. -/
def streak (outcomes : List AcceptOutcome) : ℕ :=
  (outcomes.reverse.takeWhile (!·.isConnection)).countP isExhausted

theorem streak_concat (outcomes : List AcceptOutcome) (o : AcceptOutcome) :
    streak (outcomes ++ [o]) =
      if o.isConnection then 0 else streak outcomes + if o.isExhausted then 1 else 0 := by
  unfold streak
  -- read from its end, the list begins with the new outcome
  rw [List.reverse_append, List.reverse_singleton, List.singleton_append, List.takeWhile_cons]
  cases h : o.isConnection with
  | true => rfl
  | false => exact List.countP_cons

/-- The streak grows as long as no connection is accepted. -/
theorem streak_le_append {more : List AcceptOutcome} (hmore : ∀ o ∈ more, o.isConnection = false)
    (outcomes : List AcceptOutcome) : streak outcomes ≤ streak (outcomes ++ more) := by
  -- from the end, where the streak is counted
  induction more using List.reverseRecOn with
  | nil => rw [List.append_nil]
  | append_singleton more o ih =>
    rw [← List.append_assoc, streak_concat, hmore o (by simp)]
    exact (ih fun o' ho' => hmore o' (by simp [ho'])).trans (Nat.le_add_right _ _)

end AcceptOutcome

namespace Connector

variable {R : Type}

/-- A turn of serving: the connector as it is then, whatever else has been done with it, and what an
accept would give. -/
structure Turn (R : Type) where
  connector : Connector R
  accepted : Except AcceptFailure SocketAddress

/-- What a turn did: it left, waited out a pause, or accepted, with the pause that it chose. -/
inductive Served where
  | left
  | waited (pause : ℕ)
  | tried (outcome : AcceptOutcome) (pause : Option ℕ)
  deriving DecidableEq, Repr

/-- The outcome of the accept that was made, if one was. -/
def Served.outcome? : Served → Option AcceptOutcome
  | .tried o _ => some o
  | _ => none

/-- Whether serving goes on. -/
def Served.goesOn : Served → Bool
  | .left | .tried (.failed _) _ => false
  | _ => true

/-- The pause that a run has to wait out. -/
def pauseOf : Run → Option ℕ
  | .serving _ _ _ pause => pause
  | _ => none

namespace Turn

/-- What an accept would give, as a run takes it. -/
def outcome (t : Turn R) : AcceptOutcome := .ofResult t.accepted

/-- Whether the connector has been asked to stop since the check. -/
def isAsked (t : Turn R) (watcher : Watcher) : Bool := t.connector.closing.hasNews watcher

/-- Takes a turn, if the run serves: where the run stands then, and the events. -/
def take (t : Turn R) : Run → Run × List Event
  | .serving watcher address backoff pause =>
    (t.connector.serveTurn watcher address backoff pause t.outcome).2
  | run => (run, [])

/-- What a turn does, if the run serves. -/
def served (t : Turn R) (run : Run) : Option Served :=
  match run with
  | .serving watcher _ _ pause =>
    if t.isAsked watcher then some .left
    else match pause with
      | some pause => some (.waited pause)
      | none => some (.tried t.outcome (pauseOf (t.take run).1))
  | _ => none

end Turn

/-- Takes turns in order. Gives where the run stands and what was done. -/
def serve (run : Run) : List (Turn R) → Run × List Served
  | [] => (run, [])
  | t :: rest =>
    let (after, history) := serve (t.take run).1 rest
    (after, (t.served run).toList ++ history)

theorem serve_concat (run : Run) (turns : List (Turn R)) (t : Turn R) :
    serve run (turns ++ [t]) = ((t.take (serve run turns).1).1,
      (serve run turns).2 ++ (t.served (serve run turns).1).toList) := by
  induction turns generalizing run with
  | nil => simp only [List.nil_append, serve, List.append_nil]
  | cons first rest ih => simp only [List.cons_append, serve, ih, List.append_assoc]

/-! ### What a turn may do -/

/-- The outcomes of the accepts of a history. -/
def outcomes (history : List Served) : List AcceptOutcome := history.filterMap Served.outcome?

/-- The pause that the last turn of a history chose. -/
def pendingAfter (history : List Served) : Option ℕ :=
  match history.getLast? with
  | some (.tried _ pause) => pause
  | _ => none

/-- The pause that is chosen for an outcome after others. -/
def chosen (past : List AcceptOutcome) (o : AcceptOutcome) : Option ℕ :=
  if o.isExhausted then some (Backoff.pauseAfter (AcceptOutcome.streak past)) else none

/-- What a turn may do after a history: leave, wait out the pause that is pending, or, if none is,
accept and choose a pause. -/
inductive Follows (history : List Served) : Served → Prop
  | left : Follows history .left
  | waited {pause : ℕ} (h : pendingAfter history = some pause) : Follows history (.waited pause)
  | tried (h : pendingAfter history = none) (o : AcceptOutcome) :
      Follows history (.tried o (chosen (outcomes history) o))

/-- Where a run stands after a history. While every turn lets serving go on, the run serves; it is
over when a turn has left or an accept has failed for good. -/
inductive Standing (watcher : Watcher) (address : SocketAddress) (history : List Served) :
    Run → Prop
  | serving (hgoes : ∀ s ∈ history, s.goesOn = true) :
      Standing watcher address history (.serving watcher address
        (.ofStreak (AcceptOutcome.streak (outcomes history))) (pendingAfter history))
  | left {before : List Served} (h : history = before ++ [.left]) :
      Standing watcher address history (.finished (.ok ()))
  | failed {before : List Served} {cause : String}
      (h : history = before ++ [.tried (.failed cause) none]) :
      Standing watcher address history (.finished (.error (.accept cause)))

section Turns

variable {watcher : Watcher} {address : SocketAddress} {backoff : Backoff} {history : List Served}
  {run : Run}

@[simp] theorem outcomes_concat (history : List Served) (s : Served) :
    outcomes (history ++ [s]) = outcomes history ++ s.outcome?.toList := by
  rw [outcomes, List.filterMap_append]
  cases h : s.outcome? <;> simp [h, outcomes]

@[simp] theorem pendingAfter_waited (history : List Served) (pause : ℕ) :
    pendingAfter (history ++ [.waited pause]) = none := by
  rw [pendingAfter, List.getLast?_concat]

@[simp] theorem pendingAfter_tried (history : List Served) (o : AcceptOutcome)
    (pause : Option ℕ) : pendingAfter (history ++ [.tried o pause]) = pause := by
  rw [pendingAfter, List.getLast?_concat]

theorem goesOn_concat (hgoes : ∀ s ∈ history, s.goesOn = true) {last : Served}
    (hlast : last.goesOn = true) : ∀ s ∈ history ++ [last], s.goesOn = true := by
  intro s hs
  rcases List.mem_append.mp hs with hs | hs
  · exact hgoes s hs
  · rwa [List.mem_singleton.mp hs]

/-- A turn that finds news of a stop leaves. -/
theorem take_of_asked {t : Turn R} (hasked : t.isAsked watcher = true) (pause : Option ℕ) :
    t.take (.serving watcher address backoff pause) =
      (.finished (.ok ()), (t.connector.leave address).2.2) := by
  unfold Turn.take serveTurn
  exact congrArg Prod.snd (if_pos hasked)

/-- A turn that finds a pause waits it out, whatever an accept would give. -/
theorem take_of_pending {t : Turn R} (hasked : t.isAsked watcher = false) (pause : ℕ) :
    t.take (.serving watcher address backoff (some pause)) =
      (.serving watcher address backoff none, []) := by
  unfold Turn.take serveTurn
  exact congrArg Prod.snd (if_neg (Bool.eq_false_iff.mp hasked))

/-- A turn that finds neither accepts. -/
theorem take_of_free {t : Turn R} (hasked : t.isAsked watcher = false) :
    t.take (.serving watcher address backoff none) =
      (t.connector.accept watcher address backoff t.outcome).2 := by
  unfold Turn.take serveTurn
  exact congrArg Prod.snd (if_neg (Bool.eq_false_iff.mp hasked))

/-- The back-off after an accept is as long as the streak that it makes. -/
theorem standing_accept (hgoes : ∀ s ∈ history, s.goesOn = true) (c : Connector R)
    (o : AcceptOutcome) :
    Standing watcher address (history ++ [.tried o (chosen (outcomes history) o)])
      (c.accept watcher address (.ofStreak (AcceptOutcome.streak (outcomes history))) o).2.1 := by
  have hserving (hgoesOn : (Served.tried o (chosen (outcomes history) o)).goesOn = true) :
      Standing watcher address _ _ := .serving (goesOn_concat hgoes hgoesOn)
  rw [outcomes_concat, pendingAfter_tried, show (Served.tried o _).outcome?.toList = [o] from rfl,
    AcceptOutcome.streak_concat] at hserving
  -- a connection ends the streak, want of resources makes it longer by one, and the others leave it
  cases o with
  | connection peer => exact hserving rfl
  | transient cause => exact hserving rfl
  | exhausted cause =>
    rw [accept, Backoff.next_ofStreak]
    exact hserving rfl
  | failed cause => exact .failed rfl

theorem pauseOf_accept (c : Connector R) (past : List AcceptOutcome) (o : AcceptOutcome) :
    pauseOf (c.accept watcher address (.ofStreak (AcceptOutcome.streak past)) o).2.1 =
      chosen past o := by
  cases o with
  | exhausted cause =>
    rw [accept, Backoff.next_ofStreak]
    rfl
  | _ => rfl

/-- A turn of a run that serves does what may follow and brings it to where it should stand. -/
theorem Standing.take (h : Standing watcher address history run) (t : Turn R) :
    (∃ s, t.served run = some s ∧ Follows history s ∧
      Standing watcher address (history ++ [s]) (t.take run).1) ∨
    (t.served run = none ∧ (t.take run).1 = run) := by
  cases h with
  | serving hgoes =>
    left
    -- the turn looks at the signal first, then at the pause
    cases hasked : t.isAsked watcher with
    | true =>
      refine ⟨.left, by simp [Turn.served, hasked], .left, ?_⟩
      rw [take_of_asked hasked]
      exact .left rfl
    | false =>
      cases hpending : pendingAfter history with
      | some pause =>
        -- a wait is no accept, so the outcomes stay as they are
        refine ⟨.waited pause, by simp [Turn.served, hasked], .waited hpending, ?_⟩
        rw [take_of_pending hasked]
        have hserving : Standing watcher address _ _ :=
          .serving (goesOn_concat hgoes (show (Served.waited pause).goesOn = true from rfl))
        rwa [pendingAfter_waited, outcomes_concat, show (Served.waited pause).outcome? = none from
          rfl, Option.toList_none, List.append_nil] at hserving
      | none =>
        refine ⟨_, ?_, .tried hpending t.outcome, ?_⟩
        · simp [Turn.served, hasked, take_of_free hasked, pauseOf_accept]
        · rw [take_of_free hasked]
          exact standing_accept hgoes t.connector t.outcome
  | left h => exact .inr ⟨rfl, rfl⟩
  | failed h => exact .inr ⟨rfl, rfl⟩

/-- Everything in a history is what may follow on what was before. -/
def Paced (history : List Served) : Prop :=
  ∀ before s after, history = before ++ s :: after → Follows before s

theorem Paced.concat (h : Paced history) {s : Served} (hs : Follows history s) :
    Paced (history ++ [s]) := by
  intro before s' after heq
  -- what is looked at is the new entry or one of those that were there
  rcases List.eq_nil_or_concat after with rfl | ⟨after, last, rfl⟩
  · obtain ⟨rfl, hlast⟩ := List.append_inj' heq rfl
    rwa [← List.singleton_inj.mp hlast]
  · rw [List.concat_eq_append, ← List.cons_append, ← List.append_assoc] at heq
    exact h before s' after (List.append_inj' heq rfl).1

/-- Where a run stands after any turns, and that its history is paced. -/
theorem standing_serve (watcher : Watcher) (address : SocketAddress) (turns : List (Turn R)) :
    let served := serve (.serving watcher address {} none) turns
    Standing watcher address served.2 served.1 ∧ Paced served.2 := by
  -- by the last turn; a run that is over takes none
  induction turns using List.reverseRecOn with
  | nil =>
    refine ⟨.serving fun s hs => (nomatch hs), fun before s after h => ?_⟩
    exact absurd h.symm (by simp [serve])
  | append_singleton turns t ih =>
    obtain ⟨hstanding, hpaced⟩ := ih
    rw [serve_concat]
    rcases hstanding.take t with ⟨s, hserved, hfollows, hafter⟩ | ⟨hserved, hafter⟩
    · rw [hserved]
      exact ⟨hafter, hpaced.concat hfollows⟩
    · rw [hserved, hafter, Option.toList_none, List.append_nil]
      exact ⟨hstanding, hpaced⟩

/-! ### The pauses of a history -/

theorem Paced.pause_eq (h : Paced history) {before after : List Served} {o : AcceptOutcome}
    {pause : Option ℕ} (heq : history = before ++ .tried o pause :: after) :
    pause = chosen (outcomes before) o := by
  -- only one of the three ways to follow is an accept
  cases h before _ after heq
  rfl

/-- A pause is chosen for want of resources alone. -/
theorem eq_of_chosen {past : List AcceptOutcome} {o : AcceptOutcome} {pause : ℕ}
    (h : chosen past o = some pause) :
    o.isExhausted = true ∧ Backoff.pauseAfter (AcceptOutcome.streak past) = pause := by
  unfold chosen at h
  split at h
  · next ho => exact ⟨ho, Option.some.inj h⟩
  · nomatch h

theorem Paced.pause_mono (h : Paced history) {before between after : List Served}
    {o o' : AcceptOutcome} {pause pause' : ℕ}
    (heq : history =
      before ++ .tried o (some pause) :: (between ++ .tried o' (some pause') :: after))
    (hbetween : ∀ o ∈ outcomes between, o.isConnection = false) : pause ≤ pause' := by
  have heq' : history = (before ++ .tried o (some pause) :: between) ++
      .tried o' (some pause') :: after := by rw [heq, List.append_assoc, List.cons_append]
  obtain ⟨ho, hpause⟩ := eq_of_chosen (h.pause_eq heq).symm
  obtain ⟨-, hpause'⟩ := eq_of_chosen (h.pause_eq heq').symm
  -- what comes from the first of the two on extends the streak
  have houtcomes : outcomes (before ++ .tried o (some pause) :: between) =
      outcomes before ++ (o :: outcomes between) := by
    rw [outcomes, List.filterMap_append]
    rfl
  rw [← hpause, ← hpause', houtcomes]
  refine Backoff.pauseAfter_mono (AcceptOutcome.streak_le_append (fun o' ho' => ?_) _)
  rcases List.mem_cons.mp ho' with rfl | ho'
  · cases o' <;> first | rfl | nomatch ho
  · exact hbetween o' ho'

/-- Nothing but a wait or the end comes after a pause is chosen. -/
theorem Paced.eq_of_pending (h : Paced history) {before after : List Served} {o : AcceptOutcome}
    {pause : ℕ} {s : Served} (heq : history = before ++ .tried o (some pause) :: s :: after) :
    s = .waited pause ∨ s = .left := by
  have hpending : pendingAfter (before ++ [.tried o (some pause)]) = some pause :=
    pendingAfter_tried before o (some pause)
  have hfollows : Follows (before ++ [.tried o (some pause)]) s :=
    h _ s after (by rw [heq, List.append_assoc, List.singleton_append])
  cases hfollows with
  | left => exact .inr rfl
  | waited hwaited =>
    exact .inl (congrArg Served.waited (Option.some.inj (hwaited.symm.trans hpending)))
  | tried hnone => exact absurd (hnone.symm.trans hpending) (by simp)

/-- An accept that fails for want of resources lets serving go on. -/
theorem Standing.serving_of_exhausted (h : Standing watcher address history run)
    {before : List Served} {cause : String} {pause : Option ℕ}
    (heq : history = before ++ [.tried (.exhausted cause) pause]) :
    ∃ backoff, run = .serving watcher address backoff pause := by
  cases h with
  | serving => exact ⟨_, by rw [heq, pendingAfter_tried]⟩
  | left h => nomatch List.singleton_inj.mp (List.append_inj' (heq.symm.trans h) rfl).2
  | failed h => nomatch List.singleton_inj.mp (List.append_inj' (heq.symm.trans h) rfl).2

end Turns

/-- What pauses there are between the accepts of a run that has taken the turns of a history. -/
structure PausesAccepts (R : Type) (watcher : Watcher) (address : SocketAddress) (run : Run)
    (history : List Served) : Prop where
  /-- A pause is chosen when an accept fails for want of resources: 5 ms doubled as many times as
  this has happened since a connection was last accepted, and a second at most. -/
  pause_eq : ∀ before o pause after, history = before ++ .tried o pause :: after →
    pause = if o.isExhausted then some (min (5 * 2 ^ AcceptOutcome.streak (outcomes before)) 1000)
      else none
  pause_bounds : ∀ o pause, .tried o (some pause) ∈ history → 5 ≤ pause ∧ pause ≤ 1000
  /-- Pauses do not shrink until a connection is accepted. -/
  pause_mono : ∀ before o pause between o' pause' after,
    history = before ++ .tried o (some pause) :: (between ++ .tried o' (some pause') :: after) →
    (∀ o ∈ outcomes between, o.isConnection = false) → pause ≤ pause'
  /-- However long the failures go on, twice the last pause is a duration. -/
  hasRoom : ∀ backoff pause, run = .serving watcher address backoff pause → backoff.HasRoom
  /-- After a pause is chosen it is waited out, unless the connector has been asked to stop. -/
  waits : ∀ before o pause s after, history = before ++ .tried o (some pause) :: s :: after →
    s = .waited pause ∨ s = .left
  /-- What an accept would give is no matter to a turn while a pause is pending. -/
  pending : ∀ backoff pause, run = .serving watcher address backoff (some pause) →
    ∀ (c : Connector R) o, c.serveTurn watcher address backoff (some pause) o =
      if c.closing.hasNews watcher then c.leave address
      else (c, .serving watcher address backoff none, [])
  /-- A turn accepts as soon as no pause is pending, whatever the outcome. -/
  tries : ∀ backoff, run = .serving watcher address backoff none → ∀ t : Turn R,
    t.isAsked watcher = false →
      t.served run = some (.tried t.outcome (chosen (outcomes history) t.outcome))
  /-- The record of a failure for want of resources tells the pause. -/
  logs : ∀ backoff, run = .serving watcher address backoff none → ∀ (c : Connector R) cause,
    (c.accept watcher address backoff (.exhausted cause)).2.2 =
      [log .warn "Accept failed, retrying"
        [("address", .text address.render), ("error", .text cause),
          ("retry_in_ms", .number (min (5 * 2 ^ AcceptOutcome.streak (outcomes history)) 1000))]]
  /-- A failure for want of resources lets serving go on. -/
  goesOn : ∀ before cause pause, history = before ++ [.tried (.exhausted cause) pause] →
    ∃ backoff, run = .serving watcher address backoff pause
  /-- A run is over when it has left, and in failure when an accept has failed for good. -/
  ends : ∀ result, run = .finished result →
    (∃ before, history = before ++ [.left] ∧ result = .ok ()) ∨
    ∃ before cause, history = before ++ [.tried (.failed cause) none] ∧
      result = .error (.accept cause)

/-- From the bind on, whatever turns a connector takes, whatever accepts give and whatever else is
done with the connector in between, its pauses are those of the closed form, it accepts when no
pause is pending and only then, and want of resources does not end it. -/
theorem serve_pauses (c : Connector R) (watcher : Watcher) (address : SocketAddress)
    (turns : List (Turn R)) :
    let served := serve (c.listen watcher (.ok address)).2.1 turns
    PausesAccepts R watcher address served.1 served.2 := by
  intro served
  -- the bind leaves a run that serves, with a new back-off and no pause
  obtain ⟨hstanding, hpaced⟩ : Standing watcher address served.2 served.1 ∧ Paced served.2 :=
    standing_serve watcher address turns
  generalize served.1 = run at hstanding ⊢
  generalize served.2 = history at hstanding hpaced ⊢
  -- the history determines the back-off of a run that serves
  have hserving {backoff : Backoff} {pause : Option ℕ}
      (hrun : run = .serving watcher address backoff pause) :
      backoff = .ofStreak (AcceptOutcome.streak (outcomes history)) := by
    cases hstanding <;> cases hrun
    rfl
  refine {
    pause_eq := fun before o pause after heq => hpaced.pause_eq heq
    pause_bounds := fun o pause hmem => ?_
    pause_mono := fun before o pause between o' pause' after => hpaced.pause_mono
    hasRoom := fun backoff pause hrun => ?_
    waits := fun before o pause s after => hpaced.eq_of_pending
    pending := fun backoff pause hrun c o => rfl
    tries := fun backoff hrun t hasked => ?_
    logs := fun backoff hrun c cause => ?_
    goesOn := fun before cause pause => hstanding.serving_of_exhausted
    ends := fun result hrun => ?_ }
  · obtain ⟨before, after, heq⟩ := List.append_of_mem hmem
    obtain ⟨-, rfl⟩ := eq_of_chosen (hpaced.pause_eq heq).symm
    exact ⟨Backoff.shortest_le_pauseAfter _, Backoff.pauseAfter_le_longest _⟩
  · rw [hserving hrun]
    exact Backoff.hasRoom_ofStreak _
  · obtain rfl := hserving hrun
    rw [hrun]
    simp [Turn.served, hasked, take_of_free hasked, pauseOf_accept]
  · rw [hserving hrun, accept, Backoff.next_ofStreak]
    rfl
  · cases hstanding with
    | serving => nomatch hrun
    | left h => exact .inl ⟨_, h, (Run.finished.inj hrun).symm⟩
    | failed h => exact .inr ⟨_, _, h, (Run.finished.inj hrun).symm⟩

-- two failures, a connection, and one more failure
example :
    let c : Connector Unit := { spec := .http "127.0.0.1:8080", target := (), contextPath := "" }
    let address : SocketAddress := ⟨.v4 [127, 0, 0, 1], 8080⟩
    let full : Turn Unit := ⟨c, .error { kind := .other, code := some 24, text := "full" }⟩
    let comes : Turn Unit := ⟨c, .ok address⟩
    (serve (.serving c.closing.watcher address {} none)
      [full, full, full, comes, comes, full, comes]).2 =
      [.tried (.exhausted "full") (some 5), .waited 5, .tried (.exhausted "full") (some 10),
        .waited 10, .tried (.connection address) none, .tried (.exhausted "full") (some 5),
        .waited 5] := by
  decide

end Connector

end ServiceHost
