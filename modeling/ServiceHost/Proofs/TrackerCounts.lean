import Mathlib.Algebra.Group.Nat.Defs
import Mathlib.Data.List.Range
import ServiceHost.Net.Tracker

/-!
# What trackers count

The counters of a tracker are words that every clone of it shares. What they hold can be read off the
guards that the tracker gave out: one is the number of its opens, and the other the number of its
guards that are held, both as far as a word goes. This is kept by every operation, also by those that
come between the two steps of an open.

* `TrackerBoard.Counts` is the invariant. `TrackerBoard.Counts.step` carries it over an operation,
  and `TrackerBoard.counts_run` over a run.
* `TrackerBoard.Accounts` says what follows as long as no tracker has opened as many connections as
  there are words, and `TrackerBoard.run_counts_guards` says it of every run.
-/

namespace ServiceHost

namespace TrackerBoard

/-! ### The guards of a tracker -/

/-- The connection of a guard, if it is one of a tracker. -/
def connectionOf (i : ℕ) (g : Guard) : Option Connection :=
  if g.tracker = i then some g.connection else none

/-- Whether a guard is held that a tracker gave out. -/
def isHeldOf (i : ℕ) (g : Guard) : Bool := g.tracker = i ∧ g.stage = .held

/-- The connections that a tracker opened, in the order of their opens. -/
def opens (b : TrackerBoard) (i : ℕ) : List Connection := b.guards.filterMap (connectionOf i)

/-- The number of guards of a tracker that are held. -/
def held (b : TrackerBoard) (i : ℕ) : ℕ := b.guards.countP (isHeldOf i)

/-- A guard that changes its stage belongs to the same connection. -/
theorem filterMap_set_stage {guards : List Guard} {k : ℕ} {g : Guard} (hg : guards[k]? = some g)
    (i : ℕ) (stage : GuardStage) :
    (guards.set k { g with stage }).filterMap (connectionOf i) =
      guards.filterMap (connectionOf i) := by
  obtain ⟨hk, rfl⟩ := List.getElem?_eq_some_iff.mp hg
  -- the connection of a guard does not depend on its stage, so the list of options is the same
  have hmap : (guards.set k { guards[k] with stage }).map (connectionOf i) =
      guards.map (connectionOf i) := by
    rw [List.map_set]
    have hk' : k < (guards.map (connectionOf i)).length := by rwa [List.length_map]
    have hself : connectionOf i { guards[k] with stage } = (guards.map (connectionOf i))[k] := by
      rw [List.getElem_map]
      rfl
    rw [hself, List.set_getElem_self]
  -- what is left of the list of options after a filter depends on that list alone
  have hid := congrArg (List.filterMap id) hmap
  rwa [List.filterMap_map, List.filterMap_map] at hid

/-- What the change of a stage does to the number of guards that are held. -/
theorem countP_set_stage {guards : List Guard} {k : ℕ} {g : Guard} (hg : guards[k]? = some g)
    (i : ℕ) (stage : GuardStage) :
    (guards.set k { g with stage }).countP (isHeldOf i) + (if isHeldOf i g then 1 else 0) =
      guards.countP (isHeldOf i) + if isHeldOf i { g with stage } then 1 else 0 := by
  obtain ⟨hk, rfl⟩ := List.getElem?_eq_some_iff.mp hg
  -- the guard itself is among those that are counted, so nothing is cut off below zero
  have hpos : (if isHeldOf i guards[k] then 1 else 0) ≤ guards.countP (isHeldOf i) := by
    split
    · next h => exact List.countP_pos_iff.mpr ⟨_, List.getElem_mem hk, h⟩
    · exact Nat.zero_le _
  rw [List.countP_set hk]
  omega

/-! ### The counters -/

/-- The counters of a tracker are the numbers of its opens and of its guards that are held, as far as
words go, and its connections are numbered one after the other. -/
structure CountsAt (b : TrackerBoard) (i : ℕ) : Prop where
  opened_eq : ∀ t, b.trackers[i]? = some t → t.opened = .ofNat (b.opens i).length
  live_eq : ∀ t, b.trackers[i]? = some t → t.live = .ofNat (b.held i)
  numbers_eq : (b.opens i).map (·.number) =
    (List.range' 1 (b.opens i).length).map fun k => (UInt64.ofNat k).toNat

/-- The counters of every tracker are right, and handles and guards belong to trackers that there
are. -/
structure Counts (b : TrackerBoard) : Prop where
  handles_lt : ∀ i ∈ b.handles, i < b.trackers.length
  guards_lt : ∀ g ∈ b.guards, g.tracker < b.trackers.length
  counts : ∀ i, b.CountsAt i

/-- What rests as it is with a tracker while something is done on a board. -/
structure Rests (b after : TrackerBoard) (i : ℕ) : Prop where
  tracker_eq : after.trackers[i]? = b.trackers[i]?
  opens_eq : after.opens i = b.opens i
  held_eq : after.held i = b.held i

theorem CountsAt.of_rests {b after : TrackerBoard} {i : ℕ} (h : b.CountsAt i)
    (hrests : Rests b after i) : after.CountsAt i where
  opened_eq := by rw [hrests.tracker_eq, hrests.opens_eq]; exact h.opened_eq
  live_eq := by rw [hrests.tracker_eq, hrests.held_eq]; exact h.live_eq
  numbers_eq := by rw [hrests.opens_eq]; exact h.numbers_eq

theorem countsAt_of_unused {b : TrackerBoard} {i : ℕ} (hguards : ∀ g ∈ b.guards, g.tracker ≠ i)
    (htracker : ∀ t, b.trackers[i]? = some t → t = {}) : b.CountsAt i := by
  -- nothing was opened on the tracker, and its words are zero
  have hopens : b.opens i = [] :=
    List.filterMap_eq_nil_iff.mpr fun g hg => if_neg (hguards g hg)
  have hheld : b.held i = 0 :=
    List.countP_eq_zero.mpr fun g hg h => hguards g hg (of_decide_eq_true h).1
  refine ⟨fun t ht => ?_, fun t ht => ?_, by rw [hopens]; rfl⟩
  · rw [htracker t ht, hopens]
    rfl
  · rw [htracker t ht, hheld]
    rfl

theorem counts_empty : Counts {} where
  handles_lt i hi := by
    rw [List.mem_singleton.mp hi]
    exact Nat.one_pos
  guards_lt g hg := nomatch hg
  counts i := countsAt_of_unused (fun g hg => nomatch hg) fun t ht =>
    List.mem_singleton.mp (List.mem_of_getElem? ht)

/-! ### Operations -/

section Operations

variable {b : TrackerBoard} {i : ℕ}

/-- A new tracker is no matter to those that there are. -/
theorem rests_new (hi : i < b.trackers.length) : Rests b b.new i :=
  ⟨List.getElem?_append_left hi, rfl, rfl⟩

theorem Counts.new (h : b.Counts) : b.new.Counts where
  handles_lt := by
    intro i hi
    rw [TrackerBoard.new, List.length_append]
    rcases List.mem_append.mp hi with hi | hi
    · exact Nat.lt_succ_of_lt (h.handles_lt i hi)
    · rw [List.mem_singleton.mp hi]
      exact Nat.lt_succ_self _
  guards_lt g hg := by
    rw [TrackerBoard.new, List.length_append]
    exact Nat.lt_succ_of_lt (h.guards_lt g hg)
  counts i := by
    -- the tracker was there before, or it is the new one, to which no guard belongs
    rcases Nat.lt_or_ge i b.trackers.length with hi | hi
    · exact (h.counts i).of_rests (rests_new hi)
    · refine countsAt_of_unused (fun g hg hgi => ?_) fun t ht => ?_
      · exact absurd (h.guards_lt g hg) (Nat.not_lt.mpr (hgi ▸ hi))
      · rw [TrackerBoard.new, List.getElem?_append_right hi] at ht
        exact List.mem_singleton.mp (List.mem_of_getElem? ht)

theorem Counts.clone (h : b.Counts) (handle : ℕ) : (b.clone handle).Counts := by
  unfold TrackerBoard.clone
  split
  · next index hindex =>
    refine ⟨fun i hi => ?_, h.guards_lt, fun i => (h.counts i).of_rests ⟨rfl, rfl, rfl⟩⟩
    rcases List.mem_append.mp hi with hi | hi
    · exact h.handles_lt i hi
    · rw [List.mem_singleton.mp hi]
      exact h.handles_lt index (List.mem_of_getElem? hindex)
  · exact h

/-! ### Opens -/

/-- What a handle names is the tracker of its index. -/
theorem trackerOf_eq (h : b.Counts) {handle : ℕ} (hi : b.handles[handle]? = some i) :
    ∃ t, b.trackers[i]? = some t ∧ b.trackerOf handle = some (i, t) := by
  have hlt := h.handles_lt i (List.mem_of_getElem? hi)
  refine ⟨b.trackers[i], List.getElem?_eq_getElem hlt, ?_⟩
  simp only [trackerOf, hi, List.getElem?_eq_getElem hlt, Option.bind_eq_bind, Option.bind_some]
  rfl

/-- The board after an open has begun on a tracker. -/
def begun (b : TrackerBoard) (i : ℕ) (t : Tracker) (peer : SocketAddress) : TrackerBoard :=
  { b with
    trackers := b.trackers.set i { t with opened := t.opened + 1 }
    guards := b.guards ++ [{ tracker := i, connection := ⟨(t.opened + 1).toNat, peer⟩ }] }

theorem beginOpen_eq {handle : ℕ} {t : Tracker} (h : b.trackerOf handle = some (i, t))
    (peer : SocketAddress) :
    b.beginOpen handle peer = (some ⟨(t.opened + 1).toNat, peer⟩, b.begun i t peer) := by
  unfold beginOpen
  rw [h]
  rfl

/-- A handle that names nothing opens nothing. -/
theorem beginOpen_of_none {handle : ℕ} (h : b.handles[handle]? = none) (peer : SocketAddress) :
    b.beginOpen handle peer = (none, b) := by
  simp only [TrackerBoard.beginOpen, trackerOf, h, Option.bind_eq_bind, Option.bind_none]

theorem held_begun (t : Tracker) (peer : SocketAddress) (j : ℕ) :
    (b.begun i t peer).held j = b.held j := by
  unfold held begun
  -- the new guard has its number and is not held yet
  rw [List.countP_append]
  simp [isHeldOf]

theorem opens_begun (t : Tracker) (peer : SocketAddress) :
    (b.begun i t peer).opens i = b.opens i ++ [⟨(t.opened + 1).toNat, peer⟩] := by
  unfold opens begun
  rw [List.filterMap_append]
  simp [connectionOf]

/-- An open is no matter to the other trackers. -/
theorem rests_begun (t : Tracker) (peer : SocketAddress) {j : ℕ} (hj : i ≠ j) :
    Rests b (b.begun i t peer) j where
  tracker_eq := List.getElem?_set_ne hj
  opens_eq := by
    unfold opens begun
    rw [List.filterMap_append]
    simp [connectionOf, hj]
  held_eq := held_begun t peer j

theorem Counts.begun (h : b.Counts) {t : Tracker} (ht : b.trackers[i]? = some t)
    (peer : SocketAddress) : (b.begun i t peer).Counts where
  handles_lt j hj := by
    rw [TrackerBoard.begun, List.length_set]
    exact h.handles_lt j hj
  guards_lt g hg := by
    rw [TrackerBoard.begun, List.length_set]
    rcases List.mem_append.mp hg with hg | hg
    · exact h.guards_lt g hg
    · rw [List.mem_singleton.mp hg]
      exact (List.getElem?_eq_some_iff.mp ht).1
  counts j := by
    by_cases hj : i = j
    · subst hj
      -- the word counts one more, and this is the number of the new connection
      have hnext : t.opened + 1 = .ofNat ((b.opens i).length + 1) := by
        rw [(h.counts i).opened_eq t ht, UInt64.ofNat_add]
        rfl
      have hlength : ((b.begun i t peer).opens i).length = (b.opens i).length + 1 := by
        rw [opens_begun, List.length_append]
        rfl
      have htracker : (b.begun i t peer).trackers[i]? = some { t with opened := t.opened + 1 } :=
        List.getElem?_set_self (List.getElem?_eq_some_iff.mp ht).1
      refine ⟨fun t' ht' => ?_, fun t' ht' => ?_, ?_⟩
      · rw [htracker] at ht'
        rw [← Option.some.inj ht', hlength, hnext]
      · rw [htracker] at ht'
        rw [← Option.some.inj ht', held_begun]
        exact (h.counts i).live_eq t ht
      · rw [hlength, List.range'_1_concat, List.map_append, opens_begun, List.map_append,
          (h.counts i).numbers_eq, hnext, Nat.add_comm 1]
        rfl
    · exact (h.counts j).of_rests (rests_begun t peer hj)

theorem Counts.beginOpen (h : b.Counts) (handle : ℕ) (peer : SocketAddress) :
    (b.beginOpen handle peer).2.Counts := by
  cases hi : b.handles[handle]? with
  | none => rwa [beginOpen_of_none hi]
  | some i =>
    obtain ⟨t, ht, hnames⟩ := trackerOf_eq h hi
    rw [beginOpen_eq hnames]
    exact h.begun ht peer

/-! ### The stages of a guard -/

/-- The board after a guard has moved to another stage. -/
def moved (b : TrackerBoard) (k : ℕ) (g : Guard) (stage : GuardStage)
    (change : Tracker → Tracker) : TrackerBoard :=
  { b with
    trackers := b.trackers.modify g.tracker change
    guards := b.guards.set k { g with stage } }

variable {k : ℕ} {g : Guard} {stage before : GuardStage} {change : Tracker → Tracker}

theorem move_eq (hg : b.guards[k]? = some g) (hstage : g.stage = before) :
    b.move k before stage change = (true, b.moved k g stage change) := by
  unfold move
  simp only [hg, hstage, if_true]
  rfl

/-- A guard that is not in the stage that it should leave stays where it is. -/
theorem move_cases (b : TrackerBoard) (k : ℕ) (before stage : GuardStage)
    (change : Tracker → Tracker) :
    (∃ g, b.guards[k]? = some g ∧ g.stage = before ∧
      b.move k before stage change = (true, b.moved k g stage change)) ∨
      b.move k before stage change = (false, b) := by
  cases hg : b.guards[k]? with
  | none => exact .inr (by simp only [move, hg])
  | some g =>
    by_cases hstage : g.stage = before
    · exact .inl ⟨g, rfl, hstage, move_eq hg hstage⟩
    · exact .inr (by simp only [move, hg, hstage, if_false])

/-- The move of a guard is no matter to the other trackers. -/
theorem rests_moved (hg : b.guards[k]? = some g) {j : ℕ} (hj : g.tracker ≠ j) :
    Rests b (b.moved k g stage change) j where
  tracker_eq := List.getElem?_modify_ne change _ hj
  opens_eq := filterMap_set_stage hg j stage
  held_eq := by
    -- before and after the move the guard is none of the other tracker, so the numbers agree
    have hcount := countP_set_stage hg j stage
    have hbefore : isHeldOf j g = false := decide_eq_false fun hof => hj hof.1
    have hafter : isHeldOf j { g with stage } = false := decide_eq_false fun hof => hj hof.1
    rwa [hbefore, hafter] at hcount

/-- A move keeps the counters right if its change of the tracker follows the number of guards that
are held. -/
theorem Counts.moved (h : b.Counts) (hg : b.guards[k]? = some g)
    (hopened : ∀ t, (change t).opened = t.opened)
    (hlive : ∀ t : Tracker, t.live = .ofNat (b.held g.tracker) →
      (change t).live = .ofNat ((b.moved k g stage change).held g.tracker)) :
    (b.moved k g stage change).Counts where
  handles_lt j hj := by
    rw [TrackerBoard.moved, List.length_modify]
    exact h.handles_lt j hj
  guards_lt other hother := by
    rw [TrackerBoard.moved, List.length_modify]
    rcases List.mem_or_eq_of_mem_set hother with hother | rfl
    · exact h.guards_lt other hother
    · exact h.guards_lt g (List.mem_of_getElem? hg)
  counts j := by
    by_cases hj : g.tracker = j
    · subst hj
      have hopens : (b.moved k g stage change).opens g.tracker = b.opens g.tracker :=
        filterMap_set_stage hg _ stage
      -- what the list holds for the tracker is the change of what it held
      have hchanged {t' : Tracker}
          (ht' : (b.moved k g stage change).trackers[g.tracker]? = some t') :
          ∃ t, b.trackers[g.tracker]? = some t ∧ change t = t' := by
        rw [TrackerBoard.moved, List.getElem?_modify_eq] at ht'
        exact Option.map_eq_some_iff.mp ht'
      refine ⟨fun t' ht' => ?_, fun t' ht' => ?_, ?_⟩
      · obtain ⟨t, ht, rfl⟩ := hchanged ht'
        rw [hopened, hopens]
        exact (h.counts _).opened_eq t ht
      · obtain ⟨t, ht, rfl⟩ := hchanged ht'
        exact hlive t ((h.counts _).live_eq t ht)
      · rw [hopens]
        exact (h.counts _).numbers_eq
    · exact (h.counts j).of_rests (rests_moved hg hj)

/-- The end of an open makes one more guard held. -/
theorem held_endOpen (hg : b.guards[k]? = some g) (hstage : g.stage = .numbered) :
    (b.endOpen k).held g.tracker = b.held g.tracker + 1 := by
  -- the guard is counted after the move and was not before
  have hcount := countP_set_stage hg g.tracker .held
  have hbefore : isHeldOf g.tracker g = false :=
    decide_eq_false fun hof => by simp [hstage] at hof
  have hafter : isHeldOf g.tracker { g with stage := .held } = true := decide_eq_true ⟨rfl, rfl⟩
  rw [hbefore, hafter] at hcount
  rw [TrackerBoard.endOpen, move_eq hg hstage]
  exact hcount

/-- A drop leaves one guard less that is held. -/
theorem held_drop (hg : b.guards[k]? = some g) (hstage : g.stage = .held) :
    (b.drop k).2.held g.tracker + 1 = b.held g.tracker := by
  have hcount := countP_set_stage hg g.tracker .dropped
  have hbefore : isHeldOf g.tracker g = true := decide_eq_true ⟨rfl, hstage⟩
  have hafter : isHeldOf g.tracker { g with stage := .dropped } = false :=
    decide_eq_false fun hof => by simp at hof
  rw [hbefore, hafter] at hcount
  rw [TrackerBoard.drop, move_eq hg hstage]
  exact hcount

theorem Counts.endOpen (h : b.Counts) (k : ℕ) : (b.endOpen k).Counts := by
  rcases move_cases b k .numbered .held Tracker.count with ⟨g, hg, hstage, hmove⟩ | hmove
  · have hheld := held_endOpen hg hstage
    rw [TrackerBoard.endOpen, hmove] at hheld ⊢
    refine h.moved hg (fun _ => rfl) fun t ht => ?_
    -- the word goes up as the number does
    rw [hheld, UInt64.ofNat_add, Tracker.count, ht]
    rfl
  · rwa [TrackerBoard.endOpen, hmove]

theorem Counts.drop (h : b.Counts) (k : ℕ) : (b.drop k).2.Counts := by
  rcases move_cases b k .held .dropped Tracker.close with ⟨g, hg, hstage, hmove⟩ | hmove
  · have hheld := held_drop hg hstage
    rw [TrackerBoard.drop, hmove] at hheld ⊢
    refine h.moved hg (fun _ => rfl) fun t ht => ?_
    rw [← hheld, UInt64.ofNat_add] at ht
    rw [Tracker.close, ht]
    -- words take away what they added, also beyond the largest one
    exact UInt64.add_sub_cancel _ 1
  · rwa [TrackerBoard.drop, hmove]

/-- Every operation keeps the counters right. -/
theorem Counts.step (h : b.Counts) (op : Op) : (b.step op).Counts := by
  cases op with
  | new => exact h.new
  | clone handle => exact h.clone handle
  | beginOpen handle peer => exact h.beginOpen handle peer
  | endOpen k => exact h.endOpen k
  | drop k => exact h.drop k

end Operations

/-- The counters are right after every run. -/
theorem counts_run {b : TrackerBoard} (h : b.Counts) (ops : List Op) : (b.run ops).Counts := by
  induction ops generalizing b with
  | nil => exact h
  | cons op ops ih => exact ih (h.step op)

/-! ### Operations on other trackers -/

/-- The tracker that an operation works on, if it works on one. -/
def Op.tracker? (b : TrackerBoard) : Op → Option ℕ
  | .new | .clone _ => none
  | .beginOpen handle _ => b.handles[handle]?
  | .endOpen guard | .drop guard => b.guards[guard]?.map (·.tracker)

section Apart

variable {b : TrackerBoard} {i : ℕ} {op : Op}

theorem rests_move {k : ℕ} {before stage : GuardStage} {change : Tracker → Tracker}
    (hk : b.guards[k]?.map (·.tracker) ≠ some i) : Rests b (b.move k before stage change).2 i := by
  rcases move_cases b k before stage change with ⟨g, hg, -, hmove⟩ | hmove
  · rw [hmove]
    refine rests_moved hg fun hgi => hk ?_
    rw [hg, Option.map_some, hgi]
  · rw [hmove]
    exact ⟨rfl, rfl, rfl⟩

/-- An operation leaves every tracker as it is that it does not work on. -/
theorem rests_step (h : b.Counts) (hi : i < b.trackers.length) (hop : op.tracker? b ≠ some i) :
    Rests b (b.step op) i := by
  cases op with
  | new => exact rests_new hi
  | clone handle =>
    rw [step, TrackerBoard.clone]
    split <;> exact ⟨rfl, rfl, rfl⟩
  | beginOpen handle peer =>
    cases hj : b.handles[handle]? with
    | none =>
      rw [step, beginOpen_of_none hj]
      exact ⟨rfl, rfl, rfl⟩
    | some j =>
      obtain ⟨t, -, hnames⟩ := trackerOf_eq h hj
      rw [step, beginOpen_eq hnames]
      exact rests_begun t peer fun hji => hop (hji ▸ hj)
  | endOpen k => exact rests_move hop
  | drop k => exact rests_move hop

/-- A handle names the same tracker for good. -/
theorem handles_step {handle : ℕ} (hi : b.handles[handle]? = some i) :
    (b.step op).handles[handle]? = some i := by
  -- handles are only ever added behind the others, and moves leave them alone
  have happend (extra : List ℕ) : (b.handles ++ extra)[handle]? = some i := by
    rwa [List.getElem?_append_left (List.getElem?_eq_some_iff.mp hi).1]
  have hmove (k : ℕ) (before stage : GuardStage) (change : Tracker → Tracker) :
      (b.move k before stage change).2.handles[handle]? = some i := by
    rcases move_cases b k before stage change with ⟨g, -, -, hmove⟩ | hmove <;> rwa [hmove]
  cases op with
  | new => exact happend _
  | clone other =>
    rw [step, TrackerBoard.clone]
    split
    · exact happend _
    · exact hi
  | beginOpen other peer =>
    rw [step, TrackerBoard.beginOpen]
    split <;> exact hi
  | endOpen k => exact hmove k _ _ _
  | drop k => exact hmove k _ _ _

theorem trackerOf_step (h : b.Counts) {handle : ℕ} (hi : b.handles[handle]? = some i)
    (hop : op.tracker? b ≠ some i) : (b.step op).trackerOf handle = b.trackerOf handle := by
  have hlt := h.handles_lt i (List.mem_of_getElem? hi)
  simp only [trackerOf, hi, handles_step hi, (rests_step h hlt hop).tracker_eq,
    Option.bind_eq_bind, Option.bind_some]

end Apart

/-! ### Fewer opens than words -/

/-- What holds of a board none of whose trackers has opened as many connections as there are words. -/
structure Accounts (b : TrackerBoard) : Prop where
  /-- A clone names the tracker of the handle that it is made of. -/
  clone_names : ∀ handle i, b.handles[handle]? = some i →
    (b.clone handle).handles[b.handles.length]? = some i
  /-- The handle of a new tracker names one that no other handle names. -/
  new_names : b.new.handles[b.handles.length]? = some b.trackers.length ∧
    b.trackers.length ∉ b.handles
  /-- The connections of a tracker have the numbers from one on, in the order of their opens. -/
  numbers_eq : ∀ i, (b.opens i).map (·.number) = List.range' 1 (b.opens i).length
  /-- No number is given out twice, be its connection open or closed. -/
  numbers_nodup : ∀ i, ((b.opens i).map (·.number)).Nodup
  /-- The next open gets the next number, whichever handle it goes through. -/
  beginOpen_next : ∀ handle i peer, b.handles[handle]? = some i →
    (b.opens i).length + 1 < 2 ^ 64 →
      (b.beginOpen handle peer).1 = some ⟨(b.opens i).length + 1, peer⟩ ∧
      (b.beginOpen handle peer).2.opens i = b.opens i ++ [⟨(b.opens i).length + 1, peer⟩]
  /-- An open with nothing in between is its two steps, and does to its tracker what an open of that
  tracker does. -/
  open_next : ∀ handle i peer, b.handles[handle]? = some i → (b.opens i).length + 1 < 2 ^ 64 →
    b.open handle peer = (some ⟨(b.opens i).length + 1, peer⟩,
      b.run [.beginOpen handle peer, .endOpen b.guards.length]) ∧
    ∃ t, b.trackers[i]? = some t ∧ (t.open peer).1 = ⟨(b.opens i).length + 1, peer⟩ ∧
      (b.open handle peer).2.trackers[i]? = some (t.open peer).2
  /-- Every handle counts the guards of its tracker that are held. -/
  openCount_eq : ∀ handle i, b.handles[handle]? = some i → b.openCount handle = b.held i
  openCount_eq_zero_iff : ∀ handle i, b.handles[handle]? = some i →
    (b.openCount handle = 0 ↔ ∀ g ∈ b.guards, g.tracker = i → g.stage ≠ .held)
  /-- The end of an open makes one more guard held. -/
  held_endOpen : ∀ (k : ℕ) g, b.guards[k]? = some g → g.stage = .numbered →
    (b.endOpen k).held g.tracker = b.held g.tracker + 1
  /-- The drop of a guard takes one off a count that is not zero. -/
  drop_counts : ∀ (k : ℕ) g, b.guards[k]? = some g → g.stage = .held →
    (b.drop k).1 = true ∧ (b.drop k).2.held g.tracker + 1 = b.held g.tracker ∧
    ∃ t, b.trackers[g.tracker]? = some t ∧
      (b.drop k).2.trackers[g.tracker]? = some t.close ∧ t.close.openCount + 1 = t.openCount
  /-- What is done on another tracker, or on none, changes neither the connections nor the count nor
  the next number of a tracker. -/
  step_apart : ∀ op handle i, b.handles[handle]? = some i → op.tracker? b ≠ some i →
    (b.step op).opens i = b.opens i ∧ (b.step op).openCount handle = b.openCount handle ∧
    ∀ peer, ((b.step op).beginOpen handle peer).1 = (b.beginOpen handle peer).1

section Accounts

variable {b : TrackerBoard} {i : ℕ}

theorem held_le_opens (b : TrackerBoard) (i : ℕ) : b.held i ≤ (b.opens i).length := by
  rw [opens, List.length_filterMap_eq_countP]
  -- a guard that is held is one of the tracker, and belongs to an open
  refine List.countP_mono_left fun g _ hg => ?_
  rw [connectionOf, if_pos (of_decide_eq_true hg).1]
  rfl

theorem held_eq_zero_iff : b.held i = 0 ↔ ∀ g ∈ b.guards, g.tracker = i → g.stage ≠ .held := by
  rw [held, List.countP_eq_zero]
  refine forall₂_congr fun g _ => ?_
  rw [isHeldOf, decide_eq_true_iff, not_and]

theorem numbers_of_few (h : b.Counts) (few : (b.opens i).length < 2 ^ 64) :
    (b.opens i).map (·.number) = List.range' 1 (b.opens i).length := by
  rw [(h.counts i).numbers_eq]
  refine (List.map_congr_left fun k hk => ?_).trans (List.map_id _)
  -- a number that is no larger than a word is the number that the word holds
  obtain ⟨m, hm, rfl⟩ := List.mem_range'.mp hk
  exact UInt64.toNat_ofNat_of_lt' (by rw [UInt64.size]; omega)

theorem openCount_of_few (h : b.Counts) (few : (b.opens i).length < 2 ^ 64) {t : Tracker}
    (ht : b.trackers[i]? = some t) : t.openCount = b.held i := by
  rw [Tracker.openCount, (h.counts i).live_eq t ht]
  exact UInt64.toNat_ofNat_of_lt' (Nat.lt_of_le_of_lt (held_le_opens b i) few)

theorem number_of_few (h : b.Counts) (few : (b.opens i).length + 1 < 2 ^ 64) {t : Tracker}
    (ht : b.trackers[i]? = some t) : (t.opened + 1).toNat = (b.opens i).length + 1 := by
  rw [(h.counts i).opened_eq t ht, ← UInt64.toNat_ofNat_of_lt' few, UInt64.ofNat_add]
  rfl

/-- What an open does that nothing comes between. -/
theorem open_eq {handle : ℕ} {t : Tracker} (ht : b.trackers[i]? = some t)
    (hnames : b.trackerOf handle = some (i, t)) (peer : SocketAddress) :
    b.open handle peer = (some (t.open peer).1,
      b.run [.beginOpen handle peer, .endOpen b.guards.length]) ∧
    (b.open handle peer).2.trackers[i]? = some (t.open peer).2 := by
  have hopen : b.open handle peer =
      (some (t.open peer).1, (b.begun i t peer).endOpen b.guards.length) := by
    rw [TrackerBoard.open, beginOpen_eq hnames]
    rfl
  -- the guard of the open is the last one, and no other call has come between the two steps
  have hguard : (b.begun i t peer).guards[b.guards.length]? =
      some { tracker := i, connection := ⟨(t.opened + 1).toNat, peer⟩ } :=
    List.getElem?_concat_length
  refine ⟨?_, ?_⟩
  · rw [hopen, run, List.foldl_cons, List.foldl_cons, List.foldl_nil, step, step,
      beginOpen_eq hnames]
  · have hset : (b.begun i t peer).trackers[i]? = some t.next.2 :=
      List.getElem?_set_self (List.getElem?_eq_some_iff.mp ht).1
    rw [hopen, TrackerBoard.endOpen, move_eq hguard rfl, moved, List.getElem?_modify_eq, hset]
    rfl

/-- What a drop does to the counter of its tracker. -/
theorem close_of_few (h : b.Counts) {k : ℕ} {g : Guard} (hg : b.guards[k]? = some g)
    (hstage : g.stage = .held) (few : (b.opens g.tracker).length < 2 ^ 64) :
    ∃ t, b.trackers[g.tracker]? = some t ∧ (b.drop k).2.trackers[g.tracker]? = some t.close ∧
      t.close.openCount + 1 = t.openCount := by
  have hlt := h.guards_lt g (List.mem_of_getElem? hg)
  have ht : b.trackers[g.tracker]? = some b.trackers[g.tracker] := List.getElem?_eq_getElem hlt
  have hdrop : b.drop k = (true, b.moved k g .dropped Tracker.close) := move_eq hg hstage
  have hclosed : (b.drop k).2.trackers[g.tracker]? = some b.trackers[g.tracker].close := by
    rw [hdrop, moved, List.getElem?_modify_eq, ht]
    rfl
  have hopens : (b.drop k).2.opens g.tracker = b.opens g.tracker := by
    rw [hdrop]
    exact filterMap_set_stage hg _ _
  refine ⟨_, ht, hclosed, ?_⟩
  -- both counts are the numbers of guards that are held, and one of these is gone
  calc b.trackers[g.tracker].close.openCount + 1
      = (b.drop k).2.held g.tracker + 1 := by
        rw [openCount_of_few (h.drop k) (hopens ▸ few) hclosed]
    _ = b.held g.tracker := held_drop hg hstage
    _ = b.trackers[g.tracker].openCount := (openCount_of_few h few ht).symm

end Accounts

/-- After every run that opens fewer connections on each tracker than there are words, in whatever
order opens and drops come and on whatever handles, the connections of a tracker are numbered one
after the other and its handles count its guards that are held. -/
theorem run_counts_guards (ops : List Op)
    (few : ∀ i, ((run {} ops).opens i).length < 2 ^ 64) : Accounts (run {} ops) := by
  have h : (run {} ops).Counts := counts_run counts_empty ops
  generalize run {} ops = b at few h
  refine {
    clone_names := fun handle i hi => ?_
    new_names := ⟨List.getElem?_concat_length, fun hmem => Nat.lt_irrefl _ (h.handles_lt _ hmem)⟩
    numbers_eq := fun i => numbers_of_few h (few i)
    numbers_nodup := fun i => numbers_of_few h (few i) ▸ List.nodup_range' 1
    beginOpen_next := fun handle i peer hi hnext => ?_
    open_next := fun handle i peer hi hnext => ?_
    openCount_eq := fun handle i hi => ?_
    openCount_eq_zero_iff := fun handle i hi => ?_
    held_endOpen := fun k g => held_endOpen
    drop_counts := fun k g hg hstage => ?_
    step_apart := fun op handle i hi hop => ?_ }
  · rw [clone, hi]
    exact List.getElem?_concat_length
  · -- the next word is the next number as long as it fits
    obtain ⟨t, ht, hnames⟩ := trackerOf_eq h hi
    rw [beginOpen_eq hnames, opens_begun, number_of_few h hnext ht]
    exact ⟨rfl, rfl⟩
  · obtain ⟨t, ht, hnames⟩ := trackerOf_eq h hi
    obtain ⟨hopen, htracker⟩ := open_eq ht hnames peer
    have hconnection : (t.open peer).1 = ⟨(b.opens i).length + 1, peer⟩ := by
      rw [← number_of_few h hnext ht]
      rfl
    exact ⟨hconnection ▸ hopen, t, ht, hconnection, htracker⟩
  · obtain ⟨t, ht, hnames⟩ := trackerOf_eq h hi
    rw [openCount, hnames]
    exact openCount_of_few h (few i) ht
  · obtain ⟨t, ht, hnames⟩ := trackerOf_eq h hi
    rw [openCount, hnames, ← held_eq_zero_iff, ← openCount_of_few h (few i) ht]
    rfl
  · have hdrop : b.drop k = (true, _) := move_eq hg hstage
    exact ⟨by rw [hdrop], held_drop hg hstage, close_of_few h hg hstage (few _)⟩
  · have hlt := h.handles_lt i (List.mem_of_getElem? hi)
    -- neither the tracker nor what the handle names has changed
    have hnames := trackerOf_step h hi hop
    refine ⟨(rests_step h hlt hop).opens_eq, by rw [openCount, hnames, openCount], fun peer => ?_⟩
    obtain ⟨t, -, hb⟩ := trackerOf_eq h hi
    rw [beginOpen_eq hb, beginOpen_eq (hnames.trans hb)]

/-- Two trackers and a clone of the first. Opens through all three handles come between each other,
and the guard that is dropped is neither the first nor the last of its tracker. -/
def mixedOps (peer : SocketAddress) : List Op :=
  [.new, .clone 0, .beginOpen 0 peer, .beginOpen 2 peer, .endOpen 1, .beginOpen 1 peer, .endOpen 0,
    .endOpen 2, .beginOpen 2 peer, .endOpen 3, .drop 1, .beginOpen 0 peer]

theorem run_counts_guards_mixed :
    let peer : SocketAddress := ⟨.v4 [127, 0, 0, 1], 40000⟩
    let b := run {} (mixedOps peer)
    (∀ i, (b.opens i).length < 2 ^ 64) ∧ Accounts b ∧
      b.opens 0 = [⟨1, peer⟩, ⟨2, peer⟩, ⟨3, peer⟩, ⟨4, peer⟩] ∧ b.opens 1 = [⟨1, peer⟩] ∧
      b.openCount 0 = 2 ∧ b.openCount 2 = 2 ∧ b.openCount 1 = 1 := by
  intro peer b
  have few (i : ℕ) : (b.opens i).length < 2 ^ 64 :=
    Nat.lt_of_le_of_lt (List.length_filterMap_le _ _)
      (show b.guards.length < 2 ^ 64 by decide)
  exact ⟨few, run_counts_guards (mixedOps peer) few, by decide⟩

end TrackerBoard

end ServiceHost
