import Mathlib.Data.List.Induction
import ServiceHost.Proofs.ConnectorStop
import ServiceHost.Server.Calls

/-!
# The states of a server

The states of a server stand in an order, from built to stopped. Calls that come one after another
take a server forward along it. Calls that overlap may not: a start that has passed its look at the
state marks the server as running later, whatever happened in between, so a server that was stopped
in between is running again.

That is the only way back. A start passes only as long as nothing has been called before, so no
second start ever passes, and no stop was called before the start that does. The state moves forward
all the way exactly if no stop comes between the two steps of that start.

* `Calls.Moves` says all that one act can do to the state, the starts and the stops, and
  `Calls.moves_step` that every act does one of these things. `Calls.Kept` is derived from it.
* `Calls.run_start` and `Calls.run_stop`: the steps of one call, with none in between, are a whole
  start and a whole stop.
* `Calls.onlyForward_iff_undisturbed` says when the state moves forward only, and
  `Calls.not_onlyForward_overtaken` is a run in which it does not.
-/

namespace ServiceHost

/-- How far along the way a state is. -/
def ServerState.rank : ServerState → ℕ
  | .built => 0
  | .starting => 1
  | .running => 2
  | .stopping => 3
  | .stopped => 4

/-- Nothing lies beyond stopped. -/
theorem ServerState.eq_stopped_of_rank_le {s : ServerState}
    (h : ServerState.stopped.rank ≤ s.rank) : s = .stopped := by
  cases s with
  | stopped => rfl
  | _ => simp [rank] at h

namespace Calls

variable {R : Type} {c c' : Calls R}

theorem run_append (c : Calls R) (xs ys : List Act) : c.run (xs ++ ys) = (c.run xs).run ys :=
  List.foldl_append

theorem run_concat (c : Calls R) (xs : List Act) (act : Act) :
    c.run (xs ++ [act]) = (c.run xs).step act := by
  rw [run_append]
  rfl

/-! ### One act -/

/-- What an act can do to the state of the server, to its starts and to its stops. -/
inductive Moves (c c' : Calls R) : Act → Prop where
  /-- A start passes. -/
  | passes (before : c.state = .built) (after : c'.state = .starting)
      (launches : c'.launches = c.launches ++ [.beginning])
      (stops : c'.activity.stops = c.activity.stops) : Moves c c' .start
  /-- A start is refused. -/
  | refuses (before : c.state ≠ .built) (after : c'.state = c.state)
      (launches : c'.launches = c.launches ++ [.refused c.state])
      (stops : c'.activity.stops = c.activity.stops) : Moves c c' .start
  /-- A start that has passed marks the server, whatever its state. -/
  | marks (call : ℕ) (before : c.launches[call]? = some .beginning) (after : c'.state = .running)
      (launches : c'.launches = c.launches.set call .watching)
      (stops : c'.activity.stops = c.activity.stops) : Moves c c' (.advanceStart call)
  /-- A stop begins, or the server is stopped already. -/
  | stops (after : c'.state = if c.state = .stopped then .stopped else .stopping)
      (launches : c'.launches = c.launches) : Moves c c' .stop
  /-- A stop ends. -/
  | ends (call : ℕ) (before : c.activity.stops ≠ []) (after : c'.state = .stopped)
      (launches : c'.launches = c.launches) : Moves c c' (.advanceStop call)
  /-- None of these. -/
  | rests (act : Act) (not_stop : act ≠ .stop)
      (no_mark : ∀ call, act = .advanceStart call → c.launches[call]? ≠ some .beginning)
      (after : c'.state = c.state) (launches : c'.launches = c.launches)
      (stops : c.activity.stops = [] → c'.activity.stops = []) : Moves c c' act

theorem moves_start (c : Calls R) : Moves c c.start .start := by
  unfold start Server.beginStart
  -- a start passes in the first state, and in any other it is refused with this state
  cases hstate : c.activity.server.state with
  | built => exact .passes hstate rfl rfl rfl
  | _ =>
    refine .refuses ?_ rfl ?_ rfl
    · show c.activity.server.state ≠ .built
      rw [hstate]
      exact nofun
    · show c.launches ++ [_] = c.launches ++ [.refused c.activity.server.state]
      rw [hstate]

theorem moves_advanceStart (c : Calls R) (call : ℕ) :
    Moves c (c.advanceStart call) (.advanceStart call) := by
  unfold advanceStart
  split
  · next hcall => exact .marks call hcall rfl rfl rfl
  · next hno =>
    refine .rests _ nofun ?_ rfl rfl id
    intro call' hcall'
    rw [← Act.advanceStart.inj hcall']
    exact hno

theorem moves_stop (c : Calls R) : Moves c { c with activity := c.activity.stopServer } .stop := by
  refine .stops ?_ rfl
  show c.activity.stopServer.server.state =
    if c.activity.server.state = .stopped then .stopped else .stopping
  unfold Activity.stopServer Server.beginStop
  cases hstate : c.activity.server.state <;> simp [hstate]

theorem moves_advanceStop (c : Calls R) (call : ℕ) :
    Moves c { c with activity := (c.activity.advanceStop call).1 } (.advanceStop call) := by
  -- a stop call that goes on is among those that were made
  have hnonempty : ∀ {next}, c.activity.stops[call]? = some (.closing next) →
      c.activity.stops ≠ [] := by
    intro next hcall hnil
    rw [hnil] at hcall
    cases hcall
  rcases c.activity.advanceStop_cases call with
    ⟨next, hcall, -, hstep⟩ | ⟨next, slot, hcall, -, hstep⟩ | hstep
  · -- behind the last connector
    rw [hstep]
    exact .ends call (hnonempty hcall) rfl rfl
  · -- one connector more is closed
    rw [hstep]
    exact .rests _ nofun nofun rfl rfl fun hnil => absurd hnil (hnonempty hcall)
  · rw [hstep]
    exact .rests _ nofun nofun rfl rfl id

theorem moves_advance (c : Calls R) (call : ℕ) (outside : Surroundings) :
    Moves c { c with activity := (c.activity.advance call outside).1 } (.advance call outside) := by
  unfold Activity.advance
  split
  · exact .rests _ nofun nofun rfl rfl id
  · split
    · exact .rests _ nofun nofun rfl rfl id
    · exact .rests _ nofun nofun rfl rfl id

theorem moves_stopConnector (c : Calls R) (connector : ℕ) :
    Moves c { c with activity := (c.activity.stopConnector connector).1 }
      (.stopConnector connector) := by
  unfold Activity.stopConnector
  rcases Activity.stopConnector_cases c.activity.server connector with
    ⟨-, hstop⟩ | ⟨slot, -, hstop⟩ <;> rw [hstop] <;> exact .rests _ nofun nofun rfl rfl id

/-- **One act.** Whatever the act, this is all that it does. -/
theorem moves_step (c : Calls R) (act : Act) : Moves c (c.step act) act := by
  cases act with
  | start => exact c.moves_start
  | advanceStart call => exact c.moves_advanceStart call
  | stop => exact c.moves_stop
  | advanceStop call => exact c.moves_advanceStop call
  | advance call outside => exact c.moves_advance call outside
  | stopConnector connector => exact c.moves_stopConnector connector

/-! ### What a run keeps -/

/-- What a run of a new server keeps, given its acts. -/
structure Kept (acts : List Act) (c : Calls R) : Prop where
  /-- As long as the server is built, nothing has been called. -/
  built : c.state = .built → .stop ∉ acts ∧ c.launches = []
  /-- No start but the first passes. -/
  first : ∀ (call : ℕ) (l : LaunchCall), c.launches[call]? = some l → l.passed = true → call = 0
  /-- Up to the first stop, a server whose start has passed and goes on is starting. -/
  starting : ∀ call : ℕ, c.launches[call]? = some .beginning → .stop ∉ acts →
    c.state = .starting
  /-- From then on it is being stopped, or is stopped. -/
  stopping : ∀ call : ℕ, c.launches[call]? = some .beginning → .stop ∈ acts →
    c.state = .stopping ∨ c.state = .stopped
  stops : .stop ∉ acts → c.activity.stops = []

theorem kept_ofConnectors (connectors : List (Connector R)) :
    Kept [] (ofConnectors connectors) where
  built _ := ⟨List.not_mem_nil, rfl⟩
  first _ _ h := nomatch h
  starting _ h := nomatch h
  stopping _ h := nomatch h
  stops _ := rfl

theorem stop_mem_concat {acts : List Act} {act : Act} (h : act ≠ .stop) :
    .stop ∈ acts ++ [act] ↔ .stop ∈ acts := by
  rw [List.mem_append, List.mem_singleton]
  constructor
  · rintro (hold | hnew)
    · exact hold
    · exact absurd hnew.symm h
  · exact Or.inl

/-- A start that has passed is none that was refused last. -/
theorem getElem?_of_concat_refused {launches : List LaunchCall} {state : ServerState} {call : ℕ}
    {l : LaunchCall} (h : (launches ++ [.refused state])[call]? = some l)
    (passed : l.passed = true) : launches[call]? = some l := by
  rcases getElem?_concat_cases h with hold | hnew
  · exact hold
  · rw [hnew] at passed
    cases passed

section Step

variable {acts : List Act} (h : Kept acts c)

include h

/-- The first start passes if nothing was called before. -/
theorem Kept.passes (before : c.state = .built) (after : c'.state = .starting)
    (launches : c'.launches = c.launches ++ [.beginning])
    (stops : c'.activity.stops = c.activity.stops) : Kept (acts ++ [.start]) c' := by
  obtain ⟨hnone, hempty⟩ := h.built before
  rw [hempty, List.nil_append] at launches
  have hstop : Act.stop ∈ acts ++ [.start] ↔ .stop ∈ acts := stop_mem_concat nofun
  refine ⟨fun hbuilt => ?_, fun call l hl _ => ?_, fun _ _ _ => after,
    fun _ _ hmem => absurd (hstop.mp hmem) hnone, fun _ => stops.trans (h.stops hnone)⟩
  · rw [after] at hbuilt
    cases hbuilt
  · -- it is the only one
    rw [launches] at hl
    obtain ⟨hlt, -⟩ := List.getElem?_eq_some_iff.mp hl
    exact Nat.lt_one_iff.mp hlt

/-- A start that is refused changes nothing for the others. -/
theorem Kept.refuses (before : c.state ≠ .built) (after : c'.state = c.state)
    (launches : c'.launches = c.launches ++ [.refused c.state])
    (stops : c'.activity.stops = c.activity.stops) : Kept (acts ++ [.start]) c' := by
  have hstop : Act.stop ∈ acts ++ [.start] ↔ .stop ∈ acts := stop_mem_concat nofun
  -- the start that was refused is no start that has passed, so those are the ones before it
  have hold : ∀ {call : ℕ} {l : LaunchCall}, c'.launches[call]? = some l → l.passed = true →
      c.launches[call]? = some l := by
    intro call l hl hpassed
    rw [launches] at hl
    exact getElem?_of_concat_refused hl hpassed
  refine ⟨fun hbuilt => absurd (after.symm.trans hbuilt) before, fun call l hl hpassed => ?_,
    fun call hl hnone => ?_, fun call hl hmem => ?_, fun hnone => ?_⟩
  · exact h.first call l (hold hl hpassed) hpassed
  · rw [after]
    exact h.starting call (hold hl rfl) fun hmem => hnone (hstop.mpr hmem)
  · rw [after]
    exact h.stopping call (hold hl rfl) (hstop.mp hmem)
  · rw [stops]
    exact h.stops fun hmem => hnone (hstop.mpr hmem)

/-- When the first start has marked the server, no start is left that goes on. -/
theorem Kept.marks {call : ℕ} (before : c.launches[call]? = some .beginning)
    (after : c'.state = .running) (launches : c'.launches = c.launches.set call .watching)
    (stops : c'.activity.stops = c.activity.stops) : Kept (acts ++ [.advanceStart call]) c' := by
  have hstop : Act.stop ∈ acts ++ [.advanceStart call] ↔ .stop ∈ acts := stop_mem_concat nofun
  have hcall : call = 0 := h.first call _ before rfl
  -- the one start that had passed has gone on, and there was no other
  have hover : ∀ other : ℕ, c'.launches[other]? ≠ some .beginning := by
    intro other hl
    rw [launches] at hl
    rcases getElem?_set_cases hl with ⟨-, hl⟩ | ⟨hne, hl⟩
    · cases hl
    · exact hne (hcall.trans (h.first other _ hl rfl).symm)
  refine ⟨fun hbuilt => ?_, fun other l hl hpassed => ?_, fun other hl _ => absurd hl (hover other),
    fun other hl _ => absurd hl (hover other), fun hnone => ?_⟩
  · rw [after] at hbuilt
    cases hbuilt
  · rw [launches] at hl
    rcases getElem?_set_cases hl with ⟨hsame, -⟩ | ⟨-, hl⟩
    · exact hsame.symm.trans hcall
    · exact h.first other l hl hpassed
  · rw [stops]
    exact h.stops fun hmem => hnone (hstop.mpr hmem)

/-- From the first stop on, a server is being stopped or is stopped, unless a start marks it. -/
theorem Kept.stopped {act : Act} (called : .stop ∈ acts ++ [act])
    (after : c'.state = .stopping ∨ c'.state = .stopped) (launches : c'.launches = c.launches) :
    Kept (acts ++ [act]) c' := by
  refine ⟨fun hbuilt => ?_, fun call l hl => ?_, fun _ _ hnone => absurd called hnone,
    fun _ _ _ => after, fun hnone => absurd called hnone⟩
  · rcases after with hafter | hafter <;> rw [hafter] at hbuilt <;> cases hbuilt
  · rw [launches] at hl
    exact h.first call l hl

theorem Kept.rests {act : Act} (not_stop : act ≠ .stop) (after : c'.state = c.state)
    (launches : c'.launches = c.launches)
    (stops : c.activity.stops = [] → c'.activity.stops = []) : Kept (acts ++ [act]) c' := by
  have hstop : Act.stop ∈ acts ++ [act] ↔ .stop ∈ acts := stop_mem_concat not_stop
  refine ⟨?_, ?_, ?_, ?_, ?_⟩
  · -- nothing that the clauses speak of has changed
    rw [after, launches, hstop]
    exact h.built
  · rw [launches]
    exact h.first
  · rw [after, launches, hstop]
    exact h.starting
  · rw [after, launches, hstop]
    exact h.stopping
  · rw [hstop]
    exact fun hnone => stops (h.stops hnone)

/-- **One act** keeps it. -/
theorem Kept.step (act : Act) : Kept (acts ++ [act]) (c.step act) := by
  have hmoves := c.moves_step act
  generalize c.step act = c' at hmoves
  -- one case for each thing that an act can do
  cases hmoves with
  | passes before after launches stops => exact h.passes before after launches stops
  | refuses before after launches stops => exact h.refuses before after launches stops
  | marks call before after launches stops => exact h.marks before after launches stops
  | stops after launches =>
    refine h.stopped (List.mem_append_right _ (List.mem_singleton_self _)) ?_ launches
    rw [after]
    split
    · exact Or.inr rfl
    · exact Or.inl rfl
  | ends call before after launches =>
    -- there is a stop to go on with, so it was called
    have hcalled : .stop ∈ acts := by
      by_contra hnone
      exact before (h.stops hnone)
    exact h.stopped (List.mem_append_left _ hcalled) (Or.inr after) launches
  | rests act not_stop _ after launches stops => exact h.rests not_stop after launches stops

end Step

/-- **A run** of a new server keeps it. -/
theorem kept_run (connectors : List (Connector R)) (acts : List Act) :
    Kept acts ((ofConnectors connectors).run acts) := by
  induction acts using List.reverseRecOn with
  | nil => exact kept_ofConnectors connectors
  | append_singleton acts act ih =>
    rw [run_concat]
    exact ih.step act

/-! ### Forward and back -/

/-- An act that marks a server after a stop was called. -/
def Overtaken (acts : List Act) (c : Calls R) (act : Act) : Prop :=
  ∃ call, act = .advanceStart call ∧ c.launches[call]? = some .beginning ∧ .stop ∈ acts

/-- **The only way back.** An act takes a server back exactly if a start marks it that a stop has
overtaken. -/
theorem Kept.rank_le_iff {acts : List Act} (h : Kept acts c) (act : Act) :
    c.state.rank ≤ (c.step act).state.rank ↔ ¬ Overtaken acts c act := by
  have hmoves := c.moves_step act
  generalize c.step act = c' at hmoves
  -- whatever is no mark of a start moves on or rests
  have hforward : (∀ call, act = .advanceStart call → c.launches[call]? ≠ some .beginning) →
      c.state.rank ≤ c'.state.rank →
      (c.state.rank ≤ c'.state.rank ↔ ¬ Overtaken acts c act) := by
    intro hno hle
    refine ⟨fun _ hover => ?_, fun _ => hle⟩
    obtain ⟨call, hact, hbeginning, -⟩ := hover
    exact hno call hact hbeginning
  cases hmoves with
  | passes before after launches stops =>
    apply hforward nofun
    rw [before]
    exact Nat.zero_le _
  | refuses before after launches stops =>
    apply hforward nofun
    exact Nat.le_of_eq (congrArg ServerState.rank after.symm)
  | stops after launches =>
    apply hforward nofun
    rw [after]
    cases c.state <;> decide
  | ends call before after launches =>
    apply hforward nofun
    rw [after]
    cases c.state <;> decide
  | rests act not_stop no_mark after launches stops =>
    apply hforward no_mark
    exact Nat.le_of_eq (congrArg ServerState.rank after.symm)
  | marks call before after launches stops =>
    by_cases hstop : .stop ∈ acts
    · -- the server is beyond running
      refine ⟨fun hle => ?_, fun hnot => absurd ⟨call, rfl, before, hstop⟩ hnot⟩
      rw [after] at hle
      rcases h.stopping call before hstop with hstate | hstate <;> rw [hstate] at hle <;>
        exact absurd hle (by decide)
    · refine ⟨fun _ hover => ?_, fun _ => ?_⟩
      · obtain ⟨_, -, -, hmem⟩ := hover
        exact hstop hmem
      · rw [after, h.starting call before hstop]
        decide

/-- The state of a server moves forward only: nowhere in a run is it behind where it was. -/
def OnlyForward (c : Calls R) (acts : List Act) : Prop :=
  ∀ before between after, acts = before ++ between ++ after →
    (c.run before).state.rank ≤ (c.run (before ++ between)).state.rank

/-- A server that is stopped stays so. -/
def StaysStopped (c : Calls R) (acts : List Act) : Prop :=
  ∀ before between after, acts = before ++ between ++ after →
    (c.run before).state = .stopped → (c.run (before ++ between)).state = .stopped

/-- One start at most has passed its look at the state. -/
def OnePasses (c : Calls R) : Prop :=
  ∀ (i j : ℕ) (a b : LaunchCall), c.launches[i]? = some a → c.launches[j]? = some b →
    a.passed = true → b.passed = true → i = j

/-- No start marks a server after a stop was called. -/
def Undisturbed (c : Calls R) (acts : List Act) : Prop :=
  ∀ before act after, acts = before ++ act :: after → ¬ Overtaken before (c.run before) act

/-- A run that moves forward only stays at its end. -/
theorem OnlyForward.staysStopped {acts : List Act} (h : OnlyForward c acts) :
    StaysStopped c acts := by
  intro before between after hacts hstopped
  have hle := h before between after hacts
  rw [hstopped] at hle
  exact ServerState.eq_stopped_of_rank_le hle

section Run

variable (connectors : List (Connector R)) {acts : List Act}

theorem Undisturbed.onlyForward (h : Undisturbed (ofConnectors connectors) acts) :
    OnlyForward (ofConnectors connectors) acts := by
  intro before between after hacts
  -- along what comes between, act by act
  induction between using List.reverseRecOn generalizing after with
  | nil => exact Nat.le_of_eq (by rw [List.append_nil])
  | append_singleton between act ih =>
    have hsplit : acts = before ++ between ++ act :: after := by
      rw [hacts]
      simp only [List.append_assoc, List.singleton_append]
    have hbefore := ih (act :: after) hsplit
    -- what was kept up to this act says that it does not go back, as it is not overtaken
    have hact : ((ofConnectors connectors).run (before ++ between)).state.rank ≤
        (((ofConnectors connectors).run (before ++ between)).step act).state.rank :=
      ((kept_run connectors (before ++ between)).rank_le_iff act).mpr (h _ act after hsplit)
    rw [← List.append_assoc, run_concat]
    exact Nat.le_trans hbefore hact

theorem OnlyForward.undisturbed (h : OnlyForward (ofConnectors connectors) acts) :
    Undisturbed (ofConnectors connectors) acts := by
  intro before act after hacts
  have hle := h before [act] after (by rw [hacts, List.append_assoc]; rfl)
  rw [run_concat] at hle
  exact ((kept_run connectors before).rank_le_iff act).mp hle

/-- **The states of a server.** Let starts and stops of a new server overlap in any way. One start
at most passes its look at the state, and only where neither a start nor a stop was called before.
The state moves forward only exactly if no stop is called between the two steps of that start; then
a server that is stopped stays so, too. -/
theorem onlyForward_iff_undisturbed (acts : List Act) :
    OnePasses ((ofConnectors connectors).run acts) ∧
      (∀ before after, acts = before ++ .start :: after →
        ((ofConnectors connectors).run before).state = .built →
          .stop ∉ before ∧ ((ofConnectors connectors).run before).launches = []) ∧
      (OnlyForward (ofConnectors connectors) acts ↔ Undisturbed (ofConnectors connectors) acts) ∧
      (Undisturbed (ofConnectors connectors) acts →
        StaysStopped (ofConnectors connectors) acts) := by
  refine ⟨?_, ?_, ⟨OnlyForward.undisturbed connectors, Undisturbed.onlyForward connectors⟩, ?_⟩
  · intro i j a b hi hj ha hb
    -- each of the two is the first start
    have hkept := kept_run connectors acts
    calc i = 0 := hkept.first i a hi ha
      _ = j := (hkept.first j b hj hb).symm
  · intro before after _ hbuilt
    exact (kept_run connectors before).built hbuilt
  · intro h
    exact (h.onlyForward connectors).staysStopped

end Run

/-- A stop of a server with one connector comes between the two steps of a start. -/
def overtaken : List Act :=
  [.start, .stop, .advanceStop 0, .advanceStop 0, .advanceStart 0]

/-- The server is stopped, and then it is running again. -/
theorem not_onlyForward_overtaken :
    ¬ OnlyForward (ofConnectors [Activity.gate]) overtaken ∧
      ¬ StaysStopped (ofConnectors [Activity.gate]) overtaken := by
  have hsplit : overtaken =
      [.start, .stop, .advanceStop 0, .advanceStop 0] ++ [.advanceStart 0] ++ [] := rfl
  have hstopped : ((ofConnectors [Activity.gate]).run
      [.start, .stop, .advanceStop 0, .advanceStop 0]).state = .stopped := rfl
  have hrunning : ((ofConnectors [Activity.gate]).run
      ([.start, .stop, .advanceStop 0, .advanceStop 0] ++ [.advanceStart 0])).state =
      .running := rfl
  constructor
  · intro h
    have hle := h _ _ _ hsplit
    rw [hstopped, hrunning] at hle
    exact absurd hle (by decide)
  · intro h
    have hstays := h _ _ _ hsplit hstopped
    rw [hrunning] at hstays
    cases hstays

/-! ### Whole calls -/

/-- **A start that nothing interrupts** leaves the state that a whole start leaves. -/
theorem run_start (c : Calls R) (turns : List (Turn ConnectorError)) :
    (c.run [.start, .advanceStart c.launches.length]).state =
      (c.activity.server.startDuring turns).2.state := by
  show (c.start.advanceStart c.launches.length).state = _
  unfold start Server.startDuring
  -- the first step decides alike in both, and the second one marks the server where the first has
  -- passed
  cases hbegin : c.activity.server.beginStart with
  | error state =>
    -- a start that was refused does not go on
    have hcall : (c.launches ++ [LaunchCall.refused state])[c.launches.length]? =
        some (.refused state) := List.getElem?_concat_length
    simp only [advanceStart, hcall]
    rfl
  | ok server =>
    have hcall : (c.launches ++ [LaunchCall.beginning])[c.launches.length]? =
        some .beginning := List.getElem?_concat_length
    simp only [advanceStart, hcall]
    split <;> rfl

theorem activity_run_advanceStop (c : Calls R) (call n : ℕ) :
    (c.run (List.replicate n (.advanceStop call))).activity =
      (c.activity.run (List.replicate n (.advanceStop call))).1 := by
  induction n generalizing c with
  | zero => rfl
  | succ n ih =>
    rw [List.replicate_succ, List.replicate_succ]
    exact ih (c.step (.advanceStop call))

/-- **A stop that nothing interrupts** is a whole stop of the server. -/
theorem run_stop (c : Calls R) :
    (c.run (.stop :: List.replicate (c.activity.server.slots.length + 1)
      (.advanceStop c.activity.stops.length))).activity.server = c.activity.server.stop.1 := by
  -- a call of a stop moves only the activity, for which the whole stop is known
  calc (c.run (.stop :: List.replicate (c.activity.server.slots.length + 1)
        (.advanceStop c.activity.stops.length))).activity.server
      = (c.activity.stopServer.run (List.replicate (c.activity.server.slots.length + 1)
          (.advanceStop c.activity.stops.length))).1.server :=
        congrArg Activity.server (activity_run_advanceStop (c.step .stop) _ _)
    _ = c.activity.server.stop.1 := c.activity.run_stop.1

end Calls

end ServiceHost
