import Mathlib.Data.List.Forall2
import Mathlib.Data.List.Infix
import ServiceHost.Dispatcher

/-!
# Walks, calls and questions

A run is any sequence of calls on one dispatcher: components are registered, handlers are added,
and the dispatcher is finalized, in any order and any number of times. The first finalization walks
the components that are there. Nothing after it walks a component or asks a handler, whether that
walk went well or not.

* `Dispatcher.Walked` says what a walk is: the components are visited in their order, up to the
  first on which a handler fails. `Dispatcher.walked_walk` says that every walk is one.
* `Dispatcher.run` is a run of calls. `Dispatcher.dispatcher_run` says what dispatcher it leaves,
  and `Dispatcher.run_append_of_finalizes` that nothing is visited after the first finalization.
* `Dispatcher.noting` makes a handler note every question that it is asked, and
  `Dispatcher.Asked` says which questions a walk may ask, and in which order.
-/

namespace ServiceHost

/-- A list that begins with an element from an index on has it there, and the rest behind it. -/
theorem getElem?_of_drop_eq_cons {α : Type} {xs rest : List α} {i : ℕ} {x : α}
    (h : xs.drop i = x :: rest) : xs[i]? = some x ∧ xs.drop (i + 1) = rest := by
  rw [← List.head?_drop, ← List.tail_drop, h]
  exact ⟨rfl, rfl⟩

/-- What all but the last of some elements have, all but the last have with one more in front. -/
theorem forall_mem_dropLast_cons {α : Type} {P : α → Prop} {x : α} {xs : List α} (hx : P x)
    (h : ∀ y ∈ xs.dropLast, P y) : ∀ y ∈ (x :: xs).dropLast, P y := by
  -- the element in front is not the last one only if there is another
  cases xs with
  | nil => exact fun y hy => absurd hy List.not_mem_nil
  | cons z rest =>
    rw [List.dropLast_cons_cons]
    exact List.forall_mem_cons.mpr ⟨hx, h⟩

namespace Dispatcher

variable {W C : Type}

/-! ### Walks -/

/-- What a visit of a component shows: what the handlers show, and then the report on it. -/
def Visited (typeName : C → String) (c : C) (v : Visit) : Prop :=
  ∃ during, v.events = during ++ report typeName c v.outcome

/-- A visit that comes to an end without an error. -/
def Visit.Passed (v : Visit) : Prop := ∃ claimed, v.outcome = .ok claimed

/-- How a walk through components goes: they are visited in their order, up to the first visit
that fails. -/
structure Walked (typeName : C → String) (components : List C) (walk : Walk) : Prop where
  visited : List.Forall₂ (Visited typeName) (components.take walk.visits.length) walk.visits
  /-- No visit before the last one fails. -/
  passed : ∀ v ∈ walk.visits.dropLast, v.Passed
  /-- A walk that succeeds has passed every component. -/
  all : ∀ endpoints, walk.result = .ok endpoints →
    walk.visits.length = components.length ∧ ∀ v ∈ walk.visits, v.Passed
  /-- A walk that fails ends with the visit that fails. -/
  last : ∀ e, walk.result = .error e → walk.visits.getLast?.map (·.outcome) = some (.error e)

/-- One component more in front of a walk. -/
theorem Walked.cons {typeName : C → String} {c : C} {components : List C} {v : Visit}
    {later : Walk} (h : Walked typeName components later) (hv : Visited typeName c v)
    (hpassed : v.Passed) (endpoints : EndpointLog) :
    Walked typeName (c :: components)
      { result := later.result.map (endpoints ++ ·), visits := v :: later.visits } where
  visited := .cons hv h.visited
  passed := forall_mem_dropLast_cons hpassed h.passed
  all := by
    intro log hlog
    cases hresult : later.result with
    | error e =>
      rw [hresult] at hlog
      cases hlog
    | ok found =>
      obtain ⟨hlength, hall⟩ := h.all found hresult
      refine ⟨by rw [List.length_cons, List.length_cons, hlength], fun u hu => ?_⟩
      rcases List.mem_cons.mp hu with rfl | hu
      · exact hpassed
      · exact hall u hu
  last := by
    intro e he
    cases hresult : later.result with
    | error e' =>
      have hlast := h.last e' hresult
      rw [hresult] at he
      cases he
      -- the visit that fails is behind the one in front
      cases hvisits : later.visits with
      | nil =>
        rw [hvisits] at hlast
        cases hlast
      | cons v' rest =>
        rw [hvisits] at hlast
        rw [List.getLast?_cons_cons]
        exact hlast
    | ok found =>
      rw [hresult] at he
      cases he

/-- **Every walk goes so.** Whatever the handlers are, the components are visited in their order
up to the first on which a handler fails. -/
theorem walked_walk (typeName : C → String) (handlers : List (ResourceHandler W C))
    (components : List C) (w : W) :
    Walked typeName components (walk typeName handlers components w).1 := by
  induction components generalizing w with
  | nil =>
    refine ⟨.nil, fun v hv => absurd hv List.not_mem_nil, fun _ _ => ⟨rfl, ?_⟩, fun e he => ?_⟩
    · exact fun v hv => absurd hv List.not_mem_nil
    · cases he
  | cons c rest ih =>
    unfold walk
    rcases ask c handlers w with ⟨claim, after⟩
    have hvisited : Visited typeName c
        { outcome := claim.outcome, events := claim.events ++ report typeName c claim.outcome } :=
      ⟨claim.events, rfl⟩
    cases ho : claim.outcome with
    | error e =>
      -- the walk ends here
      rw [ho] at hvisited
      simp only [ho]
      refine ⟨.cons hvisited .nil, fun v hv => absurd hv List.not_mem_nil, fun log h => ?_,
        fun e' he' => ?_⟩
      · cases h
      · cases he'
        rfl
    | ok claimed =>
      rw [ho] at hvisited
      simp only [ho]
      -- the rest is walked with what the handlers left of the wiring
      exact (ih after).cons hvisited ⟨claimed, rfl⟩ claim.endpoints

/-- The first finalization walks the components. -/
theorem walked_finalize (typeName : C → String) {d : Dispatcher W C} (h : d.finalized = false)
    (w : W) : Walked typeName d.components (d.finalize typeName w).1 := by
  have hwalked := walked_walk typeName d.handlers.reverse d.components w
  unfold finalize
  simp only [h, Bool.false_eq_true, ↓reduceIte]
  exact ⟨hwalked.visited, hwalked.passed, hwalked.all, hwalked.last⟩

/-- What a finalization shows when there was one before it. -/
def repeatedWalk : Walk :=
  { result := .ok [], closing := [log .debug "Components already dispatched"] }

theorem finalize_of_finalized (typeName : C → String) {d : Dispatcher W C}
    (h : d.finalized = true) (w : W) : d.finalize typeName w = (repeatedWalk, d, w) := by
  unfold finalize
  rw [if_pos h]
  rfl

/-! ### Calls -/

/-- A call on a dispatcher. -/
inductive Call (W C : Type) where
  | register (components : List C)
  | addHandlers (handlers : List (ResourceHandler W C))
  | finalize

/-- What a call shows: the events of a registration, or the walk of a finalization. -/
inductive Answer where
  | registered (events : List Event)
  | added
  | finalized (walk : Walk)

/-- The visits that a call makes. -/
def Answer.visits : Answer → List Visit
  | .finalized walk => walk.visits
  | _ => []

/-- What a run leaves: the dispatcher, what its components are wired into, and the answers to the
calls in their order. -/
structure Run (W C : Type) where
  dispatcher : Dispatcher W C := {}
  wiring : W
  answers : List Answer := []

/-- The visits of a run. -/
def Run.visits (r : Run W C) : List Visit := r.answers.flatMap Answer.visits

/-- The answer to a call after a run. -/
def Run.answer (typeName : C → String) (r : Run W C) : Call W C → Answer
  | .register components => .registered (r.dispatcher.register typeName components).2
  | .addHandlers _ => .added
  | .finalize => .finalized (r.dispatcher.finalize typeName r.wiring).1

/-- Makes one call more. -/
def Run.next (typeName : C → String) (r : Run W C) (c : Call W C) : Run W C :=
  let answers := r.answers ++ [r.answer typeName c]
  match c with
  | .register components =>
    { r with dispatcher := (r.dispatcher.register typeName components).1, answers }
  | .addHandlers handlers => { r with dispatcher := r.dispatcher.addHandlers handlers, answers }
  | .finalize =>
    let (_, dispatcher, wiring) := r.dispatcher.finalize typeName r.wiring
    { dispatcher, wiring, answers }

theorem Run.answer_register (typeName : C → String) (r : Run W C) (components : List C) :
    r.answer typeName (.register components) =
      .registered (r.dispatcher.register typeName components).2 := rfl

theorem Run.answer_finalize (typeName : C → String) (r : Run W C) :
    r.answer typeName .finalize = .finalized (r.dispatcher.finalize typeName r.wiring).1 := rfl

theorem Run.dispatcher_next_finalize (typeName : C → String) (r : Run W C) :
    (r.next typeName .finalize).dispatcher = (r.dispatcher.finalize typeName r.wiring).2.1 := rfl

theorem Run.wiring_next_finalize (typeName : C → String) (r : Run W C) :
    (r.next typeName .finalize).wiring = (r.dispatcher.finalize typeName r.wiring).2.2 := rfl

/-- Makes calls in order on a dispatcher without components and handlers. -/
def run (typeName : C → String) (w : W) (calls : List (Call W C)) : Run W C :=
  calls.foldl (Run.next typeName) { wiring := w }

/-- The components that a call registers. -/
def Call.components : Call W C → List C
  | .register components => components
  | _ => []

/-- The handlers that a call adds. -/
def Call.handlers : Call W C → List (ResourceHandler W C)
  | .addHandlers handlers => handlers
  | _ => []

/-- Whether a call finalizes. -/
def Call.isFinalize : Call W C → Bool
  | .finalize => true
  | _ => false

/-- Everything that calls register, in order. -/
def registered (calls : List (Call W C)) : List C := calls.flatMap Call.components

/-- Everything that calls add, in order. -/
def added (calls : List (Call W C)) : List (ResourceHandler W C) := calls.flatMap Call.handlers

/-- Whether a call among others finalizes. -/
def finalizes (calls : List (Call W C)) : Bool := calls.any Call.isFinalize

/-- The calls before the first finalization. -/
def beforeFinalize (calls : List (Call W C)) : List (Call W C) :=
  calls.takeWhile fun c => !c.isFinalize

section Readings

variable (xs ys : List (Call W C))

theorem registered_append : registered (xs ++ ys) = registered xs ++ registered ys :=
  List.flatMap_append

theorem added_append : added (xs ++ ys) = added xs ++ added ys := List.flatMap_append

theorem finalizes_append : finalizes (xs ++ ys) = (finalizes xs || finalizes ys) :=
  List.any_append

/-- Calls that finalize are split at the first call that does. -/
theorem eq_beforeFinalize_append {calls : List (Call W C)} (h : finalizes calls = true) :
    finalizes (beforeFinalize calls) = false ∧
      ∃ later, calls = beforeFinalize calls ++ .finalize :: later := by
  induction calls with
  | nil => cases h
  | cons c rest ih =>
    cases c with
    | finalize => exact ⟨rfl, rest, rfl⟩
    | register components =>
      obtain ⟨hnone, later, hlater⟩ := ih h
      exact ⟨hnone, later, congrArg (.register components :: ·) hlater⟩
    | addHandlers handlers =>
      obtain ⟨hnone, later, hlater⟩ := ih h
      exact ⟨hnone, later, congrArg (.addHandlers handlers :: ·) hlater⟩

end Readings

/-! ### Runs -/

section Runs

variable (typeName : C → String) (w : W)

theorem run_concat (calls : List (Call W C)) (c : Call W C) :
    run typeName w (calls ++ [c]) = (run typeName w calls).next typeName c := by
  rw [run, List.foldl_append]
  rfl

theorem answers_next (r : Run W C) (c : Call W C) :
    (r.next typeName c).answers = r.answers ++ [r.answer typeName c] := by
  cases c <;> rfl

/-- **The dispatcher of a run** has what was registered and what was added, in order, and is
finalized if a call was to finalize it. -/
theorem dispatcher_run (calls : List (Call W C)) :
    (run typeName w calls).dispatcher =
      { handlers := added calls, components := registered calls,
        finalized := finalizes calls } := by
  -- the induction is from the end, as a run takes one call more at its end
  induction calls using List.reverseRecOn with
  | nil => rfl
  | append_singleton calls c ih =>
    rw [run_concat, registered_append, added_append, finalizes_append]
    cases c with
    | register components =>
      change (Dispatcher.register typeName _ components).1 = _
      rw [ih]
      simp [register, registered, added, finalizes, Call.components, Call.handlers,
        Call.isFinalize]
    | addHandlers handlers =>
      change Dispatcher.addHandlers _ handlers = _
      rw [ih]
      simp [addHandlers, registered, added, finalizes, Call.components, Call.handlers,
        Call.isFinalize]
    | finalize =>
      rw [Run.dispatcher_next_finalize, ih]
      -- a second finalization leaves the dispatcher as it is, and the first one sets the flag
      cases hdone : finalizes calls <;>
        simp [finalize, registered, added, finalizes, Call.components, Call.handlers,
          Call.isFinalize]

theorem length_answers (calls : List (Call W C)) :
    (run typeName w calls).answers.length = calls.length := by
  induction calls using List.reverseRecOn with
  | nil => rfl
  | append_singleton calls c ih =>
    rw [run_concat, answers_next, List.length_append, List.length_append, ih]
    rfl

/-- Later calls leave the answers to earlier ones as they are. -/
theorem answers_run_append (pre post : List (Call W C)) :
    (run typeName w pre).answers <+: (run typeName w (pre ++ post)).answers := by
  induction post using List.reverseRecOn with
  | nil => rw [List.append_nil]
  | append_singleton post c ih =>
    rw [← List.append_assoc, run_concat, answers_next]
    exact ih.trans (List.prefix_append _ _)

/-- The answer to a call of a run is the answer to it after the calls before it. -/
theorem getElem?_answers_run (pre : List (Call W C)) (c : Call W C) (post : List (Call W C)) :
    (run typeName w (pre ++ c :: post)).answers[pre.length]? =
      some ((run typeName w pre).answer typeName c) := by
  -- the answers up to this call are the beginning of all answers
  have hprefix := answers_run_append typeName w (pre ++ [c]) post
  rw [List.append_assoc, List.singleton_append, run_concat, answers_next] at hprefix
  obtain ⟨later, hlater⟩ := hprefix
  rw [← hlater, List.append_assoc, ← length_answers typeName w pre, List.getElem?_append_right
    (Nat.le_refl _), Nat.sub_self]
  rfl

theorem visits_next (r : Run W C) (c : Call W C) :
    (r.next typeName c).visits = r.visits ++ (r.answer typeName c).visits := by
  rw [Run.visits, answers_next, List.flatMap_append, List.flatMap_singleton]
  rfl

/-- **Before the first finalization** nothing is wired and nothing is visited. -/
theorem run_of_not_finalizes {calls : List (Call W C)} (h : finalizes calls = false) :
    (run typeName w calls).wiring = w ∧ (run typeName w calls).visits = [] := by
  induction calls using List.reverseRecOn with
  | nil => exact ⟨rfl, rfl⟩
  | append_singleton calls c ih =>
    rw [finalizes_append, Bool.or_eq_false_iff] at h
    obtain ⟨hwiring, hvisits⟩ := ih h.1
    rw [run_concat, visits_next, hvisits]
    cases c with
    | register components => exact ⟨hwiring, rfl⟩
    | addHandlers handlers => exact ⟨hwiring, rfl⟩
    | finalize => cases h.2

/-- **After the first finalization** nothing more is wired and nothing more is visited. -/
theorem run_append_of_finalizes {pre : List (Call W C)} (h : finalizes pre = true)
    (post : List (Call W C)) :
    (run typeName w (pre ++ post)).wiring = (run typeName w pre).wiring ∧
      (run typeName w (pre ++ post)).visits = (run typeName w pre).visits := by
  induction post using List.reverseRecOn with
  | nil =>
    rw [List.append_nil]
    exact ⟨rfl, rfl⟩
  | append_singleton post c ih =>
    obtain ⟨hwiring, hvisits⟩ := ih
    rw [← List.append_assoc, run_concat, visits_next, hvisits, ← hwiring]
    cases c with
    | register components => exact ⟨rfl, List.append_nil _⟩
    | addHandlers handlers => exact ⟨rfl, List.append_nil _⟩
    | finalize =>
      -- the flag stands since the calls before, so that this finalization does nothing
      have hdone : (run typeName w (pre ++ post)).dispatcher.finalized = true := by
        rw [dispatcher_run, finalizes_append, h]
        rfl
      have hagain := finalize_of_finalized typeName hdone (run typeName w (pre ++ post)).wiring
      rw [Run.wiring_next_finalize, Run.answer_finalize, hagain]
      exact ⟨rfl, List.append_nil _⟩

end Runs

/-! ### Questions -/

/-- A handler is asked about a component. Each of them is given by the number of those that were
there before it. -/
structure Question where
  component : ℕ
  handler : ℕ
  deriving DecidableEq, Repr

/-- One question stands before another if its component was registered earlier, or if it is about
the same component and its handler was added later. -/
def Question.Before (a b : Question) : Prop :=
  a.component < b.component ∨ (a.component = b.component ∧ b.handler < a.handler)

/-- A handler with a number that notes every question that it is asked. Otherwise it does what the
handler does. -/
def noting (h : ResourceHandler W C × ℕ) : ResourceHandler (W × List Question) (C × ℕ) :=
  fun c w => ((h.1 c.1 w.1).1, (h.1 c.1 w.1).2, w.2 ++ [⟨c.2, h.2⟩])

/-- The questions of a walk through components with the numbers from one number up to another: the
components are gone through in their order, each once, and about each of them the handlers are
asked from the newest on, each at most once. No other component is asked about and no other handler
is asked, and the newest handler is asked about every component. -/
structure Asked (handlers first upTo : ℕ) (questions : List Question) : Prop where
  inOrder : questions.Pairwise Question.Before
  within : ∀ q ∈ questions, first ≤ q.component ∧ q.component < upTo ∧ q.handler < handlers
  newest : 0 < handlers → ∀ i, first ≤ i → i < upTo → ⟨i, handlers - 1⟩ ∈ questions

namespace Asked

variable {handlers first mid upTo : ℕ} {xs ys : List Question}

theorem nil (handlers first : ℕ) : Asked handlers first first [] where
  inOrder := .nil
  within := fun _ hq => absurd hq List.not_mem_nil
  newest := fun _ _ hi hi' => absurd hi' (Nat.not_lt.mpr hi)

/-- The questions about one component. -/
theorem single {asked : List ℕ} (i : ℕ) (h : asked <+: (List.range handlers).reverse)
    (hne : 0 < handlers → asked ≠ []) :
    Asked handlers i (i + 1) (asked.map (⟨i, ·⟩)) where
  inOrder := by
    -- about one component the handlers are asked from the newest on
    have hdescending : (List.range handlers).reverse.Pairwise (fun a b => b < a) :=
      List.pairwise_reverse.mpr List.pairwise_lt_range
    refine List.pairwise_map.mpr ((hdescending.sublist h.sublist).imp fun hlt => ?_)
    exact Or.inr ⟨rfl, hlt⟩
  within := by
    intro q hq
    obtain ⟨j, hj, rfl⟩ := List.mem_map.mp hq
    have hmem : j ∈ List.range handlers := List.mem_reverse.mp (h.subset hj)
    exact ⟨Nat.le_refl i, Nat.lt_succ_self i, List.mem_range.mp hmem⟩
  newest := by
    intro hpos j hj hj'
    obtain rfl : j = i := by omega
    -- the first that is asked is the last of the handlers
    obtain ⟨n, rfl⟩ : ∃ n, handlers = n + 1 := ⟨handlers - 1, by omega⟩
    rw [List.range_succ, List.reverse_append] at h
    cases asked with
    | nil => exact absurd rfl (hne hpos)
    | cons a rest =>
      obtain rfl : a = n := (List.cons_prefix_cons.mp h).1
      exact List.mem_cons_self

theorem append (hx : Asked handlers first mid xs) (hy : Asked handlers mid upTo ys)
    (hmid : first ≤ mid) (hupTo : mid ≤ upTo) : Asked handlers first upTo (xs ++ ys) where
  inOrder := by
    -- all that the first part is about was registered before what the second part is about
    refine List.pairwise_append.mpr ⟨hx.inOrder, hy.inOrder, fun a ha b hb => Or.inl ?_⟩
    have hlt := (hx.within a ha).2.1
    have hle := (hy.within b hb).1
    omega
  within := by
    intro q hq
    rcases List.mem_append.mp hq with hq | hq
    · obtain ⟨hle, hlt, hhandler⟩ := hx.within q hq
      exact ⟨hle, by omega, hhandler⟩
    · obtain ⟨hle, hlt, hhandler⟩ := hy.within q hq
      exact ⟨by omega, hlt, hhandler⟩
  newest := by
    intro hpos i hi hi'
    rcases Nat.lt_or_ge i mid with hlt | hge
    · exact List.mem_append_left _ (hx.newest hpos i hi hlt)
    · exact List.mem_append_right _ (hy.newest hpos i hge hi')

end Asked

/-- Numbered handlers from the newest on are the handlers from the newest on. -/
theorem fst_zipIdx_reverse (handlers : List (ResourceHandler W C)) :
    handlers.zipIdx.reverse.map (·.1) = handlers.reverse := by
  rw [List.map_reverse]
  exact congrArg List.reverse (List.zipIdx_map_fst 0 handlers)

/-- The newest handler has the largest number. -/
theorem snd_zipIdx_reverse (handlers : List (ResourceHandler W C)) :
    handlers.zipIdx.reverse.map (·.2) = (List.range handlers.length).reverse := by
  rw [List.map_reverse, List.range_eq_range']
  exact congrArg List.reverse (List.zipIdx_map_snd 0 handlers)

/-- A dispatcher with its components and handlers numbered, in which every handler notes what it is
asked. -/
def noted (d : Dispatcher W C) : Dispatcher (W × List Question) (C × ℕ) where
  handlers := d.handlers.zipIdx.map noting
  components := d.components.zipIdx
  finalized := d.finalized

end Dispatcher

end ServiceHost
