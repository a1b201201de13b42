import ServiceHost.Proofs.Dispatch
import ServiceHost.Proofs.Registration

/-!
# Starting again

An environment may be started again, after a start that failed or one that went well. The managed
objects take up where they were, and the admin routes are refused if they are installed already.
The walk of the components is not taken up: it is over with the first start, also when that start
failed in the middle of it.

* `Environment.launched` are the environments on which the starts of a run are called, and
  `Environment.launched_cases` says which of them walk components.
* `Environment.starts_settle_iff` says when a start that goes on has all components behind it: when
  the walk of the first start went well. After a walk that failed, whether a later start goes on
  depends on the admin routes and the managed objects alone.
-/

namespace ServiceHost

/-! ### Settled components -/

namespace Dispatcher

variable {C : Type} {typeName : C → String}

/-- Every component of a list is settled by a visit of its own: a handler claimed it, or it was
reported as one that none claims. -/
def Settled (typeName : C → String) (components : List C) (visits : List Visit) : Prop :=
  List.Forall₂ (fun c v => v.Passed ∧ Visited typeName c v) components visits

/-- A walk settles the components exactly when it succeeds. -/
theorem Walked.settled_iff {components : List C} {walk : Walk}
    (h : Walked typeName components walk) :
    Settled typeName components walk.visits ↔ ∃ log, walk.result = .ok log := by
  constructor
  · intro hsettled
    cases hresult : walk.result with
    | ok log => exact ⟨log, rfl⟩
    | error e =>
      -- the last visit has failed, and yet it settles its component
      obtain ⟨v, hv, houtcome⟩ := Option.map_eq_some_iff.mp (h.last e hresult)
      obtain ⟨i, hi, rfl⟩ := List.getElem_of_mem (List.mem_of_getLast? hv)
      have hi' : i < components.length := by rw [hsettled.length_eq]; exact hi
      obtain ⟨⟨claimed, hclaimed⟩, -⟩ := hsettled.get hi' hi
      rw [List.get_eq_getElem, houtcome] at hclaimed
      cases hclaimed
  · rintro ⟨log, hresult⟩
    obtain ⟨hlength, hpassed⟩ := h.all log hresult
    have hvisited := h.visited
    -- a walk that succeeds has visited all of them
    rw [List.take_of_length_le hlength.ge] at hvisited
    refine List.forall₂_iff_get.mpr ⟨hvisited.length_eq, fun i hi hi' => ?_⟩
    exact ⟨hpassed _ (List.get_mem _ _), hvisited.get hi hi'⟩

end Dispatcher

namespace Environment

variable {σ : Type}

open Dispatcher (Walked Settled repeatedWalk)

/-! ### Calls -/

/-- A call on an environment: components are registered, or the environment is started. -/
inductive Call (σ : Type) where
  | register (components : List (Component σ))
  | start

/-- The environments on which calls start, in order. -/
def launched (e : Environment σ) : List (Call σ) → List (Environment σ)
  | [] => []
  | .register components :: rest => launched (e.register components).1 rest
  | .start :: rest => e :: launched e.start.environment rest

/-- The components that are registered when the first start is called. -/
def due (e : Environment σ) : List (Call σ) → List (Component σ)
  | .register components :: rest => due (e.register components).1 rest
  | _ => e.dispatcher.components

/-- A start that goes on behind the components: it reports success, or it starts a managed
object. -/
def Started.GoesOn (s : Started σ) : Prop := (∃ log, s.result = .ok log) ∨ s.moments ≠ []

/-! ### Starts after the first -/

/-- Nothing is walked in an environment whose components have been walked. -/
theorem finalize_of_finalized {e : Environment σ} (h : e.dispatcher.finalized = true) :
    e.finalize = (repeatedWalk, e) := by
  unfold finalize
  rw [Dispatcher.finalize_of_finalized _ h]

theorem finalized_start {e : Environment σ} :
    e.start.environment.dispatcher.finalized = true := by
  rw [dispatcher_start]
  change (e.dispatcher.finalize Component.typeName e.wiring).2.1.finalized = true
  -- the flag is set before the walk, so it does not matter how the walk ends
  cases h : e.dispatcher.finalized with
  | true => rw [Dispatcher.finalize_of_finalized _ h, h]
  | false =>
    unfold Dispatcher.finalize
    simp only [h, Bool.false_eq_true, ↓reduceIte]

/-! ### Runs -/

/-- No start of an environment whose components have been walked walks any. -/
theorem finalized_of_mem_launched {e : Environment σ} (h : e.dispatcher.finalized = true)
    {calls : List (Call σ)} {x : Environment σ} (hx : x ∈ e.launched calls) :
    x.dispatcher.finalized = true := by
  -- along the calls, none of which takes the flag back
  induction calls generalizing e with
  | nil => exact absurd hx List.not_mem_nil
  | cons c rest ih =>
    cases c with
    | register components =>
      have hlate : (e.register components).1.dispatcher.finalized = true := h
      exact ih hlate hx
    | start =>
      rcases List.mem_cons.mp hx with rfl | hx
      · exact h
      · exact ih finalized_start hx

/-- **Which starts walk components.** There is no start, or the first one walks all components
that are due and no later one walks any. -/
theorem launched_cases {e : Environment σ} (fresh : e.dispatcher.finalized = false)
    (calls : List (Call σ)) :
    e.launched calls = [] ∨ ∃ first later, e.launched calls = first :: later ∧
      Walked Component.typeName (e.due calls) first.start.walk ∧
      ∀ x ∈ later, x.dispatcher.finalized = true := by
  induction calls generalizing e with
  | nil => exact Or.inl rfl
  | cons c rest ih =>
    cases c with
    -- what is registered before the first start is due to it
    | register components => exact ih fresh
    | start =>
      refine Or.inr ⟨e, _, rfl, ?_, fun x hx => finalized_of_mem_launched finalized_start hx⟩
      rw [walk_start]
      exact Dispatcher.walked_finalize _ fresh e.wiring

/-- **When a start has all components behind it.** Take any run of registrations and starts on an
environment whose components have not been walked. Every start of it that goes on finds the
components settled that were registered before the first start, exactly when the walk of the first
start met no error or when no start goes on. A later start walks no component, and whether it
reports success depends on the admin routes and the managed objects alone. -/
theorem starts_settle_iff (e : Environment σ) (fresh : e.dispatcher.finalized = false)
    (calls : List (Call σ)) :
    let started := (e.launched calls).map start
    ((∀ s ∈ started, s.GoesOn →
        Settled Component.typeName (e.due calls) (started.flatMap (·.walk.visits))) ↔
      (∀ first ∈ started.head?, ∃ log, first.walk.result = .ok log) ∨
        ∀ s ∈ started, ¬ s.GoesOn) ∧
      ∀ x ∈ (e.launched calls).tail, x.start.walk = repeatedWalk ∧
        ((∃ log, x.start.result = .ok log) ↔
          (∃ admin, x.installRoutes.1 = .ok admin) ∧
            x.installRoutes.2.1.startManaged.1 = .ok ()) := by
  intro started
  rcases launched_cases fresh calls with hnone | ⟨first, later, hlaunched, hwalked, hlater⟩
  · -- nothing is started
    have hstarted : started = [] := congrArg (List.map start) hnone
    rw [hstarted, hnone]
    exact ⟨⟨fun _ => Or.inr fun s hs => absurd hs List.not_mem_nil,
      fun _ s hs => absurd hs List.not_mem_nil⟩, fun x hx => absurd hx List.not_mem_nil⟩
  · have hstarted : started = first.start :: later.map start := congrArg (List.map start) hlaunched
    have hrepeated : ∀ x ∈ later, x.start.walk = repeatedWalk := by
      intro x hx
      rw [walk_start, finalize_of_finalized (hlater x hx)]
    -- only the first start visits components
    have hvisits : started.flatMap (·.walk.visits) = first.start.walk.visits := by
      have hnone : (later.map start).flatMap (·.walk.visits) = [] := by
        refine List.flatMap_eq_nil_iff.mpr fun s hs => ?_
        obtain ⟨x, hx, rfl⟩ := List.mem_map.mp hs
        rw [hrepeated x hx]
        rfl
      rw [hstarted, List.flatMap_cons, hnone, List.append_nil]
    rw [hvisits, hwalked.settled_iff, hlaunched]
    refine ⟨?_, fun x hx => ⟨hrepeated x hx, ?_⟩⟩
    · rw [hstarted]
      constructor
      · -- if any start goes on, the walk of the first one is settled, so it succeeded
        intro h
        by_cases hgoes : ∀ s ∈ first.start :: later.map start, ¬ s.GoesOn
        · exact Or.inr hgoes
        · push Not at hgoes
          obtain ⟨s, hs, hgoes⟩ := hgoes
          refine Or.inl fun x hx => ?_
          rw [List.head?_cons] at hx
          obtain rfl := Option.some.inj hx
          exact h s hs hgoes
      · rintro (h | h) s hs hgoes
        · exact h first.start rfl
        · exact absurd hgoes (h s hs)
    · -- a later start has an empty log of endpoints, and goes on to the admin routes
      have hfinalize := finalize_of_finalized (hlater x hx)
      have hiff := start_ok_iff (show x.finalize.1.result = .ok [] by rw [hfinalize]; rfl)
      rw [hfinalize] at hiff
      exact hiff

/-- An environment with a server, and nothing registered. -/
def served : Environment Nat :=
  (({ applicationContextPath := "/api" } : ServerConfig).buildServer
    (ofConfig "service" {} ⟨"root"⟩)).2

/-- A component with a page. -/
def page (typeName path : String) : Component Nat where
  typeName := typeName
  resource := some { method := .get, path, handler := fun _ s => (.text 200 path, s) }

/-- A component with a managed object. One of its starts fails, given by its number. -/
def pool (failing : Option Nat) : Component Nat where
  typeName := "Pool"
  managed := some
    { start := fun n => .done (if failing = some n then .error "refused" else .ok ())
      stop := fun _ => {} }

/-- A component with a task. -/
def job : Component Nat where
  typeName := "Job"
  task := some { name := "job", execute := fun _ s => (.output "done", s) }

/-- Two starts of which the first one fails at the managed object, behind the components. -/
def refusedCalls : List (Call Nat) :=
  [.register [pool (some 0), page "Page" "/x"], .register [job], .start, .register [job], .start]

theorem starts_settle_iff_refused :
    served.dispatcher.finalized = false ∧
      let started := (served.launched refusedCalls).map start
      (∃ s ∈ started, s.GoesOn) ∧
        Settled Component.typeName (served.due refusedCalls)
          (started.flatMap (·.walk.visits)) := by
  have hfresh : served.dispatcher.finalized = false := rfl
  have hiff := (starts_settle_iff served hfresh refusedCalls).1
  obtain ⟨first, later, hlaunched, hwalk, hmoments⟩ :
      ∃ first later, served.launched refusedCalls = first :: later ∧
        (∃ log, first.start.walk.result = .ok log) ∧ first.start.moments ≠ [] :=
    ⟨_, _, rfl, ⟨_, rfl⟩, List.cons_ne_nil _ _⟩
  rw [hlaunched] at hiff ⊢
  -- the start that fails has started the pool
  have hgoes : first.start.GoesOn := Or.inr hmoments
  refine ⟨hfresh, ⟨first.start, List.mem_cons_self, hgoes⟩, ?_⟩
  refine hiff.mpr (Or.inl fun s hs => ?_) first.start List.mem_cons_self hgoes
  obtain rfl := Option.some.inj hs
  exact hwalk

/-- Two starts of which the first one fails at a route that there is already. -/
def conflictingCalls : List (Call Nat) :=
  [.register [pool none, page "A" "/x", page "B" "/x", job], .start, .start]

/-- The second start reports success and starts the pool, while nobody has been asked about the
task. -/
theorem not_settled_conflicting :
    let started := (served.launched conflictingCalls).map start
    (∃ s ∈ started, s.result = .ok [] ∧ s.moments ≠ [] ∧ s.GoesOn) ∧
      ¬ Settled Component.typeName (served.due conflictingCalls)
        (started.flatMap (·.walk.visits)) := by
  intro started
  obtain ⟨first, second, hstarted, hresult, hmoments⟩ :
      ∃ first second, started = [first, second] ∧ second.result = .ok [] ∧
        second.moments ≠ [] :=
    ⟨_, _, rfl, rfl, List.cons_ne_nil _ _⟩
  refine ⟨⟨second, ?_, hresult, hmoments, Or.inl ⟨[], hresult⟩⟩, fun hsettled => ?_⟩
  · rw [hstarted]
    exact List.mem_cons_of_mem _ List.mem_cons_self
  · -- there are four components, and three of them have been visited
    have hcomponents : (served.due conflictingCalls).length = 4 := rfl
    have hvisits : (started.flatMap (·.walk.visits)).length = 3 := rfl
    have hlength := hsettled.length_eq
    omega

end Environment

end ServiceHost
