import ServiceHost.Proofs.DispatchTrace

/-!
# Runs of a dispatcher

Components and handlers are numbered in the order of their adding, and every handler notes what it
is asked, so that a run of calls tells which handlers were asked about which components.

* `Dispatcher.notedRun_eq` says that the notes change nothing else.
* `Dispatcher.run_concat_finalize` is the step in which the components are walked: the handlers
  that are there answer about the components that are there, up to the first on which one fails.
  Before it and after it nobody is asked.
* `Dispatcher.run_dispatches_once` says for every run what is walked, who is asked, and what the
  calls show.
-/

namespace ServiceHost

namespace Dispatcher

variable {W C : Type}

/-! ### Runs that note the questions -/

/-- A call in which components and handlers are numbered from two numbers on, and every handler
notes what it is asked. -/
def Call.numbered (components handlers : ℕ) :
    Call W C → Call (W × List Question) (C × ℕ)
  | .register more => .register (more.zipIdx components)
  | .addHandlers more => .addHandlers ((more.zipIdx handlers).map noting)
  | .finalize => .finalize

/-- Calls in which components and handlers are numbered in the order of their adding, from two
numbers on. -/
def numberedFrom (components handlers : ℕ) :
    List (Call W C) → List (Call (W × List Question) (C × ℕ))
  | [] => []
  | c :: rest =>
    c.numbered components handlers
      :: numberedFrom (components + c.components.length) (handlers + c.handlers.length) rest

/-- The run of calls in which every question is noted. -/
def notedRun (typeName : C → String) (w : W) (calls : List (Call W C)) :
    Run (W × List Question) (C × ℕ) :=
  run (fun c => typeName c.1) (w, []) (numberedFrom 0 0 calls)

/-- The questions that the handlers are asked in a run, in order. -/
def questions (typeName : C → String) (w : W) (calls : List (Call W C)) : List Question :=
  (notedRun typeName w calls).wiring.2

theorem numberedFrom_append (components handlers : ℕ) (xs ys : List (Call W C)) :
    numberedFrom components handlers (xs ++ ys) =
      numberedFrom components handlers xs ++
        numberedFrom (components + (registered xs).length) (handlers + (added xs).length) ys := by
  induction xs generalizing components handlers with
  | nil => rfl
  | cons c rest ih =>
    -- the numbers of the second part begin behind all that the first part adds
    have hregistered : (registered (c :: rest)).length =
        c.components.length + (registered rest).length := by
      rw [registered, List.flatMap_cons, List.length_append]
      rfl
    have hadded : (added (c :: rest)).length = c.handlers.length + (added rest).length := by
      rw [added, List.flatMap_cons, List.length_append]
      rfl
    rw [List.cons_append, numberedFrom, ih, hregistered, hadded, Nat.add_assoc, Nat.add_assoc]
    rfl

theorem finalizes_numberedFrom (components handlers : ℕ) (calls : List (Call W C)) :
    finalizes (numberedFrom components handlers calls) = finalizes calls := by
  induction calls generalizing components handlers with
  | nil => rfl
  | cons c rest ih =>
    have hcall : (c.numbered components handlers).isFinalize = c.isFinalize := by
      cases c <;> rfl
    change ((c.numbered components handlers).isFinalize || finalizes (numberedFrom _ _ rest)) = _
    rw [hcall, ih]
    rfl

theorem registered_numberedFrom (components handlers : ℕ) (calls : List (Call W C)) :
    registered (numberedFrom components handlers calls) =
      (registered calls).zipIdx components := by
  induction calls generalizing components handlers with
  | nil => rfl
  | cons c rest ih =>
    have hcall : (c.numbered components handlers).components =
        c.components.zipIdx components := by
      cases c <;> rfl
    change (c.numbered components handlers).components ++ registered (numberedFrom _ _ rest) =
      (c.components ++ registered rest).zipIdx components
    rw [hcall, ih, List.zipIdx_append]

theorem added_numberedFrom (components handlers : ℕ) (calls : List (Call W C)) :
    added (numberedFrom components handlers calls) =
      ((added calls).zipIdx handlers).map noting := by
  induction calls generalizing components handlers with
  | nil => rfl
  | cons c rest ih =>
    have hcall : (c.numbered components handlers).handlers =
        (c.handlers.zipIdx handlers).map noting := by
      cases c <;> rfl
    change (c.numbered components handlers).handlers ++ added (numberedFrom _ _ rest) =
      ((c.handlers ++ added rest).zipIdx handlers).map noting
    rw [hcall, ih, List.zipIdx_append, List.map_append]

section NotedRuns

variable (typeName : C → String) (w : W)

theorem notedRun_concat (calls : List (Call W C)) (c : Call W C) :
    notedRun typeName w (calls ++ [c]) =
      (notedRun typeName w calls).next (fun c => typeName c.1)
        (c.numbered (registered calls).length (added calls).length) := by
  -- the numbers of a run begin at zero
  rw [notedRun, numberedFrom_append, Nat.zero_add, Nat.zero_add]
  exact run_concat _ _ _ _

/-- The dispatcher of a run that notes the questions is that of the run, with everything in it
numbered. -/
theorem dispatcher_notedRun (calls : List (Call W C)) :
    (notedRun typeName w calls).dispatcher = (run typeName w calls).dispatcher.noted := by
  rw [notedRun, dispatcher_run, dispatcher_run, added_numberedFrom, registered_numberedFrom,
    finalizes_numberedFrom]
  rfl

/-- **Notes change nothing.** A run in which every question is noted gives the same answers and
leaves the same wiring. -/
theorem notedRun_eq (calls : List (Call W C)) :
    (notedRun typeName w calls).answers = (run typeName w calls).answers ∧
      (notedRun typeName w calls).wiring.1 = (run typeName w calls).wiring := by
  induction calls using List.reverseRecOn with
  | nil => exact ⟨rfl, rfl⟩
  | append_singleton calls c ih =>
    obtain ⟨hanswers, hwiring⟩ := ih
    have hd := dispatcher_notedRun typeName w calls
    rw [notedRun_concat, run_concat, answers_next, answers_next, hanswers]
    cases c with
    | register components =>
      refine ⟨?_, hwiring⟩
      -- the numbers are not in the names
      have hnames : (components.zipIdx (registered calls).length).map (fun c => typeName c.1) =
          components.map typeName := by
        rw [← Function.comp_def, ← List.map_map, List.zipIdx_map_fst]
      have hempty : (components.zipIdx (registered calls).length).isEmpty =
          components.isEmpty := by
        cases components <;> rfl
      rw [Call.numbered, Run.answer_register, Run.answer_register, hd]
      unfold register
      simp only [hnames, hempty]
      rfl
    | addHandlers handlers => exact ⟨rfl, hwiring⟩
    | finalize =>
      have hw : (notedRun typeName w calls).wiring =
          ((run typeName w calls).wiring, questions typeName w calls) := Prod.ext hwiring rfl
      rw [Call.numbered, Run.answer_finalize, Run.answer_finalize, Run.wiring_next_finalize,
        Run.wiring_next_finalize, hd, hw]
      -- a walk that has been made is not made again, and the first one is the same with notes
      cases hdone : (run typeName w calls).dispatcher.finalized with
      | true =>
        have hdone' : (run typeName w calls).dispatcher.noted.finalized = true := hdone
        rw [finalize_of_finalized _ hdone, finalize_of_finalized _ hdone']
        exact ⟨rfl, rfl⟩
      | false =>
        obtain ⟨passes, -, hfinalize⟩ := finalize_consulted typeName hdone
          (run typeName w calls).wiring (questions typeName w calls)
        rw [hfinalize]
        exact ⟨rfl, rfl⟩

/-- Before the first finalization no handler is asked. -/
theorem questions_of_not_finalizes {calls : List (Call W C)} (h : finalizes calls = false) :
    questions typeName w calls = [] := by
  have hcalls : finalizes (numberedFrom 0 0 calls) = false := by rw [finalizes_numberedFrom, h]
  have hwiring := (run_of_not_finalizes (fun c : C × ℕ => typeName c.1) (w, []) hcalls).1
  exact congrArg Prod.snd hwiring

/-- After the first finalization no handler is asked. -/
theorem questions_append_of_finalizes {pre : List (Call W C)} (h : finalizes pre = true)
    (post : List (Call W C)) : questions typeName w (pre ++ post) = questions typeName w pre := by
  have hpre : finalizes (numberedFrom 0 0 pre) = true := by rw [finalizes_numberedFrom, h]
  -- the questions are in the wiring, which rests after the first finalization
  have hwiring := (run_append_of_finalizes (fun c : C × ℕ => typeName c.1) (w, []) hpre
    (numberedFrom (0 + (registered pre).length) (0 + (added pre).length) post)).1
  rw [questions, notedRun, numberedFrom_append, hwiring]
  rfl

/-- **The first finalization** of a run goes through the components that are there, and asks the
handlers that are there. -/
theorem run_concat_finalize {calls : List (Call W C)} (h : finalizes calls = false) :
    ∃ walk passes,
      (run typeName w calls).answer typeName .finalize = .finalized walk ∧
      (run typeName w (calls ++ [.finalize])).visits = walk.visits ∧
      Walked typeName (registered calls) walk ∧
      WalkedBy typeName (added calls) (registered calls) (registered calls) 0 w passes walk
        (run typeName w (calls ++ [.finalize])).wiring ∧
      questions typeName w (calls ++ [.finalize]) = passes.flatten.map (·.toQuestion) := by
  have hd := dispatcher_run typeName w calls
  have hdone : (run typeName w calls).dispatcher.finalized = false := by rw [hd, h]
  obtain ⟨hwiring, hvisits⟩ := run_of_not_finalizes typeName w h
  obtain ⟨passes, hwalkedBy, hfinalize⟩ := finalize_consulted typeName hdone w []
  have hwalked := walked_finalize typeName hdone w
  have hquestions : questions typeName w (calls ++ [.finalize]) =
      passes.flatten.map (·.toQuestion) := by
    -- nothing is noted before it
    have hw : (notedRun typeName w calls).wiring = (w, []) :=
      Prod.ext ((notedRun_eq typeName w calls).2.trans hwiring)
        (questions_of_not_finalizes typeName w h)
    rw [questions, notedRun_concat, Call.numbered, Run.wiring_next_finalize,
      dispatcher_notedRun, hw, hfinalize]
    rfl
  refine ⟨((run typeName w calls).dispatcher.finalize typeName w).1, passes, ?_, ?_, ?_, ?_,
    hquestions⟩
  · rw [Run.answer_finalize, hwiring]
  · rw [run_concat, visits_next, hvisits, Run.answer_finalize, hwiring]
    rfl
  · -- the handlers and the components that are there are those of the calls so far
    rw [hd] at hwalked ⊢
    exact hwalked
  · rw [run_concat, Run.wiring_next_finalize, hwiring]
    rw [hd] at hwalkedBy ⊢
    exact hwalkedBy

end NotedRuns

/-! ### What a run does -/

/-- The warning about components that are registered too late. -/
def lateWarning (typeName : C → String) (components : List C) : Event :=
  log .warn "Components registered after startup are not dispatched"
    [("components", .text (Text.quotedList (components.map typeName)))]

/-- What is walked in a run, who is asked, and what the calls show. -/
structure DispatchesOnce (typeName : C → String) (w : W) (calls : List (Call W C)) : Prop where
  /-- That the questions are noted changes neither the answers nor the wiring. -/
  noted : (notedRun typeName w calls).answers = (run typeName w calls).answers ∧
    (notedRun typeName w calls).wiring.1 = (run typeName w calls).wiring
  components_eq : (run typeName w calls).dispatcher.components = registered calls
  /-- The components that are visited are asked about, each in one pass through handlers that were
  added before the first finalization. -/
  asked : Asked (added (beforeFinalize calls)).length 0 (run typeName w calls).visits.length
    (questions typeName w calls)
  /-- The visits are those of the first finalization: of the components that were registered before
  it, up to the first on which a handler fails. The passes say what the handlers have answered
  about each of them, and no other question is asked in the run. -/
  first : finalizes calls = true → ∃ walk passes,
    (run typeName w calls).answers[(beforeFinalize calls).length]? = some (.finalized walk) ∧
      (run typeName w calls).visits = walk.visits ∧
      Walked typeName (registered (beforeFinalize calls)) walk ∧
      WalkedBy typeName (added (beforeFinalize calls)) (registered (beforeFinalize calls))
        (registered (beforeFinalize calls)) 0 w passes walk (run typeName w calls).wiring ∧
      questions typeName w calls = passes.flatten.map (·.toQuestion)
  /-- A later finalization succeeds with an empty log and asks nobody. -/
  later : ∀ pre post, calls = pre ++ .finalize :: post → finalizes pre = true →
    (run typeName w calls).answers[pre.length]? = some (.finalized repeatedWalk) ∧
      questions typeName w (pre ++ [.finalize]) = questions typeName w pre
  /-- There is one warning about the components that a call registers after the first finalization,
  if there are any, and no other. -/
  warned : ∀ pre components post, calls = pre ++ .register components :: post →
    (run typeName w calls).answers[pre.length]? = some (.registered
      (if finalizes pre = true ∧ components ≠ [] then [lateWarning typeName components] else []))

/-- **Components are dispatched once.** Take any run of calls on a dispatcher, with any handlers.
Each component is walked at most once, and those that are walked are the components registered
before the first finalization, up to the first one on which a handler fails. Only handlers that
were added before the first finalization are asked. Every later finalization asks nobody and
returns an empty log. A registration after the first finalization is warned about if it adds
anything, in one warning with the type names in order, and no other registration is. The
components are always all that were registered. -/
theorem run_dispatches_once (typeName : C → String) (w : W) (calls : List (Call W C)) :
    DispatchesOnce typeName w calls := by
  have hfirst : finalizes calls = true → ∃ walk passes,
      (run typeName w calls).answers[(beforeFinalize calls).length]? = some (.finalized walk) ∧
        (run typeName w calls).visits = walk.visits ∧
        Walked typeName (registered (beforeFinalize calls)) walk ∧
        WalkedBy typeName (added (beforeFinalize calls)) (registered (beforeFinalize calls))
          (registered (beforeFinalize calls)) 0 w passes walk (run typeName w calls).wiring ∧
        questions typeName w calls = passes.flatten.map (·.toQuestion) := by
    intro h
    obtain ⟨hbefore, later, hcalls⟩ := eq_beforeFinalize_append h
    obtain ⟨walk, passes, hanswer, hvisits, hwalked, hwalkedBy, hquestions⟩ :=
      run_concat_finalize typeName w hbefore
    have hdone : finalizes (beforeFinalize calls ++ [.finalize]) = true := by
      rw [finalizes_append, hbefore]
      rfl
    have hsplit : calls = (beforeFinalize calls ++ [.finalize]) ++ later := by
      rw [List.append_assoc]
      exact hcalls
    -- the calls behind the first finalization change nothing of this
    have hkept := run_append_of_finalizes typeName w hdone later
    have hsilent := questions_append_of_finalizes typeName w hdone later
    have hgiven := getElem?_answers_run typeName w (beforeFinalize calls) .finalize later
    rw [← hsplit] at hkept hsilent
    rw [← hcalls, hanswer] at hgiven
    refine ⟨walk, passes, hgiven, hkept.2.trans hvisits, hwalked, ?_, hsilent.trans hquestions⟩
    rw [hkept.1]
    exact hwalkedBy
  refine ⟨notedRun_eq typeName w calls, ?_, ?_, hfirst, ?_, ?_⟩
  · rw [dispatcher_run]
  · cases h : finalizes calls with
    | false =>
      -- without a finalization there are no visits and no questions
      obtain ⟨-, hvisits⟩ := run_of_not_finalizes typeName w h
      rw [hvisits, questions_of_not_finalizes typeName w h]
      exact .nil _ 0
    | true =>
      obtain ⟨walk, passes, -, hvisits, -, hwalkedBy, hquestions⟩ := hfirst h
      rw [hvisits, hquestions, ← hwalkedBy.length_passes, ← Nat.zero_add passes.length]
      exact asked_of_passes hwalkedBy.pass
  · rintro pre post rfl hpre
    have hdone : (run typeName w pre).dispatcher.finalized = true := by rw [dispatcher_run, hpre]
    refine ⟨?_, questions_append_of_finalizes typeName w hpre _⟩
    rw [getElem?_answers_run, Run.answer_finalize, finalize_of_finalized _ hdone]
  · -- the warning looks at the flag, which stands after the first finalization
    rintro pre components post rfl
    rw [getElem?_answers_run, Run.answer_register, dispatcher_run]
    unfold register
    cases components with
    | nil => simp
    | cons c rest => cases hpre : finalizes pre <;> simp [lateWarning]

end Dispatcher

end ServiceHost
