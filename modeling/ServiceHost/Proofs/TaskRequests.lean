import ServiceHost.Proofs.AdminSurface
import ServiceHost.Proofs.TaskParameters

/-!
# Requests for tasks

A request to the admin surface names a task in its path and passes parameters in its query and, if
it declares a form, in its body. Whether a task runs, which one, and with what, is settled in turn
by the router, the registry, the header fields and the size of the body.

* `Request.DeclaresForm` says what makes the body of a request a form, and `Request.exists_params?`
  which parameters a request passes.
* `Task.noting` makes a task note that it is run, so that the notes tell which tasks were run.
* `AdminEnvironment.serves_tasks` puts this together for every request below the root of tasks.
-/

namespace ServiceHost

/-! ### Parameters of a request -/

namespace Request

/-- Whether a request declares its body a form. The value of its first content type holds nothing
but visible characters of ASCII, blanks and tabs, and begins with the name of the type of forms. -/
def DeclaresForm (r : Request) : Prop :=
  ∃ value, r.header? "content-type" = some value ∧
    (∀ c ∈ value.toList, c = '\t' ∨ 0x20 ≤ c.toNat ∧ c.toNat < 0x7F) ∧
    "application/x-www-form-urlencoded".toList <+: value.toList

theorem isForm_iff {r : Request} : r.isForm = true ↔ r.DeclaresForm := by
  unfold isForm DeclaresForm
  cases r.header? "content-type" with
  | none => simp
  | some value =>
    simp only [Bool.and_eq_true, List.all_eq_true, Bool.or_eq_true, beq_iff_eq, decide_eq_true_eq,
      beginsWith_iff, Option.some.injEq, exists_eq_left']

/-- Whether a request declares a form that is too long to be read. -/
def Overlong (r : Request) : Prop := r.DeclaresForm ∧ 65536 < r.body.length

/-- Whether parameters are those that a request passes: the pairs of its query and then, if it
declares a form, those of its body, by their keys. -/
structure Passes (r : Request) (params : Params) : Prop where
  form : r.DeclaresForm → params.Groups (r.target.pairs ++ Form.pairs r.body)
  plain : ¬ r.DeclaresForm → params.Groups r.target.pairs

theorem params?_of_overlong {r : Request} (h : r.Overlong) : r.params? = none := by
  have hlength : ¬ r.body.length ≤ maxFormBytes := Nat.not_le.mpr h.2
  unfold params?
  rw [isForm_iff.mpr h.1, if_pos rfl, if_neg hlength]

/-- Every other request passes parameters. -/
theorem exists_params? {r : Request} (h : ¬ r.Overlong) :
    ∃ params, r.params? = some params ∧ r.Passes params := by
  by_cases hform : r.DeclaresForm
  · -- a form that is not too long is read to its end
    have hlength : r.body.length ≤ maxFormBytes := Nat.not_lt.mp fun hlong => h ⟨hform, hlong⟩
    have hparams : r.params? =
        some ((Params.addPairs .empty r.target.pairs).addPairs (Form.pairs r.body)) := by
      unfold params? Target.pairs
      rw [isForm_iff.mpr hform, if_pos rfl, if_pos hlength]
      cases r.target.query with
      | none => rfl
      | some query => rfl
    -- the pairs of the body go behind those of the query
    have hgroups := (Params.groups_addPairs r.target.pairs).addPairs (Form.pairs r.body)
    exact ⟨_, hparams, fun _ => hgroups, fun hnot => absurd hform hnot⟩
  · have hnot : r.isForm = false := by
      rw [← Bool.not_eq_true, isForm_iff]
      exact hform
    exact ⟨_, params?_of_not_isForm hnot, fun hyes => absurd hyes hform,
      fun _ => Params.groups_addPairs _⟩

end Request

/-! ### Runs -/

variable {σ : Type}

/-- The answer that is due when a task has ended. -/
def TaskOutcome.AnsweredBy (outcome : TaskOutcome) (response : Response) : Prop :=
  match outcome with
  | .output text => response = .text 200 text
  | .failed cause => response = .text 500 (cause ++ "\n")
  | .panicked _ => response.status = 500

theorem TaskOutcome.answeredBy_response (outcome : TaskOutcome) :
    outcome.AnsweredBy outcome.response := by
  cases outcome <;> rfl

namespace Task

/-- Makes a task note its number and its parameters whenever it is run. -/
def noting (t : Task σ × ℕ) : Task (σ × List (ℕ × Params)) where
  name := t.1.name
  execute params s :=
    let (outcome, after) := t.1.execute params s.1
    (outcome, after, s.2 ++ [(t.2, params)])

/-- Tasks that note when they are run. -/
def noted (tasks : List (Task σ)) : List (Task (σ × List (ℕ × Params))) := tasks.zipIdx.map noting

theorem map_name_noted (tasks : List (Task σ)) : (noted tasks).map name = tasks.map name := by
  -- a task that notes its runs keeps its name
  have hname : name ∘ noting (σ := σ) = name ∘ Prod.fst := rfl
  rw [noted, List.map_map, hname, ← List.map_map, List.zipIdx_map_fst]

theorem last_noted {tasks : List (Task σ)} {key : String} {i : ℕ} {task : Task σ}
    (h : IsLast name tasks key i task) : IsLast name (noted tasks) key i (noting (task, i)) where
  getElem?_eq := by
    rw [noted, List.getElem?_map, List.getElem?_zipIdx, h.getElem?_eq, Nat.zero_add]
    rfl
  name_eq := h.name_eq
  later := by
    rw [List.map_drop, map_name_noted, ← List.map_drop]
    exact h.later

end Task

namespace TaskRegistry

/-- The registry after tasks were registered in order. -/
def ofTasks (tasks : List (Task σ)) : TaskRegistry σ := tasks.foldl register .empty

theorem find?_ofTasks (tasks : List (Task σ)) (name : String) :
    (ofTasks tasks).find? name = lastNamed Task.name tasks name := by
  have hheld := KeyMap.Overwrites.foldl Task.name .empty tasks name
  rwa [KeyMap.find?_empty, Option.or_none] at hheld

section Run

variable {tasks : List (Task σ)} {name : String} {request : Request}

theorem run_of_unknown (h : name ∉ tasks.map Task.name) (scope : Option String) (s : σ) :
    (ofTasks tasks).run scope name request s =
      { response := .text 404 ("no such task: " ++ Text.quoted name ++ "\n"), state := s } := by
  have hnone : (ofTasks tasks).find? name = none := by
    rw [find?_ofTasks, ← Option.not_isSome_iff_eq_none, isSome_lastNamed]
    exact h
  rw [run, hnone]
  rfl

theorem run_of_overlong (h : name ∈ tasks.map Task.name) (hlong : request.Overlong)
    (scope : Option String) (s : σ) :
    (ofTasks tasks).run scope name request s =
      { response := .text 400 "length limit exceeded\n", state := s } := by
  obtain ⟨i, task, hlast⟩ := exists_last h
  rw [run, find?_ofTasks, lastNamed_of_last hlast]
  -- the parameters are read once the task is found and before it is run
  simp only [Request.params?_of_overlong hlong]

theorem run_of_last {i : ℕ} {task : Task σ} (h : IsLast Task.name tasks name i task)
    {params : Params} (hparams : request.params? = some params) (scope : Option String) (s : σ) :
    ((ofTasks tasks).run scope name request s).response = (task.execute params s).1.response ∧
      ((ofTasks tasks).run scope name request s).state = (task.execute params s).2 := by
  rw [run, find?_ofTasks, lastNamed_of_last h]
  simp only [hparams]
  exact ⟨trivial, trivial⟩

end Run

end TaskRegistry

/-! ### The admin surface -/

namespace AdminEnvironment

/-- What a request does on the admin surface of these tasks in a state, whatever the health checks
are: how it is answered, what it leaves of the state, and which tasks it runs, by their numbers and
with their parameters. -/
structure Does (path : String) (tasks : List (Task σ)) (request : Request) (s : σ)
    (response : Response) (after : σ) (ran : List (ℕ × Params)) : Prop where
  answered : ∀ health scope,
    ((opened path health (.ofTasks tasks)).serve scope request s).response = response
  leaves : ∀ health scope,
    ((opened path health (.ofTasks tasks)).serve scope request s).state = after
  /-- Tasks that note when they are run note just these runs, and nothing else is different. -/
  noted : ∀ health scope log,
    ((opened path health (.ofTasks (Task.noted tasks))).serve scope request (s, log)).response =
        response ∧
      ((opened path health (.ofTasks (Task.noted tasks))).serve scope request (s, log)).state =
        (after, log ++ ran)

section Requests

variable {path name : String} {tasks : List (Task σ)} {request : Request}

/-- A request that is answered without the tasks runs none. -/
theorem does_nothing {response : Response}
    (h : ∀ health scope s, (opened path health (.ofTasks tasks)).serve scope request s =
      { response, state := s })
    (hnoted : ∀ health scope s,
      (opened path health (.ofTasks (Task.noted tasks))).serve scope request s =
        { response, state := s }) (s : σ) :
    Does path tasks request s response s [] where
  answered health scope := by rw [h]
  leaves health scope := by rw [h]
  noted health scope log := by
    rw [hnoted, List.append_nil]
    exact ⟨rfl, rfl⟩

variable (hmethod : request.method = .post)
  (hpath : request.target.path = taskRoot (dropFinalSlash path) ++ name)

include hmethod hpath

theorem does_of_unknown (h : name ∉ tasks.map Task.name) (s : σ) :
    Does path tasks request s (.text 404 ("no such task: " ++ Text.quoted name ++ "\n")) s [] := by
  refine does_nothing (fun health scope s => ?_) (fun health scope s => ?_) s
  · rw [serve_post hpath hmethod, TaskRegistry.run_of_unknown h]
  · -- tasks that note their runs have the same names
    rw [← Task.map_name_noted] at h
    rw [serve_post hpath hmethod, TaskRegistry.run_of_unknown h]

theorem does_of_overlong (h : name ∈ tasks.map Task.name) (hlong : request.Overlong) (s : σ) :
    Does path tasks request s (.text 400 "length limit exceeded\n") s [] := by
  refine does_nothing (fun health scope s => ?_) (fun health scope s => ?_) s
  · rw [serve_post hpath hmethod, TaskRegistry.run_of_overlong h hlong]
  · rw [← Task.map_name_noted] at h
    rw [serve_post hpath hmethod, TaskRegistry.run_of_overlong h hlong]

theorem does_of_last {i : ℕ} {task : Task σ} (h : IsLast Task.name tasks name i task)
    {params : Params} (hparams : request.params? = some params) (s : σ) :
    Does path tasks request s (task.execute params s).1.response (task.execute params s).2
      [(i, params)] where
  answered health scope := by
    rw [serve_post hpath hmethod]
    exact (TaskRegistry.run_of_last h hparams scope s).1
  leaves health scope := by
    rw [serve_post hpath hmethod]
    exact (TaskRegistry.run_of_last h hparams scope s).2
  noted health scope log := by
    -- the task that notes its runs is the last of the name too, and notes this one
    rw [serve_post hpath hmethod]
    exact TaskRegistry.run_of_last (Task.last_noted h) hparams scope (s, log)

end Requests

/-- What a request does whose path is the root of tasks and then a name. -/
structure ServesTasks (path : String) (tasks : List (Task σ)) (request : Request) (name : String) :
    Prop where
  /-- The routes of the surface are installed. -/
  installed : ∀ health, ∃ log,
    (closed path health (TaskRegistry.ofTasks tasks)).installRoutes.1 = .ok log
  /-- A post meets the route of the tasks. -/
  met : request.method = .post → ∀ health,
    (opened path health (TaskRegistry.ofTasks tasks)).router.resolve request.method request.target =
      .handler (taskRoot (dropFinalSlash path)) (.tasks (taskRoot (dropFinalSlash path)))
  /-- Under this route just the name is looked up. No request meets it from another path, where the
  name would be taken for empty. -/
  named : textAfter (taskRoot (dropFinalSlash path)) request.target.path = name ∧
    ∀ (other : Request) health pattern root,
      (opened path health (TaskRegistry.ofTasks tasks)).router.resolve other.method other.target =
        .handler pattern (.tasks root) →
      root = taskRoot (dropFinalSlash path) ∧ beginsWith other.target.path root = true
  /-- Nothing is run under a name that no task was registered under. -/
  unknown : request.method = .post → name ∉ tasks.map Task.name → ∀ s,
    Does path tasks request s (.text 404 ("no such task: " ++ Text.quoted name ++ "\n")) s []
  /-- Nothing is run for a form that is too long. -/
  overlong : request.method = .post → name ∈ tasks.map Task.name → request.Overlong → ∀ s,
    Does path tasks request s (.text 400 "length limit exceeded\n") s []
  /-- In every other case the last task of the name is run once, with the parameters that the
  request passes. -/
  runs : request.method = .post → name ∈ tasks.map Task.name → ¬ request.Overlong →
    ∃ i task params, IsLast Task.name tasks name i task ∧ request.Passes params ∧
      ∀ s, ∃ response, (task.execute params s).1.AnsweredBy response ∧
        Does path tasks request s response (task.execute params s).2 [(i, params)]
  /-- Any other method is refused. -/
  refused : request.method ≠ .post → ∀ s,
    Does path tasks request s (.methodNotAllowed [.post]) s []

/-- **Tasks that are run by requests.** On an admin surface that holds nothing but its own routes,
under any context path and with any tasks registered: a post to the root of tasks and then a name
runs the last task of that name, once, with the pairs of the query and then those of a form body. It
runs nothing if there is no task of the name or if the form is too long, and any other method is
refused. -/
theorem serves_tasks (path : String) (tasks : List (Task σ)) (request : Request) (name : String)
    (hpath : request.target.path = taskRoot (dropFinalSlash path) ++ name) :
    ServesTasks path tasks request name where
  installed health := installRoutes_closed path health _
  met hmethod health := resolve_post hpath health _ hmethod
  named := by
    refine ⟨by rw [hpath, textAfter_append], fun other health pattern root h => ?_⟩
    -- no other route of the surface is a route of tasks
    obtain ⟨hroot, hother⟩ := eq_append_of_resolve_tasks h
    refine ⟨hroot, ?_⟩
    rw [hother]
    exact beginsWith_append _ _
  unknown hmethod hname s := does_of_unknown hmethod hpath hname s
  overlong hmethod hname hlong s := does_of_overlong hmethod hpath hname hlong s
  runs hmethod hname hfits := by
    obtain ⟨i, task, hlast⟩ := exists_last hname
    obtain ⟨params, hparams, hpasses⟩ := Request.exists_params? hfits
    exact ⟨i, task, params, hlast, hpasses, fun s =>
      ⟨_, (task.execute params s).1.answeredBy_response,
        does_of_last hmethod hpath hlast hparams s⟩⟩
  refused hmethod s :=
    does_nothing (fun _ scope s => serve_refused hpath hmethod scope s)
      (fun _ scope s => serve_refused hpath hmethod scope s) s

/-- A task that breaks down, and one of the same name that tells its parameters. -/
def echoes : List (Task Unit) :=
  [{ name := "echo", execute := fun _ s => (.panicked "replaced", s) }, AdminClient.echoing]

/-- A request with one value of a key in its query and another one in its body. -/
def echoRequest (contentType : String) : Request where
  method := .post
  target := { path := "/admin/tasks/echo", query := some "q=1" }
  headers := [⟨"content-type", contentType⟩]
  body := Text.Utf8.encode "q=2"

/-- The task that was registered last is run, with both values. -/
theorem serves_tasks_echo :
    let request := echoRequest "application/x-www-form-urlencoded; charset=utf-8"
    request.target.path = taskRoot (dropFinalSlash "/admin/") ++ "echo" ∧
      ServesTasks "/admin/" echoes request "echo" ∧ request.method = .post ∧
      "echo" ∈ echoes.map Task.name ∧ request.DeclaresForm ∧ ¬ request.Overlong ∧
      ((opened "/admin/" .empty (.ofTasks echoes)).serve none request ()).response =
        .text 200 "q=1,2\n" := by
  intro request
  have hpath : request.target.path = taskRoot (dropFinalSlash "/admin/") ++ "echo" := by
    decide +kernel
  have hform : request.DeclaresForm := Request.isForm_iff.mp (by decide +kernel)
  have hfits : ¬ request.Overlong := fun h => absurd h.2 (by decide +kernel)
  exact ⟨hpath, serves_tasks "/admin/" echoes request "echo" hpath, rfl, by decide, hform, hfits,
    by decide +kernel⟩

/-- A content type that begins with the name of the type of forms and holds a letter that is not
ASCII declares no form. The task is run without the pairs of the body. -/
theorem serves_echo_without_body :
    let request := echoRequest "application/x-www-form-urlencoded; \u00e9"
    request.target.path = taskRoot (dropFinalSlash "/admin/") ++ "echo" ∧
      (∃ value, request.header? "content-type" = some value ∧
        "application/x-www-form-urlencoded".toList <+: value.toList) ∧
      request.body.length ≤ 65536 ∧
      (∀ params : Params, params.Groups (request.target.pairs ++ Form.pairs request.body) →
        (AdminClient.echoing.execute params ()).1.response = .text 200 "q=1,2\n") ∧
      ((opened "/admin/" .empty (.ofTasks echoes)).serve none request ()).response =
        .text 200 "q=1\n" := by
  intro request
  refine ⟨by decide +kernel, ⟨_, rfl, by decide +kernel⟩, by decide +kernel, fun params h => ?_,
    by decide +kernel⟩
  -- parameters are determined by what they group, so that the output can be computed
  rw [h.unique (Params.groups_addPairs _)]
  decide +kernel

end AdminEnvironment

end ServiceHost
