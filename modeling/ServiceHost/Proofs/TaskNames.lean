import ServiceHost.CommandLine.AdminClient
import ServiceHost.Proofs.AdminSurface
import ServiceHost.Proofs.Url

/-!
# Names of tasks in paths

A task is run by a request whose path ends in its name. A path cannot hold every name, so a client
writes some bytes of a name as escapes. The admin surface takes the end of the path for the name as
it is, with the escapes in it.

* `AdminClient.path_target_task` says where the client posts a task to.
* `Environment.serve_task` says that after a start a post below the root of tasks runs the task that
  the rest of the path names.
* `Environment.start_runs_as_written` puts this together: the task that a request runs is the one of
  the name as it is written, which is the task of the name exactly where nothing is escaped.
-/

namespace ServiceHost

/-! ### Calls of the client -/

/-- Below a plain path, the client posts a task to its name with the escapes that it needs, if the
name can be read as a segment at all. -/
theorem AdminClient.path_target_task {call : Call} {name : String}
    {params : List (String × String)} (hcommand : call.command = .task name params)
    (hname : Url.IsLast name) {contextPath : String} (hplain : Url.IsPlain contextPath) :
    (call.target contextPath).path =
      AdminEnvironment.taskRoot contextPath ++ Url.encode Url.isPathByte name := by
  obtain ⟨folders, hfolders, hpath⟩ := hplain
  have htasks : Url.IsFolder "tasks" := by
    refine ⟨⟨?_, ?_, ?_⟩, ?_⟩ <;> decide +kernel
  -- the path is that of folders: those of the context path, and one more for the tasks
  have hall : ∀ folder ∈ folders ++ ["tasks"], Url.IsFolder folder := by
    intro folder hfolder
    rcases List.mem_append.mp hfolder with hfolder | hfolder
    · exact hfolders folder hfolder
    · obtain rfl := List.mem_singleton.mp hfolder
      exact htasks
  have hslashes : "/tasks/".toList = '/' :: ("tasks".toList ++ ['/']) := by decide +kernel
  have hjoined : Url.joined (folders ++ ["tasks"]) =
      contextPath.toList ++ '/' :: "tasks".toList := by
    rw [hpath, Url.joined, List.flatMap_append, List.flatMap_singleton]
    rfl
  have htext : (contextPath ++ call.command.path).toList =
      Url.joined (folders ++ ["tasks"]) ++ '/' :: name.toList := by
    rw [hcommand, hjoined, Command.path, String.toList_append, String.toList_append, hslashes]
    simp only [List.append_assoc, List.cons_append, List.nil_append]
  have htarget : (call.target contextPath).path =
      (Url.target (contextPath ++ call.command.path)).path := by
    unfold Call.target
    rw [hcommand]
    rfl
  rw [← String.toList_inj, htarget, Url.path_target hall hname htext, hjoined,
    AdminEnvironment.taskRoot, String.toList_append, String.toList_append, hslashes]
  simp only [List.append_assoc, List.cons_append, List.nil_append]

/-! ### Registries -/

/-- Every task of a registry is filed under its own name. -/
def TaskRegistry.Named {σ : Type} (r : TaskRegistry σ) : Prop :=
  ∀ name task, r.find? name = some task → task.name = name

theorem TaskRegistry.Named.of_overwrites {σ : Type} {before after : TaskRegistry σ}
    {tasks : List (Task σ)} (h : before.Named)
    (hafter : KeyMap.Overwrites Task.name before after tasks) : after.Named := by
  intro name task htask
  rw [hafter] at htask
  -- the task was filed now, under its own name, or before
  rcases Option.or_eq_some_iff.mp htask with hlast | ⟨-, hbefore⟩
  · have hmem := List.mem_of_getLast? hlast
    exact beq_iff_eq.mp (List.mem_filter.mp hmem).2
  · exact h name task hbefore

namespace Environment

variable {σ : Type}

/-! ### Tasks of a service -/

theorem named_next (e : Environment σ) (s : Setup σ) (h : e.wiring.admin.tasks.Named) :
    (e.next s).wiring.admin.tasks.Named := by
  -- only one kind of step files a task
  cases s with
  | addTask task => exact h.of_overwrites (.insert _ task)
  | handle surface method pattern handler =>
    rcases e.wiring_next_handle surface method pattern handler with hsame | hr
    · rwa [hsame]
    · -- a route changes no more than a router
      rcases Wiring.handle_cases hr with ⟨router, -, hafter⟩ | ⟨router, -, hafter⟩
      · rwa [hafter]
      · rwa [hafter]
  | _ => exact h

theorem named_setUp (name : String) (config : ServerConfig) (logger : Logger)
    (steps : List (Setup σ)) :
    ((ofConfig name config logger).setUp steps).wiring.admin.tasks.Named := by
  have hnone : (ofConfig (σ := σ) name config logger).wiring.admin.tasks.Named :=
    fun _ _ h => nomatch h
  exact setUp_invariant named_next hnone steps

/-- After a start with nothing on the admin router before, a post below the root of tasks runs the
task of the name that the rest of its path is. -/
theorem serve_task {e : Environment σ} {objects : List (String × Managed)}
    {components : List (Component σ)} {endpoints : EndpointLog}
    (hwired : e.StartsWired objects components endpoints)
    (hadmin : e.wiring.admin.router.table = {}) (hstart : e.start.result = .ok endpoints)
    {request : Request} {name : String} (hmethod : request.method = .post)
    (htarget : request.target.path =
      AdminEnvironment.taskRoot e.wiring.admin.router.contextPath ++ name)
    (scope : Option String) (s : σ) :
    e.start.environment.wiring.serve .admin scope request s =
      e.start.environment.wiring.admin.tasks.run scope name request s := by
  obtain ⟨log, router, hinstall, hrouter⟩ := admin_start_of_ok hstart
  rw [hwired.wired.gains.adminRouter_eq] at hinstall
  have hresolve := (AdminEnvironment.installed hadmin hinstall).resolve_task name
    request.target.query
  rw [← htarget, ← hmethod] at hresolve
  have hadminRouter : e.start.environment.wiring.admin.router = router := by rw [hrouter]
  -- the route of the tasks takes its root off the path, which leaves the name
  unfold Wiring.serve AdminEnvironment.serve
  rw [hadminRouter, hresolve]
  simp only [Resolution.answer, AdminEnvironment.run]
  rw [htarget, textAfter_append]

/-- Which task a request to the admin surface runs, below the root of tasks. -/
structure RunsAsWritten (w : Wiring σ) (contextPath : String) : Prop where
  /-- A post runs the task of the name that the rest of its path is. -/
  served : ∀ (request : Request) name, request.method = .post → name ≠ "" →
    request.target.path = AdminEnvironment.taskRoot contextPath ++ name → ∀ scope s,
      w.serve .admin scope request s = w.admin.tasks.run scope name request s
  /-- The client posts to the name with escapes, where it can be read as a segment. -/
  called : ∀ (request : Request) (call : AdminClient.Call) name params,
    call.command = .task name params → Url.IsPlain contextPath → Url.IsLast name →
    request.method = call.command.method → request.target = call.target contextPath → ∀ scope s,
      w.serve .admin scope request s =
        w.admin.tasks.run scope (Url.encode Url.isPathByte name) request s
  /-- The task of a name has that name. -/
  named : w.admin.tasks.Named
  /-- A name as a segment stands for its task only where nothing is escaped. -/
  encoded_iff : ∀ keep : UInt8 → Bool, (∀ b, keep b = true → b < 0x80) →
    ∀ name task, w.admin.tasks.find? name = some task →
      (w.admin.tasks.find? (Url.encode keep name) = some task ↔
        ∀ b ∈ Text.Utf8.encode name, keep b = true)

/-- **Tasks run by the name as it is written.** Set an environment up in any steps of which one or
more build a server, with nothing on the admin router, and start it. If the start succeeds, a post
below the root of tasks runs the task of the name that stands there. The task of a name of which a
byte is written as an escape is not run: escapes are not read. -/
theorem start_runs_as_written (name : String) (config : ServerConfig) (logger : Logger)
    (steps : List (Setup σ)) (built : 0 < servers steps)
    (hadmin : ((ofConfig name config logger).setUp steps).wiring.admin.router.table = {})
    {endpoints : EndpointLog}
    (hstart : ((ofConfig name config logger).setUp steps).start.result = .ok endpoints) :
    RunsAsWritten ((ofConfig name config logger).setUp steps).start.environment.wiring
      (dropFinalSlash config.adminContextPath) := by
  have hpath : ((ofConfig name config logger).setUp steps).wiring.admin.router.contextPath =
      dropFinalSlash config.adminContextPath :=
    ((ofConfig name config logger).adds_setUp steps).contextPath_eq .admin
  have hbefore := named_setUp name config logger steps
  have hwired := startsWired_setUp name config logger built hstart
  -- the rest is about any environment that has started so
  generalize (ofConfig name config logger).setUp steps = e at *
  have hserved : ∀ (request : Request) name, request.method = .post → name ≠ "" →
      request.target.path =
        AdminEnvironment.taskRoot (dropFinalSlash config.adminContextPath) ++ name → ∀ scope s,
        e.start.environment.wiring.serve .admin scope request s =
          e.start.environment.wiring.admin.tasks.run scope name request s := by
    intro request name hmethod _ htarget scope s
    rw [← hpath] at htarget
    exact serve_task hwired hadmin hstart hmethod htarget scope s
  have hnamed : e.start.environment.wiring.admin.tasks.Named := by
    rw [hwired.tasks_eq]
    exact hbefore.of_overwrites hwired.wired.gains.tasks
  refine ⟨hserved, fun request call name params hcommand hplain hlast hmethod htarget => ?_, hnamed,
    fun keep hkeep name task htask => ?_⟩
  · rw [hcommand] at hmethod
    refine hserved request _ hmethod (Url.encode_ne_empty hlast.ne_empty _) ?_
    rw [htarget, AdminClient.path_target_task hcommand hlast hplain]
  · -- nothing is escaped exactly where the segment is the name
    rw [← Url.encode_eq_self_iff hkeep]
    constructor
    · intro hencoded
      -- the task has both names
      exact (hnamed _ _ hencoded).symm.trans (hnamed _ _ htask)
    · intro hsame
      rw [hsame]
      exact htask

/-- A task of a name that a path cannot hold. -/
def sweeping : Task Nat := { answering "swept" with name := "sweep up" }

/-- A task of a plain name, and one of a name with a space. -/
def spacedSteps : List (Setup Nat) := [.addTask (answering "gone"), .addTask sweeping, .build {}]

theorem starts_spaced : ∃ endpoints,
    ((ofConfig "service" {} ⟨"root"⟩).setUp spacedSteps).start.result = .ok endpoints := by
  have hok : (((ofConfig "service" {} ⟨"root"⟩).setUp spacedSteps).start.result.toOption).isSome =
      true := rfl
  cases hstart : ((ofConfig "service" {} ⟨"root"⟩).setUp spacedSteps).start.result with
  | error err =>
    rw [hstart] at hok
    cases hok
  | ok endpoints => exact ⟨endpoints, rfl⟩

/-- The start leaves the two tasks in the registry. -/
theorem tasks_spaced :
    ((ofConfig "service" {} ⟨"root"⟩).setUp spacedSteps).start.environment.wiring.admin.tasks =
      TaskRegistry.register (TaskRegistry.register .empty (answering "gone")) sweeping := rfl

theorem start_runs_as_written_spaced :
    let e := (ofConfig "service" {} ⟨"root"⟩).setUp spacedSteps
    0 < servers spacedSteps ∧ e.wiring.admin.router.table = {} ∧
      ∃ endpoints, e.start.result = .ok endpoints ∧
        RunsAsWritten e.start.environment.wiring
          (dropFinalSlash ({} : ServerConfig).adminContextPath) ∧
        e.start.environment.wiring.admin.tasks.find? "gc" = some (answering "gone") ∧
        Url.encode Url.isPathByte "gc" = "gc" ∧ Url.IsPlain "" ∧ Url.IsLast "sweep up" := by
  have hbuilt : 0 < servers spacedSteps := by decide
  have hadmin : ((ofConfig "service" {} ⟨"root"⟩).setUp
      spacedSteps).wiring.admin.router.table = {} := rfl
  obtain ⟨endpoints, hstart⟩ := starts_spaced
  have hruns := start_runs_as_written "service" {} ⟨"root"⟩ spacedSteps hbuilt hadmin hstart
  have hplain : Url.IsPlain "" := ⟨[], fun _ h => absurd h List.not_mem_nil, rfl⟩
  have hlast : Url.IsLast "sweep up" := by
    refine ⟨⟨?_, ?_, ?_⟩, 'p', ?_, ?_⟩ <;> decide +kernel
  refine ⟨hbuilt, hadmin, endpoints, hstart, hruns, ?_, by decide +kernel, hplain, hlast⟩
  -- the later one of the two tasks has another name
  rw [tasks_spaced, TaskRegistry.register, KeyMap.find?_insert, if_neg (by decide),
    TaskRegistry.register, KeyMap.find?_insert]
  exact if_pos rfl

/-- The task of a name with a space is there, and the client's post for it is not found. -/
theorem not_run_spaced :
    let e := (ofConfig "service" {} ⟨"root"⟩).setUp spacedSteps
    let call : AdminClient.Call := { command := .task "sweep up" [] }
    e.start.environment.wiring.admin.tasks.find? "sweep up" = some sweeping ∧
      call.target "" = { path := "/tasks/sweep%20up" } ∧
      Target.parse? "/tasks/sweep%20up" = some (call.target "") ∧
      ∀ scope s, e.start.environment.wiring.serve .admin scope
          { method := .post, target := call.target "" } s =
        { response := .text 404 "no such task: \"sweep%20up\"\n", state := s } := by
  intro e call
  have htarget : call.target "" = { path := "/tasks/sweep%20up" } := by decide +kernel
  refine ⟨?_, htarget, ?_, fun scope s => ?_⟩
  · rw [tasks_spaced, TaskRegistry.register, KeyMap.find?_insert]
    exact if_pos rfl
  · rw [htarget]
    decide +kernel
  · have hbuilt : 0 < servers spacedSteps := by decide
    obtain ⟨endpoints, hstart⟩ := starts_spaced
    have hwired := startsWired_setUp "service" {} ⟨"root"⟩ hbuilt hstart
    -- the rest of the path keeps its escape
    have hpath : "/tasks/sweep%20up" =
        AdminEnvironment.taskRoot e.wiring.admin.router.contextPath ++ "sweep%20up" := by
      decide +kernel
    have hquoted : Text.quoted "sweep%20up" = "\"sweep%20up\"" := by decide +kernel
    rw [htarget, serve_task hwired rfl hstart rfl hpath, TaskRegistry.run,
      tasks_spaced, TaskRegistry.register, KeyMap.find?_insert, if_neg (by decide),
      TaskRegistry.register, KeyMap.find?_insert, if_neg (by decide), KeyMap.find?_empty, hquoted]
    rfl

end Environment

end ServiceHost
