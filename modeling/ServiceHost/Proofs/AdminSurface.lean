import ServiceHost.Proofs.RegistrationOrder

/-!
# The admin surface alone

The admin surface installs three routes of its own. On a router that had none before, every path
that is met belongs to one of them: the paths of `ping` and of the health checks, and everything
below the root of the tasks.

* `AdminEnvironment.Installed` is the table after the installation, and
  `AdminEnvironment.Installed.find_below` says that every path below the root of tasks lies in that
  subtree and in no other pattern.
* `AdminEnvironment.serve_healthcheck` says that the health checks report on their path, whatever
  other routes there are.
* `AdminEnvironment.opened` is a surface that holds nothing but these routes. Its answers below the
  root of tasks are `AdminEnvironment.serve_post` and `AdminEnvironment.serve_refused`, and
  `AdminEnvironment.eq_append_of_resolve_tasks` says that no path from elsewhere meets the tasks.
-/

namespace ServiceHost

/-! ### Beginnings and ends of paths -/

theorem endsInSlash_append {a b : String} (h : b ≠ "") : endsInSlash (a ++ b) = endsInSlash b := by
  -- the last character is that of the part behind
  have hne : b.toList ≠ [] := fun hnil => h (String.toList_inj.mp hnil)
  unfold endsInSlash
  rw [String.toList_append, List.getLast?_append_of_ne_nil _ hne]

theorem beginsWith_append (start s : String) : beginsWith (start ++ s) start = true := by
  rw [beginsWith_iff, String.toList_append]
  exact List.prefix_append _ _

theorem textAfter_append (start s : String) : textAfter start (start ++ s) = s := by
  rw [textAfter, if_pos (beginsWith_append start s), String.toList_append, List.drop_left,
    String.ofList_toList]

/-- A text is what it begins with and what comes after that. -/
theorem append_textAfter {start s : String} (h : beginsWith s start = true) :
    start ++ textAfter start s = s := by
  obtain ⟨rest, hrest⟩ := beginsWith_iff.mp h
  rw [textAfter, if_pos h, ← String.toList_inj, String.toList_append, String.toList_ofList, ← hrest,
    List.drop_left]

namespace AdminEnvironment

variable {σ : Type}

/-! ### The table after the installation -/

/-- Routes that are installed enter the table in order. -/
theorem install_eq {installs : List (Installation σ)} {router after : Router (AdminRoute σ)}
    {log : EndpointLog} (h : install installs router = (.ok log, after)) :
    after = { router with
      table := installs.foldl
        (fun t i => t.insert i.method (router.contextPath ++ i.pattern) i.route)
        router.table } := by
  induction installs generalizing router log with
  | nil => exact (Prod.mk.inj h).2.symm
  | cons i rest ih =>
    unfold install at h
    cases hhandle : router.handle i.method i.pattern i.route with
    | error e =>
      rw [hhandle] at h
      cases h
    | ok mid =>
      rcases hrest : install rest mid with ⟨found, last⟩
      simp only [hhandle, hrest] at h
      obtain ⟨hfound, rfl⟩ := Prod.mk.inj h
      cases found with
      | error e => cases hfound
      | ok found =>
        -- an installation that goes well is an insertion for each route
        obtain ⟨-, rfl⟩ := Router.eq_insert_of_handle hhandle
        exact ih hrest

/-- Two patterns that differ do so below any context path. -/
theorem append_pattern_ne {a b : String} (h : a ≠ b) (contextPath : String) :
    contextPath ++ a ≠ contextPath ++ b := by
  intro hsame
  rw [← String.toList_inj, String.toList_append, String.toList_append,
    List.append_cancel_left_eq, String.toList_inj] at hsame
  exact h hsame

section Install

variable {router after : Router (AdminRoute σ)} {log : EndpointLog}

/-- The table of a router that had no routes before those of the admin surface. -/
structure Installed (router after : Router (AdminRoute σ)) : Prop where
  wellFormed : after.table.WellFormed
  contains_iff : ∀ p, after.table.nodes.contains p = true ↔
    p = router.contextPath ++ "/tasks/" ∨ p = router.contextPath ++ "/healthcheck" ∨
      p = router.contextPath ++ "/ping"
  verbsAt_tasks : after.table.verbsAt (router.contextPath ++ "/tasks/") =
    KeyMap.empty.insert .post (.tasks (taskRoot router.contextPath))

theorem installed (hempty : router.table = {})
    (h : install (installations router.contextPath) router = (.ok log, after)) :
    Installed router after := by
  have htable := congrArg Router.table (install_eq h)
  rw [hempty] at htable
  simp only [installations, List.foldl_cons, List.foldl_nil] at htable
  -- three routes are inserted into the empty table, that of the tasks last
  refine ⟨?_, fun p => ?_, ?_⟩
  · rw [htable]
    exact ((RouteTable.WellFormed.empty.insert _ _ _).insert _ _ _).insert _ _ _
  · rw [htable]
    simp only [RouteTable.contains_insert]
    have hnone : ({} : RouteTable (AdminRoute σ)).nodes.contains p = false := rfl
    simp only [hnone, Bool.false_eq_true, or_false]
  · rw [htable]
    -- the two routes before it are on other patterns
    have hhealth := append_pattern_ne (show "/tasks/" ≠ "/healthcheck" by decide) router.contextPath
    have hping := append_pattern_ne (show "/tasks/" ≠ "/ping" by decide) router.contextPath
    apply KeyMap.eq_of_find?_eq
    intro method
    simp only [RouteTable.find?_verbsAt_insert, KeyMap.find?_insert, hhealth, hping, true_and,
      false_and, if_false]
    rfl

/-- No path below the root of tasks is a pattern itself. -/
theorem Installed.not_contains (h : Installed router after) {rest : String} (hrest : rest ≠ "") :
    ¬ after.table.nodes.contains (router.contextPath ++ "/tasks/" ++ rest) = true := by
  -- three patterns are to be told from the path
  rw [h.contains_iff]
  rintro (hsame | hsame | hsame)
  · rw [← String.toList_inj, String.toList_append] at hsame
    exact hrest (String.toList_inj.mp (List.append_right_eq_self.mp hsame))
  all_goals
    -- the second letters differ
    rw [← String.toList_inj, String.append_assoc] at hsame
    simp only [String.toList_append, List.append_cancel_left_eq] at hsame
    cases (List.cons.inj (List.cons.inj hsame).2).1

/-- The root of tasks is the only subtree. -/
theorem Installed.eq_of_mem_subtrees (h : Installed router after) {p : String}
    (hp : p ∈ after.table.subtrees) : p = taskRoot router.contextPath := by
  obtain ⟨hslash, hcontains⟩ := (h.wellFormed.mem_subtrees p).mp hp
  -- of the three patterns only one ends in a slash
  rcases (h.contains_iff p).mp hcontains with rfl | rfl | rfl
  · rfl
  · rw [endsInSlash_append (by decide)] at hslash
    exact absurd hslash (by decide)
  · rw [endsInSlash_append (by decide)] at hslash
    exact absurd hslash (by decide)

/-- **Paths below the root of tasks** lie in its subtree, whatever follows the root, and also where
nothing follows it. -/
theorem Installed.find_below (h : Installed router after) (rest : String) :
    after.table.find (taskRoot router.contextPath ++ rest) =
      .node (taskRoot router.contextPath)
        (KeyMap.empty.insert .post (.tasks (taskRoot router.contextPath))) := by
  have hroot : after.table.nodes.contains (taskRoot router.contextPath) = true :=
    (h.contains_iff _).mpr (Or.inl rfl)
  by_cases hrest : rest = ""
  · -- the root itself is a pattern
    rw [hrest, String.append_empty, ← h.verbsAt_tasks]
    obtain ⟨verbs, hverbs⟩ := Option.isSome_iff_exists.mp hroot
    unfold RouteTable.find RouteTable.verbsAt
    rw [taskRoot] at hverbs ⊢
    rw [hverbs]
    rfl
  have hnode : after.table.nodes.find? (taskRoot router.contextPath ++ rest) = none := by
    have hnot := h.not_contains hrest
    rwa [KeyMap.contains, Option.not_isSome_iff_eq_none] at hnot
  -- nor is the path one slash short of a pattern
  have hredirect : after.table.nodes.contains (taskRoot router.contextPath ++ rest ++ "/") =
      false := by
    have hlonger : rest ++ "/" ≠ "" := fun hempty => hrest (String.append_eq_empty_iff.mp hempty).1
    rw [← Bool.not_eq_true, String.append_assoc]
    exact h.not_contains hlonger
  have hslash : endsInSlash (taskRoot router.contextPath) = true := endsInSlash_append (by decide)
  have hfound : after.table.subtrees.find?
      (beginsWith (taskRoot router.contextPath ++ rest)) = some (taskRoot router.contextPath) := by
    cases hfind : after.table.subtrees.find?
        (beginsWith (taskRoot router.contextPath ++ rest)) with
    | none =>
      have hmem := (h.wellFormed.mem_subtrees _).mpr ⟨hslash, hroot⟩
      exact absurd (beginsWith_append _ rest) (List.find?_eq_none.mp hfind _ hmem)
    | some p => rw [h.eq_of_mem_subtrees (List.mem_of_find?_eq_some hfind)]
  unfold RouteTable.find
  simp only [hnode, hredirect, Bool.and_false, Bool.false_eq_true, ↓reduceIte, hfound]
  rw [taskRoot, h.verbsAt_tasks]
  rfl

/-- A post below the root of tasks meets the tasks. -/
theorem Installed.resolve_task (h : Installed router after) (name : String)
    (query : Option String) :
    after.resolve .post ⟨taskRoot router.contextPath ++ name, query⟩ =
      .handler (taskRoot router.contextPath) (.tasks (taskRoot router.contextPath)) := by
  unfold Router.resolve
  rw [h.find_below]
  rfl

/-- Nothing but a post is allowed below the root of tasks. -/
theorem Installed.resolve_refused (h : Installed router after) {method : Method}
    (hmethod : method ≠ .post) (rest : String) (query : Option String) :
    after.resolve method ⟨taskRoot router.contextPath ++ rest, query⟩ = .notAllowed [.post] := by
  have hnone : (KeyMap.empty.insert .post (.tasks (taskRoot router.contextPath)) :
      Verbs (AdminRoute σ)).find? method = none := by
    rw [KeyMap.find?_insert, if_neg hmethod]
    rfl
  unfold Router.resolve
  rw [h.find_below]
  simp only [hnone]
  rfl

/-- Only one handler runs tasks. -/
theorem eq_of_tasks (hempty : router.table = {})
    (h : install (installations router.contextPath) router = (.ok log, after)) {method : Method}
    {pattern root : String}
    (hverb : (after.table.verbsAt pattern).find? method = some (.tasks root)) :
    pattern = taskRoot router.contextPath ∧ root = taskRoot router.contextPath := by
  -- every handler in the table is one of the routes that were installed
  rcases (gains_install h).only _ _ _ hverb with hbefore | ⟨route, hroute, -, hpattern, hhandler⟩
  · rw [hempty] at hbefore
    cases hbefore
  · -- of the three routes that are installed only the last one runs tasks
    obtain ⟨i, hi, rfl⟩ := List.mem_map.mp hroute
    simp only [installations, List.mem_cons, List.not_mem_nil, or_false] at hi
    rcases hi with rfl | rfl | rfl
    · cases hhandler
    · cases hhandler
    · exact ⟨hpattern.symm, (AdminRoute.tasks.inj hhandler).symm⟩

end Install

/-- Whatever other routes there are, the health checks report on their path once the routes of the
surface are installed. The state stays as it is. -/
theorem serve_healthcheck {a : AdminEnvironment σ} {log : EndpointLog}
    (hinstall : a.installRoutes.1 = .ok log) {request : Request} (hmethod : request.method = .get)
    (hpath : request.target.path = a.router.contextPath ++ "/healthcheck")
    (scope : Option String) (s : σ) :
    a.installRoutes.2.1.serve scope request s =
      { response := HealthReport.response (a.health.run s), state := s } := by
  obtain ⟨hresult, hafter⟩ := a.installRoutes_eq
  rw [hresult] at hinstall
  have hgains := gains_install (Prod.ext hinstall rfl :
    install (installations a.router.contextPath) a.router = (.ok log, _))
  have hverb := hgains.added ⟨.get, "/healthcheck", .healthcheck⟩
    (List.mem_cons_of_mem _ List.mem_cons_self)
  rw [← hpath, ← hmethod] at hverb
  rw [hafter, serve, Router.resolve_of_find? hverb]
  rfl

/-! ### The surface with nothing but its own routes -/

variable {path : String} {health : HealthRegistry σ} {tasks : TaskRegistry σ}

/-- An admin surface before its routes are installed. -/
def closed (path : String) (health : HealthRegistry σ) (tasks : TaskRegistry σ) :
    AdminEnvironment σ :=
  { router := .ofContextPath path, health, tasks }

/-- An admin surface after its routes were installed and no others. -/
def opened (path : String) (health : HealthRegistry σ) (tasks : TaskRegistry σ) :
    AdminEnvironment σ :=
  (closed path health tasks).installRoutes.2.1

/-- The installation succeeds. -/
theorem installRoutes_closed (path : String) (health : HealthRegistry σ)
    (tasks : TaskRegistry σ) : ∃ log, (closed path health tasks).installRoutes.1 = .ok log :=
  installRoutes_ofContextPath rfl

theorem opened_eq (path : String) (health : HealthRegistry σ) (tasks : TaskRegistry σ) :
    ∃ router log, opened path health tasks = { router, health, tasks } ∧
      install (installations (closed path health tasks).router.contextPath)
        (closed path health tasks).router = (.ok log, router) := by
  -- only the router changes, and its change is the installation
  obtain ⟨hresult, hafter⟩ := (closed path health tasks).installRoutes_eq
  obtain ⟨log, hlog⟩ := installRoutes_closed path health tasks
  exact ⟨_, log, hafter, Prod.ext (hresult.symm.trans hlog) rfl⟩

section Below

variable {request : Request} {name : String}
  (hpath : request.target.path = taskRoot (dropFinalSlash path) ++ name)

include hpath

/-- A post below the root of tasks meets the tasks. -/
theorem resolve_post (health : HealthRegistry σ) (tasks : TaskRegistry σ)
    (hmethod : request.method = .post) :
    (opened path health tasks).router.resolve request.method request.target =
      .handler (taskRoot (dropFinalSlash path)) (.tasks (taskRoot (dropFinalSlash path))) := by
  obtain ⟨router, log, hopened, hinstall⟩ := opened_eq path health tasks
  have hresolve := (installed rfl hinstall).resolve_task name request.target.query
  change router.resolve .post ⟨taskRoot (dropFinalSlash path) ++ name, _⟩ = _ at hresolve
  rw [← hpath, ← hmethod] at hresolve
  rw [hopened]
  exact hresolve

/-- It runs the task that the rest of the path names. -/
theorem serve_post (hmethod : request.method = .post) (scope : Option String) (s : σ) :
    (opened path health tasks).serve scope request s = tasks.run scope name request s := by
  have hresolve := resolve_post hpath health tasks hmethod
  obtain ⟨router, -, hopened, -⟩ := opened_eq path health tasks
  rw [hopened] at hresolve ⊢
  rw [serve, hresolve]
  simp only [Resolution.answer, run]
  rw [hpath, textAfter_append]

/-- Any other method there is refused. -/
theorem serve_refused (hmethod : request.method ≠ .post) (scope : Option String) (s : σ) :
    (opened path health tasks).serve scope request s =
      { response := .methodNotAllowed [.post], state := s } := by
  obtain ⟨router, log, hopened, hinstall⟩ := opened_eq path health tasks
  have hresolve := (installed rfl hinstall).resolve_refused hmethod name request.target.query
  change router.resolve request.method ⟨taskRoot (dropFinalSlash path) ++ name, _⟩ = _ at hresolve
  rw [← hpath] at hresolve
  rw [hopened, serve, hresolve]
  rfl

end Below

/-- **No other paths.** A request that meets the route of the tasks has a path that begins with the
root of tasks. -/
theorem eq_append_of_resolve_tasks {request : Request} {pattern root : String}
    (h : (opened path health tasks).router.resolve request.method request.target =
      .handler pattern (.tasks root)) :
    root = taskRoot (dropFinalSlash path) ∧
      request.target.path = root ++ textAfter root request.target.path := by
  obtain ⟨router, log, hopened, hinstall⟩ := opened_eq path health tasks
  rw [hopened] at h
  have hbegins := Router.beginsWith_of_resolve h
  obtain ⟨rfl, rfl⟩ := eq_of_tasks rfl hinstall (Router.find?_of_resolve h)
  exact ⟨rfl, (append_textAfter hbegins).symm⟩

end AdminEnvironment

end ServiceHost
