import ServiceHost.Proofs.ByteOrder
import ServiceHost.Proofs.RouteOrder
import ServiceHost.Proofs.Surfaces

/-!
# Histories of registrations

Routes are registered one after the other, through a router and its clones. What a registration
answers depends on the registrations before it alone: a route without a pattern is refused, and so
is one whose pair of method and full pattern was accepted before. A route that is refused leaves the
table as it was, and a route that is accepted is never replaced.

* `Router.reflects_run` carries the relation of a table and the accepted routes over a whole run.
* `Router.judge` is the answer of a registration, read off the accepted routes, and
  `Router.Reflects.snd_register` says that the router gives it.
* `Router.Reflects.serve_register` says which answers to requests a registration leaves alone.
* `Router.register_history` puts this together for one call more after any run, and says what the
  router lists.
-/

namespace ServiceHost

/-! ### Accepted pairs -/

/-- A method has a handler on a pattern exactly when a route has the pair. -/
theorem Route.isSome_handler?_iff {H : Type} {routes : List (Route H)} {method : Method}
    {pattern : String} :
    (handler? routes method pattern).isSome = true ↔ (method, pattern) ∈ routes.map pair := by
  rw [handler?, Option.isSome_map, List.find?_isSome, List.mem_map]
  simp only [Bool.and_eq_true, beq_iff_eq, pair, Prod.mk.injEq]

theorem Route.handler?_of_mem {H : Type} {routes : List (Route H)}
    (distinct : (routes.map pair).Nodup) {route : Route H} (h : route ∈ routes) :
    handler? routes route.method route.pattern = some route.handler :=
  (handler?_eq_some_iff distinct).mpr h

/-- A table has a pair exactly when a route has it. -/
theorem RouteTable.Reflects.contains_iff {H : Type} {t : RouteTable H} {routes : List (Route H)}
    (h : t.Reflects routes) {method : Method} {pattern : String} :
    t.contains method pattern = true ↔ (method, pattern) ∈ routes.map Route.pair := by
  rw [RouteTable.contains, KeyMap.contains, h.handler]
  exact Route.isSome_handler?_iff

/-- A registration changes nothing on the pattern of another route. -/
theorem RouteTable.find_insert_of_ne {H : Type} {t : RouteTable H} {path : String}
    (hpath : t.nodes.contains path = true) {method : Method} {pattern : String}
    (hne : path ≠ pattern) (handler : H) :
    (t.insert method pattern handler).find path = t.find path := by
  obtain ⟨verbs, hverbs⟩ := Option.isSome_iff_exists.mp hpath
  -- the path is a key before and after, so that the lookup ends at once both times
  have hkept : (t.insert method pattern handler).nodes.find? path = some verbs := by
    rw [RouteTable.insert, KeyMap.find?_insert, if_neg hne]
    exact hverbs
  unfold RouteTable.find
  rw [hkept, hverbs]

namespace Router

variable {H : Type} {contextPath : String}

/-- **The table of a run.** Whatever was registered through a router and its clones, each of them
holds exactly the routes that were accepted. -/
theorem reflects_run {ops : List (Board.Op (Route H))} {clone : ℕ} {r : Router H}
    (hclone : ((Board.ofValue (ofContextPath contextPath)).run register ops).board.value? clone
      = some r) :
    r.Reflects contextPath
      (Route.accepted contextPath
        ((Board.ofValue (ofContextPath contextPath)).run register ops).log) := by
  have start : (ofContextPath contextPath : Router H).Reflects contextPath
      (Route.accepted contextPath []) := ⟨rfl, .empty⟩
  -- clones share one router, so that the log of all clones is the history of each
  exact Board.run_invariant
    (P := fun log r => Router.Reflects contextPath r (Route.accepted contextPath log)) start
    (fun log r route hr => hr.register route) ops hclone

/-! ### What a registration answers -/

/-- The answer of a registration after others: an empty pattern is invalid, and a pair that was
accepted before is not accepted again. -/
def judge (contextPath : String) (routes : List (Route H)) (route : Route H) :
    Except RouteError Unit :=
  if route.pattern = "" then .error (.invalidPattern "")
  else if (route.below contextPath).pair ∈ routes.map Route.pair then
    .error (.duplicate route.method (route.below contextPath).pattern)
  else .ok ()

theorem judge_eq_ok_iff {routes : List (Route H)} {route : Route H} :
    judge contextPath routes route = .ok () ↔
      route.pattern ≠ "" ∧ (route.below contextPath).pair ∉ routes.map Route.pair := by
  unfold judge
  split_ifs with hempty hold
  · exact ⟨nofun, fun h => absurd hempty h.1⟩
  · exact ⟨nofun, fun h => absurd hold h.2⟩
  · exact ⟨fun _ => ⟨hempty, hold⟩, fun _ => rfl⟩

theorem judge_eq_invalidPattern_iff {routes : List (Route H)} {route : Route H}
    {pattern : String} :
    judge contextPath routes route = .error (.invalidPattern pattern) ↔
      route.pattern = "" ∧ pattern = "" := by
  unfold judge
  split_ifs with hempty hold
  · -- the error carries the pattern that was given, which is empty here
    refine ⟨fun h => ⟨hempty, ?_⟩, fun h => by rw [h.2]⟩
    exact (RouteError.invalidPattern.inj (Except.error.inj h)).symm
  · exact ⟨nofun, fun h => absurd h.1 hempty⟩
  · exact ⟨nofun, fun h => absurd h.1 hempty⟩

theorem judge_eq_duplicate_iff {routes : List (Route H)} {route : Route H} {method : Method}
    {pattern : String} :
    judge contextPath routes route = .error (.duplicate method pattern) ↔
      route.pattern ≠ "" ∧ (route.below contextPath).pair ∈ routes.map Route.pair ∧
        (method, pattern) = (route.below contextPath).pair := by
  unfold judge
  split_ifs with hempty hold
  · exact ⟨nofun, fun h => absurd hempty h.1⟩
  · -- only here is there such an error, and it carries the pair with the full pattern
    constructor
    · intro h
      obtain ⟨rfl, rfl⟩ := RouteError.duplicate.inj (Except.error.inj h)
      exact ⟨hempty, hold, rfl⟩
    · rintro ⟨-, -, hpair⟩
      obtain ⟨rfl, rfl⟩ := Prod.mk.inj hpair
      rfl
  · exact ⟨nofun, fun h => absurd h.2.1 hold⟩

/-- **Answers.** A router judges a route by those that were accepted before. -/
theorem Reflects.snd_register {r : Router H} {routes : List (Route H)}
    (h : r.Reflects contextPath routes) (route : Route H) :
    (r.register route).2 = judge contextPath routes route := by
  have hfull : r.contextPath ++ route.pattern = (route.below contextPath).pattern := by
    rw [h.contextPath_eq]
    rfl
  have hpair : r.table.contains route.method (r.contextPath ++ route.pattern) = true ↔
      (route.below contextPath).pair ∈ routes.map Route.pair := by
    rw [hfull]
    exact h.table.contains_iff
  unfold judge
  -- the router looks at the same two things in the same order, for the table instead of the routes
  rcases r.register_cases route with ⟨hempty, hr⟩ | ⟨hne, hold, hr⟩ | ⟨hne, hnew, hr⟩
  · rw [hr, if_pos hempty]
  · rw [hr, if_neg hne, if_pos (hpair.mp hold), hfull]
  · have hfresh : ¬ (route.below contextPath).pair ∈ routes.map Route.pair := by
      rw [← hpair, hnew]
      exact Bool.false_ne_true
    rw [hr, if_neg hne, if_neg hfresh]

/-- A route that is refused leaves the router as it was. -/
theorem fst_register_of_ne_ok {r : Router H} {route : Route H}
    (h : (r.register route).2 ≠ .ok ()) : (r.register route).1 = r := by
  -- the router is changed by an accepted route only
  rcases r.register_cases route with ⟨-, hr⟩ | ⟨-, -, hr⟩ | ⟨-, -, hr⟩
  · rw [hr]
  · rw [hr]
  · rw [hr] at h
    exact absurd rfl h

/-! ### What a registration leaves alone -/

section Answers

variable {σ : Type} {r : Router (Handler σ)} {routes : List (Route (Handler σ))}

/-- Requests for a pattern are answered as before, unless the pattern is that of the route. -/
theorem Reflects.serve_register (h : r.Reflects contextPath routes) {route : Route (Handler σ)}
    {request : Request} (hpath : Route.isPattern routes request.target.path = true)
    (hne : request.target.path ≠ (route.below contextPath).pattern) (s : σ) :
    (r.register route).1.serve request s = r.serve request s := by
  rcases r.register_cases route with ⟨-, hr⟩ | ⟨-, -, hr⟩ | ⟨-, -, hr⟩
  · rw [hr]
  · rw [hr]
  · -- the path is a pattern, so that neither redirects nor subtrees are looked at
    have hnode : r.table.nodes.contains request.target.path = true := by
      rw [h.table.pattern, hpath]
    have hother : request.target.path ≠ r.contextPath ++ route.pattern := by
      rw [h.contextPath_eq]
      exact hne
    rw [hr, serve, serve, resolve, resolve, RouteTable.find_insert_of_ne hnode hother]

/-- A route that was accepted answers the requests for its pair. -/
theorem Reflects.serve_of_mem (h : r.Reflects contextPath routes) {route : Route (Handler σ)}
    (hroute : route ∈ routes) {request : Request} (hmethod : request.method = route.method)
    (hpath : request.target.path = route.pattern) (s : σ) :
    r.serve request s = route.handler request s := by
  refine serve_of_find? ?_ s
  rw [hmethod, hpath, h.table.handler]
  exact Route.handler?_of_mem h.table.nodup hroute

end Answers

/-! ### What a router lists -/

/-- One pair is listed before another by the bytes of the patterns, and on one pattern by those of
the methods. -/
def ListedByBytes (a b : Method × String) : Prop :=
  Text.Utf8.encode a.2 < Text.Utf8.encode b.2 ∨
    a.2 = b.2 ∧ Text.Utf8.encode a.1.text < Text.Utf8.encode b.1.text

theorem routes_listedByBytes (r : Router H) : r.routes.Pairwise ListedByBytes := by
  refine r.routes_listed.imp fun {a b} h => ?_
  rcases h with hpattern | ⟨hsame, hmethod⟩
  · exact Or.inl (Text.Utf8.encode_lt_iff.mpr hpattern)
  · exact Or.inr ⟨hsame, Text.Utf8.encode_lt_iff.mpr hmethod⟩

/-- A router lists the pairs of its routes. -/
theorem Reflects.routes_perm {r : Router H} {routes : List (Route H)}
    (h : r.Reflects contextPath routes) : r.routes.Perm (routes.map Route.pair) := by
  -- no pair stands twice on either side, so that it is enough that they have the same pairs
  refine (List.perm_ext_iff_of_nodup (nodup_routes r) h.table.nodup).mpr fun ⟨method, pattern⟩ => ?_
  rw [mem_routes, h.table.handler]
  exact Route.isSome_handler?_iff

/-! ### Histories -/

/-- What a call of a router does after other calls: `log` has these with their answers, `r` is the
router before the call and `after` the router after it. -/
structure Registers {σ : Type} (contextPath : String)
    (log : List (Route (Handler σ) × Except RouteError Unit)) (r : Router (Handler σ))
    (route : Route (Handler σ)) (answer : Except RouteError Unit) (after : Router (Handler σ)) :
    Prop where
  /-- A route is accepted if it has a pattern and its pair was not accepted before. -/
  ok_iff : answer = .ok () ↔ route.pattern ≠ "" ∧
    (route.below contextPath).pair ∉ (Route.accepted contextPath log).map Route.pair
  /-- The empty pattern is invalid, and no other. -/
  invalidPattern_iff : ∀ pattern, answer = .error (.invalidPattern pattern) ↔
    route.pattern = "" ∧ pattern = ""
  /-- Any other route that is refused is told its method and its full pattern. -/
  duplicate_iff : ∀ method pattern, answer = .error (.duplicate method pattern) ↔
    route.pattern ≠ "" ∧
    (route.below contextPath).pair ∈ (Route.accepted contextPath log).map Route.pair ∧
    (method, pattern) = (route.below contextPath).pair
  /-- A refusal leaves the router as it was, with its routes and all its answers. -/
  refused : answer ≠ .ok () → after = r
  /-- Requests for the pattern of an earlier route are answered as before, unless the new route is
  on that pattern. -/
  apart : ∀ request s, Route.isPattern (Route.accepted contextPath log) request.target.path = true →
    request.target.path ≠ (route.below contextPath).pattern →
    after.serve request s = r.serve request s
  /-- Requests for the pair of a route that was ever accepted are answered by this route. -/
  kept : ∀ old ∈ Route.accepted contextPath (log ++ [(route, answer)]), ∀ request s,
    request.method = old.method → request.target.path = old.pattern →
    after.serve request s = old.handler request s

/-- A call after others does what `Registers` says. -/
theorem Reflects.registers {σ : Type} {r : Router (Handler σ)}
    {log : List (Route (Handler σ) × Except RouteError Unit)}
    (h : r.Reflects contextPath (Route.accepted contextPath log)) (route : Route (Handler σ)) :
    Registers contextPath log r route (r.register route).2 (r.register route).1 where
  ok_iff := by rw [h.snd_register, judge_eq_ok_iff]
  invalidPattern_iff pattern := by rw [h.snd_register, judge_eq_invalidPattern_iff]
  duplicate_iff method pattern := by rw [h.snd_register, judge_eq_duplicate_iff]
  refused hrefused := fst_register_of_ne_ok hrefused
  apart request s hpath hne := h.serve_register hpath hne s
  kept old hold request s hmethod hpath := (h.register route).serve_of_mem hold hmethod hpath s

/-- **Histories.** After any run of registrations through a router and its clones, the router lists
exactly the pairs that were accepted, each once and in the order of the bytes. One registration more
is answered by what was accepted before, changes nothing if it is refused, and leaves all that was
accepted in its place; and every clone is the router after it. -/
theorem register_history {σ : Type} (contextPath : String)
    (ops : List (Board.Op (Route (Handler σ)))) (handle : ℕ) (r : Router (Handler σ))
    (route : Route (Handler σ))
    (hr : ((Board.ofValue (ofContextPath contextPath)).run register ops).board.value? handle
      = some r) :
    let before := (Board.ofValue (ofContextPath contextPath)).run register ops
    let after := (Board.ofValue (ofContextPath contextPath)).run register
      (ops ++ [.call handle route])
    r.routes.Perm ((Route.accepted contextPath before.log).map Route.pair) ∧
      r.routes.Pairwise ListedByBytes ∧
      ∃ answer r', after.log = before.log ++ [(route, answer)] ∧
        after.board.value? handle = some r' ∧
        (∀ clone other, after.board.value? clone = some other → other = r') ∧
        Registers contextPath before.log r route answer r' := by
  have h := reflects_run hr
  obtain ⟨hlog, hvalue, hclones⟩ := Board.run_concat_call hr route
  exact ⟨h.routes_perm, r.routes_listedByBytes, (r.register route).2, (r.register route).1, hlog,
    hvalue, hclones, h.registers route⟩

/-- A route, registered under a context path with a final slash. -/
def firstOps : List (Board.Op (Route (Handler Nat))) :=
  [.call 0 ⟨.get, "/static/", counting⟩, .clone 0]

/-- A second handler for the pair is refused through a clone, under the full pattern, and the first
one goes on to answer. -/
theorem register_history_twice :
    let second : Route (Handler Nat) := ⟨.get, "/static/", fun _ s => (.text 200 "there", s)⟩
    let after := (Board.ofValue (ofContextPath "/api/")).run register (firstOps ++ [.call 1 second])
    ∃ r : Router (Handler Nat),
      ((Board.ofValue (ofContextPath "/api/")).run register firstOps).board.value? 1 = some r ∧
      ∃ r', after.board.value? 0 = some r' ∧
        after.log.map (·.2) = [.ok (), .error (.duplicate .get "/api/static/")] ∧
        r'.serve { method := .get, target := { path := "/api/static/" } } 0 =
          (.text 200 "here", 1) := by
  have hclone : ∃ r : Router (Handler Nat),
      ((Board.ofValue (ofContextPath "/api/")).run register firstOps).board.value? 1 = some r :=
    ⟨_, rfl⟩
  intro second after
  obtain ⟨r, hr⟩ := hclone
  obtain ⟨-, -, answer, r', hlog, hvalue, hclones, hregisters⟩ :=
    register_history "/api/" firstOps 1 r second hr
  -- the pair is in the log of the run before, under the full pattern
  have hanswer : answer = .error (.duplicate .get "/api/static/") :=
    (hregisters.duplicate_iff _ _).mpr ⟨by decide, List.mem_singleton.mpr rfl, rfl⟩
  -- what the second clone holds after the call is what the first one holds
  have hfirst : after.board.value? 0 = some r' := by
    have hsome : ∃ other, after.board.value? 0 = some other := ⟨_, rfl⟩
    obtain ⟨other, hother⟩ := hsome
    rw [hother, hclones 0 other hother]
  refine ⟨r, hr, r', hfirst, ?_, ?_⟩
  · rw [hlog, List.map_append, hanswer]
    rfl
  · refine hregisters.kept ⟨.get, "/api/static/", counting⟩ ?_ _ 0 rfl rfl
    rw [Route.accepted_append]
    exact List.mem_append_left _ (List.mem_singleton.mpr rfl)

end Router

end ServiceHost
