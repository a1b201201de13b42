import Mathlib.Data.List.MinMax
import ServiceHost.Board
import ServiceHost.Proofs.RouteTable
import ServiceHost.Proofs.Target

/-!
# Routers decide as a scan of their routes

A router answers from a table and a list of subtrees that it keeps. What it answers can be said
without either, by a scan of the routes that were accepted: `Route.decide` looks for the path
among the patterns, then for the path with a slash after it, and then for the longest subtree
that the path lies in.

* `RouteTable.Reflects` relates a table to the routes that were accepted, and
  `Router.Reflects.register` carries it over a registration, accepted or refused.
* `Router.serve_answers_scan` is the equivalence: whatever was registered through a router and its
  clones, every request is answered as the scan of the accepted routes says.
-/

namespace ServiceHost

/-! ### The scan -/

namespace Route

variable {H : Type}

/-- The route with its pattern below a context path, of which one final slash is dropped. -/
def below (contextPath : String) (r : Route H) : Route H :=
  { r with pattern := dropFinalSlash contextPath ++ r.pattern }

/-- The routes that were accepted, with their full patterns, in the order of their calls. -/
def accepted (contextPath : String) (log : List (Route H × Except RouteError Unit)) :
    List (Route H) :=
  log.filterMap fun
    | (route, .ok ()) => some (route.below contextPath)
    | (_, .error _) => none

/-- Whether a path is the pattern of a route. -/
def isPattern (routes : List (Route H)) (path : String) : Bool :=
  routes.any (·.pattern == path)

/-- The handler of the first route for a method on a pattern. -/
def handler? (routes : List (Route H)) (method : Method) (pattern : String) : Option H :=
  (routes.find? fun r => r.method == method && r.pattern == pattern).map (·.handler)

/-- The subtrees among the routes that a path lies in. -/
def subtreesOf (routes : List (Route H)) (path : String) : List String :=
  (routes.map (·.pattern)).filter fun p => endsInSlash p && beginsWith path p

/-- The longest subtree that a path lies in. -/
def longestSubtree? (routes : List (Route H)) (path : String) : Option String :=
  (subtreesOf routes path).argmax String.length

/-- What becomes of a request. -/
inductive Decision (H : Type) where
  | delegate (handler : H)
  | refuse
  | redirect (path : String)
  | missing

/-- What becomes of a request for a method on a pattern. -/
def decideAt (routes : List (Route H)) (method : Method) (pattern : String) : Decision H :=
  match handler? routes method pattern with
  | some handler => .delegate handler
  | none => .refuse

/-- What becomes of a request for a method on a path. -/
def decide (routes : List (Route H)) (method : Method) (path : String) : Decision H :=
  -- the path itself, with or without a slash, has priority over all subtrees
  if isPattern routes path then decideAt routes method path
  else if !endsInSlash path && isPattern routes (path ++ "/") then .redirect (path ++ "/")
  else match longestSubtree? routes path with
    | some pattern => decideAt routes method pattern
    | none => .missing

/-- Whether a response and a state follow a decision: a handler is run once on the request and
the state, and nothing else changes the state. -/
def Decision.Governs {σ : Type} (request : Request) (s : σ) (out : Response × σ) :
    Decision (Handler σ) → Prop
  | .delegate handler => out = handler request s
  | .refuse => ∃ methods, out = (.methodNotAllowed methods, s)
  | .redirect path =>
    out = (.movedPermanently (Router.locationText path request.target.query), s)
  | .missing => out = (.notFound, s)

/-- What it is to be the longest subtree that a path lies in. -/
structure IsLongestSubtree (routes : List (Route H)) (path pattern : String) : Prop where
  isPattern : isPattern routes pattern = true
  endsInSlash : endsInSlash pattern = true
  beginsWith : beginsWith path pattern = true
  longest : ∀ p, Route.isPattern routes p = true → ServiceHost.endsInSlash p = true →
    ServiceHost.beginsWith path p = true → p.length ≤ pattern.length

theorem isPattern_iff {routes : List (Route H)} {path : String} :
    isPattern routes path = true ↔ ∃ r ∈ routes, r.pattern = path := by
  simp only [isPattern, List.any_eq_true, beq_iff_eq]

theorem mem_subtreesOf {routes : List (Route H)} {path p : String} :
    p ∈ subtreesOf routes path ↔
      isPattern routes p = true ∧ endsInSlash p = true ∧ beginsWith path p = true := by
  rw [subtreesOf, List.mem_filter, List.mem_map, isPattern_iff, Bool.and_eq_true]

/-- There is no more than one longest subtree. -/
theorem IsLongestSubtree.unique {routes : List (Route H)} {path a b : String}
    (ha : IsLongestSubtree routes path a) (hb : IsLongestSubtree routes path b) : a = b := by
  have hab := hb.longest a ha.isPattern ha.endsInSlash ha.beginsWith
  have hba := ha.longest b hb.isPattern hb.endsInSlash hb.beginsWith
  -- two beginnings of one path are the same if they are of one length
  exact eq_of_beginsWith_of_length_eq ha.beginsWith hb.beginsWith (Nat.le_antisymm hab hba)

/-- The scan finds the longest subtree, and finds one whenever there is one. -/
theorem longestSubtree?_eq_some_iff {routes : List (Route H)} {path pattern : String} :
    longestSubtree? routes path = some pattern ↔ IsLongestSubtree routes path pattern := by
  have hfound : ∀ {p}, longestSubtree? routes path = some p →
      IsLongestSubtree routes path p := by
    intro p hp
    obtain ⟨hpattern, hslash, hbegins⟩ := mem_subtreesOf.mp (List.argmax_mem hp)
    refine ⟨hpattern, hslash, hbegins, fun q hq hqs hqb => ?_⟩
    exact List.le_of_mem_argmax (mem_subtreesOf.mpr ⟨hq, hqs, hqb⟩) hp
  refine ⟨hfound, fun h => ?_⟩
  -- there is a longest subtree, so the scan finds one, and it is the same
  cases hp : longestSubtree? routes path with
  | none =>
    have hmem := mem_subtreesOf.mpr ⟨h.isPattern, h.endsInSlash, h.beginsWith⟩
    rw [List.argmax_eq_none.mp hp] at hmem
    exact absurd hmem List.not_mem_nil
  | some p => rw [(hfound hp).unique h]

/-- Without a subtree that the path lies in, the scan finds none. -/
theorem longestSubtree?_eq_none_iff {routes : List (Route H)} {path : String} :
    longestSubtree? routes path = none ↔
      ∀ p, isPattern routes p = true → endsInSlash p = true → beginsWith path p = false := by
  rw [longestSubtree?, List.argmax_eq_none, List.eq_nil_iff_forall_not_mem]
  refine forall_congr' fun p => ?_
  rw [mem_subtreesOf, not_and, not_and, Bool.not_eq_true]

/-! ### One route more -/

theorem isPattern_append (routes : List (Route H)) (r : Route H) (path : String) :
    isPattern (routes ++ [r]) path = (isPattern routes path || r.pattern == path) := by
  simp [isPattern]

theorem handler?_append (routes : List (Route H)) (r : Route H) (method : Method)
    (pattern : String) :
    handler? (routes ++ [r]) method pattern =
      (handler? routes method pattern).or
        (if r.method = method ∧ r.pattern = pattern then some r.handler else none) := by
  rw [handler?, handler?, List.find?_append, Option.map_or]
  -- the first route with the pair is an old one, or there was none and it is the new one
  congr 1
  by_cases h : r.method = method ∧ r.pattern = pattern
  · simp [h.1, h.2]
  · rw [if_neg h]
    simp only [Option.map_eq_none_iff, List.find?_singleton, Bool.and_eq_true, beq_iff_eq,
      if_neg h]

theorem accepted_append (contextPath : String) (log : List (Route H × Except RouteError Unit))
    (entry : Route H × Except RouteError Unit) :
    accepted contextPath (log ++ [entry]) =
      accepted contextPath log ++ accepted contextPath [entry] := List.filterMap_append

end Route

/-! ### Tables and scans -/

/-- A table holds exactly the given routes, each pair of method and pattern once. -/
structure RouteTable.Reflects {H : Type} (t : RouteTable H) (routes : List (Route H)) :
    Prop where
  wellFormed : t.WellFormed
  handler : ∀ method pattern,
    (t.verbsAt pattern).find? method = Route.handler? routes method pattern
  pattern : ∀ path, t.nodes.contains path = Route.isPattern routes path
  nodup : (routes.map fun r => (r.method, r.pattern)).Nodup

namespace RouteTable.Reflects

variable {H : Type}

theorem empty : Reflects ({} : RouteTable H) [] where
  wellFormed := .empty
  handler _ _ := rfl
  pattern _ := rfl
  nodup := List.nodup_nil

/-- A pair without a handler in the table is the pair of no route. -/
theorem not_mem_of_contains_eq_false {t : RouteTable H} {routes : List (Route H)}
    (h : t.Reflects routes) {method : Method} {pattern : String}
    (hnew : t.contains method pattern = false) :
    (method, pattern) ∉ routes.map fun r => (r.method, r.pattern) := by
  have hnone : Route.handler? routes method pattern = none := by
    rw [← h.handler]
    simpa [RouteTable.contains, KeyMap.contains] using hnew
  rw [Route.handler?, Option.map_eq_none_iff, List.find?_eq_none] at hnone
  intro hmem
  obtain ⟨r, hr, heq⟩ := List.mem_map.mp hmem
  obtain ⟨rfl, rfl⟩ := Prod.mk.inj heq
  exact hnone r hr (by simp)

/-- **A registration of a new pair** adds its route and nothing else. -/
theorem insert {t : RouteTable H} {routes : List (Route H)} (h : t.Reflects routes)
    (r : Route H) (hnew : t.contains r.method r.pattern = false) :
    (t.insert r.method r.pattern r.handler).Reflects (routes ++ [r]) where
  wellFormed := h.wellFormed.insert r.method r.pattern r.handler
  -- the pairs of the table change at one place only
  handler := by
    intro method pattern
    rw [find?_verbsAt_insert, Route.handler?_append, ← h.handler]
    by_cases hp : pattern = r.pattern ∧ method = r.method
    · -- the new pair: no earlier route has it
      obtain ⟨rfl, rfl⟩ := hp
      have hnone : (t.verbsAt r.pattern).find? r.method = none := by
        simpa [RouteTable.contains, KeyMap.contains] using hnew
      rw [hnone]
      simp
    · have hp' : ¬ (r.method = method ∧ r.pattern = pattern) :=
        fun hc => hp ⟨hc.2.symm, hc.1.symm⟩
      rw [if_neg hp, if_neg hp', Option.or_none]
  pattern := by
    intro path
    rw [Bool.eq_iff_iff, contains_insert, Route.isPattern_append, h.pattern, Bool.or_eq_true,
      beq_iff_eq, or_comm, eq_comm (a := path)]
  -- the new pair had no handler, so no earlier route has it
  nodup := by
    rw [List.map_append, List.nodup_append]
    refine ⟨h.nodup, List.pairwise_singleton _ _, fun a ha b hb hab => ?_⟩
    rw [hab, List.mem_singleton.mp hb] at ha
    exact h.not_mem_of_contains_eq_false hnew ha

/-- The first subtree of the list is the longest that the scan finds. -/
theorem find?_subtrees_eq {t : RouteTable H} {routes : List (Route H)} (h : t.Reflects routes)
    (path : String) : t.subtrees.find? (beginsWith path) = Route.longestSubtree? routes path := by
  cases hfind : t.subtrees.find? (beginsWith path) with
  | none =>
    -- the list holds every pattern that is a subtree, and the path lies in none of the list
    refine (Route.longestSubtree?_eq_none_iff.mpr fun p hp hslash => ?_).symm
    have hmem := (h.wellFormed.mem_subtrees p).mpr ⟨hslash, (h.pattern p).trans hp⟩
    exact Bool.not_eq_true _ ▸ List.find?_eq_none.mp hfind p hmem
  | some pattern =>
    -- the list is sorted with the longest first
    obtain ⟨hslash, hnode, hbegins, hlongest⟩ := h.wellFormed.find?_subtrees hfind
    refine (Route.longestSubtree?_eq_some_iff.mpr ⟨?_, hslash, hbegins, ?_⟩).symm
    · rw [← h.pattern, hnode]
    · intro p hp hps hpb
      exact hlongest p hps ((h.pattern p).trans hp) hpb

end RouteTable.Reflects

namespace Router

variable {H : Type}

/-- A router below a context path holds exactly the given routes. -/
structure Reflects (contextPath : String) (r : Router H) (routes : List (Route H)) : Prop where
  contextPath_eq : r.contextPath = dropFinalSlash contextPath
  table : r.table.Reflects routes

/-- **Registration.** A route that is accepted is added, one that is refused changes nothing. -/
theorem Reflects.register {contextPath : String} {r : Router H}
    {log : List (Route H × Except RouteError Unit)}
    (h : r.Reflects contextPath (Route.accepted contextPath log)) (route : Route H) :
    (r.register route).1.Reflects contextPath
      (Route.accepted contextPath (log ++ [(route, (r.register route).2)])) := by
  rw [Route.accepted_append]
  rcases r.register_cases route with ⟨-, hr⟩ | ⟨-, -, hr⟩ | ⟨-, hnew, hr⟩
  · -- no pattern
    -- a refusal leaves the table as it is and adds nothing to the accepted routes
    rw [hr]
    exact (List.append_nil (Route.accepted contextPath log)).symm ▸ h
  · -- a pair that has a handler
    rw [hr]
    exact (List.append_nil (Route.accepted contextPath log)).symm ▸ h
  · rw [hr]
    refine ⟨h.contextPath_eq, ?_⟩
    have hadd := h.table.insert (route.below contextPath)
    rw [h.contextPath_eq] at hnew ⊢
    exact hadd hnew

/-- What a request meets on a pattern of the table is what the scan decides there. -/
theorem Reflects.governs_node {σ : Type} {contextPath : String} {r : Router (Handler σ)}
    {routes : List (Route (Handler σ))} (h : r.Reflects contextPath routes) (request : Request)
    (s : σ) (pattern : String)
    (hfind : r.table.find request.target.path = .node pattern (r.table.verbsAt pattern)) :
    (Route.decideAt routes request.method pattern).Governs request s (r.serve request s) := by
  rw [serve_of_find_node hfind, Route.decideAt, ← h.table.handler]
  cases (r.table.verbsAt pattern).find? request.method with
  | some handler => exact rfl
  | none => exact ⟨_, rfl⟩

/-- A router answers a request with a target that can be sent as the scan decides. -/
theorem Reflects.governs {σ : Type} {contextPath : String} {r : Router (Handler σ)}
    {routes : List (Route (Handler σ))} (h : r.Reflects contextPath routes) (request : Request)
    (sendable : request.target.Sendable) (s : σ) :
    (Route.decide routes request.method request.target.path).Governs request s
      (r.serve request s) := by
  have hnode := h.governs_node request s
  -- table and scan ask in one order: the path, the path with a slash after it, and the subtrees
  unfold Route.decide
  rw [← h.table.pattern, ← h.table.pattern, ← h.table.find?_subtrees_eq]
  cases hpath : r.table.nodes.find? request.target.path with
  | some verbs =>
    -- the path is a pattern
    have hcontains : r.table.nodes.contains request.target.path = true := by
      rw [KeyMap.contains, hpath]; rfl
    rw [if_pos hcontains]
    refine hnode _ ?_
    simp only [RouteTable.find, RouteTable.verbsAt, hpath, Option.getD_some]
  | none =>
    have hcontains : ¬ r.table.nodes.contains request.target.path = true := by
      rw [KeyMap.contains, hpath]; simp
    rw [if_neg hcontains]
    split
    · next hslash =>
      -- the path with a slash after it is one
      have hfind : r.table.find request.target.path = .redirect (request.target.path ++ "/") := by
        simp only [RouteTable.find, hpath, hslash, if_true]
      exact serve_of_find_redirect hfind (isHeaderValue_locationText sendable) s
    · next hslash =>
      cases hsub : r.table.subtrees.find? (beginsWith request.target.path) with
      | some pattern =>
        -- the first subtree of the list is the longest that the scan finds
        refine hnode _ ?_
        simp only [RouteTable.find, hpath, hslash, Bool.false_eq_true, if_false, hsub]
      | none =>
        have hfind : r.table.find request.target.path = .none := by
          simp only [RouteTable.find, hpath, hslash, Bool.false_eq_true, if_false, hsub]
        exact serve_of_find_none hfind s

/-- **A router decides as a scan of its routes.** Routes are registered in any order through a
router and its clones, and some are refused. Then every clone answers every request as the scan of
the accepted routes decides, which needs no list of subtrees; each pair of method and full pattern
was accepted once; and the subtree that the scan falls back to is the longest that the path lies
in, of which there is one. -/
theorem serve_answers_scan {σ : Type} (contextPath : String)
    (ops : List (Board.Op (Route (Handler σ)))) (clone : Nat) (r : Router (Handler σ))
    (text : String) (request : Request) (s : σ)
    (hclone : ((Board.ofValue (ofContextPath contextPath)).run register ops).board.value? clone
      = some r)
    (readable : Target.parse? text = some request.target) :
    let run := (Board.ofValue (ofContextPath contextPath)).run register ops
    let routes := Route.accepted contextPath run.log
    let path := request.target.path
    (Route.decide routes request.method path).Governs request s (r.serve request s) ∧
      (routes.map fun route => (route.method, route.pattern)).Nodup ∧
      (∀ pattern, Route.longestSubtree? routes path = some pattern ↔
        Route.IsLongestSubtree routes path pattern) ∧
      ∀ a b, Route.IsLongestSubtree routes path a → Route.IsLongestSubtree routes path b →
        a = b := by
  have start : (ofContextPath contextPath : Router (Handler σ)).Reflects contextPath
      (Route.accepted contextPath []) := ⟨rfl, .empty⟩
  -- the relation holds of a new router and is kept by every registration, so every clone has it
  have h := Board.run_invariant
    (P := fun log r => Router.Reflects contextPath r (Route.accepted contextPath log)) start
    (fun log r route hr => hr.register route) ops hclone
  exact ⟨h.governs request (.of_parse? readable) s, h.table.nodup,
    fun _ => Route.longestSubtree?_eq_some_iff, fun _ _ ha hb => ha.unique hb⟩

/-- A handler that counts its requests. -/
def counting : Handler Nat := fun _ s => (.text 200 "here", s + 1)

/-- Two nested subtrees, registered through two clones, and a route that is refused. -/
def nestedOps : List (Board.Op (Route (Handler Nat))) :=
  [.clone 0, .call 1 ⟨.get, "/", counting⟩, .call 0 ⟨.post, "/static/", counting⟩,
    .call 1 ⟨.get, "/", counting⟩]

/-- A request for a method that the longest subtree lacks is refused, though a shorter subtree has
the method. -/
theorem serve_answers_scan_nested :
    let request : Request := { method := .get, target := { path := "/api/static/css" } }
    ∃ r : Router (Handler Nat),
      ((Board.ofValue (ofContextPath "/api/")).run register nestedOps).board.value? 1 = some r ∧
      Target.parse? "/api/static/css" = some request.target ∧
      ∃ methods, r.serve request 0 = (.methodNotAllowed methods, 0) := by
  have hclone : ∃ r : Router (Handler Nat),
      ((Board.ofValue (ofContextPath "/api/")).run register nestedOps).board.value? 1 = some r :=
    ⟨_, rfl⟩
  have hread : Target.parse? "/api/static/css" = some { path := "/api/static/css" } := by rfl
  -- the second subtree is longer, and has no handler for the method
  have hdecide : Route.decide
      (Route.accepted "/api/"
        ((Board.ofValue (ofContextPath "/api/")).run register nestedOps).log)
      .get "/api/static/css" = .refuse := by rfl
  intro request
  obtain ⟨r, hr⟩ := hclone
  have hserve :=
    (serve_answers_scan "/api/" nestedOps 1 r "/api/static/css" request 0 hr hread).1
  rw [hdecide] at hserve
  exact ⟨r, hr, hread, hserve⟩

end Router

end ServiceHost
