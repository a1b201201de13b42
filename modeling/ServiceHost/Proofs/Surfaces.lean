import Mathlib.Data.List.Forall2
import ServiceHost.Proofs.Setup

/-!
# The two surfaces

A service shows itself on two surfaces, each with a router and a context path of its own. The
context paths may be the same. Resources of components are served on the application surface, and
what operators use on the admin surface.

* `Router.serve_of_find?` and `Router.find?_of_resolve` relate what a router answers to the handlers
  in its table.
* `AdminEnvironment.routes_install` says what the admin surface lists when its routes are installed
  on an empty router.
* `Environment.start_serves_surfaces` says what the two surfaces serve after a start that succeeds,
  and that the log of endpoints tells it.
-/

namespace ServiceHost

/-! ### Handlers and answers -/

namespace RouteTable

variable {H : Type} {t : RouteTable H}

/-- A pattern with a handler is met by the path that equals it. -/
theorem find_of_find? {method : Method} {pattern : String} {handler : H}
    (h : (t.verbsAt pattern).find? method = some handler) :
    t.find pattern = .node pattern (t.verbsAt pattern) := by
  unfold find
  cases hnode : t.nodes.find? pattern with
  | none =>
    rw [verbsAt, hnode] at h
    cases h
  | some verbs =>
    rw [verbsAt, hnode]
    rfl

/-- What a path meets is what the table holds for the pattern. -/
theorem eq_of_find {path pattern : String} {verbs : Verbs H}
    (h : t.find path = .node pattern verbs) : verbs = t.verbsAt pattern := by
  unfold find at h
  -- what is found is held for the path itself, or for a subtree that the path lies in
  cases hnode : t.nodes.find? path with
  | some held =>
    rw [hnode] at h
    obtain ⟨rfl, rfl⟩ := Match.node.inj h
    rw [verbsAt, hnode]
    rfl
  | none =>
    rw [hnode] at h
    simp only at h
    split at h
    · cases h
    · split at h
      · obtain ⟨rfl, rfl⟩ := Match.node.inj h
        rfl
      · cases h

/-- A path meets a pattern that it begins with. -/
theorem beginsWith_of_find {path pattern : String} {verbs : Verbs H}
    (h : t.find path = .node pattern verbs) : beginsWith path pattern = true := by
  unfold find at h
  cases hnode : t.nodes.find? path with
  | some held =>
    rw [hnode] at h
    obtain ⟨rfl, -⟩ := Match.node.inj h
    exact beginsWith_iff.mpr (List.prefix_refl _)
  | none =>
    rw [hnode] at h
    simp only at h
    split at h
    · cases h
    · split at h
      · next hfind =>
        obtain ⟨rfl, -⟩ := Match.node.inj h
        exact List.find?_some hfind
      · cases h

end RouteTable

namespace Router

variable {H σ : Type}

/-- A router without routes has no handlers. -/
theorem find?_eq_none {r : Router H} (h : r.routes = []) (method : Method) (pattern : String) :
    (r.table.verbsAt pattern).find? method = none := by
  have hnone : (method, pattern) ∉ r.routes := by
    rw [h]
    exact List.not_mem_nil
  rwa [mem_routes, Option.not_isSome_iff_eq_none] at hnone

/-- A request for a method and a path that have a handler is answered by it. -/
theorem serve_of_find? {r : Router (Handler σ)} {request : Request} {handler : Handler σ}
    (h : (r.table.verbsAt request.target.path).find? request.method = some handler) (s : σ) :
    r.serve request s = handler request s := by
  rw [serve_of_find_node (RouteTable.find_of_find? h), h]

/-- A handler that a request meets is that of its method on the pattern that it meets. -/
theorem find?_of_resolve {r : Router H} {method : Method} {target : Target} {pattern : String}
    {handler : H} (h : r.resolve method target = .handler pattern handler) :
    (r.table.verbsAt pattern).find? method = some handler := by
  unfold resolve at h
  -- only a pattern has handlers
  cases hfind : r.table.find target.path with
  | node p verbs =>
    rw [hfind] at h
    obtain rfl := RouteTable.eq_of_find hfind
    cases hverb : (r.table.verbsAt p).find? method with
    | none =>
      simp only [hverb] at h
      cases h
    | some found =>
      simp only [hverb] at h
      obtain ⟨rfl, rfl⟩ := Resolution.handler.inj h
      exact hverb
  | redirect path =>
    rw [hfind] at h
    simp only at h
    split at h <;> cases h
  | none =>
    rw [hfind] at h
    cases h

/-- A request meets a handler at a pattern that its path begins with. -/
theorem beginsWith_of_resolve {r : Router H} {method : Method} {target : Target}
    {pattern : String} {handler : H} (h : r.resolve method target = .handler pattern handler) :
    beginsWith target.path pattern = true := by
  unfold resolve at h
  split at h
  · next hfind =>
    split at h
    · obtain ⟨rfl, -⟩ := Resolution.handler.inj h
      exact RouteTable.beginsWith_of_find hfind
    · cases h
  · simp only at h
    split at h <;> cases h
  · cases h

/-- A pattern that has a handler is met by the path that equals it. -/
theorem resolve_of_find? {r : Router H} {method : Method} {pattern : String} {handler : H}
    (h : (r.table.verbsAt pattern).find? method = some handler) (query : Option String) :
    r.resolve method ⟨pattern, query⟩ = .handler pattern handler := by
  unfold resolve
  rw [RouteTable.find_of_find? h]
  simp only [h]

/-- Two lists of the same pairs in the order of a router are the same. -/
theorem eq_of_listed {xs ys : List (Method × String)} (hperm : xs.Perm ys)
    (hxs : xs.Pairwise Listed) (hys : ys.Pairwise Listed) : xs = ys := by
  refine hperm.eq_of_pairwise (fun a b _ _ hab hba => ?_) hxs hys
  -- no two pairs stand before each other
  exfalso
  rcases hab with hab | ⟨hp, hab⟩ <;> rcases hba with hba | ⟨hp', hba⟩
  · exact Std.lt_irrefl (Std.lt_trans hab hba)
  · exact Std.lt_irrefl (hp' ▸ hab)
  · exact Std.lt_irrefl (hp ▸ hba)
  · exact Std.lt_irrefl (Std.lt_trans hab hba)

end Router

/-! ### The admin surface -/

namespace AdminEnvironment

variable {σ : Type}

/-- The router gains the routes that are installed. -/
theorem gains_install {installs : List (Installation σ)} {router after : Router (AdminRoute σ)}
    {log : EndpointLog} (h : install installs router = (.ok log, after)) :
    router.Gains after (installs.map fun i => ⟨i.method, i.pattern, i.route⟩) := by
  induction installs generalizing router log with
  | nil =>
    obtain rfl := (Prod.mk.inj h).2
    exact .refl _
  | cons i rest ih =>
    -- a step that fails ends the installation, which has not failed
    unfold install at h
    cases hhandle : router.handle i.method i.pattern i.route with
    | error e =>
      rw [hhandle] at h
      cases h
    | ok mid =>
      rcases hrest : install rest mid with ⟨found, last⟩
      simp only [hhandle, hrest] at h
      obtain ⟨hfound, rfl⟩ := Prod.mk.inj h
      cases found with
      | error e => cases hfound
      | ok found => exact (Router.gains_handle hhandle).append (ih hrest)

/-- **The admin routes.** On a router without routes the installation leaves three, in order. -/
theorem routes_install {router after : Router (AdminRoute σ)} (hempty : router.routes = [])
    {log : EndpointLog} (h : install (installations router.contextPath) router = (.ok log, after)) :
    after.routes = [(.get, router.contextPath ++ "/healthcheck"),
      (.get, router.contextPath ++ "/ping"), (.post, router.contextPath ++ "/tasks/")] := by
  have hperm := (gains_install h).routes_perm
  rw [hempty, List.nil_append] at hperm
  -- the three patterns compare as what stands behind the context path
  have hlt : ∀ {a b : String}, a.toList < b.toList →
      router.contextPath ++ a < router.contextPath ++ b := by
    intro a b hab
    rw [String.lt_iff, String.toList_append, String.toList_append]
    exact List.append_left_lt hab
  -- the routes are installed with the ping first, and listed in another order
  refine Router.eq_of_listed (hperm.trans (List.Perm.swap _ _ _)) after.routes_listed ?_
  have hfirst : "/healthcheck".toList < "/ping".toList := by decide
  have hsecond : "/ping".toList < "/tasks/".toList := by decide
  refine List.pairwise_cons.mpr
    ⟨fun pair hpair => ?_, List.pairwise_pair.mpr (Or.inl (hlt hsecond))⟩
  rcases List.mem_pair.mp hpair with rfl | rfl
  · exact Or.inl (hlt hfirst)
  · exact Or.inl (hlt (List.lt_trans hfirst hsecond))

end AdminEnvironment

/-! ### Both surfaces -/

namespace Component

variable {σ : Type}

/-- A component is wired as a resource if it is one. -/
theorem asRoute?_eq (c : Component σ) :
    c.asRoute? = c.resource.map fun r => ⟨r.method, r.path, r.handler⟩ := by
  unfold asRoute? role?
  cases c.resource with
  | some r => rfl
  | none => cases c.managed <;> cases c.task <;> cases c.health <;> rfl

/-- The component of a resource stands behind an endpoint: it has its method, its path below a
context path and its type name, and a router answers requests for these with the resource. -/
def StandsBehind (c : Component σ) (router : Router (Handler σ)) (contextPath : String)
    (endpoint : Endpoint) : Prop :=
  ∃ r, c.resource = some r ∧ endpoint = ⟨r.method, contextPath ++ r.path, c.typeName⟩ ∧
    ∀ (request : Request) (s : σ), request.method = endpoint.method →
      request.target.path = endpoint.path → router.serve request s = r.handler request s

end Component

/-- Values that are found for some members of a list stand with these members. -/
theorem forall₂_filterMap {α β : Type} {R : α → β → Prop} {f : α → Option β} {l : List α}
    (h : ∀ a ∈ l, ∀ b, f a = some b → R a b) :
    List.Forall₂ R (l.filter fun a => (f a).isSome) (l.filterMap f) := by
  induction l with
  | nil => exact .nil
  | cons a rest ih =>
    have hrest := ih fun a ha => h a (List.mem_cons_of_mem _ ha)
    cases ha : f a with
    | none => simpa [ha] using hrest
    | some b =>
      have hone := h a List.mem_cons_self b ha
      simpa [ha] using ⟨hone, hrest⟩

namespace Environment

variable {σ : Type}

/-- What the two surfaces of a service serve, given its components, the log of endpoints and the
context paths. -/
structure ServesSurfaces (w : Wiring σ) (components : List (Component σ))
    (endpoints : EndpointLog) (application admin : String) : Prop where
  /-- The log has the resources in the order of their registration, and tells what is served. -/
  logged : List.Forall₂ (fun c endpoint => c.StandsBehind w.application application endpoint)
    (components.filter (·.resource.isSome)) endpoints
  routes_perm : w.application.routes.Perm (endpoints.map fun x => (x.method, x.path))
  routes_listed : w.application.routes.Pairwise Router.Listed
  /-- Whatever handles a request on the application surface is a resource. -/
  onlyResources : ∀ (request : Request) pattern handler,
    w.application.resolve request.method request.target = .handler pattern handler →
      ∃ c ∈ components, ∃ r, c.resource = some r ∧ r.method = request.method ∧
        application ++ r.path = pattern ∧ r.handler = handler
  adminRoutes_eq : w.admin.router.routes =
    [(.get, admin ++ "/healthcheck"), (.get, admin ++ "/ping"), (.post, admin ++ "/tasks/")]
  /-- Whatever handles a request on the admin surface is no resource. -/
  onlyAdmin : ∀ method target pattern route,
    w.admin.router.resolve method target = .handler pattern route →
      route = .ping ∨ route = .healthcheck ∨ ∃ root, route = .tasks root

/-- **The surfaces.** Set an environment up in any steps of which one or more build a server, with
nothing on the two routers, and start it. If the start succeeds, its log tells the resources in the
order of their registration, the application router lists what is logged and answers each logged
request with the resource that is logged, and the admin router lists its own three routes. Neither
router handles what belongs to the other, also where the context paths are the same. -/
theorem start_serves_surfaces (name : String) (config : ServerConfig) (logger : Logger)
    (steps : List (Setup σ)) (built : 0 < servers steps)
    (happlication : ((ofConfig name config logger).setUp steps).wiring.application.routes = [])
    (hadmin : ((ofConfig name config logger).setUp steps).wiring.admin.router.routes = [])
    {endpoints : EndpointLog}
    (hstart : ((ofConfig name config logger).setUp steps).start.result = .ok endpoints) :
    ServesSurfaces ((ofConfig name config logger).setUp steps).start.environment.wiring
      (registered steps) endpoints (dropFinalSlash config.applicationContextPath)
      (dropFinalSlash config.adminContextPath) := by
  have hpath : ((ofConfig name config logger).setUp steps).wiring.application.contextPath =
      dropFinalSlash config.applicationContextPath :=
    ((ofConfig name config logger).adds_setUp steps).contextPath_eq .application
  have hadminPath : ((ofConfig name config logger).setUp steps).wiring.admin.router.contextPath =
      dropFinalSlash config.adminContextPath :=
    ((ofConfig name config logger).adds_setUp steps).contextPath_eq .admin
  have hwired := startsWired_setUp name config logger built hstart
  obtain ⟨log, router, hinstall, hrouter⟩ := admin_start_of_ok hstart
  -- the rest is about any environment that has started so
  generalize (ofConfig name config logger).setUp steps = e at *
  have hgains := hwired.wired.gains
  rw [hgains.adminRouter_eq] at hinstall
  have hinstalled := AdminEnvironment.gains_install hinstall
  have hadded := hgains.application.added
  have honly := hgains.application.only
  have hperm := hgains.application.routes_perm
  have hendpoints := hwired.wired.endpoints_eq
  rw [hpath] at hadded honly hperm hendpoints
  rw [← hwired.application_eq] at hadded honly hperm
  refine ⟨?_, ?_, Router.routes_listed _, ?_, ?_, ?_⟩
  · -- the log has one endpoint for each component that is a resource
    have hresource : ∀ c : Component σ, c.resource.isSome =
        (c.asEndpoint? (dropFinalSlash config.applicationContextPath)).isSome := by
      intro c
      rw [Component.asEndpoint?, Option.isSome_map, Component.asRoute?_eq, Option.isSome_map]
    rw [hendpoints]
    simp only [hresource]
    refine forall₂_filterMap fun c hc endpoint hendpoint => ?_
    obtain ⟨route, hroute, rfl⟩ := Option.map_eq_some_iff.mp hendpoint
    have hhandler := hadded route (List.mem_filterMap.mpr ⟨c, hc, hroute⟩)
    rw [Component.asRoute?_eq] at hroute
    obtain ⟨r, hr, rfl⟩ := Option.map_eq_some_iff.mp hroute
    refine ⟨r, hr, rfl, fun request s hmethod htarget => Router.serve_of_find? ?_ s⟩
    rw [htarget, hmethod]
    exact hhandler
  · -- what is listed are the routes of the resources, which are the pairs of the endpoints
    rw [happlication, List.nil_append] at hperm
    have hpairs : endpoints.map (fun x => (x.method, x.path)) =
        ((registered steps).filterMap (·.asRoute?)).map fun r =>
          (r.method, dropFinalSlash config.applicationContextPath ++ r.pattern) := by
      rw [hendpoints, List.map_filterMap, List.map_filterMap]
      congr 1
      funext c
      rw [Component.asEndpoint?, Option.map_map]
      rfl
    rw [hpairs]
    exact hperm
  · intro request pattern handler hresolve
    rcases honly _ _ _ (Router.find?_of_resolve hresolve) with
      hold | ⟨route, hroute, hmethod, hpattern, rfl⟩
    · -- there were no handlers before
      rw [Router.find?_eq_none happlication] at hold
      cases hold
    · obtain ⟨c, hc, hcroute⟩ := List.mem_filterMap.mp hroute
      rw [Component.asRoute?_eq] at hcroute
      obtain ⟨r, hr, rfl⟩ := Option.map_eq_some_iff.mp hcroute
      exact ⟨c, hc, r, hr, hmethod, hpattern, rfl⟩
  · rw [hrouter, ← hadminPath]
    exact AdminEnvironment.routes_install hadmin hinstall
  · intro method target pattern route hresolve
    rw [hrouter] at hresolve
    rcases hinstalled.only _ _ _ (Router.find?_of_resolve hresolve) with hold | ⟨r, hr, -, -, rfl⟩
    · -- there was nothing on the router before
      rw [Router.find?_eq_none hadmin] at hold
      cases hold
    · obtain ⟨i, hi, rfl⟩ := List.mem_map.mp hr
      simp only [AdminEnvironment.installations, List.mem_cons, List.not_mem_nil, or_false] at hi
      -- the admin router has three routes, and none of them is a resource
      rcases hi with rfl | rfl | rfl
      · exact Or.inl rfl
      · exact Or.inr (Or.inl rfl)
      · exact Or.inr (Or.inr ⟨_, rfl⟩)

/-- One context path for both surfaces. -/
def sharedConfig : ServerConfig where
  applicationContextPath := "/api/"
  adminContextPath := "/api"

/-- A resource at a path that the admin surface has, too. -/
def pinging : Component Nat where
  typeName := "Pinging"
  resource := some { method := .get, path := "/ping", handler := fun _ s => (.text 200 "own", s) }

/-- Two resources, one of them at a path of the admin surface. -/
def sharedSteps : List (Setup Nat) := [.register [pinging, versatile], .build sharedConfig]

theorem start_serves_surfaces_shared :
    let e := (ofConfig "service" sharedConfig ⟨"root"⟩).setUp sharedSteps
    0 < servers sharedSteps ∧ e.wiring.application.routes = [] ∧
      e.wiring.admin.router.routes = [] ∧ ∃ endpoints, e.start.result = .ok endpoints ∧
      ServesSurfaces e.start.environment.wiring [pinging, versatile] endpoints "/api" "/api" ∧
      (Method.get, "/api/ping") ∈ endpoints.map (fun x => (x.method, x.path)) ∧
      (Method.get, "/api/ping") ∈ e.start.environment.wiring.admin.router.routes := by
  have hbuilt : 0 < servers sharedSteps := by decide
  have happlication : ((ofConfig "service" sharedConfig ⟨"root"⟩).setUp
      sharedSteps).wiring.application.routes = [] := rfl
  have hadmin : ((ofConfig "service" sharedConfig ⟨"root"⟩).setUp
      sharedSteps).wiring.admin.router.routes = [] := rfl
  have hok : (((ofConfig "service" sharedConfig ⟨"root"⟩).setUp
      sharedSteps).start.result.toOption).isSome = true := rfl
  cases hstart : ((ofConfig "service" sharedConfig ⟨"root"⟩).setUp sharedSteps).start.result with
  | error err =>
    rw [hstart] at hok
    cases hok
  | ok endpoints =>
    have hserves := start_serves_surfaces "service" sharedConfig ⟨"root"⟩ sharedSteps hbuilt
      happlication hadmin hstart
    refine ⟨hbuilt, happlication, hadmin, endpoints, hstart, hserves, ?_, ?_⟩
    · -- the first component is logged first
      cases hserves.logged with
      | cons hfirst _ =>
        obtain ⟨r, hr, rfl, -⟩ := hfirst
        obtain rfl := Option.some.inj hr
        exact List.mem_cons_self
    · rw [hserves.adminRoutes_eq]
      exact List.mem_cons_of_mem _ List.mem_cons_self

end Environment

end ServiceHost
