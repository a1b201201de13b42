import ServiceHost.Proofs.ManagedStarts
import ServiceHost.Proofs.RouteOrder
import ServiceHost.Proofs.Surfaces

/-!
# The order of registration

An application registers its components in some order, and the order is kept: the subtrees of a
table stand in it, the endpoints are logged in it, and the managed objects are started in it. But
no request can tell it. If the components get along (their routes, tasks and health checks have
names of their own, and the managed objects start), then every order of their registration starts,
and both surfaces answer every request alike.

* `Component.Compatible` is what it takes, and `Component.Compatible.perm` that the order does not
  matter to it.
* `Wiring.walk_of_compatible` is the walk of such components: none is refused.
* `Environment.StartsInOrder` says what a start comes to by the order of the registration, and
  `Environment.starts_alike_of_perm` that this is all that the order decides.
-/

namespace ServiceHost

/-! ### Registries -/

section Names

variable {α : Type} {name : α → String}

/-- Among values with different names, a name has the value that bears it. -/
theorem lastNamed_eq_some_iff {values : List α} (distinct : (values.map name).Nodup)
    {key : String} {a : α} : lastNamed name values key = some a ↔ a ∈ values ∧ name a = key := by
  have hfound : ∀ {b}, lastNamed name values key = some b → b ∈ values ∧ name b = key := by
    intro b hb
    obtain ⟨hmem, hname⟩ := List.mem_filter.mp (List.mem_of_getLast? hb)
    exact ⟨hmem, beq_iff_eq.mp hname⟩
  refine ⟨hfound, ?_⟩
  rintro ⟨hmem, rfl⟩
  have hsome : (lastNamed name values (name a)).isSome = true :=
    isSome_lastNamed.mpr (List.mem_map.mpr ⟨a, hmem, rfl⟩)
  obtain ⟨b, hb⟩ := Option.isSome_iff_exists.mp hsome
  -- the value that is found bears the name, and no other does
  obtain ⟨hbmem, hbname⟩ := hfound hb
  rw [hb, List.inj_on_of_nodup_map distinct hbmem hmem hbname]

/-- Values with different names are found alike in any order. -/
theorem lastNamed_perm {values values' : List α} (hperm : values.Perm values')
    (distinct : (values.map name).Nodup) (key : String) :
    lastNamed name values key = lastNamed name values' key := by
  have distinct' : (values'.map name).Nodup := (hperm.map name).nodup_iff.mp distinct
  refine Option.ext fun a => ?_
  rw [lastNamed_eq_some_iff distinct, lastNamed_eq_some_iff distinct', hperm.mem_iff]

/-- Two neighbours with different names are found alike in either order. -/
theorem lastNamed_swap {a b : α} (h : name a ≠ name b) (before later : List α) (key : String) :
    lastNamed name (before ++ a :: b :: later) key =
      lastNamed name (before ++ b :: a :: later) key := by
  have distinct : ([a, b].map name).Nodup := by
    rw [List.map_cons, List.map_singleton, List.nodup_cons, List.mem_singleton]
    exact ⟨h, List.nodup_singleton _⟩
  -- what stands around the two has no part in the exchange
  have hpair : lastNamed name [a, b] key = lastNamed name [b, a] key :=
    lastNamed_perm (List.Perm.swap b a []) distinct key
  change lastNamed name (before ++ ([a, b] ++ later)) key =
    lastNamed name (before ++ ([b, a] ++ later)) key
  rw [lastNamed_append, lastNamed_append, lastNamed_append, lastNamed_append, hpair]

/-- **A registry** holds the same after values with different names, whatever their order. -/
theorem KeyMap.Overwrites.eq_of_perm {before after after' : KeyMap String α}
    {values values' : List α} (h : Overwrites name before after values)
    (h' : Overwrites name before after' values') (hperm : values.Perm values')
    (distinct : (values.map name).Nodup) : after = after' := by
  apply KeyMap.eq_of_find?_eq
  intro key
  rw [h key, h' key, lastNamed_perm hperm distinct]

end Names

variable {σ : Type}

/-! ### Components that get along -/

namespace Component

/-- Components none of which stands in the way of another: what they are wired as has names of its
own, and the managed objects start. -/
structure Compatible (components : List (Component σ)) : Prop where
  /-- No resource has an empty path. -/
  patterns : ∀ r ∈ components.filterMap (·.asRoute?), r.pattern ≠ ""
  /-- No two resources have the same method and path. -/
  routes : ((components.filterMap (·.asRoute?)).map Route.pair).Nodup
  tasks : ((components.filterMap (·.asTask?)).map Task.name).Nodup
  checks : ((components.filterMap (·.asCheck?)).map HealthCheck.name).Nodup
  /-- Every managed object starts when it is started for the first time. -/
  objects : ∀ x ∈ components.filterMap (·.asObject?), (x.2.start 0).result = .ok ()

theorem Compatible.perm {components components' : List (Component σ)}
    (h : Compatible components) (hperm : components.Perm components') :
    Compatible components' where
  patterns r hr := h.patterns r ((hperm.filterMap _).mem_iff.mpr hr)
  routes := ((hperm.filterMap _).map _).nodup_iff.mp h.routes
  tasks := ((hperm.filterMap _).map _).nodup_iff.mp h.tasks
  checks := ((hperm.filterMap _).map _).nodup_iff.mp h.checks
  objects x hx := h.objects x ((hperm.filterMap _).mem_iff.mpr hx)

/-- The visit of a component that is in nobody's way: it is wired, or reported if it has no
role. -/
def visitAlone (c : Component σ) : Dispatcher.Visit where
  outcome := .ok c.role?.isSome
  events := Dispatcher.report Component.typeName c (.ok c.role?.isSome)

/-- What a component gives the components before it do not give, if names are different. -/
theorem not_mem_before {α : Type} {f : Component σ → Option α} {name : α → String}
    {components : List (Component σ)} (distinct : ((components.filterMap f).map name).Nodup)
    {i : ℕ} (hi : i < components.length) {a : α} (ha : f components[i] = some a) :
    name a ∉ ((components.take i).filterMap f).map name := by
  have hsplit : components = components.take i ++ components[i] :: components.drop (i + 1) := by
    rw [← List.drop_eq_getElem_cons hi, List.take_append_drop]
  have hvalues : components.filterMap f =
      (components.take i).filterMap f ++ a :: (components.drop (i + 1)).filterMap f := by
    conv_lhs => rw [hsplit]
    rw [List.filterMap_append, List.filterMap_cons_some ha]
  -- the value stands behind those of the components before, so their names are among the others
  rw [hvalues, List.map_append, List.map_cons] at distinct
  intro hmem
  exact List.disjoint_of_nodup_append distinct hmem List.mem_cons_self

/-- **No warnings.** On a walk of components that get along, with nothing registered before, no
name is taken: what is reported of a component does not depend on those before it. -/
theorem Compatible.visits_eq {components : List (Component σ)} (h : Compatible components)
    {w : Wiring σ} (tasks : w.admin.tasks = .empty) (checks : w.admin.health = .empty) :
    (components.mapIdx fun i c => c.visit w (components.take i)) = components.map visitAlone := by
  apply List.ext_getElem
  · rw [List.length_mapIdx, List.length_map]
  intro i hi _
  rw [List.length_mapIdx] at hi
  rw [List.getElem_mapIdx, List.getElem_map]
  unfold visit visitAlone
  congr 1
  -- only a task and a check can find their names taken, which is all that a visit reports
  rcases hrole : components[i].role? with _ | role
  · rfl
  cases role with
  | resource r => rfl
  | managed object => rfl
  | task t =>
    have htask : components[i].asTask? = some t := by
      unfold asTask?
      rw [hrole]
      rfl
    have hfree : ¬ KeyMap.Taken Task.name w.admin.tasks
        ((components.take i).filterMap asTask?) t.name := by
      rintro (hheld | hbefore)
      · rw [tasks] at hheld
        cases hheld
      · exact not_mem_before h.tasks hi htask hbefore
    exact if_neg hfree
  | health check =>
    have hcheck : components[i].asCheck? = some check := by
      unfold asCheck?
      rw [hrole]
      rfl
    have hfree : ¬ KeyMap.Taken HealthCheck.name w.admin.health
        ((components.take i).filterMap asCheck?) check.name := by
      rintro (hheld | hbefore)
      · rw [checks] at hheld
        cases hheld
      · exact not_mem_before h.checks hi hcheck hbefore
    exact if_neg hfree

end Component

/-- Routes with different pairs have different pairs below a context path, too. -/
theorem Route.nodup_below {H : Type} (contextPath : String) {routes : List (Route H)}
    (h : (routes.map pair).Nodup) : ((routes.map (below contextPath)).map pair).Nodup := by
  have hmap : (routes.map (below contextPath)).map pair =
      (routes.map pair).map fun p => (p.1, dropFinalSlash contextPath ++ p.2) := by
    rw [List.map_map, List.map_map]
    rfl
  rw [hmap]
  apply h.map
  rintro ⟨method, pattern⟩ ⟨method', pattern'⟩ heq
  obtain ⟨hmethod, hpattern⟩ := Prod.mk.inj heq
  -- the context path is in front of both patterns, and can be taken away from both
  rw [← String.toList_inj, String.toList_append, String.toList_append,
    List.append_cancel_left_eq, String.toList_inj] at hpattern
  exact Prod.ext hmethod hpattern

/-- Among routes with different pairs, none has the pair of one that stands before it. -/
theorem Route.pair_notMem_of_nodup {H : Type} {routes later : List (Route H)} {r : Route H}
    (distinct : ((routes ++ r :: later).map pair).Nodup) : r.pair ∉ routes.map pair := by
  rw [List.map_append, List.map_cons] at distinct
  intro hold
  exact List.disjoint_of_nodup_append distinct hold List.mem_cons_self

/-! ### Walks of components that get along -/

namespace Wiring

/-- A wiring before its first start: the application router holds exactly the given routes, and no
managed object was ever called. -/
structure Idle (contextPath : String) (w : Wiring σ) (routes : List (Route (Handler σ))) :
    Prop where
  application : w.application.Reflects contextPath routes
  uncalled : ∀ entry ∈ w.lifecycle.entries, entry.starts = 0

/-- **One component.** A component whose route is new is not refused. -/
theorem Idle.wire {contextPath : String} {w : Wiring σ} {routes : List (Route (Handler σ))}
    (h : w.Idle contextPath routes) (c : Component σ)
    (hpattern : ∀ r ∈ c.asRoute?, r.pattern ≠ "")
    (fresh : ∀ r ∈ c.asRoute?, (r.below contextPath).pair ∉ routes.map Route.pair) :
    (∃ claimed, (c.wire w).1.outcome = .ok claimed) ∧
      (c.wire w).2.Idle contextPath (routes ++ (c.asRoute?.map (·.below contextPath)).toList) := by
  -- a component that is no resource adds no route
  have hnone : ∀ {o : Option (Role σ)}, c.role? = o → o.bind Role.route? = none →
      routes ++ (c.asRoute?.map (·.below contextPath)).toList = routes := by
    intro o hrole hroute
    rw [Component.asRoute?, hrole, hroute]
    exact List.append_nil routes
  unfold Component.wire
  rcases c.role?_cases with ⟨r, hresource, hrole⟩ | ⟨object, hmanaged, hrole⟩ | ⟨t, htask, hrole⟩ |
    ⟨check, hhealth, hrole⟩ | hrole
  · have hroute : c.asRoute? = some ⟨r.method, r.path, r.handler⟩ := by
      unfold Component.asRoute?
      rw [hrole]
      rfl
    -- the router has no handler for the pair of the resource, so it accepts it
    obtain ⟨after, hhandle, hafter⟩ :=
      h.application.handle_of_fresh (hpattern _ hroute) (fresh _ hroute)
    simp only [hrole, resourceHandler, hresource, handle, hhandle, hroute]
    exact ⟨⟨true, rfl⟩, hafter, h.uncalled⟩
  · rw [hnone hrole rfl]
    simp only [hrole, managedHandler, hmanaged]
    refine ⟨⟨true, rfl⟩, h.application, ?_⟩
    intro entry hentry
    rcases List.mem_append.mp hentry with hold | hnew
    · exact h.uncalled entry hold
    · rw [List.mem_singleton.mp hnew]
  · rw [hnone hrole rfl]
    simp only [hrole, taskHandler, htask]
    exact ⟨⟨true, rfl⟩, h.application, h.uncalled⟩
  · rw [hnone hrole rfl]
    simp only [hrole, healthHandler, hhealth]
    exact ⟨⟨true, rfl⟩, h.application, h.uncalled⟩
  · rw [hnone hrole rfl]
    simp only [hrole]
    exact ⟨⟨false, rfl⟩, h.application, h.uncalled⟩

/-- **A walk of components** whose routes are new passes all of them. -/
theorem Idle.walk {handlers : List (ResourceHandler (Wiring σ) (Component σ))}
    (hask : ∀ c w, Dispatcher.ask c handlers w = c.wire w) {contextPath : String}
    {components : List (Component σ)} {w : Wiring σ} {routes : List (Route (Handler σ))}
    (h : w.Idle contextPath routes)
    (hpatterns : ∀ r ∈ components.filterMap (·.asRoute?), r.pattern ≠ "")
    (distinct : ((routes ++ (components.filterMap (·.asRoute?)).map
      (·.below contextPath)).map Route.pair).Nodup) :
    (∃ endpoints,
      (Dispatcher.walk Component.typeName handlers components w).1.result = .ok endpoints) ∧
      (Dispatcher.walk Component.typeName handlers components w).2.Idle contextPath
        (routes ++ (components.filterMap (·.asRoute?)).map (·.below contextPath)) := by
  -- by the component that is wired next; its routes move from what is to come to what is held
  induction components generalizing w routes with
  | nil =>
    rw [List.filterMap_nil, List.map_nil, List.append_nil]
    exact ⟨⟨[], rfl⟩, h⟩
  | cons c rest ih =>
    have hroutes : ((c :: rest).filterMap (·.asRoute?)).map (·.below contextPath) =
        (c.asRoute?.map (·.below contextPath)).toList ++
          (rest.filterMap (·.asRoute?)).map (·.below contextPath) := by
      cases hroute : c.asRoute? <;> simp [hroute]
    rw [hroutes, ← List.append_assoc] at distinct ⊢
    have hlater : ∀ r ∈ rest.filterMap (·.asRoute?), r.pattern ≠ "" := by
      intro r hr
      obtain ⟨c', hc', hr'⟩ := List.mem_filterMap.mp hr
      exact hpatterns r (List.mem_filterMap.mpr ⟨c', List.mem_cons_of_mem _ hc', hr'⟩)
    have hpattern : ∀ r ∈ c.asRoute?, r.pattern ≠ "" := by
      intro r hr
      exact hpatterns r (List.mem_filterMap.mpr ⟨c, List.mem_cons_self, hr⟩)
    -- the route of the first component stands behind those that the router holds
    have fresh : ∀ r ∈ c.asRoute?, (r.below contextPath).pair ∉ routes.map Route.pair := by
      intro r hr
      rw [Option.mem_def.mp hr] at distinct
      rw [List.append_assoc] at distinct
      exact Route.pair_notMem_of_nodup distinct
    obtain ⟨⟨claimed, hclaimed⟩, hone⟩ := h.wire c hpattern fresh
    have hrest := ih hone hlater distinct
    unfold Dispatcher.walk
    rw [hask]
    rcases hwire : c.wire w with ⟨claim, mid⟩
    rw [hwire] at hclaimed hrest
    obtain ⟨⟨endpoints, hendpoints⟩, hidle⟩ := hrest
    change claim.outcome = .ok claimed at hclaimed
    simp only [hclaimed]
    refine ⟨⟨claim.endpoints ++ endpoints, ?_⟩, hidle⟩
    rw [hendpoints]
    rfl

/-- **Components that get along** are all wired, from a wiring in which there is nothing. -/
theorem walk_of_compatible {handlers : List (ResourceHandler (Wiring σ) (Component σ))}
    (hask : ∀ c w, Dispatcher.ask c handlers w = c.wire w) {contextPath : String}
    {components : List (Component σ)} (compatible : Component.Compatible components)
    {w : Wiring σ} (h : w.Idle contextPath []) :
    (∃ endpoints,
      (Dispatcher.walk Component.typeName handlers components w).1.result = .ok endpoints) ∧
      (Dispatcher.walk Component.typeName handlers components w).2.Idle contextPath
        ((components.filterMap (·.asRoute?)).map (·.below contextPath)) :=
  h.walk hask compatible.patterns (Route.nodup_below contextPath compatible.routes)

end Wiring

/-! ### The admin routes -/

namespace AdminEnvironment

/-- Routes to install are not refused if they are new. -/
theorem install_of_fresh {contextPath : String} {installs : List (Installation σ)}
    {router : Router (AdminRoute σ)} {routes : List (Route (AdminRoute σ))}
    (h : router.Reflects contextPath routes) (hpatterns : ∀ i ∈ installs, i.pattern ≠ "")
    (distinct : ((routes ++ installs.map fun i =>
      Route.below contextPath ⟨i.method, i.pattern, i.route⟩).map Route.pair).Nodup) :
    ∃ log, (install installs router).1 = .ok log := by
  induction installs generalizing router routes with
  | nil => exact ⟨[], rfl⟩
  | cons i rest ih =>
    rw [List.map_cons] at distinct
    have fresh : (Route.below contextPath ⟨i.method, i.pattern, i.route⟩).pair ∉
        routes.map Route.pair := Route.pair_notMem_of_nodup distinct
    obtain ⟨mid, hhandle, hmid⟩ := h.handle_of_fresh (hpatterns i List.mem_cons_self) fresh
    -- the rest of the routes go onto a router that holds one more
    rw [← List.singleton_append, ← List.append_assoc] at distinct
    obtain ⟨log, hlog⟩ := ih hmid (fun j hj => hpatterns j (List.mem_cons_of_mem _ hj)) distinct
    unfold install
    rcases hrest : install rest mid with ⟨found, last⟩
    rw [hrest] at hlog
    change found = .ok log at hlog
    simp only [hhandle, hrest, hlog]
    exact ⟨⟨i.method, i.path, i.typeName⟩ :: log, rfl⟩

/-- **The admin routes** go onto a router without routes. -/
theorem installRoutes_ofContextPath {a : AdminEnvironment σ} {path : String}
    (h : a.router = .ofContextPath path) : ∃ log, a.installRoutes.1 = .ok log := by
  have hrouter : a.router.Reflects path [] := by
    rw [h]
    exact ⟨rfl, .empty⟩
  rw [a.installRoutes_eq.1]
  apply install_of_fresh hrouter
  · intro i hi
    have hpatterns : ∀ p ∈ (installations (σ := σ) a.router.contextPath).map (·.pattern),
        p ≠ "" := by
      show ∀ p ∈ ["/ping", "/healthcheck", "/tasks/"], p ≠ ""
      decide
    exact hpatterns i.pattern (List.mem_map_of_mem hi)
  · -- below the context path the three pairs stay as different as they are
    have hpairs : (((installations a.router.contextPath).map fun i =>
        (⟨i.method, i.pattern, i.route⟩ : Route (AdminRoute σ))).map Route.pair).Nodup := by
      show [(Method.get, "/ping"), (.get, "/healthcheck"), (.post, "/tasks/")].Nodup
      decide
    have hdistinct := Route.nodup_below path hpairs
    rwa [List.map_map] at hdistinct

end AdminEnvironment

/-! ### Starts -/

/-- Two wirings that no request tells apart. -/
structure Wiring.Alike (w w' : Wiring σ) : Prop where
  /-- A request in any state is answered alike, and leaves the same state and records. -/
  serve_eq : ∀ surface scope request s,
    w.serve surface scope request s = w'.serve surface scope request s
  applicationRoutes_eq : w.application.routes = w'.application.routes
  adminRoutes_eq : w.admin.router.routes = w'.admin.router.routes

namespace Environment

open LifecycleEvent

/-- A step that registers components or builds a server. It leaves the wiring as it is. -/
def Setup.LeavesWiring : Setup σ → Prop
  | .register _ | .build _ => True
  | _ => False

theorem wiring_setUp {steps : List (Setup σ)} (h : ∀ s ∈ steps, s.LeavesWiring)
    (e : Environment σ) : (e.setUp steps).wiring = e.wiring := by
  induction steps generalizing e with
  | nil => rfl
  | cons s rest ih =>
    have hnext : (e.next s).wiring = e.wiring := by
      have hs := h s List.mem_cons_self
      cases s with
      | register components => rfl
      | build config => rfl
      -- the steps that would touch the wiring are not among them
      | _ => exact hs.elim
    rw [setUp_cons, ih (fun s hs => h s (List.mem_cons_of_mem _ hs)), hnext]

/-- What a start that succeeds shows of the admin routes and of the managed objects. -/
theorem shown_of_ok {e : Environment σ} {endpoints : EndpointLog}
    (h : e.start.result = .ok endpoints) :
    e.start.routes = some (e.finalize.2.installRoutes.1, e.finalize.2.installRoutes.2.2) ∧
      e.start.moments = e.finalize.2.installRoutes.2.1.startManaged.2.2 := by
  rcases e.start_cases with
    ⟨err, -, hstart⟩ | ⟨found, -, ⟨err, -, hstart⟩ | ⟨admin, hadmin, hstart⟩⟩
  · rw [hstart] at h
    cases h
  · rw [hstart] at h
    cases h
  · rw [hstart, hadmin]
    exact ⟨rfl, rfl⟩

/-- What a start comes to by the order in which the components were registered. -/
structure StartsInOrder (e : Environment σ) (contextPath : String)
    (components : List (Component σ)) : Prop where
  /-- The start succeeds, and the endpoints are logged in the order of the components. -/
  result_eq : e.start.result = .ok (components.filterMap (·.asEndpoint? contextPath))
  /-- What is reported of a component does not depend on the others. -/
  visits_eq : e.start.walk.visits = components.map Component.visitAlone
  /-- The managed objects are those of the components, in their order. -/
  objects_prefix : components.filterMap (·.asObject?) <+:
    e.start.environment.wiring.lifecycle.objects
  /-- They are started in it, each once. -/
  attempted_eq : attempted (e.start.moments.map (·.event)) =
    List.range (components.filterMap (·.asObject?)).length

/-- An environment of a configuration in which components are registered and nothing else is set
up, with handlers that wire by role. -/
structure Prepared (e : Environment σ) (config : ServerConfig) (components : List (Component σ)) :
    Prop where
  components_eq : e.dispatcher.components = components
  finalized_eq : e.dispatcher.finalized = false
  wiring_eq : e.wiring = {
    application := .ofContextPath config.applicationContextPath
    admin := { router := .ofContextPath config.adminContextPath } }
  ask_eq : ∀ c w, Dispatcher.ask c e.dispatcher.handlers.reverse w = c.wire w

theorem prepared_setUp (name : String) (config : ServerConfig) (logger : Logger)
    {steps : List (Setup σ)} (hsteps : ∀ s ∈ steps, s.LeavesWiring) (built : 0 < servers steps) :
    ((ofConfig name config logger).setUp steps).Prepared config (registered steps) where
  components_eq := ((ofConfig name config logger).adds_setUp steps).components_eq
  finalized_eq := ((ofConfig name config logger).adds_setUp steps).finalized_eq
  wiring_eq := wiring_setUp hsteps _
  ask_eq := ask_setUp name config logger built

namespace Prepared

variable {e e' : Environment σ} {config : ServerConfig}
  {components components' : List (Component σ)}

/-- The walk of components that get along passes all of them. -/
theorem finalize (h : e.Prepared config components)
    (compatible : Component.Compatible components) :
    (∃ endpoints, e.finalize.1.result = .ok endpoints ∧
      e.wiring.Wired components endpoints e.finalize.1.visits e.finalize.2.wiring) ∧
      e.finalize.2.wiring.Idle config.applicationContextPath
        ((components.filterMap (·.asRoute?)).map (·.below config.applicationContextPath)) := by
  have hidle : e.wiring.Idle config.applicationContextPath [] := by
    rw [h.wiring_eq]
    exact ⟨⟨rfl, .empty⟩, fun _ hentry => nomatch hentry⟩
  obtain ⟨⟨endpoints, hresult⟩, hafter⟩ :=
    Wiring.walk_of_compatible h.ask_eq compatible hidle
  have hwalk : e.finalize.1.result = .ok endpoints ∧
      e.finalize.2.wiring.Idle config.applicationContextPath
        ((components.filterMap (·.asRoute?)).map (·.below config.applicationContextPath)) := by
    -- nothing has walked the components yet
    unfold Environment.finalize Dispatcher.finalize
    simp only [h.finalized_eq, h.components_eq, Bool.false_eq_true, ↓reduceIte]
    exact ⟨hresult, hafter⟩
  have hwired := (wired_finalize h.finalized_eq h.ask_eq hwalk.1).1
  rw [h.components_eq] at hwired
  exact ⟨⟨endpoints, hwalk.1, hwired⟩, hwalk.2⟩

/-- **A start of components that get along** succeeds. -/
theorem startsInOrder (h : e.Prepared config components)
    (compatible : Component.Compatible components) :
    e.StartsInOrder (dropFinalSlash config.applicationContextPath) components := by
  obtain ⟨⟨log, hwalk, hwired⟩, hidle⟩ := h.finalize compatible
  have hlog := hwired.endpoints_eq
  have hvisits := hwired.visits_eq
  have hobjects := hwired.gains.objects_eq
  have hstarted := hwired.gains.started_eq
  have hrouter := hwired.gains.adminRouter_eq
  rw [h.wiring_eq] at hlog hvisits hobjects hstarted hrouter
  -- nothing was registered before, so no visit depends on another one
  rw [compatible.visits_eq rfl rfl] at hvisits
  change e.finalize.2.wiring.lifecycle.objects = components.filterMap (·.asObject?) at hobjects
  -- the admin routes go onto a router that is still empty
  have hadmin : ∃ admin, e.finalize.2.installRoutes.1 = .ok admin :=
    AdminEnvironment.installRoutes_ofContextPath hrouter
  -- no object was called before, and each of them starts the first time
  obtain ⟨hmanaged, hattempted⟩ := Lifecycle.start_of_uncalled hstarted hidle.uncalled
    fun x hx => compatible.objects x (hobjects ▸ hx)
  rw [hobjects] at hattempted
  obtain ⟨endpoints, hstart⟩ := (start_ok_iff hwalk).mpr ⟨hadmin, hmanaged⟩
  obtain ⟨hwalk', -, henvironment⟩ := start_of_ok hstart
  have hsame : log = endpoints := Except.ok.inj (hwalk.symm.trans hwalk')
  refine ⟨?_, ?_, ?_, ?_⟩
  · rw [hstart, ← hsame, hlog]
    rfl
  · rw [walk_start, hvisits]
  · rw [henvironment, ← hobjects]
    exact Lifecycle.objects_start e.finalize.2.wiring.lifecycle
  · rw [(shown_of_ok hstart).2]
    exact hattempted

/-- The walk leaves the same on the admin surface, whatever the order of the components. -/
theorem admin_eq_of_perm (h : e.Prepared config components)
    (h' : e'.Prepared config components') (hperm : components.Perm components')
    (compatible : Component.Compatible components) :
    e.finalize.2.wiring.admin = e'.finalize.2.wiring.admin := by
  obtain ⟨⟨log, -, hwired⟩, -⟩ := h.finalize compatible
  obtain ⟨⟨log', -, hwired'⟩, -⟩ := h'.finalize (compatible.perm hperm)
  have hgains := hwired.gains
  have hgains' := hwired'.gains
  rw [h.wiring_eq] at hgains
  rw [h'.wiring_eq] at hgains'
  -- the walk does not touch the router, and the two registries forget the order of their names
  have hrouter : e.finalize.2.wiring.admin.router = e'.finalize.2.wiring.admin.router :=
    hgains.adminRouter_eq.trans hgains'.adminRouter_eq.symm
  have htasks : e.finalize.2.wiring.admin.tasks = e'.finalize.2.wiring.admin.tasks :=
    hgains.tasks.eq_of_perm hgains'.tasks (hperm.filterMap _) compatible.tasks
  have hhealth : e.finalize.2.wiring.admin.health = e'.finalize.2.wiring.admin.health :=
    hgains.checks.eq_of_perm hgains'.checks (hperm.filterMap _) compatible.checks
  calc e.finalize.2.wiring.admin
      = ⟨e.finalize.2.wiring.admin.router, e.finalize.2.wiring.admin.health,
          e.finalize.2.wiring.admin.tasks⟩ := rfl
    _ = e'.finalize.2.wiring.admin := by rw [hrouter, htasks, hhealth]

/-- **Started alike.** After both starts no request tells the two environments apart. -/
theorem alike_of_perm (h : e.Prepared config components) (h' : e'.Prepared config components')
    (hperm : components.Perm components') (compatible : Component.Compatible components) :
    e.start.routes = e'.start.routes ∧
      e.start.environment.wiring.Alike e'.start.environment.wiring := by
  have hstart := (h.startsInOrder compatible).result_eq
  have hstart' := (h'.startsInOrder (compatible.perm hperm)).result_eq
  have hwalked := h.admin_eq_of_perm h' hperm compatible
  have henvironment := (start_of_ok hstart).2.2
  have henvironment' := (start_of_ok hstart').2.2
  -- the routes are installed on one and the same admin surface
  have hadmin : e.start.environment.wiring.admin = e'.start.environment.wiring.admin := by
    rw [henvironment, henvironment']
    show e.finalize.2.wiring.admin.installRoutes.2.1 =
      e'.finalize.2.wiring.admin.installRoutes.2.1
    rw [hwalked]
  have hroutes : e.start.routes = e'.start.routes := by
    rw [(shown_of_ok hstart).1, (shown_of_ok hstart').1]
    show some (e.finalize.2.wiring.admin.installRoutes.1,
        e.finalize.2.wiring.admin.installRoutes.2.2) =
      some (e'.finalize.2.wiring.admin.installRoutes.1,
        e'.finalize.2.wiring.admin.installRoutes.2.2)
    rw [hwalked]
  -- the application routers hold the same routes, registered in two orders
  have hreflects := (h.finalize compatible).2.application
  have hreflects' := (h'.finalize (compatible.perm hperm)).2.application
  have hpermRoutes := (hperm.filterMap (·.asRoute?)).map (·.below config.applicationContextPath)
  have happlication : e.start.environment.wiring.application =
      e.finalize.2.wiring.application := by
    rw [henvironment]
    rfl
  have happlication' : e'.start.environment.wiring.application =
      e'.finalize.2.wiring.application := by
    rw [henvironment']
    rfl
  refine ⟨hroutes, ?_, ?_, ?_⟩
  · intro surface scope request s
    cases surface with
    | application =>
      unfold Wiring.serve
      rw [happlication, happlication', hreflects.serve_eq_of_perm hreflects' hpermRoutes]
    | admin =>
      unfold Wiring.serve
      rw [hadmin]
  · rw [happlication, happlication']
    exact hreflects.routes_eq_of_perm hreflects' hpermRoutes
  · rw [hadmin]

end Prepared

/-- **The order of registration** decides the order of what is logged and of what is started, and
nothing that a request meets. Register components that get along in two orders in two environments
of one configuration, and build servers at any point. Then both starts succeed. Each logs the
endpoints and starts the managed objects in its own order, and reports of every component what the
other does; both install the same on the admin surface; and afterwards both surfaces list the same
routes and answer every request alike. -/
theorem starts_alike_of_perm (name name' : String) (config : ServerConfig)
    (logger logger' : Logger) (steps steps' : List (Setup σ))
    (hsteps : ∀ s ∈ steps, s.LeavesWiring) (hsteps' : ∀ s ∈ steps', s.LeavesWiring)
    (built : 0 < servers steps) (built' : 0 < servers steps')
    (hperm : (registered steps).Perm (registered steps'))
    (compatible : Component.Compatible (registered steps)) :
    let e := (ofConfig name config logger).setUp steps
    let e' := (ofConfig name' config logger').setUp steps'
    e.StartsInOrder (dropFinalSlash config.applicationContextPath) (registered steps) ∧
      e'.StartsInOrder (dropFinalSlash config.applicationContextPath) (registered steps') ∧
      e.start.routes = e'.start.routes ∧
      e.start.environment.wiring.Alike e'.start.environment.wiring := by
  intro e e'
  have h : e.Prepared config (registered steps) := prepared_setUp name config logger hsteps built
  have h' : e'.Prepared config (registered steps') :=
    prepared_setUp name' config logger' hsteps' built'
  exact ⟨h.startsInOrder compatible, h'.startsInOrder (compatible.perm hperm),
    h.alike_of_perm h' hperm compatible⟩

/-- A resource that counts its requests and answers with a text. -/
def serving (text : String) (method : Method) (path : String) : Component Nat where
  typeName := text
  resource := some { method, path, handler := fun _ s => (.text 200 text, s + 1) }

/-- An object that, in its start, stops those that run and adds one that will not start. -/
def bustling : Managed where
  start _ := .stopAll
    (.manage "late" (fun _ => .done (.error "too late")) (fun _ => {}) (.done (.ok ())))
  stop _ := {}

/-- Two subtrees of one length, one within another, and components of every other role. -/
def household : List (Component Nat) :=
  [serving "hall" .get "/hall/", serving "yard" .get "/yard/", serving "nook" .post "/hall/nook/",
    { typeName := "Stove", managed := some steady },
    { typeName := "Boiler", managed := some bustling },
    { typeName := "Collector", task := some (answering "collected") },
    { typeName := "Database", health := some sound }, { typeName := "Shapeless" }]

/-- The components in their order, and then a server. -/
def householdSteps : List (Setup Nat) := [.register household, .build sharedConfig]

/-- A server, and then the components in the opposite order. -/
def reversedSteps : List (Setup Nat) := [.build sharedConfig, .register household.reverse]

theorem compatible_household : Component.Compatible household where
  patterns := by
    have hpatterns : ∀ p ∈ (household.filterMap (·.asRoute?)).map (·.pattern), p ≠ "" := by
      show ∀ p ∈ ["/hall/", "/yard/", "/hall/nook/"], p ≠ ""
      decide
    intro r hr
    exact hpatterns r.pattern (List.mem_map_of_mem hr)
  routes := by
    show [(Method.get, "/hall/"), (.get, "/yard/"), (.post, "/hall/nook/")].Nodup
    decide
  tasks := List.nodup_singleton _
  checks := List.nodup_singleton _
  objects := by
    intro x hx
    have hmem : x ∈ [("Stove", steady), ("Boiler", bustling)] := hx
    rcases List.mem_pair.mp hmem with rfl | rfl <;> rfl

/-- The subtrees stand in the two tables in different orders. -/
theorem starts_alike_of_perm_household :
    let e := (ofConfig "service" sharedConfig ⟨"root"⟩).setUp householdSteps
    let e' := (ofConfig "other" sharedConfig ⟨"root"⟩).setUp reversedSteps
    (∀ s ∈ householdSteps, s.LeavesWiring) ∧ (∀ s ∈ reversedSteps, s.LeavesWiring) ∧
      0 < servers householdSteps ∧ 0 < servers reversedSteps ∧
      (registered householdSteps).Perm (registered reversedSteps) ∧
      Component.Compatible (registered householdSteps) ∧
      e.start.environment.wiring.Alike e'.start.environment.wiring ∧
      e.start.environment.wiring.application.table.subtrees =
        ["/api/hall/nook/", "/api/hall/", "/api/yard/"] ∧
      e'.start.environment.wiring.application.table.subtrees =
        ["/api/hall/nook/", "/api/yard/", "/api/hall/"] := by
  have hsteps : ∀ s ∈ householdSteps, s.LeavesWiring := by
    intro s hs
    rcases List.mem_pair.mp hs with rfl | rfl <;> trivial
  have hsteps' : ∀ s ∈ reversedSteps, s.LeavesWiring := by
    intro s hs
    rcases List.mem_pair.mp hs with rfl | rfl <;> trivial
  have hperm : (registered householdSteps).Perm (registered reversedSteps) :=
    household.reverse_perm.symm
  have hstarts := starts_alike_of_perm "service" "other" sharedConfig ⟨"root"⟩ ⟨"root"⟩
    householdSteps reversedSteps hsteps hsteps' (by decide) (by decide) hperm compatible_household
  -- the two tables are evaluated, since they are where the orders differ
  exact ⟨hsteps, hsteps', by decide, by decide, hperm, compatible_household, hstarts.2.2.2,
    rfl, rfl⟩

end Environment

end ServiceHost
