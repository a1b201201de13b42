import ServiceHost.Proofs.LifecycleRun
import ServiceHost.Server.Factory

/-!
# Environments that are only added to

Until a service starts, its environment is only added to: components, handlers of components and
managed objects, health checks and tasks, and routes. Nothing that was there is taken away, no
object is started, and no component is wired.

* `Lifecycle.Extends` and `Environment.Extends` say that of two lifecycles and of two environments,
  and an environment is extended by components, handlers and managed objects that are added to it.
* `Environment.Ready` is what holds of an environment that began empty and was only extended, and
  `Environment.Ready.finalize` says what the walk of its components leaves.
* `Environment.start_cases` takes the start of an environment apart: the walk, the admin routes and
  the managed objects.
-/

namespace ServiceHost

/-! ### Lifecycles -/

/-- A lifecycle with more objects at the end, all of them plain, and none of them started. -/
structure Lifecycle.Extends (l after : Lifecycle) : Prop where
  started_eq : after.started = l.started
  objects_eq : ∃ more, after.objects = l.objects ++ more ∧ ∀ x ∈ more, x.2.Plain

namespace Lifecycle

theorem Extends.refl (l : Lifecycle) : l.Extends l :=
  ⟨rfl, [], (List.append_nil _).symm, fun _ hx => nomatch hx⟩

theorem Extends.trans {l mid after : Lifecycle} (h : l.Extends mid) (h' : mid.Extends after) :
    l.Extends after := by
  obtain ⟨more, hmore, hplain⟩ := h.objects_eq
  obtain ⟨more', hmore', hplain'⟩ := h'.objects_eq
  refine ⟨h'.started_eq.trans h.started_eq, more ++ more', ?_, fun x hx => ?_⟩
  · rw [hmore', hmore, List.append_assoc]
  · exact (List.mem_append.mp hx).elim (hplain x) (hplain' x)

/-- Adding a plain object. -/
theorem extends_manage (l : Lifecycle) (name : String) {object : Managed} (h : object.Plain) :
    l.Extends (l.manage name object) := by
  refine ⟨rfl, [(name, object)], objects_manage l name object, fun x hx => ?_⟩
  rw [List.mem_singleton.mp hx]
  exact h

theorem Extends.plain {l after : Lifecycle} (h : l.Extends after) (hl : l.Plain) :
    after.Plain := by
  obtain ⟨more, hmore, hplain⟩ := h.objects_eq
  intro x hx
  rw [hmore] at hx
  exact (List.mem_append.mp hx).elim (hl x) (hplain x)

end Lifecycle

variable {σ : Type}

/-! ### Handlers -/

/-- A component whose managed object, if it is one, is plain. -/
def Component.Plain (c : Component σ) : Prop :=
  ∀ object, c.managed = some object → object.Plain

/-- A handler that does no more to the lifecycle than to add plain objects. -/
def Wiring.OnlyAdds (handler : ResourceHandler (Wiring σ) (Component σ)) : Prop :=
  ∀ (c : Component σ) (w : Wiring σ), c.Plain → w.lifecycle.Extends (handler c w).2.lifecycle

namespace Wiring

theorem onlyAdds_healthHandler : OnlyAdds (σ := σ) healthHandler := by
  intro c w _
  unfold healthHandler
  cases c.health <;> exact .refl _

theorem onlyAdds_taskHandler : OnlyAdds (σ := σ) taskHandler := by
  intro c w _
  unfold taskHandler
  cases c.task <;> exact .refl _

theorem onlyAdds_managedHandler : OnlyAdds (σ := σ) managedHandler := by
  intro c w hc
  unfold managedHandler
  cases hm : c.managed with
  | none => exact .refl _
  | some object => exact Lifecycle.extends_manage _ _ (hc object hm)

/-- A handler that is registered is on the router of one surface, and all else is as it was. -/
theorem handle_cases {w after : Wiring σ} {surface : Surface} {method : Method}
    {pattern : String} {handler : Handler σ}
    (h : w.handle surface method pattern handler = .ok after) :
    (∃ router, w.application.handle method pattern handler = .ok router ∧
      after = { w with application := router }) ∨
    (∃ router, w.admin.router.handle method pattern (.custom handler) = .ok router ∧
      after = { w with admin := { w.admin with router } }) := by
  -- on either surface the route goes to the router of that surface alone
  cases surface with
  | application =>
    unfold handle at h
    cases hr : w.application.handle method pattern handler with
    | error e =>
      rw [hr] at h
      cases h
    | ok router =>
      rw [hr] at h
      cases h
      exact Or.inl ⟨router, rfl, rfl⟩
  | admin =>
    unfold handle at h
    cases hr : w.admin.router.handle method pattern (.custom handler) with
    | error e =>
      rw [hr] at h
      cases h
    | ok router =>
      rw [hr] at h
      cases h
      exact Or.inr ⟨router, rfl, rfl⟩

theorem lifecycle_handle {w after : Wiring σ} {surface : Surface} {method : Method}
    {pattern : String} {handler : Handler σ}
    (h : w.handle surface method pattern handler = .ok after) :
    after.lifecycle = w.lifecycle := by
  rcases handle_cases h with ⟨router, -, rfl⟩ | ⟨router, -, rfl⟩ <;> rfl

theorem onlyAdds_resourceHandler (surface : Surface) :
    OnlyAdds (σ := σ) (resourceHandler surface) := by
  intro c w _
  unfold resourceHandler
  cases c.resource with
  | none => exact .refl _
  | some r =>
    -- whether the route is accepted or refused, the lifecycle is as it was
    cases hr : w.handle surface r.method r.path r.handler with
    | error e =>
      simp only [hr]
      exact .refl _
    | ok after =>
      simp only [hr]
      rw [lifecycle_handle hr]
      exact .refl _

end Wiring

/-! ### Environments -/

namespace Environment

/-- An environment with more in it: managed objects, handlers and components at the end, all of
which are plain or only add. Its routes, health checks and tasks may be any. -/
structure Extends (e after : Environment σ) : Prop where
  lifecycle : e.wiring.lifecycle.Extends after.wiring.lifecycle
  handlers : ∃ more, after.dispatcher.handlers = e.dispatcher.handlers ++ more ∧
    ∀ handler ∈ more, Wiring.OnlyAdds handler
  components : ∃ more, after.dispatcher.components = e.dispatcher.components ++ more ∧
    ∀ c ∈ more, c.Plain
  finalized_eq : after.dispatcher.finalized = e.dispatcher.finalized

theorem Extends.refl (e : Environment σ) : e.Extends e where
  lifecycle := .refl _
  handlers := ⟨[], (List.append_nil _).symm, fun _ hx => nomatch hx⟩
  components := ⟨[], (List.append_nil _).symm, fun _ hx => nomatch hx⟩
  finalized_eq := rfl

theorem Extends.trans {e mid after : Environment σ} (h : e.Extends mid)
    (h' : mid.Extends after) : e.Extends after := by
  obtain ⟨hs, hhs, hadds⟩ := h.handlers
  obtain ⟨hs', hhs', hadds'⟩ := h'.handlers
  obtain ⟨cs, hcs, hplain⟩ := h.components
  obtain ⟨cs', hcs', hplain'⟩ := h'.components
  refine ⟨h.lifecycle.trans h'.lifecycle, ⟨hs ++ hs', ?_, fun x hx => ?_⟩,
    ⟨cs ++ cs', ?_, fun x hx => ?_⟩, h'.finalized_eq.trans h.finalized_eq⟩
  · rw [hhs', hhs, List.append_assoc]
  · exact (List.mem_append.mp hx).elim (hadds x) (hadds' x)
  · rw [hcs', hcs, List.append_assoc]
  · exact (List.mem_append.mp hx).elim (hplain x) (hplain' x)

theorem extends_register (e : Environment σ) {components : List (Component σ)}
    (h : ∀ c ∈ components, c.Plain) : e.Extends (e.register components).1 :=
  { Extends.refl e with components := ⟨components, rfl, h⟩ }

theorem extends_addHandlers (e : Environment σ)
    {handlers : List (ResourceHandler (Wiring σ) (Component σ))}
    (h : ∀ handler ∈ handlers, Wiring.OnlyAdds handler) : e.Extends (e.addHandlers handlers) :=
  { Extends.refl e with handlers := ⟨handlers, rfl, h⟩ }

theorem extends_manage (e : Environment σ) (name : String) {object : Managed}
    (h : object.Plain) : e.Extends (e.manage name object) :=
  { Extends.refl e with lifecycle := Lifecycle.extends_manage _ name h }

/-- The server of a configuration only adds the handler of resources. -/
theorem extends_buildServer (config : ServerConfig) (e : Environment σ) :
    e.Extends (config.buildServer e).2 := by
  refine e.extends_addHandlers fun handler hh => ?_
  rw [List.mem_singleton.mp hh]
  exact Wiring.onlyAdds_resourceHandler .application

/-- An environment that is set up and not started: no object is started, all objects and components
are plain, the handlers only add, and no component has been wired. -/
structure Ready (e : Environment σ) : Prop where
  started_eq : e.wiring.lifecycle.started = 0
  plain : e.wiring.lifecycle.Plain
  handlers : ∀ handler ∈ e.dispatcher.handlers, Wiring.OnlyAdds handler
  components : ∀ c ∈ e.dispatcher.components, c.Plain
  finalized_eq : e.dispatcher.finalized = false

theorem ready_ofConfig (name : String) (config : ServerConfig) (logger : Logger) :
    (ofConfig (σ := σ) name config logger).Ready where
  started_eq := rfl
  plain := fun _ hx => nomatch hx
  handlers := by
    intro handler hh
    simp only [ofConfig, baseHandlers, List.mem_cons, List.not_mem_nil, or_false] at hh
    -- the handlers that every environment has from the beginning
    rcases hh with rfl | rfl | rfl
    · exact Wiring.onlyAdds_healthHandler
    · exact Wiring.onlyAdds_taskHandler
    · exact Wiring.onlyAdds_managedHandler
  components := fun _ hc => nomatch hc
  finalized_eq := rfl

theorem Ready.of_extends {e after : Environment σ} (h : e.Ready) (h' : e.Extends after) :
    after.Ready := by
  obtain ⟨handlers, hhandlers, hadds⟩ := h'.handlers
  obtain ⟨components, hcomponents, hplain⟩ := h'.components
  -- what is there after is what was there and what was added, and either is plain
  refine ⟨h'.lifecycle.started_eq.trans h.started_eq, h'.lifecycle.plain h.plain,
    fun x hx => ?_, fun x hx => ?_, h'.finalized_eq.trans h.finalized_eq⟩
  · rw [hhandlers] at hx
    exact (List.mem_append.mp hx).elim (h.handlers x) (hadds x)
  · rw [hcomponents] at hx
    exact (List.mem_append.mp hx).elim (h.components x) (hplain x)

/-! ### The walk of the components -/

/-- Handlers that are asked about a plain component only add to the lifecycle. -/
theorem extends_ask {c : Component σ} (hc : c.Plain)
    {handlers : List (ResourceHandler (Wiring σ) (Component σ))}
    (h : ∀ handler ∈ handlers, Wiring.OnlyAdds handler) (w : Wiring σ) :
    w.lifecycle.Extends (Dispatcher.ask c handlers w).2.lifecycle := by
  induction handlers generalizing w with
  | nil => exact .refl _
  | cons handler rest ih =>
    have hhandler := h handler List.mem_cons_self c w hc
    have hrest := ih (fun x hx => h x (List.mem_cons_of_mem _ hx)) (handler c w).2
    unfold Dispatcher.ask
    rcases hclaim : handler c w with ⟨claim, after⟩
    rw [hclaim] at hhandler hrest
    simp only
    -- the next handler is asked if this one passes, with what this one left
    split
    · exact hhandler.trans hrest
    · exact hhandler

theorem extends_walk {handlers : List (ResourceHandler (Wiring σ) (Component σ))}
    (h : ∀ handler ∈ handlers, Wiring.OnlyAdds handler) {components : List (Component σ)}
    (hc : ∀ c ∈ components, c.Plain) (w : Wiring σ) :
    w.lifecycle.Extends
      (Dispatcher.walk Component.typeName handlers components w).2.lifecycle := by
  induction components generalizing w with
  | nil => exact .refl _
  | cons c rest ih =>
    have hask := extends_ask (hc c List.mem_cons_self) h w
    unfold Dispatcher.walk
    rcases hclaim : Dispatcher.ask c handlers w with ⟨claim, after⟩
    rw [hclaim] at hask
    -- the components behind this one are wired into what it left
    have hrest := ih (fun x hx => hc x (List.mem_cons_of_mem _ hx)) after
    cases ho : claim.outcome with
    | error e =>
      -- a component that fails has been asked about, and ends the walk
      simp only [ho]
      exact hask
    | ok claimed =>
      simp only [ho]
      exact hask.trans hrest

/-- **The walk of the components.** When the components of an environment that is ready are wired,
none of them is passed over, and the lifecycle is only added to. -/
theorem Ready.finalize {e : Environment σ} (h : e.Ready) :
    e.finalize.1.result =
        (Dispatcher.walk Component.typeName e.dispatcher.handlers.reverse
          e.dispatcher.components e.wiring).1.result ∧
      e.finalize.1.visits =
        (Dispatcher.walk Component.typeName e.dispatcher.handlers.reverse
          e.dispatcher.components e.wiring).1.visits ∧
      e.finalize.2.dispatcher.components = e.dispatcher.components ∧
      e.wiring.lifecycle.Extends e.finalize.2.wiring.lifecycle := by
  have hhandlers : ∀ handler ∈ e.dispatcher.handlers.reverse, Wiring.OnlyAdds handler :=
    fun handler hh => h.handlers handler (List.mem_reverse.mp hh)
  have hwalk := extends_walk hhandlers h.components e.wiring
  unfold Environment.finalize Dispatcher.finalize
  -- a dispatcher that is finalized already would pass the components over
  simp only [h.finalized_eq, Bool.false_eq_true, ↓reduceIte]
  exact ⟨trivial, trivial, trivial, hwalk⟩

/-! ### The start -/

/-- **How a start goes.** It ends with an error of the walk, of the admin routes or of the managed
objects, with nothing after it done, or it reports the endpoints of the walk. -/
theorem start_cases (e : Environment σ) :
    (∃ err, e.finalize.1.result = .error err ∧
      e.start = { result := .error (.route err), environment := e.finalize.2,
                  walk := e.finalize.1 }) ∨
    ∃ log, e.finalize.1.result = .ok log ∧
      ((∃ err, e.finalize.2.installRoutes.1 = .error err ∧
        e.start = { result := .error (.route err), environment := e.finalize.2.installRoutes.2.1,
                    walk := e.finalize.1,
                    routes := some (.error err, e.finalize.2.installRoutes.2.2) }) ∨
      ∃ admin, e.finalize.2.installRoutes.1 = .ok admin ∧
        e.start =
          { result := (e.finalize.2.installRoutes.2.1.startManaged.1.map fun _ => log).mapError
              .managed
            environment := e.finalize.2.installRoutes.2.1.startManaged.2.1
            walk := e.finalize.1
            routes := some (.ok admin, e.finalize.2.installRoutes.2.2)
            moments := e.finalize.2.installRoutes.2.1.startManaged.2.2 }) := by
  unfold start
  rcases e.finalize with ⟨walk, wired⟩
  -- each part is reached only if the one before it has succeeded
  cases hw : walk.result with
  | error err => exact Or.inl ⟨err, rfl, by simp only [hw]⟩
  | ok log =>
    refine Or.inr ⟨log, rfl, ?_⟩
    simp only [hw]
    rcases wired.installRoutes with ⟨installed, routed, events⟩
    cases installed with
    | error err => exact Or.inl ⟨err, rfl, rfl⟩
    | ok admin =>
      refine Or.inr ⟨admin, rfl, ?_⟩
      rcases routed.startManaged with ⟨started, running, moments⟩
      cases started <;> rfl

/-- A start begins with the walk of the components. -/
theorem walk_start (e : Environment σ) : e.start.walk = e.finalize.1 := by
  rcases e.start_cases with ⟨err, -, h⟩ | ⟨log, -, ⟨err, -, h⟩ | ⟨admin, -, h⟩⟩ <;> rw [h]

/-- What a start does to the dispatcher is done by the walk. -/
theorem dispatcher_start (e : Environment σ) :
    e.start.environment.dispatcher = e.finalize.2.dispatcher := by
  rcases e.start_cases with ⟨err, -, h⟩ | ⟨log, -, ⟨err, -, h⟩ | ⟨admin, -, h⟩⟩ <;> rw [h] <;> rfl

/-- A start whose walk succeeds reports success exactly when the admin routes are installed and
every managed object starts. -/
theorem start_ok_iff {e : Environment σ} {log : EndpointLog}
    (hwalk : e.finalize.1.result = .ok log) :
    (∃ log, e.start.result = .ok log) ↔
      (∃ admin, e.finalize.2.installRoutes.1 = .ok admin) ∧
        e.finalize.2.installRoutes.2.1.startManaged.1 = .ok () := by
  -- a walk that succeeds leaves the other two failures
  rcases e.start_cases with ⟨err, herr, -⟩ | ⟨log', -, ⟨err, herr, h⟩ | ⟨admin, hadmin, h⟩⟩
  · rw [hwalk] at herr
    cases herr
  · rw [h, herr]
    simp
  · rw [h, hadmin]
    cases e.finalize.2.installRoutes.2.1.startManaged.1 <;> simp [Except.map, Except.mapError]

end Environment

end ServiceHost
