import ServiceHost.Proofs.Dispatch
import ServiceHost.Proofs.Registration
import ServiceHost.Proofs.ServerOrder
import ServiceHost.Proofs.StartupStages

/-!
# The order of a start-up

What a server command does before its server is started follows a plan: the bundles run in order
and then the application, and the start of the environment dispatches the components, installs the
admin routes and starts the managed objects. The first step that fails is the last that is taken.
The set-ups may do whatever they like as long as they only add to the environment.

Each part of the command is a loop of its own, and is shown to go from one stage to another:

* `Bootstrap.OnlyRegisters.setUp` is the set-up by the bundles and the application.
* `Environment.goes_walk` and `Environment.goes_startEach` are the loops over the components and
  over the managed objects, and `Environment.Ready.start` is the start of an environment.
* `Environment.Running.stop` says how what was started is stopped.
-/

namespace ServiceHost

/-! ### Trails -/

namespace Trail

theorem steps_append (t u : Trail) : (t ++ u).steps = t.steps ++ u.steps :=
  List.filterMap_append

theorem lifecycle_append (t u : Trail) : (t ++ u).lifecycle = t.lifecycle ++ u.lifecycle :=
  List.filterMap_append

/-- A happening that concerns no managed object. -/
def Apart (h : Happening) : Prop := lifecycle? h.act = none

theorem lifecycle_of_apart {t : Trail} (h : ∀ x ∈ t, Apart x) : t.lifecycle = [] :=
  List.filterMap_eq_nil_iff.mpr h

/-- What a command does before its managed objects and its server are started. -/
structure Early (t : Trail) : Prop where
  apart : ∀ x ∈ t, Apart x
  unserved : Step.serving ∉ t.steps.map (·.1)

/-- A step other than the start of the server. -/
theorem Early.single {s : Step} (hs : s ≠ .serving) (failure : Option Error)
    (events : List Event) (server : Option (Server Surface)) :
    Early [⟨.step s failure, events, server⟩] where
  apart := by
    intro x hx
    rw [List.mem_singleton.mp hx]
    rfl
  unserved := fun h => hs (List.mem_singleton.mp h).symm

theorem Early.append {t u : Trail} (ht : Early t) (hu : Early u) : Early (t ++ u) where
  apart := by
    intro x hx
    exact (List.mem_append.mp hx).elim (ht.apart x) (hu.apart x)
  unserved := by
    rw [steps_append, List.map_append, List.mem_append]
    exact fun h => h.elim ht.unserved hu.unserved

theorem apart_ofVisits (server : Option (Server Surface)) (i : ℕ)
    (visits : List Dispatcher.Visit) : ∀ x ∈ ofVisits server i visits, Apart x := by
  induction visits generalizing i with
  | nil => exact fun _ h => nomatch h
  | cons v rest ih =>
    intro x hx
    rcases List.mem_cons.mp hx with rfl | hx
    · rfl
    · exact ih (i + 1) x hx

theorem apart_ofWalk (server : Option (Server Surface)) (w : Dispatcher.Walk) :
    ∀ x ∈ ofWalk server w, Apart x := by
  intro x hx
  rcases List.mem_append.mp hx with hx | hx
  · exact apart_ofVisits server 0 w.visits x hx
  · rw [List.mem_singleton.mp hx]
    rfl

theorem apart_ofRoutes (server : Option (Server Surface))
    (routes : Option (Except RouteError EndpointLog × List Event)) :
    ∀ x ∈ ofRoutes server routes, Apart x := by
  cases routes with
  | none => exact fun _ h => nomatch h
  | some r =>
    intro x hx
    rw [List.mem_singleton.mp hx]
    rfl

theorem lifecycle_ofMoments (server : Option (Server Surface)) (moments : List Moment) :
    (ofMoments server moments).lifecycle = moments.map (·.event) := by
  induction moments with
  | nil => rfl
  | cons m rest ih => exact congrArg (m.event :: ·) ih

/-- The step of a result of the start of a managed object. -/
def managedStep (answer : ℕ × Except ManagedError Unit) : Step × Option Error :=
  (.managed answer.1, (failure? answer.2).map .managed)

theorem steps_ofMoments (server : Option (Server Surface)) (moments : List Moment) :
    (ofMoments server moments).steps =
      (LifecycleEvent.answers (moments.map (·.event))).map managedStep := by
  induction moments with
  | nil => rfl
  | cons m rest ih =>
    -- only the result of a start is a step, and it is an answer as well
    have hm : steps [⟨.lifecycle m.event, Moment.render [m], server⟩] =
        (LifecycleEvent.answers [m.event]).map managedStep := by
      cases hevent : m.event <;> rfl
    change steps ([_] ++ ofMoments server rest) =
      (LifecycleEvent.answers ([m.event] ++ rest.map (·.event))).map managedStep
    rw [steps_append, LifecycleEvent.answers_append, List.map_append, hm, ih]

end Trail

/-! ### The set-up -/

namespace Bootstrap

variable {σ : Type}

/-- A set-up that only adds to the environment. -/
def OnlyAdds {E : Type} (run : SetUp σ E) : Prop :=
  ∀ (c : Configuration) (e : Environment σ), e.Extends (run c e).environment

/-- The factory, the bundles and the application only add to the environment, and the servers of
the factory have closed connectors if they are stopped. -/
structure OnlyRegisters (b : Bootstrap σ) : Prop where
  factory : ∀ c (e : Environment σ) server after, b.buildServer c e = .ok (server, after) →
    e.Extends after ∧ server.Orderly
  bundles : ∀ part ∈ b.bundlesInOrder, OnlyAdds part.run
  application : OnlyAdds b.application.run

/-- The steps of the set-up by bundles and the application. -/
def setUpPlan (b : Bootstrap σ) : List Step :=
  (List.range b.bundlesInOrder.length).map .bundle ++ [.application]

theorem serving_notMem_setUpPlan (b : Bootstrap σ) : Step.serving ∉ b.setUpPlan := by
  intro h
  rcases List.mem_append.mp h with h | h
  · obtain ⟨i, -, hi⟩ := List.mem_map.mp h
    cases hi
  · cases List.mem_singleton.mp h

/-- A set-up of an environment went through a plan and only added to the environment. -/
structure PreparedBy (b : Bootstrap σ) (session : Server Surface → Server.Started Surface)
    (plan : List Step) (g : Stage σ) (e : Environment σ) (p : Prepared σ) : Prop where
  goes : b.Goes session plan (g.withEnvironment e) p.trail.steps p.result
    (g.withEnvironment p.environment)
  extends_env : e.Extends p.environment
  apart : ∀ x ∈ p.trail, Trail.Apart x

section SetUps

variable {b : Bootstrap σ} (session : Server Surface → Server.Started Surface) {g : Stage σ}
  {c : Configuration}

theorem PreparedBy.early {plan : List Step} {e : Environment σ} {p : Prepared σ}
    (h : PreparedBy b session plan g e p) (hplan : Step.serving ∉ plan) : Trail.Early p.trail :=
  ⟨h.apart, fun hmem => hplan (h.goes.mem hmem)⟩

/-- The step of a bundle is its run. -/
theorem take_bundle (hc : g.configuration = some c) {i : ℕ} {part : BundlePart σ}
    (hpart : b.bundlesInOrder[i]? = some part) (e : Environment σ) :
    b.take session (g.withEnvironment e) (.bundle i) =
      some ((part.run c e).result.mapError (.bundle part.name),
        g.withEnvironment (part.run c e).environment) := by
  have hc' : (g.withEnvironment e).configuration = some c := hc
  have he : (g.withEnvironment e).environment = some e := rfl
  simp only [take, hc', he, hpart, Option.bind_eq_bind, Option.bind_some]
  rfl

theorem take_application (hc : g.configuration = some c) (e : Environment σ) :
    b.take session (g.withEnvironment e) .application =
      some ((b.application.run c e).result,
        g.withEnvironment (b.application.run c e).environment) := by
  have hc' : (g.withEnvironment e).configuration = some c := hc
  have he : (g.withEnvironment e).environment = some e := rfl
  simp only [take, hc', he, Option.bind_eq_bind, Option.bind_some]
  rfl

/-- The bundles are run in order, up to the first that fails. -/
theorem preparedBy_runBundles (hc : g.configuration = some c) (server : Option (Server Surface))
    {parts : List (BundlePart σ)} {i : ℕ} (hparts : b.bundlesInOrder.drop i = parts)
    (h : ∀ part ∈ parts, OnlyAdds part.run) (e : Environment σ) :
    PreparedBy b session ((List.range' i parts.length).map .bundle) g e
      (runBundles server c i parts e) := by
  induction parts generalizing i e with
  | nil => exact ⟨.done _, .refl e, fun _ h => nomatch h⟩
  | cons part rest ih =>
    have hadds := h part List.mem_cons_self c e
    -- the parts are those of the command from the index on
    obtain ⟨hpart, hrest⟩ := getElem?_of_drop_eq_cons hparts
    have htake := take_bundle session hc hpart e
    rw [List.length_cons, List.range'_succ, List.map_cons]
    unfold runBundles
    cases hr : (part.run c e).result.mapError (Error.bundle part.name) with
    | error err =>
      -- the bundle fails, and what it has added stays
      rw [hr] at htake
      simp only [hr]
      refine ⟨.failed htake, hadds, fun x hx => ?_⟩
      rw [List.mem_singleton.mp hx]
      rfl
    | ok =>
      rw [hr] at htake
      simp only [hr]
      -- the others are run on what this bundle has left
      obtain ⟨hgoes, hextends, hapart⟩ :=
        ih hrest (fun p hp => h p (List.mem_cons_of_mem _ hp)) (part.run c e).environment
      refine ⟨.passed htake hgoes, hadds.trans hextends, fun x hx => ?_⟩
      rcases List.mem_cons.mp hx with rfl | hx
      · rfl
      · exact hapart x hx

/-- **The set-up.** The bundles are run in order and then the application, up to the first that
fails, and all of them only add to the environment. -/
theorem OnlyRegisters.setUp (h : b.OnlyRegisters) (hc : g.configuration = some c)
    (server : Option (Server Surface)) (e : Environment σ) :
    PreparedBy b session b.setUpPlan g e (b.setUp server c e) := by
  obtain ⟨hgoes, hextends, hapart⟩ :=
    preparedBy_runBundles session hc server List.drop_zero h.bundles e
  rw [← List.range_eq_range'] at hgoes
  unfold Bootstrap.setUp
  generalize runBundles server c 0 b.bundlesInOrder e = bundled at hgoes hextends hapart ⊢
  -- whatever comes behind the bundles is one happening, which is none of a managed object
  have hrecord : ∀ happening : Happening, Trail.Apart happening →
      ∀ x ∈ bundled.trail ++ [happening], Trail.Apart x := by
    intro happening hhappening x hx
    rcases List.mem_append.mp hx with hx | hx
    · exact hapart x hx
    · rw [List.mem_singleton.mp hx]
      exact hhappening
  cases hr : bundled.result with
  | error err =>
    -- a bundle failed: the application is not run, and the failure is put on record
    rw [hr] at hgoes
    simp only [hr]
    refine ⟨?_, hextends, hrecord _ rfl⟩
    rw [Trail.steps_append]
    exact (List.append_nil _).symm ▸ hgoes.append_of_error _
  | ok =>
    rw [hr] at hgoes
    simp only [hr]
    refine ⟨?_, hextends.trans (h.application c _), hrecord _ rfl⟩
    rw [Trail.steps_append]
    exact hgoes.append (.single (take_application session hc bundled.environment))

end SetUps

end Bootstrap

/-! ### The start of an environment -/

theorem succeeded_of_startsUpTo {l after : Lifecycle} {upTo : ℕ}
    {failure : Option ManagedError} {moments : List Moment}
    (h : Lifecycle.StartsUpTo l upTo failure after moments) (hl : l.started = 0) :
    LifecycleEvent.succeeded (moments.map (·.event)) = List.range upTo := by
  rw [LifecycleEvent.succeeded, h.answers_eq, hl, Nat.sub_zero, ← List.range_eq_range',
    List.filterMap_append, List.filterMap_map]
  have hall : (List.range upTo).filterMap some = List.range upTo := List.filterMap_some
  cases failure with
  | none => exact (List.append_nil _).trans hall
  | some e => exact (List.append_nil _).trans hall

namespace Environment

variable {σ : Type}

section Loops

variable (b : Bootstrap σ) (session : Server Surface → Server.Started Surface) (g : Stage σ)
  (server : Option (Server Surface)) (e : Environment σ)

/-- The step of a component is what the handlers answer about it. -/
theorem take_component {i : ℕ} {c : Component σ} (hc : e.dispatcher.components[i]? = some c)
    (w : Wiring σ) :
    b.take session (g.withEnvironment { e with wiring := w }) (.component i) =
      some (ended .route (Dispatcher.ask c e.dispatcher.handlers.reverse w).1.outcome,
        g.withEnvironment
          { e with wiring := (Dispatcher.ask c e.dispatcher.handlers.reverse w).2 }) := by
  have he : (g.withEnvironment { e with wiring := w }).environment =
      some { e with wiring := w } := rfl
  simp only [Bootstrap.take, he, hc, Option.bind_eq_bind, Option.bind_some]
  rfl

/-- **The loop over the components.** They are dispatched in the order of their registration, up to
the first on which a handler fails. -/
theorem goes_walk {rest : List (Component σ)} {i : ℕ}
    (hrest : e.dispatcher.components.drop i = rest) (w : Wiring σ) :
    b.Goes session ((List.range' i rest.length).map .component)
      (g.withEnvironment { e with wiring := w })
      (Trail.ofVisits server i (Dispatcher.walk Component.typeName
        e.dispatcher.handlers.reverse rest w).1.visits).steps
      (ended .route
        (Dispatcher.walk Component.typeName e.dispatcher.handlers.reverse rest w).1.result)
      (g.withEnvironment { e with wiring :=
        (Dispatcher.walk Component.typeName e.dispatcher.handlers.reverse rest w).2 }) := by
  induction rest generalizing i w with
  | nil => exact .done _
  | cons c rest ih =>
    obtain ⟨hc, hnext⟩ := getElem?_of_drop_eq_cons hrest
    have htake := take_component b session g e hc w
    rw [List.length_cons, List.range'_succ, List.map_cons]
    unfold Dispatcher.walk
    rcases hask : Dispatcher.ask c e.dispatcher.handlers.reverse w with ⟨claim, after⟩
    rw [hask] at htake
    cases ho : claim.outcome with
    | error err =>
      -- the components that remain are planned and not visited
      simp only [ho] at htake ⊢
      exact .failed htake
    | ok claimed =>
      simp only [ho] at htake ⊢
      -- the endpoints of the rest have no part in whether the plan passes
      have hlater := ih hnext after
      cases hr : (Dispatcher.walk Component.typeName e.dispatcher.handlers.reverse rest
          after).1.result with
      | error err =>
        rw [hr] at hlater
        exact .passed htake hlater
      | ok endpoints =>
        rw [hr] at hlater
        exact .passed htake hlater

/-- The step of a managed object is what its own start answers. -/
theorem take_managed {l : Lifecycle} {i : ℕ} {entry : ManagedEntry}
    (hentry : l.entries[i]? = some entry) :
    b.take session (g.withEnvironment (e.withLifecycle l)) (.managed i) =
      match (entry.object.start entry.starts).result with
      | .error cause => some (.error (.managed ⟨entry.name, cause⟩),
          g.withEnvironment (e.withLifecycle (l.calling i)))
      | .ok () => some (.ok (), g.withEnvironment (e.withLifecycle (l.calling i).counted)) := by
  have he : (g.withEnvironment (e.withLifecycle l)).environment = some (e.withLifecycle l) := rfl
  have hentry' : (e.withLifecycle l).wiring.lifecycle.entries[i]? = some entry := hentry
  simp only [Bootstrap.take, he, hentry', Option.bind_eq_bind, Option.bind_some]
  cases (entry.object.start entry.starts).result <;> rfl

/-- **The loop over the managed objects.** They are started in order, up to the first that
fails. -/
theorem goes_startEach {k i : ℕ} {l : Lifecycle} (hplain : l.Plain)
    (hk : i + k ≤ l.objects.length) :
    b.Goes session ((List.range' i k).map .managed) (g.withEnvironment (e.withLifecycle l))
      (Trail.ofMoments server (Lifecycle.startEach (List.range' i k) l).2.2).steps
      (ended .managed (Lifecycle.startEach (List.range' i k) l).1)
      (g.withEnvironment (e.withLifecycle (Lifecycle.startEach (List.range' i k) l).2.1)) := by
  induction k generalizing i l with
  | zero => exact .done _
  | succ k ih =>
    have hlt : i < l.objects.length := by omega
    obtain ⟨entry, hentry⟩ := Lifecycle.exists_entry (Nat.le_refl _) hlt
    have htake := take_managed b session g e hentry
    rw [List.range'_succ, List.map_cons]
    cases hr : (entry.object.start entry.starts).result with
    | error cause =>
      -- the objects after the one that fails are planned and never tried
      obtain ⟨asides, hasides, hrun⟩ :=
        Lifecycle.startEach_cons_of_error hplain (List.range' (i + 1) k) hentry hr
      have hanswers : LifecycleEvent.answers ((l.opening i entry.name asides
          ++ [Moment.mk (.startFailed i entry.name cause) (l.calling i)]).map (·.event)) =
          [(i, .error ⟨entry.name, cause⟩)] := by
        rw [List.map_append, LifecycleEvent.answers_append,
          Lifecycle.answers_opening l i entry.name hasides]
        rfl
      rw [hr] at htake
      rw [hrun, Trail.steps_ofMoments, hanswers]
      exact .failed htake
    | ok =>
      obtain ⟨asides, hasides, hrun⟩ :=
        Lifecycle.startEach_cons_of_ok hplain (List.range' (i + 1) k) hentry hr
      -- the next object is started on a lifecycle with the same objects and one more counted
      have hobjects : (l.calling i).counted.objects = l.objects := l.objects_calling i
      have hlater := ih (i := i + 1) (l := (l.calling i).counted)
        (by unfold Lifecycle.Plain; rw [hobjects]; exact hplain) (by rw [hobjects]; omega)
      rw [hr] at htake
      rw [hrun]
      generalize Lifecycle.startEach (List.range' (i + 1) k) (l.calling i).counted = run at hlater ⊢
      have hsteps : (Trail.ofMoments server (l.opening i entry.name asides
          ++ Moment.mk (.started i entry.name) (l.calling i).counted :: run.2.2)).steps =
          (.managed i, none) :: (Trail.ofMoments server run.2.2).steps := by
        rw [Trail.steps_ofMoments, Trail.steps_ofMoments, List.map_append,
          LifecycleEvent.answers_append, Lifecycle.answers_opening l i entry.name hasides]
        rfl
      rw [hsteps]
      exact .passed htake hlater

end Loops

/-- The steps of the start of an environment: its components are dispatched, the admin routes are
installed and its managed objects are started. -/
def startPlan (components objects : ℕ) : List Step :=
  (List.range components).map .component ++ .adminRoutes :: (List.range objects).map .managed

theorem serving_notMem_startPlan (components objects : ℕ) :
    Step.serving ∉ startPlan components objects := by
  intro h
  rcases List.mem_append.mp h with h | h
  · obtain ⟨i, -, hi⟩ := List.mem_map.mp h
    cases hi
  · rcases List.mem_cons.mp h with h | h
    · cases h
    · obtain ⟨i, -, hi⟩ := List.mem_map.mp h
      cases hi

/-- What the start of an environment leaves of its managed objects: those that started run, as many
as the counter says, and none has been stopped. -/
structure Running (l : Lifecycle) (events : List LifecycleEvent) : Prop where
  started_le : l.started ≤ l.objects.length
  running_eq : LifecycleEvent.running events = Finset.range l.started
  succeeded_eq : LifecycleEvent.succeeded events = List.range l.started
  stopped_eq : LifecycleEvent.stopped events = []

theorem Running.of_notStarted {l : Lifecycle} (h : l.started = 0) : Running l [] where
  started_le := by rw [h]; exact Nat.zero_le _
  running_eq := by rw [h]; rfl
  succeeded_eq := by rw [h]; rfl
  stopped_eq := rfl

theorem Running.of_startsUpTo {l after : Lifecycle} {upTo : ℕ}
    {failure : Option ManagedError} {moments : List Moment}
    (h : Lifecycle.StartsUpTo l upTo failure after moments) (hl : l.started = 0) :
    Running after (moments.map (·.event)) where
  started_le := h.follows.started_le (by rw [hl]; exact Nat.zero_le _)
  running_eq := by
    -- where nothing ran before, what runs is what the call has started
    have hrunning := h.follows.running_eq
    rw [hl] at hrunning
    exact hrunning
  succeeded_eq := by rw [h.started_eq]; exact succeeded_of_startsUpTo h hl
  stopped_eq := h.stopped_eq

/-- The environment that a start leaves, with the dispatcher as it was. -/
def started (e : Environment σ) : Environment σ :=
  { e.start.environment with dispatcher := e.dispatcher }

/-- A start of an environment went through its plan, and left the managed objects as it says. The
environment is that of the last stage, with its components marked as dispatched. -/
structure Opened (b : Bootstrap σ) (session : Server Surface → Server.Started Surface)
    (g : Stage σ) (server : Option (Server Surface)) (e : Environment σ) (s : Started σ) :
    Prop where
  dispatcher_eq : s.environment.dispatcher = { e.dispatcher with finalized := true }
  goes : b.Goes session (startPlan s.environment.dispatcher.components.length
      s.environment.wiring.lifecycle.objects.length) (g.withEnvironment e)
    (Trail.ofStart server s).steps (ended .ofStart s.result)
    (g.withEnvironment { s.environment with dispatcher := e.dispatcher })
  running : Running s.environment.wiring.lifecycle (Trail.ofStart server s).lifecycle

theorem steps_ofStart (server : Option (Server Surface)) (s : Started σ) :
    (Trail.ofStart server s).steps = (Trail.ofWalk server s.walk).steps
      ++ (Trail.ofRoutes server s.routes).steps ++ (Trail.ofMoments server s.moments).steps := by
  rw [Trail.ofStart, Trail.steps_append, Trail.steps_append]

theorem lifecycle_ofStart (server : Option (Server Surface)) (s : Started σ) :
    (Trail.ofStart server s).lifecycle = s.moments.map (·.event) := by
  rw [Trail.ofStart, Trail.lifecycle_append, Trail.lifecycle_append,
    Trail.lifecycle_of_apart (Trail.apart_ofWalk server s.walk),
    Trail.lifecycle_of_apart (Trail.apart_ofRoutes server s.routes), Trail.lifecycle_ofMoments]
  rfl

/-- The walk of an environment that is ready goes through the plan of its components. -/
theorem Ready.goes_ofWalk {e : Environment σ} (h : e.Ready) (b : Bootstrap σ)
    (session : Server Surface → Server.Started Surface) (g : Stage σ)
    (server : Option (Server Surface)) :
    e.finalize.2.dispatcher = { e.dispatcher with finalized := true } ∧
      b.Goes session ((List.range e.dispatcher.components.length).map .component)
        (g.withEnvironment e) (Trail.ofWalk server e.finalize.1).steps
        (ended .route e.finalize.1.result)
        (g.withEnvironment { e.finalize.2 with dispatcher := e.dispatcher }) := by
  have hgoes := goes_walk b session g server e List.drop_zero e.wiring
  rw [← List.range_eq_range'] at hgoes
  -- the closing of the walk is no step
  rw [Trail.ofWalk, Trail.steps_append]
  unfold Environment.finalize Dispatcher.finalize
  simp only [h.finalized_eq, Bool.false_eq_true, ↓reduceIte]
  exact ⟨trivial, (List.append_nil _).symm ▸ hgoes⟩

/-- The start of the managed objects when none has started yet: it goes through the plan of the
objects, and leaves running those that it started. -/
theorem goes_startManaged {routed : Environment σ} (hplain : routed.wiring.lifecycle.Plain)
    (hstarted : routed.wiring.lifecycle.started = 0) (b : Bootstrap σ)
    (session : Server Surface → Server.Started Surface) (g : Stage σ)
    (server : Option (Server Surface)) (dispatcher : Dispatcher (Wiring σ) (Component σ)) :
    b.Goes session
        ((List.range routed.startManaged.2.1.wiring.lifecycle.objects.length).map .managed)
        (g.withEnvironment { routed with dispatcher })
        (Trail.ofMoments server routed.startManaged.2.2).steps
        (ended .managed routed.startManaged.1)
        (g.withEnvironment { routed.startManaged.2.1 with dispatcher }) ∧
      Running routed.startManaged.2.1.wiring.lifecycle
        (routed.startManaged.2.2.map (·.event)) := by
  -- of the environment only the lifecycle takes part in the start of the objects
  change b.Goes session ((List.range routed.wiring.lifecycle.start.2.1.objects.length).map .managed)
      (g.withEnvironment (Environment.withLifecycle { routed with dispatcher }
        routed.wiring.lifecycle))
      (Trail.ofMoments server routed.wiring.lifecycle.start.2.2).steps
      (ended .managed routed.wiring.lifecycle.start.1)
      (g.withEnvironment (Environment.withLifecycle { routed with dispatcher }
        routed.wiring.lifecycle.start.2.1)) ∧
    Running routed.wiring.lifecycle.start.2.1 (routed.wiring.lifecycle.start.2.2.map (·.event))
  generalize routed.wiring.lifecycle = l at hplain hstarted ⊢
  have hroom : l.started ≤ l.objects.length := by
    rw [hstarted]
    exact Nat.zero_le _
  obtain ⟨upTo, failure, hstarts, -, -⟩ := Lifecycle.start_startsUpTo hplain hroom
  refine ⟨?_, .of_startsUpTo hstarts hstarted⟩
  -- plain starts add no objects, so that the plan is that of the objects before
  have hobjects : l.start.2.1.objects = l.objects := hstarts.follows.objects_eq
  have hstart : l.start = Lifecycle.startEach (List.range' 0 l.objects.length) l := by
    rw [Lifecycle.start, hstarted, if_pos (Nat.zero_le _), Nat.sub_zero, Lifecycle.length_objects]
  rw [hobjects, List.range_eq_range', hstart]
  exact goes_startEach b session g server _ hplain (by rw [Nat.zero_add])

/-- The step of the admin routes is their installation, which has nothing to do with the
dispatcher. -/
theorem take_adminRoutes (b : Bootstrap σ) (session : Server Surface → Server.Started Surface)
    (g : Stage σ) (e : Environment σ) (dispatcher : Dispatcher (Wiring σ) (Component σ)) :
    b.take session (g.withEnvironment { e with dispatcher }) .adminRoutes =
      some (ended .route e.installRoutes.1,
        g.withEnvironment { e.installRoutes.2.1 with dispatcher }) := rfl

/-- The installation of the admin routes has nothing to do with managed objects. -/
theorem lifecycle_installRoutes (e : Environment σ) :
    e.installRoutes.2.1.wiring.lifecycle = e.wiring.lifecycle := rfl

/-- What follows the walk of the components leaves the dispatcher alone. -/
theorem dispatcher_startManaged (e : Environment σ) :
    e.installRoutes.2.1.startManaged.2.1.dispatcher = e.dispatcher := rfl

/-- **The start of an environment.** The components are dispatched in order, then the admin routes
are installed, and then the managed objects are started in order. The first failure ends the start
and is its result. -/
theorem Ready.start {e : Environment σ} (h : e.Ready) (b : Bootstrap σ)
    (session : Server Surface → Server.Started Surface) (g : Stage σ)
    (server : Option (Server Surface)) : Opened b session g server e e.start := by
  obtain ⟨hdispatcher, hwalk⟩ := h.goes_ofWalk b session g server
  obtain ⟨-, -, -, hextends⟩ := h.finalize
  have hstarted := hextends.started_eq.trans h.started_eq
  have hplain := hextends.plain h.plain
  have htake := take_adminRoutes b session g e.finalize.2 e.dispatcher
  have hcomponents : e.finalize.2.dispatcher.components = e.dispatcher.components := by
    rw [hdispatcher]
  rw [← hcomponents] at hwalk
  -- the three ways of a start, each with the part of the plan that it goes through
  rcases e.start_cases with
    ⟨err, hw, hstart⟩ | ⟨log, hw, ⟨err, hi, hstart⟩ | ⟨admin, hi, hstart⟩⟩
  · -- a component fails: neither routes nor objects are tried
    rw [hw] at hwalk
    rw [hstart]
    refine ⟨hdispatcher, ?_, ?_⟩
    · rw [steps_ofStart]
      exact ((List.append_nil _).trans (List.append_nil _)).symm ▸
        hwalk.append_of_error (.adminRoutes :: _)
    · rw [lifecycle_ofStart]
      exact .of_notStarted hstarted
  · -- a route is refused: no object is tried
    rw [hw] at hwalk
    rw [hstart]
    refine ⟨hdispatcher, ?_, ?_⟩
    · rw [hi] at htake
      rw [steps_ofStart]
      change b.Goes session _ _ ((Trail.ofWalk server e.finalize.1).steps
        ++ [(.adminRoutes, some (.route err))] ++ []) _ _
      rw [List.append_nil]
      exact hwalk.append (.failed htake)
    · rw [lifecycle_ofStart]
      exact .of_notStarted hstarted
  · rw [hw] at hwalk
    rw [hi] at htake
    rw [← lifecycle_installRoutes] at hstarted hplain
    obtain ⟨hmanaged, hrunning⟩ := goes_startManaged hplain hstarted b session g server e.dispatcher
    rw [← dispatcher_startManaged] at hwalk hdispatcher
    have hgoes := hwalk.append (.passed htake hmanaged)
    rw [hstart]
    generalize e.finalize.2.installRoutes.2.1.startManaged = run at hdispatcher hgoes hrunning ⊢
    -- the endpoints that a start reports are no matter for how it ended
    have hresult : ended Error.ofStart ((run.1.map fun _ => log).mapError .managed) =
        ended .managed run.1 := by
      cases run.1 <;> rfl
    refine ⟨hdispatcher, ?_, ?_⟩
    · rw [steps_ofStart, List.append_assoc, hresult]
      exact hgoes
    · rw [lifecycle_ofStart]
      exact hrunning

/-- **The stop of the managed objects.** Those that started are stopped, each once and the last
one first, and nothing is left running. -/
theorem Running.stop {l : Lifecycle} {events : List LifecycleEvent} (h : Running l events) :
    LifecycleEvent.stopped (events ++ l.stop.2.map (·.event)) =
        (LifecycleEvent.succeeded (events ++ l.stop.2.map (·.event))).reverse ∧
      LifecycleEvent.running (events ++ l.stop.2.map (·.event)) = ∅ := by
  obtain ⟨hfollows, hzero⟩ := Lifecycle.stopLast_follows rfl h.started_le
  obtain ⟨hstopped, -, hanswers⟩ := Lifecycle.calls_stopLast h.started_le
  -- a stop call starts nothing
  have hsucceeded : LifecycleEvent.succeeded (l.stop.2.map (·.event)) = [] := by
    change LifecycleEvent.succeeded ((Lifecycle.stopLast l.started l).2.map (·.event)) = []
    rw [LifecycleEvent.succeeded, hanswers]
    rfl
  refine ⟨?_, ?_⟩
  · -- the stops are those of the stop call, and the starts are those before it
    rw [LifecycleEvent.stopped_append, LifecycleEvent.succeeded_append, hsucceeded,
      List.append_nil, h.succeeded_eq, h.stopped_eq]
    exact hstopped
  · rw [LifecycleEvent.running_append, h.running_eq]
    refine hfollows.running_eq.trans ?_
    rw [hzero]
    rfl

end Environment

end ServiceHost
