import ServiceHost.Proofs.StartupOrder

/-!
# Unwinding

A server command goes through its steps in a fixed order, and the first that fails is the last
that it takes. However it ends, it then undoes what it began: the connectors are asked to stop if
the server was started, and after that the managed objects that started are stopped by their own
stops, the last one first. Of the session of the server no more is asked than that it leaves the
connectors of the server in place.

* `Bootstrap.plan` is the plan of a server command, and `Bootstrap.Goes` goes through it by what the
  parts of the command answer themselves.
* `CommandRun.Unwound` says what is undone, and how.
* `Bootstrap.Completes` puts the two together for a command that returns, or for what is left of it.
  It is built up from the end of a command to its start, with `Bootstrap.Completes.prepend` for
  what comes before, up to `Bootstrap.server_ran_unwound`.
-/

namespace ServiceHost

variable {σ : Type}

/-! ### The server first -/

namespace Trail

/-- Whenever an object is stopped, the server has been stopped before, and stands as it was then
left. -/
def StopsServerFirst (t : Trail) (s : Server Surface) : Prop :=
  ∀ done h rest, t = done ++ h :: rest → ∀ i name, h.act = .lifecycle (.stopping i name) →
    h.server = some s ∧ ∃ x ∈ done, x.act = .stopServer

/-- A happening that stops an object is read as such a stop. -/
theorem mem_stopped {t : Trail} {h : Happening} (hh : h ∈ t) {i : ℕ} {name : String}
    (hact : h.act = .lifecycle (.stopping i name)) : i ∈ LifecycleEvent.stopped t.lifecycle := by
  refine List.mem_filterMap.mpr ⟨.stopping i name, List.mem_filterMap.mpr ⟨h, hh, ?_⟩, rfl⟩
  rw [hact]
  rfl

/-- The stop of the server, and then happenings under which the server stands still. -/
theorem stopsServerFirst_cons {s : Server Surface} {x : Happening} {t : Trail}
    (hx : x.act = .stopServer) (ht : ∀ h ∈ t, h.server = some s) : StopsServerFirst (x :: t) s := by
  intro done h rest hsplit i name hact
  cases done with
  | nil =>
    -- the stop of the server is no stop of an object
    rw [← (List.cons.inj hsplit).1, hx] at hact
    cases hact
  | cons y done =>
    obtain ⟨rfl, rfl⟩ := List.cons.inj hsplit
    exact ⟨ht h (List.mem_append_right _ List.mem_cons_self), x, List.mem_cons_self, hx⟩

/-- What happens before is no matter, as long as it stops no object. -/
theorem StopsServerFirst.prepend {s : Server Surface} {t u : Trail} (h : u.StopsServerFirst s)
    (ht : LifecycleEvent.stopped t.lifecycle = []) : StopsServerFirst (t ++ u) s := by
  intro done x rest hsplit i name hact
  have hx : x ∉ t := by
    intro hx
    have hmem := mem_stopped hx hact
    rw [ht] at hmem
    exact List.not_mem_nil hmem
  rcases split_of_append_eq hsplit with ⟨rest', rfl, -⟩ | ⟨done', hu, rfl⟩
  · exact absurd (List.mem_append_right _ List.mem_cons_self) hx
  · -- the stop of the object comes after all that happened before
    obtain ⟨hserver, y, hy, hstop⟩ := h done' x rest hu i name hact
    exact ⟨hserver, y, List.mem_append_right _ hy, hstop⟩

theorem stopped_of_apart {t : Trail} (h : ∀ x ∈ t, Apart x) :
    LifecycleEvent.stopped t.lifecycle = [] := by
  rw [lifecycle_of_apart h]
  rfl

/-- A stop of managed objects is no step of a command. -/
theorem steps_of_stop (server : Option (Server Surface)) {l : Lifecycle}
    (hl : l.started ≤ l.objects.length) : (ofMoments server l.stop.2).steps = [] := by
  obtain ⟨-, -, hanswers⟩ := Lifecycle.calls_stopLast hl
  rw [steps_ofMoments]
  change (LifecycleEvent.answers ((Lifecycle.stopLast l.started l).2.map (·.event))).map _ = []
  rw [hanswers]
  rfl

end Trail

/-! ### Unwound commands -/

/-- An environment with its components marked as dispatched. -/
def Environment.dispatched (e : Environment σ) : Environment σ :=
  { e with dispatcher := { e.dispatcher with finalized := true } }

namespace CommandRun

/-- The number of components of the environment that a command leaves. -/
def components (r : CommandRun σ) : ℕ :=
  r.environment.elim 0 fun e => e.dispatcher.components.length

/-- The number of managed objects of the environment that a command leaves. -/
def objects (r : CommandRun σ) : ℕ :=
  r.environment.elim 0 fun e => e.wiring.lifecycle.objects.length

/-- The managed objects that run in an environment are stopped, each by its own stop, as the last
that happens to the objects. The environment is left with nothing else changed. -/
def StopsObjects (r : CommandRun σ) (e : Environment σ) : Prop :=
  ∃ starts after moments left, r.trail.lifecycle = starts ++ moments.map (·.event) ∧
    LifecycleEvent.stopped starts = [] ∧ Lifecycle.StopsAll e.wiring.lifecycle after moments ∧
    r.environment = some left ∧ left.dispatched = (e.withLifecycle after).dispatched

/-- What a command that returned has undone, given the server that it built and the stage to which
it came. -/
structure Unwound (r : CommandRun σ) (session : Server Surface → Server.Started Surface)
    (built : Option (Server Surface)) (g : Stage σ) : Prop where
  /-- The objects that started are those that are stopped, in the opposite order. -/
  stopped_eq : LifecycleEvent.stopped r.trail.lifecycle =
    (LifecycleEvent.succeeded r.trail.lifecycle).reverse
  /-- No object is left running. -/
  running_eq : LifecycleEvent.running r.trail.lifecycle = ∅
  stops : ∀ e, g.environment = some e → r.StopsObjects e
  /-- Without an environment there are no objects. -/
  unset : g.environment = none → r.environment = none ∧ r.trail.lifecycle = []
  /-- If the server was started, then each of its connectors has been asked to stop, and had been
  whenever an object was stopped. -/
  served : .serving ∈ r.trail.steps.map (·.1) → ∃ s₀ s, built = some s₀ ∧
    r.session = some (session s₀) ∧ r.server = some s ∧ s.specs = s₀.specs ∧ s.AllClosed ∧
    r.trail.StopsServerFirst s
  /-- If the server was not started, then it is as it was built. -/
  unserved : .serving ∉ r.trail.steps.map (·.1) →
    r.session = none ∧ ∀ s, r.server = some s → built = some s

/-- What happens before managed objects and the server are started is no matter to what is undone
after it. -/
theorem Unwound.prepend {r : CommandRun σ} {session : Server Surface → Server.Started Surface}
    {built : Option (Server Surface)} {g : Stage σ} (h : r.Unwound session built g) {t : Trail}
    (ht : t.Early) : Unwound { r with trail := t ++ r.trail } session built g := by
  -- nothing of it concerns an object or is the start of the server
  have hlifecycle : Trail.lifecycle (t ++ r.trail) = r.trail.lifecycle := by
    rw [Trail.lifecycle_append, Trail.lifecycle_of_apart ht.apart]
    rfl
  have hsteps : Step.serving ∈ (Trail.steps (t ++ r.trail)).map (·.1) ↔
      Step.serving ∈ r.trail.steps.map (·.1) := by
    rw [Trail.steps_append, List.map_append, List.mem_append]
    exact ⟨fun h => h.resolve_left ht.unserved, Or.inr⟩
  refine ⟨?_, ?_, fun e he => ?_, fun hnone => ?_, fun hmem => ?_,
    fun hmem => h.unserved (fun h => hmem (hsteps.mpr h))⟩
  · rw [hlifecycle]
    exact h.stopped_eq
  · rw [hlifecycle]
    exact h.running_eq
  · obtain ⟨starts, after, moments, left, hstops⟩ := h.stops e he
    exact ⟨starts, after, moments, left, hlifecycle ▸ hstops⟩
  · rw [hlifecycle]
    exact h.unset hnone
  · obtain ⟨s₀, s, hbuilt, hsession, hs, hspecs, hclosed, hfirst⟩ := h.served (hsteps.mp hmem)
    exact ⟨s₀, s, hbuilt, hsession, hs, hspecs, hclosed,
      hfirst.prepend (Trail.stopped_of_apart ht.apart)⟩

/-- A command that ended before managed objects and the server were started. -/
theorem Unwound.of_early {r : CommandRun σ} {session : Server Surface → Server.Started Surface}
    {built : Option (Server Surface)} {g : Stage σ} (ht : r.trail.Early)
    (hsession : r.session = none) (hserver : ∀ s, r.server = some s → built = some s)
    (henvironment : r.environment = g.environment)
    (hidle : ∀ e, g.environment = some e → e.wiring.lifecycle.started = 0) :
    r.Unwound session built g where
  stopped_eq := by rw [Trail.lifecycle_of_apart ht.apart]; rfl
  running_eq := by rw [Trail.lifecycle_of_apart ht.apart]; rfl
  stops := by
    intro e he
    have hroom : e.wiring.lifecycle.started ≤ e.wiring.lifecycle.objects.length := by
      rw [hidle e he]
      exact Nat.zero_le _
    have hstops := Lifecycle.stop_stopsAll hroom
    -- there is nothing to stop
    obtain ⟨hmoments, hafter⟩ := hstops.idle (hidle e he)
    rw [hmoments, hafter] at hstops
    refine ⟨[], e.wiring.lifecycle, [], e, ?_, rfl, hstops, henvironment.trans he, rfl⟩
    exact Trail.lifecycle_of_apart ht.apart
  unset := fun hnone => ⟨henvironment.trans hnone, Trail.lifecycle_of_apart ht.apart⟩
  served := fun h => absurd h ht.unserved
  unserved := fun _ => ⟨hsession, hserver⟩

end CommandRun

namespace Bootstrap

/-- A command, or what is left of one from a stage on, that returned with a result. It went through
its plan, which depends on the numbers of components and of managed objects, and has undone what it
began. -/
def Completes (b : Bootstrap σ) (session : Server Surface → Server.Started Surface)
    (built : Option (Server Surface)) (plan : ℕ → ℕ → List Step) (g : Stage σ)
    (result : Except Error Unit) (r : CommandRun σ) : Prop :=
  ∃ after, b.Goes session (plan r.components r.objects) g r.trail.steps result after ∧
    r.Unwound session built after

section Completes

variable {b : Bootstrap σ} {session : Server Surface → Server.Started Surface}
  {built : Option (Server Surface)} {g mid after : Stage σ} {r : CommandRun σ}

/-- Steps that pass, and then what is left of the command. -/
theorem Completes.prepend {plan : ℕ → ℕ → List Step} {result : Except Error Unit}
    (h : b.Completes session built plan mid result r) {first : List Step} {t : Trail}
    (ht : t.Early) (hgoes : b.Goes session first g t.steps (.ok ()) mid) :
    b.Completes session built (fun components objects => first ++ plan components objects) g result
      { r with trail := t ++ r.trail } := by
  obtain ⟨after, hlater, hunwound⟩ := h
  refine ⟨after, ?_, hunwound.prepend ht⟩
  rw [Trail.steps_append]
  exact hgoes.append hlater

/-- A step that fails before managed objects and the server are started. -/
theorem Completes.of_early (first : List Step) (plan : ℕ → ℕ → List Step) {err : Error}
    (ht : r.trail.Early) (hgoes : b.Goes session first g r.trail.steps (.error err) after)
    (hsession : r.session = none) (hserver : ∀ s, r.server = some s → built = some s)
    (henvironment : r.environment = after.environment)
    (hidle : ∀ e, after.environment = some e → e.wiring.lifecycle.started = 0) :
    b.Completes session built (fun components objects => first ++ plan components objects) g
      (.error err) r :=
  ⟨after, hgoes.append_of_error _, .of_early ht hsession hserver henvironment hidle⟩

end Completes

end Bootstrap

/-- A session that leaves the connectors of a server in place, with their specifications, and
stops the server only by closing them. -/
def Server.KeepsOrder (session : Server Surface → Server.Started Surface) : Prop :=
  ∀ s : Server Surface, s.Orderly →
    (session s).server.Orderly ∧ (session s).server.specs = s.specs

/-- The starts of a server are such sessions, whatever the interrupt and the host. -/
theorem Server.keepsOrder_runUntil (interrupt : Interrupt) (host : Host) :
    Server.KeepsOrder fun s => s.runUntil interrupt host :=
  fun _ hs => hs.runUntil interrupt host

/-! ### Launches -/

namespace Bootstrap

/-- How the time of the server ends when it ends: the step is over, the server is stopped, and then
the managed objects are. -/
structure Served (session : Server Surface → Server.Started Surface) (server : Server Surface)
    (e : Environment σ) (result : Except Error Unit) (r : CommandRun σ) : Prop where
  answered : (session server).result.map (·.mapError .server) = some result
  steps_eq : r.trail.steps = [(.serving, failure? result)]
  lifecycle_eq : r.trail.lifecycle = e.wiring.lifecycle.stop.2.map (·.event)
  environment_eq : r.environment = some e.stop.1
  session_eq : r.session = some (session server)
  server_eq : r.server = some (session server).server.stop.1
  stopsServerFirst : r.trail.StopsServerFirst (session server).server.stop.1

theorem serve_served (b : Bootstrap σ) (session : Server Surface → Server.Started Surface)
    (server : Server Surface) {e : Environment σ}
    (he : e.wiring.lifecycle.started ≤ e.wiring.lifecycle.objects.length)
    {result : Except Error Unit} (hresult : (b.serve session server e).result = some result) :
    Served session server e result (b.serve session server e) := by
  unfold serve at hresult ⊢
  cases hret : (session server).result with
  | none =>
    -- a session that does not end gives no result
    simp only [hret] at hresult
    cases hresult
  | some outcome =>
    simp only [hret] at hresult ⊢
    obtain rfl := Option.some.inj hresult
    refine ⟨by rw [hret]; rfl, ?_, ?_, rfl, rfl, rfl, ?_⟩
    · -- the stops after the step are no steps
      exact congrArg (_ :: ·) (Trail.steps_of_stop _ he)
    · exact Trail.lifecycle_ofMoments _ _
    · refine Trail.StopsServerFirst.prepend (t := [_]) (Trail.stopsServerFirst_cons rfl ?_) rfl
      intro h hh
      obtain ⟨m, -, rfl⟩ := List.mem_map.mp hh
      rfl

/-- The step of the server is its session. -/
theorem take_serving {b : Bootstrap σ} {session : Server Surface → Server.Started Surface}
    {server : Server Surface} {g : Stage σ} (hg : g.server = some server)
    {result : Except Error Unit}
    (h : (session server).result.map (·.mapError .server) = some result) :
    b.take session g .serving =
      some (result, { g with server := some (session server).server }) := by
  obtain ⟨outcome, houtcome, rfl⟩ := Option.map_eq_some_iff.mp h
  simp only [take, hg, houtcome, Option.bind_eq_bind, Option.bind_some]
  rfl

/-- The trail of a launch up to its end. -/
def opening (b : Bootstrap σ) (server : Server Surface) (e : Environment σ) : Trail :=
  ⟨.record, [b.log .info ("starting " ++ b.application.name)], some server⟩
    :: Trail.ofStart (some server) e.start

theorem steps_opening (b : Bootstrap σ) (server : Server Surface) (e : Environment σ) :
    (b.opening server e).steps = (Trail.ofStart (some server) e.start).steps :=
  rfl

theorem lifecycle_opening (b : Bootstrap σ) (server : Server Surface) (e : Environment σ) :
    (b.opening server e).lifecycle = (Trail.ofStart (some server) e.start).lifecycle :=
  rfl

/-- A launch that fails before the server is started. -/
theorem launch_of_error (b : Bootstrap σ) (session : Server Surface → Server.Started Surface)
    (server : Server Surface) {e : Environment σ} {err : StartError}
    (h : e.start.result = .error err) :
    b.launch session server e =
      { result := some (.error (.ofStart err))
        trail := b.opening server e
          ++ Trail.ofMoments (some server) e.start.environment.stop.2
        server := some server
        environment := some e.start.environment.stop.1 } := by
  unfold launch
  simp only [h]
  rfl

/-- A launch that comes to the start of the server. -/
theorem launch_of_ok (b : Bootstrap σ) (session : Server Surface → Server.Started Surface)
    (server : Server Surface) {e : Environment σ} {endpoints : EndpointLog}
    (h : e.start.result = .ok endpoints) :
    b.launch session server e =
      { b.serve session server e.start.environment with
        trail := b.opening server e ++ (b.serve session server e.start.environment).trail } := by
  unfold launch
  simp only [h]
  rfl

/-- A stop takes no managed object away. -/
theorem length_objects_stop (e : Environment σ) :
    e.stop.1.wiring.lifecycle.objects.length = e.wiring.lifecycle.objects.length :=
  congrArg List.length (Lifecycle.objects_stopLast _ _)

section Launches

variable (b : Bootstrap σ) {session : Server Surface → Server.Started Surface}
  {server : Server Surface} {g : Stage σ} {e : Environment σ}

/-- The stop of the managed objects undoes what the opening of a launch began, and is their own. -/
theorem opening_undone (session : Server Surface → Server.Started Surface)
    (server : Server Surface) (g : Stage σ) (he : e.Ready) {r : CommandRun σ} {t : Trail}
    (htrail : r.trail = b.opening server e ++ t)
    (ht : t.lifecycle = e.start.environment.wiring.lifecycle.stop.2.map (·.event))
    (hleft : r.environment = some e.start.environment.stop.1) :
    LifecycleEvent.stopped r.trail.lifecycle =
        (LifecycleEvent.succeeded r.trail.lifecycle).reverse ∧
      LifecycleEvent.running r.trail.lifecycle = ∅ ∧
      r.StopsObjects e.started := by
  obtain ⟨hdispatcher, -, hrunning⟩ := he.start b session g (some server)
  obtain ⟨hstopped, hnone⟩ := hrunning.stop
  -- what happens to the objects is what the start did to them, and then the stop
  have hlifecycle : r.trail.lifecycle = (Trail.ofStart (some server) e.start).lifecycle
      ++ e.start.environment.wiring.lifecycle.stop.2.map (·.event) := by
    rw [htrail, Trail.lifecycle_append, lifecycle_opening, ht]
  refine ⟨hlifecycle ▸ hstopped, hlifecycle ▸ hnone, _, _, _, _, hlifecycle, hrunning.stopped_eq,
    Lifecycle.stop_stopsAll hrunning.started_le, hleft, ?_⟩
  -- the two differ in the mark of the dispatcher at most
  unfold Environment.stop Environment.dispatched Environment.started
  rw [hdispatcher]
  rfl

/-- A launch starts the server in its last step, if it comes to that. -/
theorem serving_notMem_opening (session : Server Surface → Server.Started Surface)
    (server : Server Surface) (g : Stage σ) (he : e.Ready) :
    Step.serving ∉ (b.opening server e).steps.map (·.1) := by
  have hgoes := (he.start b session g (some server)).goes
  exact fun h => Environment.serving_notMem_startPlan _ _ (hgoes.mem h)

/-- **A launch that fails early.** The start of the environment fails. It is undone, and the server
stays as it is. -/
theorem launch_of_error_completes (server : Server Surface) (g : Stage σ) (he : e.Ready)
    {err : StartError} (hstart : e.start.result = .error err) :
    b.Completes session (some server)
      (fun components objects => Environment.startPlan components objects ++ [.serving])
      (g.withEnvironment e) (.error (.ofStart err)) (b.launch session server e) := by
  obtain ⟨-, hgoes, hrunning⟩ := he.start b session g (some server)
  rw [hstart] at hgoes
  rw [launch_of_error b session server hstart]
  -- the stops are no steps, so that the plan ends with the start of the environment
  have hsteps : (b.opening server e
      ++ Trail.ofMoments (some server) e.start.environment.stop.2).steps =
      (b.opening server e).steps := by
    rw [Trail.steps_append]
    exact (congrArg (_ ++ ·) (Trail.steps_of_stop _ hrunning.started_le)).trans
      (List.append_nil _)
  obtain ⟨hstopped, hnone, hstops⟩ := b.opening_undone session server g he
    (r := { result := some (.error (.ofStart err))
            trail := b.opening server e
              ++ Trail.ofMoments (some server) e.start.environment.stop.2
            server := some server
            environment := some e.start.environment.stop.1 }) rfl
    (Trail.lifecycle_ofMoments (some server) e.start.environment.stop.2) rfl
  refine ⟨g.withEnvironment e.started, ?_, hstopped, hnone, fun e' he' => ?_, fun h => ?_,
    fun h => ?_, fun _ => ⟨rfl, fun _ h => h⟩⟩
  · change b.Goes session (Environment.startPlan _
      e.start.environment.stop.1.wiring.lifecycle.objects.length ++ [.serving]) _ _ _ _
    rw [hsteps, steps_opening, length_objects_stop]
    exact hgoes.append_of_error _
  · obtain rfl := Option.some.inj he'
    exact hstops
  · cases h
  · -- the server was not started
    rw [hsteps] at h
    exact absurd h (b.serving_notMem_opening session server g he)

/-- **A launch that comes to the server.** The environment starts, and then its server does. -/
theorem launch_of_ok_completes (hsession : Server.KeepsOrder session) (hserver : server.Orderly)
    (hg : g.server = some server) (he : e.Ready) {endpoints : EndpointLog}
    (hstart : e.start.result = .ok endpoints) {result : Except Error Unit}
    (hresult : (b.launch session server e).result = some result) :
    b.Completes session (some server)
      (fun components objects => Environment.startPlan components objects ++ [.serving])
      (g.withEnvironment e) result (b.launch session server e) := by
  obtain ⟨-, hgoes, hrunning⟩ := he.start b session g (some server)
  obtain ⟨horderly, hspecs⟩ := hsession server hserver
  rw [hstart] at hgoes
  rw [launch_of_ok b session server hstart] at hresult ⊢
  have hserved := serve_served b session server hrunning.started_le hresult
  generalize b.serve session server e.start.environment = r at hserved ⊢
  have hsteps : (b.opening server e ++ r.trail).steps =
      (b.opening server e).steps ++ [(.serving, failure? result)] := by
    rw [Trail.steps_append, hserved.steps_eq]
  obtain ⟨hstopped, hnone, hstops⟩ := b.opening_undone session server g he
    (r := { r with trail := b.opening server e ++ r.trail }) rfl hserved.lifecycle_eq
    hserved.environment_eq
  refine ⟨{ g.withEnvironment e.started with server := some (session server).server }, ?_, hstopped,
    hnone, fun e' he' => ?_, fun h => ?_, fun _ => ?_, fun h => ?_⟩
  · unfold CommandRun.components CommandRun.objects
    simp only [hserved.environment_eq]
    change b.Goes session (Environment.startPlan _
      e.start.environment.stop.1.wiring.lifecycle.objects.length ++ [.serving]) _ _ _ _
    rw [hsteps, steps_opening, length_objects_stop]
    -- the environment has started, and the server is the one that was built
    have hstage : (g.withEnvironment e.started).server = some server := hg
    exact hgoes.append (.single (take_serving hstage hserved.answered))
  · obtain rfl := Option.some.inj he'
    exact hstops
  · cases h
  · -- nothing is stopped before the server is
    have hquiet : LifecycleEvent.stopped (b.opening server e).lifecycle = [] := by
      rw [lifecycle_opening, hrunning.stopped_eq]
    exact ⟨server, _, rfl, hserved.session_eq, hserved.server_eq,
      (Server.specs_stop _).trans hspecs, horderly.stop, hserved.stopsServerFirst.prepend hquiet⟩
  · -- the server was started
    rw [hsteps, List.map_append] at h
    exact absurd (List.mem_append_right _ List.mem_cons_self) h

/-- **The launch.** An environment that is set up is started, and then its server. -/
theorem launch_completes (hsession : Server.KeepsOrder session) (hserver : server.Orderly)
    (hg : g.server = some server) (he : e.Ready) {result : Except Error Unit}
    (hresult : (b.launch session server e).result = some result) :
    b.Completes session (some server)
      (fun components objects => Environment.startPlan components objects ++ [.serving])
      (g.withEnvironment e) result (b.launch session server e) := by
  cases hstart : e.start.result with
  | error err =>
    -- a launch that fails early returns the error of the start
    have herror : result = .error (.ofStart err) := by
      rw [launch_of_error b session server hstart] at hresult
      exact (Option.some.inj hresult).symm
    rw [herror]
    exact b.launch_of_error_completes server g he hstart
  | ok endpoints => exact b.launch_of_ok_completes hsession hserver hg he hstart hresult

end Launches

/-! ### Whole commands -/

/-- The steps of the installation of the log, if it is asked for. -/
def logPlan (b : Bootstrap σ) : List Step :=
  if b.installLog.isSome then [.logging] else []

/-- The steps of a server command, given the numbers of components and of managed objects. -/
def plan (b : Bootstrap σ) (components objects : ℕ) : List Step :=
  .configuration :: (b.logPlan ++
    .factory :: (b.setUpPlan ++ (Environment.startPlan components objects ++ [.serving])))

/-- The server that a command builds if it comes to that. -/
def built? (b : Bootstrap σ) : Option (Server Surface) :=
  match b.configuration with
  | .error _ => none
  | .ok c =>
    match b.buildServer c.server (.ofConfig b.application.name c.server b.logger) with
    | .error _ => none
    | .ok (server, _) => some server

section Commands

variable {b : Bootstrap σ} {session : Server Surface → Server.Started Surface}
  {c : Configuration} {result : Except Error Unit}

/-- **From the factory on.** The server is built, the environment is set up, and both are
launched. -/
theorem OnlyRegisters.build (h : b.OnlyRegisters) (hsession : Server.KeepsOrder session)
    (hc : b.configuration = .ok c) (hresult : (b.build session c).result = some result) :
    b.Completes session b.built?
      (fun components objects => .factory ::
        (b.setUpPlan ++ (Environment.startPlan components objects ++ [.serving])))
      { configuration := some c } result (b.build session c) := by
  have hbuilt : b.built? = match b.buildServer c.server
      (.ofConfig b.application.name c.server b.logger) with
    | .error _ => none
    | .ok (server, _) => some server := by
    unfold built?
    rw [hc]
  -- the factory is asked about the environment that every command begins with
  have htake : b.take session { configuration := some c } .factory =
      match b.buildServer c.server (.ofConfig b.application.name c.server b.logger) with
      | .error err => some (.error (.server err), { configuration := some c })
      | .ok (server, e) => some (.ok (), ⟨some c, some server, some e⟩) := by
    simp only [take, Option.bind_eq_bind, Option.bind_some]
    cases b.buildServer c.server (.ofConfig b.application.name c.server b.logger) <;> rfl
  unfold Bootstrap.build at hresult ⊢
  cases hs : b.buildServer c.server (.ofConfig b.application.name c.server b.logger) with
  | error err =>
    rw [hs] at htake
    simp only [hs] at hresult ⊢
    obtain rfl := Option.some.inj hresult
    refine .of_early [.factory] _ (.single (by decide) _ _ _) (.failed htake) rfl ?_ rfl ?_ <;>
      intro _ h <;> cases h
  | ok built =>
    obtain ⟨server, e⟩ := built
    rw [hs] at htake hbuilt
    simp only [hs] at hresult ⊢
    obtain ⟨hextends, horderly⟩ := h.factory _ _ _ _ hs
    -- the stage of the set-up, whose environment is given step by step
    let g : Stage σ := ⟨some c, some server, none⟩
    have hsetUp := h.setUp session (g := g) rfl (some server) e
    have hready := ((Environment.ready_ofConfig _ _ _).of_extends hextends).of_extends
      hsetUp.extends_env
    generalize b.setUp (some server) c e = ready at hsetUp hready hresult ⊢
    -- the server is built before the set-up, and neither of the two is the start of the server
    have hbegun : b.Goes session (.factory :: b.setUpPlan) { configuration := some c }
        (Trail.steps (⟨.step .factory none, [], some server⟩ :: ready.trail)) ready.result
        (g.withEnvironment ready.environment) := .passed htake hsetUp.goes
    have hearly : Trail.Early (⟨.step .factory none, [], some server⟩ :: ready.trail) :=
      Trail.Early.append (.single (by decide) _ _ _)
        (hsetUp.early session b.serving_notMem_setUpPlan)
    cases hr : ready.result with
    | error err =>
      simp only [hr] at hresult ⊢
      obtain rfl := Option.some.inj hresult
      rw [hr] at hbegun
      refine .of_early (.factory :: b.setUpPlan) _ hearly hbegun rfl (fun s hs => hbuilt.trans hs)
        rfl fun e' he' => ?_
      obtain rfl := Option.some.inj he'
      exact hready.started_eq
    | ok =>
      simp only [hr] at hresult ⊢
      rw [hr] at hbegun
      rw [hbuilt]
      exact (b.launch_completes hsession horderly rfl hready hresult).prepend hearly hbegun

/-- **From the log on.** The log is installed if that is asked for, and then the server is built. -/
theorem OnlyRegisters.install (h : b.OnlyRegisters) (hsession : Server.KeepsOrder session)
    (hc : b.configuration = .ok c) (hresult : (b.install session c).result = some result) :
    b.Completes session b.built?
      (fun components objects => b.logPlan ++ .factory ::
        (b.setUpPlan ++ (Environment.startPlan components objects ++ [.serving])))
      { configuration := some c } result (b.install session c) := by
  unfold logPlan
  unfold Bootstrap.install at hresult ⊢
  cases hl : b.installLog with
  | none =>
    simp only [hl] at hresult ⊢
    exact h.build hsession hc hresult
  | some installLog =>
    -- the log is a step only where an application asks for one
    have htake : b.take session { configuration := some c } .logging =
        some ((installLog c.logging).mapError .logging, { configuration := some c }) := by
      simp only [take, hl, Option.bind_eq_bind, Option.bind_some]
      rfl
    simp only [hl] at hresult ⊢
    cases hr : (installLog c.logging).mapError Error.logging with
    | error err =>
      rw [hr] at htake
      simp only [hr] at hresult ⊢
      obtain rfl := Option.some.inj hresult
      refine .of_early [.logging] _ (.single (by decide) _ _ _) (.failed htake) rfl ?_ rfl ?_ <;>
        intro _ h <;> cases h
    | ok =>
      rw [hr] at htake
      simp only [hr] at hresult ⊢
      exact (h.build hsession hc hresult).prepend (.single (by decide) _ _ _) (.single htake)

/-- **The order of a server command.** Take any command whose factory, bundles and application only
add to the environment, and any session that leaves the connectors in place; each step may fail,
and so may each start and stop of a managed object. If the command returns, then it went through
its plan up to the first step that failed, whose failure is its result, or through the whole plan
with success, and each step answered what its part of the command answers. The managed objects
that were stopped are those that started, each once, by its own stop and in the opposite order, and
none is left running. If the server was started, then each of its connectors was asked to stop, and
had been before any object was stopped; and if it was not, then it is as it was built. -/
theorem server_ran_unwound (hb : b.OnlyRegisters) (hsession : Server.KeepsOrder session)
    (hresult : (b.server session).result = some result) :
    ∃ after, b.Goes session (b.plan (b.server session).components (b.server session).objects) {}
        (b.server session).trail.steps result after ∧
      (b.server session).Unwound session b.built? after := by
  -- from here on the command is taken apart from its first step on
  change b.Completes session b.built? b.plan {} result (b.server session)
  unfold server at hresult ⊢
  cases hc : b.configuration with
  | error e =>
    have htake : b.take session {} .configuration = some (.error (.config e), {}) := by
      simp only [take, hc]
    simp only [hc] at hresult ⊢
    obtain rfl := Option.some.inj hresult
    refine .of_early [.configuration] _ (.single (by decide) _ _ _) (.failed htake) rfl ?_ rfl ?_ <;>
      intro _ h <;> cases h
  | ok c =>
    have htake : b.take session {} .configuration = some (.ok (), { configuration := some c }) := by
      simp only [take, hc]
    simp only [hc] at hresult ⊢
    exact (hb.install hsession hc hresult).prepend (.single (by decide) _ _ _) (.single htake)

end Commands

/-- A plain object that starts and fails to stop. -/
def stubborn : Managed where
  start _ := .note "up" (.done (.ok ()))
  stop _ := { result := .error "stuck" }

/-- A bundle that adds one object and an application that registers another one as a component. -/
def stubbornBootstrap : Bootstrap Unit where
  application :=
    { name := "demo"
      bundles := [.tree { name := "pool", run := fun _ e =>
        { result := .ok (), environment := e.manage "Pool" stubborn } } []]
      run := fun _ e =>
        { result := .ok ()
          environment := (e.register [{ typeName := "Cache", managed := some stubborn }]).1 } }

/-- A session that is interrupted at once. -/
def briefSession (s : Server Surface) : Server.Started Surface := s.runUntil .ready {}

theorem server_ran_unwound_stubborn :
    ∃ result, (stubbornBootstrap.server briefSession).result = some result ∧
      LifecycleEvent.stopped (stubbornBootstrap.server briefSession).trail.lifecycle = [1, 0] ∧
      ∃ after, stubbornBootstrap.Goes briefSession
          (stubbornBootstrap.plan (stubbornBootstrap.server briefSession).components
            (stubbornBootstrap.server briefSession).objects) {}
          (stubbornBootstrap.server briefSession).trail.steps result after ∧
        (stubbornBootstrap.server briefSession).Unwound briefSession stubbornBootstrap.built?
          after := by
  have hplain : stubborn.Plain := fun _ => trivial
  -- the bundle and the application add plain objects, and nothing more
  have hb : stubbornBootstrap.OnlyRegisters := by
    refine ⟨fun c e server after h => ?_, fun part hpart c e => ?_, fun c e => ?_⟩
    · obtain ⟨rfl, rfl⟩ := Prod.mk.inj (Except.ok.inj h)
      exact ⟨e.extends_buildServer c, Server.orderly_ofConnectors _⟩
    · rw [List.mem_singleton.mp hpart]
      exact e.extends_manage _ hplain
    · refine e.extends_register fun x hx object hobject => ?_
      rw [List.mem_singleton.mp hx] at hobject
      rw [← Option.some.inj hobject]
      exact hplain
  have hsome : (stubbornBootstrap.server briefSession).result.isSome = true := by decide +kernel
  obtain ⟨result, hresult⟩ := Option.isSome_iff_exists.mp hsome
  exact ⟨result, hresult, by decide +kernel,
    server_ran_unwound hb (Server.keepsOrder_runUntil .ready {}) hresult⟩

end Bootstrap

end ServiceHost
