import ServiceHost.Proofs.LifecycleRun
import ServiceHost.Startup.Command

/-!
# The stages of a server command

A server command puts its parts together step by step, and each step asks one part of the command:
the source of the configuration, a bundle, the handlers about a component, the start of an object,
the session of the server. What the step answers is what this part answers itself, to what the steps
before it have left.

* `Stage` is what is there between two steps, and `Bootstrap.take` says for every step which part is
  asked, what is then left, and that the answer is the part's own. It does not look at the command.
* `Bootstrap.Goes` goes through a plan of steps up to the first that fails. A command is held
  against it.
-/

namespace ServiceHost

variable {σ : Type}

/-- How something ended, with its error as one of the command. -/
def ended {ε α : Type} (f : ε → Error) : Except ε α → Except Error Unit
  | .error e => .error (f e)
  | .ok _ => .ok ()

/-- An environment with another lifecycle. -/
def Environment.withLifecycle (e : Environment σ) (l : Lifecycle) : Environment σ :=
  { e with wiring := { e.wiring with lifecycle := l } }

/-! ### Stages -/

/-- What a server command has put together between two steps. -/
structure Stage (σ : Type) where
  configuration : Option Configuration := none
  server : Option (Server Surface) := none
  environment : Option (Environment σ) := none

/-- A stage with another environment. -/
def Stage.withEnvironment (g : Stage σ) (e : Environment σ) : Stage σ :=
  { g with environment := some e }

namespace Bootstrap

/-- What a step answers at a stage, and the stage that it leaves. There is no answer where the part
that would have to answer is not there, and none from a session that does not end. -/
def take (b : Bootstrap σ) (session : Server Surface → Server.Started Surface) (g : Stage σ) :
    Step → Option (Except Error Unit × Stage σ)
  | .configuration =>
    match b.configuration with
    | .error e => some (.error (.config e), g)
    | .ok c => some (.ok (), { g with configuration := some c })
  | .logging => do
    let c ← g.configuration
    let installLog ← b.installLog
    return ((installLog c.logging).mapError .logging, g)
  | .factory => do
    let c ← g.configuration
    match b.buildServer c.server (.ofConfig b.application.name c.server b.logger) with
    | .error e => return (.error (.server e), g)
    | .ok (server, e) => return (.ok (), { g with server := some server, environment := some e })
  | .bundle i => do
    let c ← g.configuration
    let e ← g.environment
    let part ← b.bundlesInOrder[i]?
    let ran := part.run c e
    return (ran.result.mapError (.bundle part.name), g.withEnvironment ran.environment)
  | .application => do
    let c ← g.configuration
    let e ← g.environment
    let ran := b.application.run c e
    return (ran.result, g.withEnvironment ran.environment)
  | .component i => do
    let e ← g.environment
    let c ← e.dispatcher.components[i]?
    -- the handler that was added last is asked first, and what it leaves counts also if it fails
    let (claim, wiring) := Dispatcher.ask c e.dispatcher.handlers.reverse e.wiring
    return (ended .route claim.outcome, g.withEnvironment { e with wiring })
  | .adminRoutes => do
    let e ← g.environment
    let (installed, routed, _) := e.installRoutes
    return (ended .route installed, g.withEnvironment routed)
  | .managed i => do
    let e ← g.environment
    let entry ← e.wiring.lifecycle.entries[i]?
    let called := e.wiring.lifecycle.calling i
    -- the call is counted before the object answers, and the object only if it has started
    match (entry.object.start entry.starts).result with
    | .error cause =>
      return (.error (.managed ⟨entry.name, cause⟩), g.withEnvironment (e.withLifecycle called))
    | .ok () => return (.ok (), g.withEnvironment (e.withLifecycle called.counted))
  | .serving => do
    let server ← g.server
    -- the session of the server may go on for good, and then the step has no answer
    let result ← (session server).result
    return (result.mapError .server, { g with server := some (session server).server })

/-! ### Plans -/

/-- A plan that is gone through from one stage to another. Its steps are taken in order up to the
first that fails; the result is the failure of that one, or a success if there is none. -/
inductive Goes (b : Bootstrap σ) (session : Server Surface → Server.Started Surface) :
    List Step → Stage σ → List (Step × Option Error) → Except Error Unit → Stage σ → Prop
  | done (g : Stage σ) : Goes b session [] g [] (.ok ()) g
  | passed {s : Step} {plan : List Step} {g mid after : Stage σ}
      {steps : List (Step × Option Error)} {result : Except Error Unit}
      (htake : b.take session g s = some (.ok (), mid))
      (later : Goes b session plan mid steps result after) :
      Goes b session (s :: plan) g ((s, none) :: steps) result after
  | failed {s : Step} {plan : List Step} {g after : Stage σ} {e : Error}
      (htake : b.take session g s = some (.error e, after)) :
      Goes b session (s :: plan) g [(s, some e)] (.error e) after

namespace Goes

variable {b : Bootstrap σ} {session : Server Surface → Server.Started Surface}
  {plan plan' : List Step} {g mid after : Stage σ} {steps steps' : List (Step × Option Error)}
  {result : Except Error Unit}

/-- A plan that passes, and then another one. -/
theorem append (h : Goes b session plan g steps (.ok ()) mid)
    (h' : Goes b session plan' mid steps' result after) :
    Goes b session (plan ++ plan') g (steps ++ steps') result after := by
  -- the index of the induction must be a variable, and it is kept equal to the success
  generalize hr : (.ok () : Except Error Unit) = r at h
  induction h with
  | done => exact h'
  | passed htake _ ih => exact .passed htake (ih h' hr)
  | failed => cases hr

/-- After a failure nothing more of a plan is done. -/
theorem append_of_error {e : Error} (h : Goes b session plan g steps (.error e) after)
    (plan' : List Step) : Goes b session (plan ++ plan') g steps (.error e) after := by
  -- as for two plans, the failure is kept beside the induction
  generalize hr : (.error e : Except Error Unit) = r at h
  induction h with
  | done => cases hr
  | passed htake _ ih => exact .passed htake (ih hr)
  | failed htake => exact .failed htake

/-- A plan of one step. -/
theorem single {s : Step} (htake : b.take session g s = some (result, after)) :
    Goes b session [s] g [(s, failure? result)] result after := by
  cases result with
  | error e => exact .failed htake
  | ok => exact .passed htake (.done after)

/-- No step is taken that is not planned. -/
theorem mem (h : Goes b session plan g steps result after) {s : Step}
    (hs : s ∈ steps.map (·.1)) : s ∈ plan := by
  induction h with
  | done => exact hs
  | passed _ _ ih =>
    -- a step that was taken is the first of the plan, or was taken of the rest
    rcases List.mem_cons.mp hs with rfl | hs
    · exact List.mem_cons_self
    · exact List.mem_cons_of_mem _ (ih hs)
  | failed => exact List.mem_cons.mpr (Or.inl (List.mem_singleton.mp hs))

end Goes

end Bootstrap

end ServiceHost
