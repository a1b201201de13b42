import ServiceHost.Error

/-!
# Trails

A trail is what a server command goes through, in order: the steps that it takes, each with its
failure if it fails, what happens to the managed objects, and the stop of the server. It holds the
events of the command, and for every happening the server as it then stands.

* `Trail.ofStart` is the trail of the start of an environment.
* `Trail.steps` and `Trail.lifecycle` are the readings of a trail.
-/

namespace ServiceHost

/-- A step of a server command. Bundles, components and managed objects are given by their
indices. -/
inductive Step where
  | configuration
  | logging
  | factory
  | bundle (index : Nat)
  | application
  | component (index : Nat)
  | adminRoutes
  | managed (index : Nat)
  | serving
  deriving DecidableEq, Repr

/-- Something that a server command does. -/
inductive Act where
  /-- A step is over, with its failure if it failed. -/
  | step (s : Step) (failure : Option Error)
  /-- Something happens to a managed object. -/
  | lifecycle (e : LifecycleEvent)
  /-- The server is stopped. -/
  | stopServer
  /-- Something is put on record. -/
  | record

/-- An act with its events, and the server as it stands then, if it is built. -/
structure Happening where
  act : Act
  events : List Event := []
  server : Option (Server Surface) := none

/-- Happenings in order. -/
abbrev Trail := List Happening

namespace Trail

/-- The events of a trail. -/
def events (t : Trail) : List Event := t.flatMap (·.events)

/-! ### Readings -/

/-- The step that ends with an act, and its failure. The start of a managed object ends when it
has started or failed. -/
def step? : Act → Option (Step × Option Error)
  | .step s failure => some (s, failure)
  | .lifecycle (.started index _) => some (.managed index, none)
  | .lifecycle (.startFailed index name cause) =>
    some (.managed index, some (.managed ⟨name, cause⟩))
  | _ => none

/-- What happens to a managed object with an act. -/
def lifecycle? : Act → Option LifecycleEvent
  | .lifecycle e => some e
  | _ => none

/-- The steps of a trail, each with its failure. -/
def steps (t : Trail) : List (Step × Option Error) := t.filterMap fun h => step? h.act

/-- What happens to managed objects on a trail. -/
def lifecycle (t : Trail) : List LifecycleEvent := t.filterMap fun h => lifecycle? h.act

/-! ### Trails of parts -/

/-- The trail of visits to the components from an index on. -/
def ofVisits (server : Option (Server Surface)) : Nat → List Dispatcher.Visit → Trail
  | _, [] => []
  | index, v :: rest =>
    ⟨.step (.component index) ((failure? v.outcome).map .route), v.events, server⟩
      :: ofVisits server (index + 1) rest

/-- The trail of a walk. -/
def ofWalk (server : Option (Server Surface)) (w : Dispatcher.Walk) : Trail :=
  ofVisits server 0 w.visits ++ [⟨.record, w.closing, server⟩]

/-- The trail of an installation of the admin routes, if there was one. -/
def ofRoutes (server : Option (Server Surface)) :
    Option (Except RouteError EndpointLog × List Event) → Trail
  | none => []
  | some (installed, events) =>
    [⟨.step .adminRoutes ((failure? installed).map .route), events, server⟩]

/-- The trail of moments of the managed objects. -/
def ofMoments (server : Option (Server Surface)) (moments : List Moment) : Trail :=
  moments.map fun m => ⟨.lifecycle m.event, Moment.render [m], server⟩

/-- The trail of a start of an environment. -/
def ofStart {σ : Type} (server : Option (Server Surface)) (s : Environment.Started σ) : Trail :=
  ofWalk server s.walk ++ ofRoutes server s.routes ++ ofMoments server s.moments

end Trail

end ServiceHost
