import ServiceHost.Endpoint
import ServiceHost.Http.Router
import ServiceHost.Log.Record

/-!
# Dispatch of components

A dispatcher collects components and a chain of handlers. When it is finalized, once, it
walks every component through the chain: handlers are asked from the newest to the oldest
until one claims the component. A component that none claims is reported, and the first
error ends the walk for good.

The handlers act on a wiring `W`, and `C` is the type of the components.
-/

namespace ServiceHost

/-- What a handler answers about a component: whether it claims it, or why the wiring fails;
the endpoints that it logs; and the events that it causes. -/
structure Claim where
  outcome : Except RouteError Bool
  endpoints : EndpointLog := []
  events : List Event := []

/-- The failure in a result, if it is one. -/
def failure? {ε α : Type} : Except ε α → Option ε
  | .error e => some e
  | .ok _ => none

/-- The answer of a handler that leaves a component to the others. -/
def Claim.decline : Claim := { outcome := .ok false }

/-- A handler of components. -/
abbrev ResourceHandler (W C : Type) := C → W → Claim × W

/-- The collected components and handlers, in the order of their adding. -/
structure Dispatcher (W C : Type) where
  handlers : List (ResourceHandler W C) := []
  components : List C := []
  finalized : Bool := false

/-- The logger of the dispatcher. -/
def dispatcherLogger : Logger := ⟨"dispatcher"⟩

namespace Dispatcher

variable {W C : Type}

/-- A record of the dispatcher. -/
def log (level : Level) (message : String) (fields : List (String × FieldValue) := []) :
    Event :=
  .log (dispatcherLogger.record level .dispatcher message fields)

/-- Adds components. A warning names those that come too late. -/
def register (typeName : C → String) (d : Dispatcher W C) (components : List C) :
    Dispatcher W C × List Event :=
  ({ d with components := d.components ++ components },
    if d.finalized && !components.isEmpty then
      [log .warn "Components registered after startup are not dispatched"
        [("components", .text (Text.quotedList (components.map typeName)))]]
    else [])

/-- Adds handlers. -/
def addHandlers (d : Dispatcher W C) (handlers : List (ResourceHandler W C)) :
    Dispatcher W C :=
  { d with handlers := d.handlers ++ handlers }

/-- Asks handlers in order about a component, up to the first claim or error. -/
def ask (c : C) : List (ResourceHandler W C) → W → Claim × W
  | [], w => (.decline, w)
  | h :: rest, w =>
    let (claim, w) := h c w
    match claim.outcome with
    -- a handler that declines may have logged and wired all the same
    | .ok false =>
      let (later, w) := ask c rest w
      ({ outcome := later.outcome
         endpoints := claim.endpoints ++ later.endpoints
         events := claim.events ++ later.events }, w)
    | _ => (claim, w)

/-- The report on a component after its walk. -/
def report (typeName : C → String) (c : C) : Except RouteError Bool → List Event
  | .ok true => []
  | .ok false => [log .warn "Could not handle component" [("component", .text (typeName c))]]
  | .error e =>
    [log .error "Could not wire component"
      [("component", .text (typeName c)), ("error", .text e.message)]]

/-- What became of a component on a walk: the answer of the handlers about it, and the events. -/
structure Visit where
  outcome : Except RouteError Bool
  events : List Event := []

/-- What a walk gives: the logged endpoints or the first error, the visits of the components in
their order, and the events at its end. -/
structure Walk where
  result : Except RouteError EndpointLog
  visits : List Visit := []
  closing : List Event := []

/-- The events of a walk. -/
def Walk.events (w : Walk) : List Event := w.visits.flatMap (·.events) ++ w.closing

/-- Walks components through handlers that are listed from the newest to the oldest. -/
def walk (typeName : C → String) (handlers : List (ResourceHandler W C)) :
    List C → W → Walk × W
  | [], w => ({ result := .ok [] }, w)
  | c :: rest, w =>
    let (claim, w) := ask c handlers w
    let visit : Visit :=
      { outcome := claim.outcome, events := claim.events ++ report typeName c claim.outcome }
    match claim.outcome with
    | .error e => ({ result := .error e, visits := [visit] }, w)
    | .ok _ =>
      let (later, w) := walk typeName handlers rest w
      ({ result := later.result.map (claim.endpoints ++ ·)
         visits := visit :: later.visits }, w)

/-- Walks every component, the first time; later calls do nothing. The table of endpoints is
logged when the walk succeeds. -/
def finalize (typeName : C → String) (d : Dispatcher W C) (w : W) :
    Walk × Dispatcher W C × W :=
  if d.finalized then
    ({ result := .ok [], closing := [log .debug "Components already dispatched"] }, d, w)
  else
    -- the flag is set whether or not the walk succeeds
    let (found, w) := walk typeName d.handlers.reverse d.components w
    let table := match found.result with
      | .ok endpoints => [log .info ("resources =\n\n" ++ EndpointLog.table endpoints)]
      | .error _ => []
    ({ found with closing := table }, { d with finalized := true }, w)

end Dispatcher

end ServiceHost
