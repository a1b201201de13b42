import ServiceHost.Http.Message
import ServiceHost.KeyMap
import ServiceHost.Text.JsonString

/-!
# Health checks

A health check probes a part of the service and says whether it is healthy. Checks are held
by name, a later one in place of an earlier one of the same name. A report has the result of
every check; a check that breaks down counts as unhealthy and harms no other.
-/

namespace ServiceHost

/-- What a health check says. -/
structure HealthResult where
  healthy : Bool
  message : Option String := none
  deriving DecidableEq, Repr

/-- How a health check ends. -/
inductive HealthOutcome where
  | result (r : HealthResult)
  | panicked
  deriving DecidableEq, Repr

/-- The result of a check. A breakdown counts as unhealthy. -/
def HealthOutcome.toResult : HealthOutcome → HealthResult
  | .result r => r
  | .panicked => ⟨false, some "health check panicked"⟩

/-- A health check over the state `σ` of a service. It reads the state and changes nothing. -/
structure HealthCheck (σ : Type) where
  name : String
  check : σ → HealthOutcome

/-- The results of checks by name. -/
abbrev HealthReport := KeyMap String HealthResult

/-- Health checks by name. -/
abbrev HealthRegistry (σ : Type) := KeyMap String (HealthCheck σ)

namespace HealthRegistry

variable {σ : Type}

/-- Adds a check. Gives the one that it replaces too. -/
def register (r : HealthRegistry σ) (check : HealthCheck σ) :
    Option (HealthCheck σ) × HealthRegistry σ :=
  (r.find? check.name, r.insert check.name check)

/-- The results of every check. -/
def run (r : HealthRegistry σ) (s : σ) : HealthReport := r.map fun c => (c.check s).toResult

end HealthRegistry

/-- A result as JSON text. -/
def HealthResult.jsonText (r : HealthResult) : String :=
  Text.jsonObject <| ("healthy", if r.healthy then "true" else "false")
    :: (r.message.map fun m => ("message", Text.jsonString m)).toList

namespace HealthReport

/-- Whether every result is healthy. -/
def allHealthy (r : HealthReport) : Bool := r.values.all (·.healthy)

/-- A report as JSON text, by name. -/
def jsonText (r : HealthReport) : String :=
  Text.jsonObject (r.entries.map fun (name, result) => (name, result.jsonText))

/-- The answer that carries a report: 200 if every result is healthy, else 500. -/
def response (r : HealthReport) : Response where
  status := if allHealthy r then 200 else 500
  body := jsonText r
  mediaType := .json

end HealthReport

end ServiceHost
