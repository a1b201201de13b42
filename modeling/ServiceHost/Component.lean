import ServiceHost.Health
import ServiceHost.Lifecycle
import ServiceHost.Task

/-!
# Components

A component is what an application registers with its environment. It has any of four shapes:
a resource served over HTTP, a managed object, a task and a health check.
-/

namespace ServiceHost

/-- A handler at a method and a path below the context path of a surface. -/
structure Resource (σ : Type) where
  method : Method
  path : String
  handler : Handler σ

/-- A component over the state `σ` of a service. Its mark is for handlers that know components
of their own. -/
structure Component (σ : Type) where
  typeName : String
  mark : String := ""
  resource : Option (Resource σ) := none
  managed : Option Managed := none
  task : Option (Task σ) := none
  health : Option (HealthCheck σ) := none

end ServiceHost
