import ServiceHost.Config.Load
import ServiceHost.Environment
import ServiceHost.Log.Filter
import ServiceHost.Server.Managed

/-!
# Errors

The errors that end a program, by the part that they come from.
-/

namespace ServiceHost

/-- Why a program fails. -/
inductive Error where
  | config (e : ConfigError)
  | route (e : RouteError)
  | server (e : ServerError)
  | logging (e : LoggingError)
  | managed (e : ManagedError)
  | bundle (name : String) (cause : String)
  | application (cause : String)

namespace Error

/-- The text of an error. -/
def message : Error → String
  | .config e => e.message
  | .route e => e.message
  | .server e => e.message
  | .logging e => e.message
  | .managed e => e.message
  | .bundle name cause => s!"bundle {name} failed: {cause}"
  | .application cause => "application error: " ++ cause

/-- The error of an environment that does not start. -/
def ofStart : StartError → Error
  | .route e => .route e
  | .managed e => .managed e

end Error

end ServiceHost
