import ServiceHost.Environment
import ServiceHost.Server.Managed

/-!
# Servers of a configuration

The server of a configuration has a connector for every specification: those of the
application first, then those of the administration, each serving the router of its surface.
Building it adds the handler of resources for the application to the environment.
-/

namespace ServiceHost

/-- The connectors of a surface. -/
def connectorsFor (surface : Surface) (contextPath : String) (specs : List ConnectorSpec) :
    List (Connector Surface) :=
  specs.map fun spec => { spec, target := surface, contextPath }

/-- The connectors of a configuration. -/
def ServerConfig.connectors {σ : Type} (c : ServerConfig) (w : Wiring σ) :
    List (Connector Surface) :=
  connectorsFor .application (w.contextPath .application) c.applicationConnectors
    ++ connectorsFor .admin (w.contextPath .admin) c.adminConnectors

/-- Builds the server of a configuration. -/
def ServerConfig.buildServer {σ : Type} (c : ServerConfig) (e : Environment σ) :
    Server Surface × Environment σ :=
  (.ofConnectors (c.connectors e.wiring), e.addHandlers [Wiring.resourceHandler .application])

end ServiceHost
