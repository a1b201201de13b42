import ServiceHost.Text.WhiteSpace
import ServiceHost.Toml.Value

/-!
# Configuration

A server has two surfaces, the application and its administration, each with a context path
and a list of connectors. Besides these a configuration names the log level and format and
holds the settings of the application.

* `ConnectorSpec.bindAddress` is the address that a connector listens on.
-/

namespace ServiceHost

/-- The transport of a connector. -/
inductive ConnectorType where
  | http
  | https
  deriving DecidableEq, Repr, Inhabited

namespace ConnectorType

/-- The name of a transport in settings. -/
def name : ConnectorType → String
  | .http => "http"
  | .https => "https"

/-- The port of a connector without an address. -/
def defaultPort : ConnectorType → Nat
  | .http => 80
  | .https => 443

/-- The transport of a name. -/
def ofName? : String → Option ConnectorType
  | "http" => some .http
  | "https" => some .https
  | _ => none

end ConnectorType

/-- A connector as it is configured. The files hold the certificates and the private key of an
https connector. -/
structure ConnectorSpec where
  kind : ConnectorType := .http
  address : String := ""
  certFile : Option String := none
  keyFile : Option String := none
  deriving DecidableEq, Repr, Inhabited

namespace ConnectorSpec

/-- A plain connector. -/
def http (address : String) : ConnectorSpec := { address }

/-- A connector with a key pair. -/
def https (address certFile keyFile : String) : ConnectorSpec where
  kind := .https
  address := address
  certFile := some certFile
  keyFile := some keyFile

/-- The address that a connector listens on: without an address the default port of its
transport, and without a host every interface. -/
def bindAddress (s : ConnectorSpec) : String :=
  let address := Text.trim s.address
  match address.toList with
  | [] => "0.0.0.0:" ++ toString s.kind.defaultPort
  | ':' :: port => "0.0.0.0:" ++ String.ofList port
  | _ => address

end ConnectorSpec

/-- The settings of both surfaces. -/
structure ServerConfig where
  applicationContextPath : String := "/"
  adminContextPath : String := "/"
  applicationConnectors : List ConnectorSpec := [.http ":8080"]
  adminConnectors : List ConnectorSpec := [.http ":8081"]
  deriving DecidableEq, Repr, Inhabited

/-- The layout of log lines. -/
inductive LogFormat where
  | pretty
  | json
  deriving DecidableEq, Repr, Inhabited

namespace LogFormat

/-- The name of a layout in settings. -/
def name : LogFormat → String
  | .pretty => "pretty"
  | .json => "json"

/-- The layout of a name. -/
def ofName? : String → Option LogFormat
  | "pretty" => some .pretty
  | "json" => some .json
  | _ => none

end LogFormat

/-- The settings of the log: filter directives and a layout. -/
structure LoggingConfig where
  level : String := "info"
  format : LogFormat := .pretty
  deriving DecidableEq, Repr, Inhabited

/-- A configuration. -/
structure Configuration where
  server : ServerConfig := {}
  logging : LoggingConfig := {}
  application : Toml.Table := []
  deriving Inhabited

end ServiceHost
