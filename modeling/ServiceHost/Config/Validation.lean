import ServiceHost.Config.Schema
import ServiceHost.Text.Quoted

/-!
# Validation

A configuration is valid when each context path is empty or starts with a slash and each
https connector names a certificate file and a key file. Validation lists every fault: the
context paths, then the connectors of the application, then those of the administration.
-/

namespace ServiceHost

/-- A surface of the server. -/
inductive Surface where
  | application
  | admin
  deriving DecidableEq, Repr

/-- The files of a key pair. -/
inductive TlsFile where
  | cert
  | key
  deriving DecidableEq, Repr

/-- The name of a file of a key pair in settings. -/
def TlsFile.name : TlsFile → String
  | .cert => "cert_file"
  | .key => "key_file"

/-- The path that a connector gives for a file of its key pair. -/
def ConnectorSpec.tlsFile (s : ConnectorSpec) : TlsFile → Option String
  | .cert => s.certFile
  | .key => s.keyFile

/-- A fault of a configuration. -/
inductive ValidationError where
  | missingTlsFile (surface : Surface) (index : Nat) (missing : TlsFile)
  | relativeContextPath (surface : Surface) (value : String)
  deriving DecidableEq, Repr

namespace ValidationError

/-- The name of the faulty setting. -/
def field : ValidationError → String
  | .missingTlsFile .application index _ => s!"server.application_connectors[{index}]"
  | .missingTlsFile .admin index _ => s!"server.admin_connectors[{index}]"
  | .relativeContextPath .application _ => "server.application_context_path"
  | .relativeContextPath .admin _ => "server.admin_context_path"

/-- The text of a fault. -/
def message (e : ValidationError) : String :=
  match e with
  | .missingTlsFile _ _ missing => s!"{e.field}: https connector requires {missing.name}"
  | .relativeContextPath _ value =>
    s!"{e.field}: context path must start with '/', got " ++ Text.quoted value

/-- The text of a list of faults. -/
def messages (errors : List ValidationError) : String :=
  ", ".intercalate (errors.map message)

end ValidationError

namespace ConnectorSpec

/-- Whether a connector lacks a file that it needs: it is an https connector and the path is
absent or empty. -/
def lacks (s : ConnectorSpec) (file : TlsFile) : Bool :=
  s.kind == .https && (s.tlsFile file).getD "" == ""

/-- The faults of the connector at an index of its list. -/
def faults (surface : Surface) (index : Nat) (s : ConnectorSpec) : List ValidationError :=
  ([.cert, .key].filter s.lacks).map (.missingTlsFile surface index)

end ConnectorSpec

/-- The faults of a context path. -/
def contextPathFaults (surface : Surface) (path : String) : List ValidationError :=
  if path.toList.head?.all (· == '/') then [] else [.relativeContextPath surface path]

/-- The faults of a list of connectors, from the connector at `index` on. -/
def connectorFaults (surface : Surface) : Nat → List ConnectorSpec → List ValidationError
  | _, [] => []
  | index, s :: rest => s.faults surface index ++ connectorFaults surface (index + 1) rest

namespace ServerConfig

/-- The faults of the settings of both surfaces. -/
def faults (c : ServerConfig) : List ValidationError :=
  contextPathFaults .application c.applicationContextPath
    ++ contextPathFaults .admin c.adminContextPath
    ++ connectorFaults .application 0 c.applicationConnectors
    ++ connectorFaults .admin 0 c.adminConnectors

end ServerConfig

/-- Accepts a configuration without faults and lists them otherwise. -/
def Configuration.validate (c : Configuration) : Except (List ValidationError) Unit :=
  match c.server.faults with
  | [] => .ok ()
  | faults => .error faults

end ServiceHost
