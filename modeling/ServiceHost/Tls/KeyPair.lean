import ServiceHost.Config.Validation
import ServiceHost.Files
import ServiceHost.Tls.Certificate
import ServiceHost.Tls.Pem
import ServiceHost.Tls.PrivateKey

/-!
# Key pairs

An https connector needs a chain of certificates and a private key, each from the PEM sections
of a file. The certificate file is read first and to its end; of the key file the first private
key counts, and what follows it is not read. The first certificate, which is the one of the server
itself, must be well formed and belong to the key.
-/

namespace ServiceHost

/-- Why a file of a key pair cannot be read. -/
inductive TlsReadError where
  | file (e : ReadError)
  | pem (e : Pem.Error)
  deriving DecidableEq, Repr

/-- The text of a read error. -/
def TlsReadError.message : TlsReadError → String
  | .file e => e.message
  | .pem e => e.message

/-- Why a key pair cannot be loaded. -/
inductive TlsError where
  | notConfigured (file : TlsFile)
  | io (path : String) (cause : TlsReadError)
  | noCertificates (path : String)
  | noPrivateKey (path : String)
  | malformed
  deriving DecidableEq, Repr

/-- The text of a load error. -/
def TlsError.message : TlsError → String
  | .notConfigured file => s!"https connector has no {file.name} configured"
  | .io path cause => s!"failed to read {Text.quoted path}: {cause.message}"
  | .noCertificates path => "no certificates found in " ++ Text.quoted path
  | .noPrivateKey path => "no private key found in " ++ Text.quoted path
  | .malformed => "invalid TLS configuration: malformed certificate or key"

/-- A key pair. -/
structure KeyPair where
  certificates : List (List UInt8)
  key : List UInt8
  deriving DecidableEq

/-- The protocols that a server with a key pair offers. -/
def KeyPair.protocols (_ : KeyPair) : List String := ["http/1.1"]

/-- The form of the private key in a section. -/
def Pem.Label.form? : Pem.Label → Option PrivateKey.Form
  | .privateKey => some .wrapped
  | .rsaPrivateKey => some .rsa
  | .ecPrivateKey => some .curve
  | _ => none

namespace KeyPair

/-- Reads the sections of a file. -/
def sections (files : FileTree) (path : String) :
    Except TlsError (List Pem.Section × Option Pem.Error) :=
  match files.read path with
  | .error e => .error (.io path (.file e))
  | .ok bytes => .ok (Pem.readAll bytes)

/-- Loads the certificates of a file. -/
def loadCertificates (files : FileTree) (path : String) :
    Except TlsError (List (List UInt8)) := do
  let (found, e) ← sections files path
  match e, (found.filter (·.label = .certificate)).map (·.bytes) with
  | some e, _ => .error (.io path (.pem e))
  | none, [] => .error (.noCertificates path)
  | none, certificates => .ok certificates

/-- Loads the private key of a file, with its form. -/
def loadPrivateKey (files : FileTree) (path : String) :
    Except TlsError (PrivateKey.Form × List UInt8) := do
  let (found, e) ← sections files path
  match found.findSome? (fun s => s.label.form?.map (·, s.bytes)), e with
  | some key, _ => .ok key
  | none, some e => .error (.io path (.pem e))
  | none, none => .error (.noPrivateKey path)

/-- Whether a certificate is well formed and describes the public key of a private key. -/
def isMatch (certificate : List UInt8) (form : PrivateKey.Form) (key : List UInt8) : Bool :=
  match Certificate.parse? certificate, PrivateKey.publicKeyInfo? form key with
  | some c, some info => c.publicKeyInfo == info
  | _, _ => false

/-- Loads a key pair. -/
def load (files : FileTree) (certFile keyFile : String) : Except TlsError KeyPair := do
  let certificates ← loadCertificates files certFile
  let (form, key) ← loadPrivateKey files keyFile
  if certificates.head?.all (isMatch · form key) then .ok ⟨certificates, key⟩
  else .error .malformed

end KeyPair

/-- The key pair of a connector: none for a plain one. -/
def ConnectorSpec.keyPair (files : FileTree) (s : ConnectorSpec) :
    Except TlsError (Option KeyPair) :=
  match s.kind with
  | .http => .ok none
  | .https =>
    match s.certFile, s.keyFile with
    | none, _ => .error (.notConfigured .cert)
    | some _, none => .error (.notConfigured .key)
    | some cert, some key => (KeyPair.load files cert key).map some

end ServiceHost
