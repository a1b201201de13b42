import ServiceHost.Config.Decode
import ServiceHost.Config.Validation
import ServiceHost.Files
import ServiceHost.Toml.Document

/-!
# Loading of configurations

A configuration is read from a file, parsed, decoded and validated; the first step that fails
decides the error.
-/

namespace ServiceHost

/-- Why settings do not make a configuration. -/
inductive ParseError where
  | document (e : Toml.SyntaxError)
  | content (e : DecodeError)
  deriving DecidableEq, Repr

/-- The text of a parse error. -/
def ParseError.message : ParseError → String
  | .document e => e.message
  | .content e => e.message

/-- Why a configuration cannot be loaded. -/
inductive ConfigError where
  | io (path : String) (cause : ReadError)
  | parse (cause : ParseError)
  | validation (errors : List ValidationError)
  deriving DecidableEq, Repr

/-- The text of a load error. -/
def ConfigError.message : ConfigError → String
  | .io path cause => s!"IO error reading {Text.quoted path}: {cause.message}"
  | .parse cause => "Parse error: " ++ cause.message
  | .validation errors => "Validation failed: " ++ ValidationError.messages errors

namespace Configuration

/-- Reads a configuration from text. -/
def parse (text : String) : Except ConfigError Configuration := do
  let table ← (Toml.Table.parse text).mapError fun e => .parse (.document e)
  let c ← (decode .document (.table table)).mapError fun e => .parse (.content e)
  c.validate.mapError .validation
  return c

/-- Reads a configuration from a file. -/
def load (files : FileTree) (path : String) : Except ConfigError Configuration := do
  parse (← (files.readText path).mapError (.io path))

/-- Reads the settings of the application as texts by name. A date-time stands for its
text. -/
def applicationTexts (c : Configuration) : Except ConfigError (List (String × String)) :=
  c.application.mapM fun (key, v) =>
    match v with
    | .string s => .ok (key, s)
    | .dateTime t => .ok (key, t.render)
    | _ => .error (.parse (.content (.wrongSetting key "a string")))

end Configuration

end ServiceHost
