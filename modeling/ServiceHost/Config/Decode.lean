import ServiceHost.Config.Schema

/-!
# Decoding of settings

A record is read from a table by the names of its fields, or from an array by their order.
Fields that are missing take their defaults, fields that are unknown are ignored. A choice is
read from its name, or from a table with the name as its only key and an empty content.

Settings come as a settings document or as data, and the two differ in three ways: which
content of a choice is empty, whether an array may be longer than its record has fields, and
whether a table that spells a date-time may hold more than that.
-/

namespace ServiceHost

open Toml (Value Table)

/-- Why values do not fit the schema. -/
inductive DecodeError where
  | wrongType (expected : String)
  | unknownChoice (name : String)
  | surplusItem
  /-- A setting of the application that is not of the type it is read as. -/
  | wrongSetting (key expected : String)
  deriving DecidableEq, Repr

/-- The text of a misfit. -/
def DecodeError.message : DecodeError → String
  | .wrongType expected => "invalid type, expected " ++ expected
  | .unknownChoice name => "unknown variant " ++ name
  | .surplusItem => "too many items for a record"
  | .wrongSetting key expected => s!"invalid type, expected {expected}\nin \x60{key}\x60\n"

/-- The form in which settings come. -/
inductive SettingsForm where
  /-- A settings document. -/
  | document
  /-- Data with null. -/
  | data
  deriving DecidableEq, Repr

namespace Decode

/-- The key of the only entry of a date-time that is read as a table. -/
def dateTimeKey : String := "$__toml_private_datetime"

/-- The entries of a value that can be read as a table. -/
def entries? : Value → Option Table
  | .table entries => some entries
  | .dateTime t => some [(dateTimeKey, .string t.render)]
  | _ => none

/-- Whether a value is the empty content of a choice. -/
def isEmptyContent : SettingsForm → Value → Bool
  | .document, .table [] => true
  | .document, .array [] => true
  | .data, .null => true
  | _, _ => false

/-- The fields of a record: the value of each name, given with its position. -/
def record (form : SettingsForm) (names : List String) (v : Value) :
    Except DecodeError (String → Option Value) :=
  match v with
  | .array items =>
    if form = .data ∧ names.length < items.length then .error .surplusItem
    else .ok fun name => (names.zip items).lookup name
  | v =>
    match entries? v with
    | some entries => .ok entries.get?
    | none => .error (.wrongType "a table")

/-- A field that is decoded, or its default where it is missing. -/
def field {α : Type} (decode : Value → Except DecodeError α) (default : α) :
    Option Value → Except DecodeError α
  | none => .ok default
  | some v => decode v

/-- A text. -/
def string : Value → Except DecodeError String
  | .string s => .ok s
  | _ => .error (.wrongType "a string")

/-- A text that may be null. -/
def optionalString : Value → Except DecodeError (Option String)
  | .null => .ok none
  | v => (string v).map some

/-- A choice by its name. -/
def choice {α : Type} (form : SettingsForm) (ofName? : String → Option α) (v : Value) :
    Except DecodeError α := do
  let name ← match v with
    | .string name => .ok name
    | .table [(name, content)] =>
      if isEmptyContent form content then .ok name else .error (.wrongType "an empty content")
    | _ => .error (.wrongType "a name")
  match ofName? name with
  | some a => .ok a
  | none => .error (.unknownChoice name)

/-- A list. -/
def list {α : Type} (decode : Value → Except DecodeError α) : Value → Except DecodeError (List α)
  | .array items => items.mapM decode
  | .tables items => items.mapM fun entries => decode (.table entries)
  | _ => .error (.wrongType "an array")

/-- The specification of a connector. Every field has a default. -/
def connectorSpec (form : SettingsForm) (v : Value) : Except DecodeError ConnectorSpec := do
  let get ← record form ["type", "address", "cert_file", "key_file"] v
  return {
    kind := ← field (choice form ConnectorType.ofName?) .http (get "type")
    address := ← field string "" (get "address")
    certFile := ← field optionalString none (get "cert_file")
    keyFile := ← field optionalString none (get "key_file") }

/-- The configuration of a server. -/
def serverConfig (form : SettingsForm) (v : Value) : Except DecodeError ServerConfig := do
  let default : ServerConfig := {}
  let get ← record form ["application_context_path", "admin_context_path",
    "application_connectors", "admin_connectors"] v
  let connectors := list (connectorSpec form)
  return {
    applicationContextPath :=
      ← field string default.applicationContextPath (get "application_context_path")
    adminContextPath := ← field string default.adminContextPath (get "admin_context_path")
    applicationConnectors :=
      ← field connectors default.applicationConnectors (get "application_connectors")
    adminConnectors := ← field connectors default.adminConnectors (get "admin_connectors") }

/-- The configuration of the log. -/
def loggingConfig (form : SettingsForm) (v : Value) : Except DecodeError LoggingConfig := do
  let default : LoggingConfig := {}
  let get ← record form ["level", "format"] v
  return {
    level := ← field string default.level (get "level")
    format := ← field (choice form LogFormat.ofName?) default.format (get "format") }

/-- The value of a table whose first key is that of a date-time: the date-time that is spelled
there. Data hold nothing beside it, and what a document holds beside it is not looked at. -/
def dateTime? (form : SettingsForm) (spelling : Value) (rest : Table) : Option Value :=
  match spelling with
  | .string s =>
    if form = .data ∧ !rest.isEmpty then none else (Toml.DateTime.ofText? s).map .dateTime
  | _ => none

mutual

/-- A value as the settings of an application keep it. Null and integers past the signed ones
of 64 bits are not kept, and a table that spells a date-time becomes one. -/
def setting? (form : SettingsForm) : Value → Option Value
  | .null => none
  | .integer n => if n < 0x8000000000000000 then some (.integer n) else none
  | .array items => (settings? form items).map .array
  | .tables items => (tables? form items).map .array
  | .table entries => table? form entries
  | v => some v

/-- The items of an array as they are kept. -/
def settings? (form : SettingsForm) : List Value → Option (List Value)
  | [] => some []
  | v :: rest => do return (← setting? form v) :: (← settings? form rest)

/-- A table as it is kept. -/
def table? (form : SettingsForm) : List (String × Value) → Option Value
  | [] => some (.table [])
  | (key, v) :: rest =>
    if key = dateTimeKey then dateTime? form v rest
    else do return .table ((key, ← setting? form v) :: (← entriesOfTable? form rest))

/-- The entries of a table as they are kept. -/
def entriesOfTable? (form : SettingsForm) : List (String × Value) → Option Table
  | [] => some []
  | (key, v) :: rest => do return (key, ← setting? form v) :: (← entriesOfTable? form rest)

/-- The tables of an array as they are kept. -/
def tables? (form : SettingsForm) : List (List (String × Value)) → Option (List Value)
  | [] => some []
  | t :: rest => do return (← table? form t) :: (← tables? form rest)

end

/-- The settings of an application. The table of all settings is never a date-time. -/
def application (form : SettingsForm) (v : Value) : Except DecodeError Table :=
  match (entries? v).map (entriesOfTable? form) with
  | some (some entries) => .ok entries
  | some none => .error (.wrongType "a setting")
  | none => .error (.wrongType "a table")

end Decode

namespace Configuration

/-- Reads a configuration from a value. -/
def decode (form : SettingsForm) (v : Value) : Except DecodeError Configuration := do
  let get ← Decode.record form ["server", "logging", "application"] v
  return {
    server := ← Decode.field (Decode.serverConfig form) {} (get "server")
    logging := ← Decode.field (Decode.loggingConfig form) {} (get "logging")
    application := ← Decode.field (Decode.application form) [] (get "application") }

end Configuration

end ServiceHost
