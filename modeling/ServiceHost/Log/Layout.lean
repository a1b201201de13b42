import ServiceHost.Config.Schema
import ServiceHost.Log.Filter
import ServiceHost.Text.JsonString

/-!
# Log lines

The records that pass a filter are written as lines: one object of JSON for each in the layout
for machines; text in the layout for people, where a message of several lines takes as many.
The name of the logger belongs to a scope of its own, and is written only if the filter opens
that scope.
-/

namespace ServiceHost

/-- A line of the log. -/
inductive LogLine where
  | object (r : Record)
  | text (line : String)
  deriving DecidableEq, Repr

/-- The records among events that pass a filter, as they are seen through it. -/
def LogFilter.visible (f : LogFilter) (events : List Event) : List Record :=
  ((Event.records events).filter f.enables).map fun r =>
    if f.opensScopes then r else { r with logger := none }

/-- The text of a field. -/
def FieldValue.shown : FieldValue → String
  | .text s => s
  | .number n => toString n

namespace Record

/-- A record in the layout for people. -/
def prettyText (r : Record) : String :=
  let scope := match r.logger with
    | some name => s!"logger\x7blogger={Text.quoted name}\x7d: "
    | none => ""
  let fields := r.fields.map fun (name, value) => s!" {name}=" ++ value.shown
  r.level.name ++ " " ++ scope ++ r.origin.path ++ ": " ++ r.message ++ String.join fields

/-- The pieces of a text between its line ends. -/
def linesOf (s : String) : List String := (s.toList.splitOn '\n').map String.ofList

/-- The lines of a record. -/
def lines (format : LogFormat) (r : Record) : List LogLine :=
  match format with
  | .json => [.object r]
  | .pretty => (linesOf r.prettyText).map .text

/-- A record in the layout for machines. -/
def jsonText (r : Record) : String :=
  let string := Text.jsonString
  let value : FieldValue → String
    | .text s => string s
    | .number n => toString n
  Text.jsonObject <|
    [("level", string r.level.name),
      ("fields", Text.jsonObject
        (("message", string r.message) :: r.fields.map fun (name, v) => (name, value v))),
      ("target", string r.origin.path)]
    ++ (r.logger.map fun name =>
      ("span", Text.jsonObject [("logger", string name), ("name", string "logger")])).toList

end Record

/-- The text of a line. -/
def LogLine.render : LogLine → String
  | .object r => r.jsonText
  | .text line => line

end ServiceHost
