import ServiceHost.Http.Method

/-!
# Endpoints

An endpoint is a method and a full path that a component has made reachable, with the type
name of the component. A log of endpoints is printed as a table.
-/

namespace ServiceHost

/-- A reachable endpoint. -/
structure Endpoint where
  method : Method
  path : String
  typeName : String
  deriving DecidableEq

/-- Endpoints in the order of their logging. -/
abbrev EndpointLog := List Endpoint

/-- A text with blanks after it up to a width. -/
def padEnd (width : Nat) (s : String) : String :=
  s ++ String.ofList (List.replicate (width - s.length) ' ')

/-- The line of an endpoint in a table. -/
def Endpoint.line (e : Endpoint) : String :=
  s!"    {padEnd 7 e.method.text} {e.path} ({e.typeName})\n"

/-- The table of a log. -/
def EndpointLog.table (log : EndpointLog) : String := String.join (log.map Endpoint.line)

end ServiceHost
