import ServiceHost.Http.Message
import ServiceHost.KeyMap
import ServiceHost.Text.Quoted

/-!
# Routers

A router maps patterns to handlers by method. A pattern that ends in a slash stands for its
whole subtree, any other for one path. Every pattern is registered under the context path of
the router, and a pair of method and pattern is registered once.

A path is answered by the pattern that equals it; else, if the path with a slash after it is
a pattern, by a redirect there; else by the longest subtree that it lies in. The pattern
alone decides: a method that it lacks is refused, and no shorter subtree is tried.

* `RouteTable.insert` and `RouteTable.find` keep and use a list of subtrees, longest first.
* `Router.register` registers a route, or refuses it and leaves the router as it was.
* `Router.resolve` says what a request meets, and `Router.serve` answers it.
-/

namespace ServiceHost

/-- Whether a text ends in a slash. -/
def endsInSlash (s : String) : Bool := s.toList.getLast? == some '/'

/-- Whether a text begins with another one. -/
def beginsWith (s start : String) : Bool := start.toList.isPrefixOf s.toList

/-- A text without one slash at its end. -/
def dropFinalSlash (s : String) : String :=
  if endsInSlash s then String.ofList s.toList.dropLast else s

/-- Why a registration is refused. -/
inductive RouteError where
  | duplicate (method : Method) (pattern : String)
  | invalidPattern (pattern : String)
  deriving DecidableEq

/-- The text of a refusal. -/
def RouteError.message : RouteError → String
  | .duplicate method pattern => s!"multiple registrations for {method.text} {pattern}"
  | .invalidPattern pattern => "invalid route pattern " ++ Text.quoted pattern

/-! ### Tables -/

/-- The handlers of one pattern by method. -/
abbrev Verbs (H : Type) := KeyMap Method H

/-- The registered patterns with their handlers, and those that are subtrees, longest
first. -/
structure RouteTable (H : Type) where
  nodes : KeyMap String (Verbs H) := .empty
  subtrees : List String := []

/-- What a path meets in a table. -/
inductive Match (H : Type) where
  | node (pattern : String) (verbs : Verbs H)
  | redirect (path : String)
  | none

namespace RouteTable

variable {H : Type}

/-- Puts a subtree in front of the first shorter one. -/
def placeSubtree (pattern : String) : List String → List String
  | [] => [pattern]
  | other :: rest =>
    -- among subtrees of one length the older one stays in front
    if other.utf8ByteSize < pattern.utf8ByteSize then pattern :: other :: rest
    else other :: placeSubtree pattern rest

/-- The handlers of a pattern. -/
def verbsAt (t : RouteTable H) (pattern : String) : Verbs H :=
  (t.nodes.find? pattern).getD .empty

/-- Whether a method is registered for a pattern. -/
def contains (t : RouteTable H) (method : Method) (pattern : String) : Bool :=
  (t.verbsAt pattern).contains method

/-- Registers a handler. A subtree enters the list at its first registration. -/
def insert (t : RouteTable H) (method : Method) (pattern : String) (handler : H) :
    RouteTable H where
  nodes := t.nodes.insert pattern ((t.verbsAt pattern).insert method handler)
  subtrees :=
    if endsInSlash pattern && !t.nodes.contains pattern then placeSubtree pattern t.subtrees
    else t.subtrees

/-- What a path meets. -/
def find (t : RouteTable H) (path : String) : Match H :=
  match t.nodes.find? path with
  | some verbs => .node path verbs
  | none =>
    -- a redirect has priority over the subtrees that the path lies in
    if !endsInSlash path && t.nodes.contains (path ++ "/") then .redirect (path ++ "/")
    else match t.subtrees.find? (beginsWith path) with
      | some pattern => .node pattern (t.verbsAt pattern)
      | none => .none

end RouteTable

/-! ### Routers -/

/-- A route: a handler for a method on a pattern. -/
structure Route (H : Type) where
  method : Method
  pattern : String
  handler : H

/-- A router: its context path, without a final slash, and its table. -/
structure Router (H : Type) where
  contextPath : String
  table : RouteTable H := {}

/-- What a request meets in a router. -/
inductive Resolution (H : Type) where
  | handler (pattern : String) (handler : H)
  | redirect (location : String)
  | notAllowed (methods : List Method)
  | notFound

namespace Router

variable {H H' : Type}

/-- The router without routes under a context path. -/
def ofContextPath (path : String) : Router H := { contextPath := dropFinalSlash path }

/-- Registers a handler for a method on a pattern below the context path. -/
def handle (r : Router H) (method : Method) (pattern : String) (handler : H) :
    Except RouteError (Router H) :=
  if pattern = "" then .error (.invalidPattern pattern)
  else
    let full := r.contextPath ++ pattern
    if r.table.contains method full then .error (.duplicate method full)
    else .ok { r with table := r.table.insert method full handler }

/-- Registers a route below the context path. A refused route leaves the router as it was. -/
def register (r : Router H) (route : Route H) : Router H × Except RouteError Unit :=
  match r.handle route.method route.pattern route.handler with
  | .ok after => (after, .ok ())
  | .error e => (r, .error e)

/-- Every registered pair, by pattern and then by method. -/
def routes (r : Router H) : List (Method × String) :=
  r.table.nodes.entries.flatMap fun (pattern, verbs) => verbs.keys.map (·, pattern)

/-- The location of a redirect: the path, and the query where there is one. -/
def locationText (path : String) : Option String → String
  | none => path
  | some query => path ++ "?" ++ query

/-- What a request with a method and a target meets. A redirect to what cannot stand in a
header field is none. -/
def resolve (r : Router H) (method : Method) (target : Target) : Resolution H :=
  match r.table.find target.path with
  | .node pattern verbs =>
    match verbs.find? method with
    | some handler => .handler pattern handler
    | none => .notAllowed verbs.keys
  | .redirect path =>
    let location := locationText path target.query
    if isHeaderValue location then .redirect location else .notFound
  | .none => .notFound

/-- The text form of a router: its context path and its routes. -/
def render (r : Router H) : String :=
  let routes := r.routes.map fun (method, pattern) => s!"({method.text}, {Text.quoted pattern})"
  s!"MethodRouter \x7b prefix: {Text.quoted r.contextPath}, routes: [" ++ ", ".intercalate routes
    ++ "] \x7d"

end Router

namespace Response

/-- The answer for a path that no pattern covers. -/
def notFound : Response := .text 404 "404 page not found\n"

/-- The answer that sends the client elsewhere. -/
def movedPermanently (location : String) : Response :=
  { Response.text 301 "301 moved permanently\n" with location := some location }

/-- The answer for a path that has other methods. -/
def methodNotAllowed (methods : List Method) : Response :=
  { Response.text 405 "405 method not allowed\n" with allow := some methods }

end Response

/-! ### Handlers -/

/-- A handler over a state `σ` that belongs to the service: it answers a request and may
change the state. -/
abbrev Handler (σ : Type) := Request → σ → Response × σ

namespace Resolution

variable {H H' : Type}

/-- The answer to a request that met this, given what a handler does. -/
def answer {α : Type} (run : H → α) (reply : Response → α) : Resolution H → α
  | .handler _ h => run h
  | .redirect location => reply (.movedPermanently location)
  | .notAllowed methods => reply (.methodNotAllowed methods)
  | .notFound => reply .notFound

end Resolution

/-- Answers a request: the handler that it meets is run once on the unchanged request. -/
def Router.serve {σ : Type} (r : Router (Handler σ)) (request : Request) (s : σ) :
    Response × σ :=
  (r.resolve request.method request.target).answer (fun h => h request s) fun reply => (reply, s)

end ServiceHost
