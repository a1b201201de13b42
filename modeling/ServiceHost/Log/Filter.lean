import ServiceHost.Log.Directive

/-!
# Log filters

A filter is a list of directives and says which records are written. Of the plain directives
that ask for nothing that a record lacks the most specific one decides about it. Besides, a
record passes if it is written in a scope that a directive asks for. The scope of a logger is
there only if the filter opens it, and without it the name of the logger is not seen. A filter
without a directive lets errors pass.

* `LogFilter.parse` reads a filter.
* `LogFilter.enables` decides about a record, `LogFilter.opensScopes` about the scopes.
-/

namespace ServiceHost

/-- The directives of a filter, later ones after earlier ones. -/
structure LogFilter where
  directives : List Directive
  deriving DecidableEq, Repr

/-- The failure to set up the log. -/
structure LoggingError where
  cause : FilterError
  deriving DecidableEq, Repr

/-- The text of a failure to set up the log. -/
def LoggingError.message (e : LoggingError) : String :=
  "failed to initialize logging: " ++ e.cause.message

/-- The level of the scope of a logger. -/
def Logger.scopeLevel : Level := .info

/-- The path of the part that opens the scopes of loggers. -/
def Logger.scopePath : String := Origin.logging.path

/-- The name that the scopes of loggers share. -/
def Logger.scopeName : String := "logger"

/-- The field of a scope that holds the name of its logger. -/
def Logger.scopeField : String := "logger"

/-- Whether a record has a field of a name. Its message is one. -/
def Record.hasField (r : Record) (name : String) : Bool :=
  name == "message" || r.fields.any (·.1 == name)

namespace LogFilter

/-- Reads a filter. Empty pieces between commas say nothing. -/
def parse (text : String) : Except FilterError LogFilter := do
  let pieces := (text.toList.splitOn ',').filter (!·.isEmpty)
  return ⟨← pieces.mapM Directive.parse⟩

/-- The filter of a program: the one of its surroundings if it is valid, else the configured
one. -/
def choose (override : Option String) (configured : String) : Except LoggingError LogFilter :=
  match override.map parse with
  | some (.ok f) => .ok f
  | _ => (parse configured).mapError LoggingError.mk

/-! ### Plain directives -/

/-- Whether a directive is less specific than another: its target is shorter or, of equal
targets, its field comes earlier in order, where no field comes first. -/
def isBelow (d e : Directive) : Bool :=
  let size (d : Directive) := d.target.utf8ByteSize
  let field (d : Directive) := (d.field.map (·.name)).getD ""
  size d < size e || (size d == size e && field d < field e)

/-- The most specific directive, of equal ones the last. -/
def mostSpecific (among : List Directive) : Option Directive :=
  among.foldl (fun best d =>
    match best with
    | none => some d
    | some b => if isBelow d b then some b else some d) none

/-- The plain directive that decides about a path with fields. -/
def deciding (f : LogFilter) (path : String) (hasField : String → Bool) : Option Directive :=
  mostSpecific <| f.directives.filter fun d =>
    d.isPlain && beginsWith path d.target && d.field.all fun test => hasField test.name

/-- Whether the plain directives let a level of a path with fields pass. -/
def passes (f : LogFilter) (level : Level) (path : String) (hasField : String → Bool) : Bool :=
  if f.directives.isEmpty then level == .error
  else (f.deciding path hasField).any (·.admits level)

/-! ### Scopes -/

/-- The directives without those that a later one replaces. -/
def lastOfEach : List Directive → List Directive
  | [] => []
  | d :: rest => if rest.any d.asksLike then lastOfEach rest else d :: lastOfEach rest

/-- The directives that ask for the scopes of loggers. -/
def scopeDirectives (f : LogFilter) : List Directive :=
  (lastOfEach f.directives).filter fun d =>
    d.isScoped && beginsWith Logger.scopePath d.target
      && d.scope.all (· == Logger.scopeName) && d.field.all (·.name == Logger.scopeField)

/-- The rank up to which anything can pass. It is the highest if values are asked for, since
they are not known before a scope is opened. -/
def ceiling (f : LogFilter) : Nat :=
  if f.directives.any fun d => d.field.any (·.value.isSome) then Level.rank .trace
  else (f.directives.map fun d => (d.limit.map Level.rank).getD 0).foldl max 0

/-- Whether the scopes of loggers are opened. -/
def opensScopes (f : LogFilter) : Bool :=
  Logger.scopeLevel.rank ≤ f.ceiling
    && (!f.scopeDirectives.isEmpty
      || f.passes Logger.scopeLevel Logger.scopePath fun _ => true)

/-- Whether a level passes in the scope of a logger. -/
def passesIn (f : LogFilter) (logger : String) (level : Level) : Bool :=
  f.opensScopes && f.scopeDirectives.any fun d =>
    d.admits level && d.field.all fun test => test.value.all (·.holds logger)

/-- Whether a record passes. -/
def enables (f : LogFilter) (r : Record) : Bool :=
  f.passes r.level r.origin.path r.hasField || r.logger.any (f.passesIn · r.level)

end LogFilter

end ServiceHost
