import ServiceHost.Admin
import ServiceHost.CommandLine.Server
import ServiceHost.Http.Url

/-!
# The client of the admin surface

The client pings a server, asks for its health report or runs a task with parameters. It is
called with the address of the admin surface, if that is not the usual one, and a command. The
parameters of a task are pairs with an equals sign, sent as the query of the request.

* `AdminClient.ofArgs` reads the arguments.
* `AdminClient.Call.target` is the target that a call asks for.
-/

namespace ServiceHost

namespace AdminClient

/-- What the client is called for. -/
inductive Command where
  | ping
  | health
  | task (name : String) (params : List (String × String))
  deriving DecidableEq, Repr

/-- A call: the address of the admin surface, with its context path, and the command. -/
structure Call where
  url : String := "http://localhost:8081"
  command : Command
  deriving DecidableEq, Repr

/-- What the arguments ask for. -/
inductive Invocation where
  | call (c : Call)
  | help
  | misuse
  deriving DecidableEq, Repr

/-! ### Arguments -/

/-- Splits a parameter at its first equals sign. -/
def pair? (arg : String) : Option (String × String) :=
  let key := arg.toList.takeWhile (· != '=')
  match arg.toList.drop key.length with
  | _ :: value => some (String.ofList key, String.ofList value)
  | [] => none

/-- What a command asks for when the reading of its arguments ends. -/
def Invocation.ofEnding (c : Call) : CommandLine.Ending → Invocation
  | .complete => .call c
  | .help => .help
  | .misuse => .misuse

/-- Reads the command and its arguments. The parameters of a task are looked at before what
follows them. -/
def command (url : String) : List String → Invocation
  | "ping" :: rest =>
    .ofEnding { url, command := .ping } (CommandLine.readValues false 0 rest).ending
  | "health" :: rest =>
    .ofEnding { url, command := .health } (CommandLine.readValues false 0 rest).ending
  | "task" :: rest =>
    let read := CommandLine.readValues false rest.length rest
    match read.values with
    | [] => if read.ending = .help then .help else .misuse
    | name :: params =>
      match params.mapM pair? with
      | none => .misuse
      | some params => .ofEnding { url, command := .task name params } read.ending
  | "help" :: rest =>
    if CommandLine.isHelpTopic ["ping", "health", "task", "help"] rest then .help else .misuse
  | arg :: _ => if CommandLine.asksForHelp arg then .help else .misuse
  | [] => .misuse

/-- The value of an address option that stands in one argument. -/
def inlineUrl? (arg : String) : Option String :=
  if beginsWith arg "--url=" then some (textAfter "--url=" arg)
  else if beginsWith arg "-u=" then some (textAfter "-u=" arg)
  else if beginsWith arg "-u" && arg != "-u" then some (textAfter "-u" arg)
  else none

/-- Reads the arguments of the client. The address is given once at most. -/
def ofArgs : List String → Invocation
  | [] => .misuse
  | arg :: rest =>
    match inlineUrl? arg with
    | some url => command url rest
    | none =>
      if arg = "-u" ∨ arg = "--url" then
        match rest with
        | url :: rest => if CommandLine.isOption url then .misuse else command url rest
        | [] => .misuse
      else command ({ command := .ping } : Call).url (arg :: rest)

/-! ### Requests -/

/-- The address of a call without the slashes at its end. -/
def Call.base (c : Call) : String :=
  String.ofList (c.url.toList.reverse.dropWhile (· == '/')).reverse

/-- The method of a command. -/
def Command.method : Command → Method
  | .task .. => .post
  | _ => .get

/-- The path of a command below the address. -/
def Command.path : Command → String
  | .ping => "/ping"
  | .health => "/healthcheck"
  | .task name _ => "/tasks/" ++ name

/-- The target of a call, below the path of its address. -/
def Call.target (c : Call) (path : String) : Target :=
  match c.command with
  | .task _ params => Url.withPairs (Url.target (path ++ c.command.path)) params
  | _ => Url.target (path ++ c.command.path)

/-! ### Outcomes -/

/-- The outcome of the client when no answer comes. -/
def unanswered : CommandLine.Outcome := { exitCode := 1, output := .text "" }

/-- Runs the client, given how the network answers a call. -/
def run (send : Call → CommandLine.Outcome) (args : List String) : CommandLine.Outcome :=
  match ofArgs args with
  | .misuse => { exitCode := CommandLine.misuseCode, output := .usage }
  | .help => { exitCode := 0, output := .usage }
  | .call c => send c

end AdminClient

end ServiceHost
