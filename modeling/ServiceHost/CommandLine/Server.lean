import ServiceHost.Log.Layout
import ServiceHost.Startup.Command

/-!
# The command line of a server

A program is called with `server` or `check` and the path of its configuration file. The
server command sets up the log and runs the application; the check command only tells whether
the configuration is in order. A failure is told on the error output with exit code 1, a
wrong call has exit code 2.
-/

namespace ServiceHost.CommandLine

/-- What a program is called for. -/
inductive Invocation where
  | server (path : String)
  | check (path : String)
  | version
  | help
  | misuse
  deriving DecidableEq, Repr

/-- Whether an argument is an option by its form: a dash with something after it. -/
def isOption (arg : String) : Bool :=
  match arg.toList with
  | '-' :: _ :: _ => true
  | _ => false

/-- Whether an argument asks for help. What follows the letter is not looked at. -/
def asksForHelp (arg : String) : Bool := arg == "--help" || beginsWith arg "-h"

/-- How the reading of arguments ends. -/
inductive Ending where
  | complete
  | help
  | misuse
  deriving DecidableEq, Repr

/-- The values that were read, and how the reading ended. -/
structure Values where
  values : List String := []
  ending : Ending
  deriving DecidableEq, Repr

/-- Reads the arguments of a command that takes at most `most` values. After two dashes
everything is a value. -/
def readValues (isPlain : Bool) : Nat → List String → Values
  | _, [] => { ending := .complete }
  | most, arg :: rest =>
    if !isPlain && arg == "--" then readValues true most rest
    else if !isPlain && asksForHelp arg then { ending := .help }
    else if !isPlain && isOption arg then { ending := .misuse }
    else match most with
      | 0 => { ending := .misuse }
      | most + 1 =>
        let later := readValues isPlain most rest
        { later with values := arg :: later.values }

/-- Whether the arguments of a call for help name one of its topics or none. -/
def isHelpTopic (topics : List String) : List String → Bool
  | [] => true
  | [topic] => topics.contains topic
  | _ => false

namespace Invocation

/-- The call of a command with one path, which is not empty. A value is looked at before what
follows it. -/
def withPath (command : String → Invocation) (args : List String) : Invocation :=
  let read := readValues false 1 args
  if read.values.contains "" then .misuse
  else match read.ending, read.values with
    | .help, _ => .help
    | .complete, [path] => command path
    | _, _ => .misuse

/-- Reads the arguments of a program. -/
def ofArgs : List String → Invocation
  | "server" :: rest => withPath .server rest
  | "check" :: rest => withPath .check rest
  | "help" :: rest => if isHelpTopic ["server", "check", "help"] rest then .help else .misuse
  | arg :: _ =>
    if arg = "--version" ∨ beginsWith arg "-V" then .version
    else if asksForHelp arg then .help
    else .misuse
  | [] => .misuse

end Invocation

/-- What a program writes: text, or log lines, or the usage of the program. -/
inductive Output where
  | text (s : String)
  | log (lines : List LogLine)
  | usage
  deriving DecidableEq

/-- The outcome of a program. -/
structure Outcome where
  exitCode : Nat
  output : Output
  errorText : String := ""

/-- The name and the version of the program. -/
def versionText : String := "server-harness 0.1.0\n"

/-- The text that tells of an error. -/
def errorLine (message : String) : String := s!"error: {message}\n"

/-- The exit code of a wrong call. -/
def misuseCode : Nat := 2

/-- The log of a server command: nothing unless its set-up succeeded. -/
def logLines (override : Option String) (c : Configuration) (events : List Event) :
    List LogLine :=
  match LogFilter.choose override c.logging.level with
  | .ok f => (f.visible events).flatMap (Record.lines c.logging.format)
  | .error _ => []

/-- Runs an application as a program on a host. The override is the filter that the
surroundings ask for. A server that never ends has no outcome. -/
def run {σ : Type} (application : Application σ) (interrupt : Interrupt) (host : Host)
    (override : Option String) (args : List String) : Option Outcome :=
  match Invocation.ofArgs args with
  | .misuse => some { exitCode := misuseCode, output := .usage }
  | .help => some { exitCode := 0, output := .usage }
  | .version => some { exitCode := 0, output := .text versionText }
  | .check path =>
    let b : Bootstrap σ := { application, configuration := Configuration.load host.files path }
    match b.check.1 with
    | .ok () => some { exitCode := 0, output := .text "Configuration is OK\n" }
    | .error e => some { exitCode := 1, output := .text "", errorText := errorLine e.message }
  | .server path =>
    let configuration := Configuration.load host.files path
    let b : Bootstrap σ := {
      application, configuration
      installLog := some fun c => (LogFilter.choose override c.level).map fun _ => () }
    let ran := b.server fun s => s.runUntil interrupt host
    let lines := match configuration with
      | .ok c => logLines override c ran.events
      | .error _ => []
    ran.result.map fun
      | .ok () => { exitCode := 0, output := .log lines }
      | .error e => { exitCode := 1, output := .log lines, errorText := errorLine e.message }

end ServiceHost.CommandLine
