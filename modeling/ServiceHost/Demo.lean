import ServiceHost.Startup.Command

/-!
# The demo application

It greets whoever asks, counts its greetings, reports itself unhealthy once a limit is
reached, and sets the count back on demand. Its state is the number of greetings served.
-/

namespace ServiceHost.Demo

open Toml (Value)

/-- The settings of the demo. -/
structure Settings where
  greeting : String := "Hello"
  maxGreetings : Nat := 1000000
  deriving DecidableEq, Repr

/-- A text among settings. A date-time stands for its text. -/
def text? : Value → Option String
  | .string s => some s
  | .dateTime t => some t.render
  | _ => none

/-- A count among settings. -/
def count? : Value → Option Nat
  | .integer n => if 0 ≤ n then some n.toNat else none
  | _ => none

/-- Reads the settings of the demo. -/
def Settings.ofConfiguration (c : Configuration) : Except DecodeError Settings := do
  let read {α : Type} (key expected : String) (read? : Value → Option α) (default : α) :=
    Decode.field (fun v => (read? v).elim (.error (.wrongSetting key expected)) .ok) default
      (c.application.get? key)
  return {
    greeting := ← read "greeting" "a string" text? "Hello"
    maxGreetings := ← read "max_greetings" "a count" count? 1000000 }

/-- The name in the query of a request, that of a stranger if there is none. -/
def nameOf (request : Request) : String :=
  let pairs := match request.target.query with
    | some query => Form.pairs (Text.Utf8.encode query)
    | none => []
  (pairs.lookup "name").getD "stranger"

/-- The route that greets. -/
def route (greeting : String) : Component Nat where
  typeName := "server_harness::environment::resource::Route"
  resource := some {
    method := .get
    path := "/hello"
    handler := fun request served =>
      (.text 200 s!"{greeting}, {nameOf request}!\n", served + 1) }

/-- The health check of the count. -/
def counter (limit : Nat) : Component Nat where
  typeName := "server_harness::Counter"
  health := some {
    name := "greetings"
    check := fun served => .result <|
      if served < limit then ⟨true, some s!"{served} served"⟩
      else ⟨false, some s!"{served} served, limit is {limit}"⟩ }

/-- The task that sets the count back. -/
def reset : Component Nat where
  typeName := "server_harness::ResetCounter"
  task := some {
    name := "reset"
    execute := fun _ served => (.output s!"reset after {served} greetings\n", 0) }

/-- The demo. -/
def application : Application Nat where
  name := "hello"
  run := fun c e =>
    match Settings.ofConfiguration c with
    | .error err => { result := .error (.config (.parse (.content err))), environment := e }
    | .ok settings =>
      let (e, events) := e.register [route settings.greeting, counter settings.maxGreetings, reset]
      { result := .ok (), environment := e, events }

/-! ### Sessions -/

/-- A request to a surface. -/
structure Call where
  surface : Surface
  request : Request
  /-- How often it is sent. -/
  times : Nat := 1

/-- Sends a request as often as it says. Gives the last response and the count after it. -/
def Call.send (w : Wiring Nat) (c : Call) : Nat → Nat → Response × Nat
  | 0, served =>
    let run := w.serve c.surface none c.request served
    (run.response, run.state)
  | n + 1, served => c.send w n (w.serve c.surface none c.request served).state

/-- The environment of the demo for a configuration, started, and its endpoints. -/
def started (c : Configuration) : Except Error (EndpointLog × Environment Nat) := do
  let e : Environment Nat := .ofConfig application.name c.server ⟨"server"⟩
  let ran := application.run c (c.server.buildServer e).2
  ran.result
  let started := ran.environment.start
  return (← started.result.mapError Error.ofStart, started.environment)

/-- Sends requests in order, from a count. -/
def responses (w : Wiring Nat) : List Call → Nat → List Response
  | [], _ => []
  | c :: rest, served =>
    let (response, served) := c.send w (c.times - 1) served
    response :: responses w rest served

end ServiceHost.Demo
