import ServiceHost.Http.Form
import ServiceHost.Http.Router
import ServiceHost.Log.Record

/-!
# Tasks

A task is an action that operators run by name. Its parameters come from the query of the
request and, for a form request, from the body after it. A form body has a largest size, and
a request whose body is longer runs nothing.
-/

namespace ServiceHost

/-- How a task ends. -/
inductive TaskOutcome where
  | output (text : String)
  | failed (cause : String)
  | panicked (text : String)
  deriving DecidableEq, Repr

/-- A task over the state `σ` of a service. -/
structure Task (σ : Type) where
  name : String
  execute : Params → σ → TaskOutcome × σ

/-- Tasks by name. -/
abbrev TaskRegistry (σ : Type) := KeyMap String (Task σ)

namespace TaskRegistry

variable {σ : Type}

/-- Adds a task, in place of the one of its name. -/
def register (r : TaskRegistry σ) (task : Task σ) : TaskRegistry σ := r.insert task.name task

end TaskRegistry

/-- The largest number of bytes in a form body. -/
def maxFormBytes : Nat := 65536

/-- Whether the body of a request is a form: the first content type is plain ASCII and starts
with the name of the form type. -/
def Request.isForm (r : Request) : Bool :=
  match r.header? "content-type" with
  | some value =>
    value.toList.all (fun c => c == '\t' || (0x20 ≤ c.toNat && c.toNat < 0x7F))
      && beginsWith value "application/x-www-form-urlencoded"
  | none => false

/-- The parameters of a request: those of the query, then those of a form body. None where
the form body is too long. -/
def Request.params? (r : Request) : Option Params :=
  let query := match r.target.query with
    | some q => Params.addForm .empty (Text.Utf8.encode q)
    | none => .empty
  if r.isForm then
    if r.body.length ≤ maxFormBytes then some (query.addForm r.body) else none
  else some query

/-- The answer to a request that ran a task. A breakdown is told with its text quoted; the
number of the run is left open. -/
def TaskOutcome.response : TaskOutcome → Response
  | .output text => .text 200 text
  | .failed cause => .text 500 (cause ++ "\n")
  | .panicked text => .text 500 s!"task <id> panicked with message {Text.quoted text}\n"

/-- The records of the end of a task. -/
def TaskOutcome.records (logger : Option String) (name : String) : TaskOutcome → List Record
  | .failed cause =>
    [⟨.error, logger, "Task failed", [("task", .text name), ("error", .text cause)],
      .adminHandlers⟩]
  | _ => []

/-- What a request to run a task does: its answer, its records and the state after it. -/
structure TaskRun (σ : Type) where
  response : Response
  records : List Record := []
  state : σ

namespace TaskRegistry

variable {σ : Type}

/-- Runs the task of a name for a request. -/
def run (r : TaskRegistry σ) (logger : Option String) (name : String) (request : Request)
    (s : σ) : TaskRun σ :=
  match r.find? name with
  | none => { response := .text 404 s!"no such task: {Text.quoted name}\n", state := s }
  | some task =>
    match request.params? with
    | none => { response := .text 400 "length limit exceeded\n", state := s }
    | some params =>
      let (outcome, after) := task.execute params s
      { response := outcome.response
        records := ⟨.info, logger, "Running task", [("task", .text name)], .adminHandlers⟩
          :: outcome.records logger name
        state := after }

end TaskRegistry

end ServiceHost
