import ServiceHost.Startup.Command

/-!
# Scripted components

Components, handlers and applications whose behaviour is given by data. They leave notes of
what is done to them, fail where they are told to, and echo what they are given, so that a
whole service can be put together and watched without code of its own.
-/

namespace ServiceHost.Scripted

/-! ### Shapes -/

/-- A handler that answers with a fixed body, or with what it was asked. -/
structure Reply where
  body : String := ""
  status : Nat := 200
  echo : Bool := false

/-- The body that tells what a request asks for. -/
def echoBody (body : String) (r : Request) : String :=
  let query := match r.target.query with
    | none => "none"
    | some q => s!"some({q})"
  "|".intercalate [body, r.method.text, r.target.path, query, Text.Utf8.repair r.body]

/-- The handler of a reply. -/
def Reply.handler {σ : Type} (r : Reply) : Handler σ := fun request s =>
  (.text r.status (if r.echo then echoBody r.body request else r.body), s)

/-- A health check with a fixed outcome. -/
def healthCheck {σ : Type} (name : String) (outcome : HealthOutcome) : HealthCheck σ where
  name := name
  check := fun _ => outcome

/-- A task with a fixed outcome, or one that lists its parameters. -/
def task {σ : Type} (name : String) (outcome : Option TaskOutcome) : Task σ where
  name := name
  execute := fun params s => (outcome.getD (.output params.lines), s)

mutual

/-- A managed object: how many of its first starts fail (all of them if the number is
negative), the text of a failing stop, and what a start does. -/
inductive Object where
  | mk (name : String) (failures : Int) (failStop : Option String) (actions : Actions)

/-- What a start does to the lifecycle, in order. -/
inductive Actions where
  | none
  | stopAll (next : Actions)
  | manage (object : Object) (next : Actions)

end

instance : Inhabited Object := ⟨.mk "" 0 none .none⟩

instance : Inhabited Actions := ⟨.none⟩

namespace Object

/-- The name of an object. -/
def name : Object → String
  | mk name .. => name

/-- The same object without actions. -/
def quiet : Object → Object
  | mk name failures failStop _ => mk name failures failStop .none

/-- A stop of an object. -/
def stop : Object → Nat → StopOutcome
  | mk name _ failStop _, _ =>
    { notes := ["stop " ++ name]
      result := match failStop with
        | some text => .error text
        | none => .ok () }

mutual

/-- A start of an object. -/
def start : Object → Nat → Hook
  | mk name failures _ actions, calls =>
    if failures < 0 ∨ (calls : Int) < failures then
      .note ("fail " ++ name) (.done (.error (name ++ " cannot start")))
    else .note ("start " ++ name) (perform actions)

/-- The actions of a start. -/
def perform : Actions → Hook
  | .none => .done (.ok ())
  | .stopAll next => .stopAll (perform next)
  | .manage object next => .manage object.name (start object) object.stop (perform next)

end

/-- The managed object of a script. -/
def managed (o : Object) : Managed := ⟨o.start, o.stop⟩

end Object

/-! ### Handlers -/

/-- A handler of components: the marks that it knows (any if there are none given), the
endpoint that it logs and its answer. -/
structure Claimer where
  label : String
  marks : Option (List String) := none
  endpoint : Option (Method × String) := none
  outcome : Except RouteError Bool := .ok true

/-- The handler of a script. -/
def Claimer.handler {W σ : Type} (h : Claimer) : ResourceHandler W (Component σ) := fun c w =>
  if h.marks.any fun marks => !marks.contains c.mark then (.decline, w)
  else
    ({ outcome := h.outcome
       endpoints := (h.endpoint.map fun (m, path) => ⟨m, path, c.typeName⟩).toList
       events := [.note s!"{h.label}:{c.mark}"] }, w)

/-! ### Applications -/

/-- What a set-up registers, and how it ends. -/
structure Steps (σ : Type) where
  name : String
  components : List (Component σ) := []
  handlers : List Claimer := []
  health : List (HealthCheck σ) := []
  tasks : List (Task σ) := []
  error : Option String := none

namespace Steps

variable {σ : Type}

/-- The note of an initialization. -/
def initialized (s : Steps σ) : List Event := [.note ("initialize " ++ s.name)]

/-- Registers everything in order and ends as it is told. -/
def run {E : Type} (s : Steps σ) (failure : String → E) (notes : List Event)
    (e : Environment σ) : SetUpRun σ E :=
  let (e, events) := s.components.foldl (fun (e, events) c =>
    let (e, more) := e.register [c]
    (e, events ++ more)) (e, [])
  let e := e.addHandlers (s.handlers.map Claimer.handler)
  let e := s.health.foldl Environment.addHealthCheck e
  { result := match s.error with
      | some text => .error (failure text)
      | none => .ok ()
    environment := s.tasks.foldl Environment.addTask e
    events := notes ++ .note ("run " ++ s.name) :: events }

/-- The bundle of a script, with the bundles that it adds. -/
def bundle (s : Steps σ) (added : List (Bundle σ)) : Bundle σ :=
  .tree { name := s.name, onInitialize := s.initialized, run := fun _ e => s.run id [] e } added

/-- The application of a script, with the bundles that it adds. It may read its settings as
texts first. -/
def application (s : Steps σ) (bundles : List (Bundle σ)) (readsSettings : Bool) :
    Application σ where
  name := s.name
  onInitialize := s.initialized
  bundles := bundles
  run := fun c e =>
    match if readsSettings then c.applicationTexts else .ok [] with
    | .error err => { result := .error (.config err), environment := e }
    | .ok settings =>
      let sorted : KeyMap String String := .ofList settings
      s.run Error.application
        (sorted.entries.map fun (key, value) => .note s!"setting {key}={value}") e

end Steps

end ServiceHost.Scripted
