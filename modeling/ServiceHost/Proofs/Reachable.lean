import Mathlib.Data.List.TakeWhile
import ServiceHost.Proofs.Surfaces

/-!
# Endpoints within reach

The log of endpoints names the resources that a service has on its application surface. A client
reaches one by a request whose target is in the usual form, a path with an optional query. The path
of such a request begins with a slash and has characters of a path only, while the path of an
endpoint is the context path with any text behind it that is not empty.

* `Target.IsOriginPath` says which texts are paths of such requests, and
  `Target.isOriginPath_of_parse?` that there are no others.
* `Router.isOriginPath_of_resolve`: a pattern that such a request meets is the path of such a
  request itself, since it is that of the request or a beginning of it.
* `Environment.start_reaches_iff` says of every endpoint that is logged whether it is within reach.
-/

namespace ServiceHost

/-! ### Paths of targets -/

namespace Target

/-- Whether a text is the path of a target in the usual form. -/
structure IsOriginPath (path : String) : Prop where
  begins : beginsWith path "/" = true
  chars : path.toList.all isPathChar = true
  size : path.utf8ByteSize ≤ maxBytes

/-- A character of a path does not end one. -/
theorem not_endsPath_of_isPathChar {c : Char} (h : isPathChar c = true) : endsPath c = false := by
  cases hends : endsPath c with
  | false => rfl
  | true =>
    rw [endsPath, Bool.or_eq_true, beq_iff_eq, beq_iff_eq] at hends
    rcases hends with rfl | rfl
    · exact absurd h (by decide)
    · exact absurd h (by decide)

/-- Such a path is a target by itself. -/
theorem IsOriginPath.parse? {path : String} (h : IsOriginPath path) :
    Target.parse? path = some { path } := by
  -- nothing in it ends the path, so all of it is the path
  have hall : ∀ c ∈ path.toList, (!endsPath c) = true := by
    intro c hc
    rw [not_endsPath_of_isPathChar (List.all_eq_true.mp h.chars c hc)]
    rfl
  have horigin : ofOrigin? path.toList = some { path } := by
    simp only [ofOrigin?, List.takeWhile_eq_self_iff.mpr hall, List.dropWhile_eq_nil_iff.mpr hall,
      h.chars, Bool.not_true, Bool.false_eq_true, ↓reduceIte, String.ofList_toList]
  obtain ⟨rest, hrest⟩ := beginsWith_iff.mp h.begins
  have hpath : path.toList = '/' :: rest := hrest.symm
  unfold Target.parse?
  rw [if_neg (Nat.not_lt.mpr h.size), hpath]
  rw [hpath] at horigin
  exact horigin

/-- A beginning takes no more bytes than its text. -/
theorem utf8ByteSize_le_of_beginsWith {s start : String} (h : beginsWith s start = true) :
    start.utf8ByteSize ≤ s.utf8ByteSize := by
  obtain ⟨rest, hrest⟩ := beginsWith_iff.mp h
  have hs : s = start ++ String.ofList rest := by
    rw [← String.toList_inj, String.toList_append, String.toList_ofList, hrest]
  rw [hs, String.utf8ByteSize_append]
  exact Nat.le_add_right _ _

/-- What is read of a path and a query is the text up to the end of the path. -/
theorem path_of_ofOrigin? {cs : List Char} {target : Target} (h : ofOrigin? cs = some target) :
    target.path = String.ofList (cs.takeWhile (!endsPath ·)) ∧
      (cs.takeWhile (!endsPath ·)).all isPathChar = true := by
  simp only [ofOrigin?] at h
  -- a character that is none of a path makes the text no target
  split at h
  · cases h
  · next hall =>
    rw [Bool.not_eq_true', Bool.not_eq_false] at hall
    refine ⟨?_, hall⟩
    split at h
    · split at h
      · rw [← Option.some.inj h]
      · cases h
    · rw [← Option.some.inj h]

/-- The path of a target that is read from a text which begins with a slash. -/
theorem isOriginPath_of_parse? {text : String} {target : Target}
    (hbegins : beginsWith text "/" = true) (h : parse? text = some target) :
    IsOriginPath target.path := by
  obtain ⟨rest, hrest⟩ := beginsWith_iff.mp hbegins
  have htext : text.toList = '/' :: rest := hrest.symm
  unfold Target.parse? at h
  split at h
  · cases h
  · next hsize =>
    rw [htext] at h
    obtain ⟨hpath, hchars⟩ := path_of_ofOrigin? (h : ofOrigin? ('/' :: rest) = some target)
    have hlist : target.path.toList = ('/' :: rest).takeWhile (!endsPath ·) := by
      rw [hpath, String.toList_ofList]
    refine ⟨?_, ?_, ?_⟩
    · rw [beginsWith_iff, hlist, List.takeWhile_cons_of_pos (by decide)]
      exact List.prefix_append ['/'] _
    · rw [hlist]
      exact hchars
    · -- the path is a beginning of the text, and so no longer
      have hstart : beginsWith text target.path = true := by
        rw [beginsWith_iff, hlist, htext]
        exact List.takeWhile_prefix _
      exact (utf8ByteSize_le_of_beginsWith hstart).trans (Nat.not_lt.mp hsize)

/-- A beginning of such a path is one, unless it is empty. -/
theorem IsOriginPath.of_beginsWith {path start : String} (h : IsOriginPath path)
    (hstart : beginsWith path start = true) (hne : start ≠ "") : IsOriginPath start := by
  have hlist := beginsWith_iff.mp hstart
  refine ⟨?_, ?_, (utf8ByteSize_le_of_beginsWith hstart).trans h.size⟩
  · -- both are beginnings of one path, and the slash is the shorter one
    have hslash := beginsWith_iff.mp h.begins
    have hlength : 1 ≤ start.toList.length := by
      refine List.length_pos_iff.mpr fun hnil => hne ?_
      exact String.toList_inj.mp hnil
    exact beginsWith_iff.mpr (List.prefix_of_prefix_length_le hslash hlist hlength)
  · rw [List.all_eq_true]
    exact fun c hc => List.all_eq_true.mp h.chars c (hlist.subset hc)

end Target

/-! ### What a request meets -/

namespace Router

variable {H σ : Type}

/-- **Patterns within reach.** A pattern that is met by a request in the usual form is the path of
such a request itself, unless it is empty. -/
theorem isOriginPath_of_resolve {r : Router H} {text : String} {target : Target}
    (hbegins : beginsWith text "/" = true) (hparse : Target.parse? text = some target)
    {method : Method} {pattern : String} {handler : H}
    (h : r.resolve method target = .handler pattern handler) (hne : pattern ≠ "") :
    Target.IsOriginPath pattern := by
  have hpath := Target.isOriginPath_of_parse? hbegins hparse
  exact hpath.of_beginsWith (beginsWith_of_resolve h) hne

/-- A router that serves nothing on the empty pattern. -/
def RefusesEmpty (r : Router H) : Prop := ∀ method, (r.table.verbsAt "").find? method = none

/-- Routes that are accepted leave it so. -/
theorem RefusesEmpty.handle {r after : Router H} (hr : r.RefusesEmpty) {method : Method}
    {pattern : String} {handler : H} (h : r.handle method pattern handler = .ok after) :
    after.RefusesEmpty := by
  have hpattern : pattern ≠ "" := by
    rintro rfl
    unfold Router.handle at h
    rw [if_pos rfl] at h
    cases h
  obtain ⟨-, rfl⟩ := eq_insert_of_handle h
  intro m
  -- the full pattern of the new route is not empty, since its last part is not
  have hfull : ¬ ("" = r.contextPath ++ pattern ∧ m = method) :=
    fun hsame => hpattern (String.append_eq_empty_iff.mp hsame.1.symm).2
  rw [RouteTable.find?_verbsAt_insert, if_neg hfull]
  exact hr m

end Router

/-! ### The application router of a service -/

namespace Wiring

variable {σ : Type}

/-- A component that is wired adds a route to the application router, or leaves the router alone. -/
theorem application_wire (c : Component σ) (w : Wiring σ) :
    (c.wire w).2.application = w.application ∨
      ∃ method pattern handler,
        w.application.handle method pattern handler = .ok (c.wire w).2.application := by
  -- the handlers of the other roles do not touch the router
  unfold Component.wire
  split
  · unfold resourceHandler
    cases c.resource with
    | none => exact Or.inl rfl
    | some r =>
      unfold handle
      cases hhandle : w.application.handle r.method r.path r.handler with
      | error e => exact Or.inl (by simp [hhandle])
      | ok router => exact Or.inr ⟨r.method, r.path, r.handler, by simp [hhandle]⟩
  · unfold managedHandler
    cases c.managed <;> exact Or.inl rfl
  · unfold taskHandler
    cases c.task <;> exact Or.inl rfl
  · unfold healthHandler
    cases c.health <;> exact Or.inl rfl
  · exact Or.inl rfl

/-- A walk of components leaves it so, also one that ends early. -/
theorem refusesEmpty_walk {handlers : List (ResourceHandler (Wiring σ) (Component σ))}
    (h : ∀ c w, Dispatcher.ask c handlers w = c.wire w) (components : List (Component σ))
    {w : Wiring σ} (hw : w.application.RefusesEmpty) :
    (Dispatcher.walk Component.typeName handlers components w).2.application.RefusesEmpty := by
  -- by the component that is wired next
  induction components generalizing w with
  | nil => exact hw
  | cons c rest ih =>
    have hone : (c.wire w).2.application.RefusesEmpty := by
      rcases application_wire c w with hsame | ⟨method, pattern, handler, hhandle⟩
      · rw [hsame]
        exact hw
      · exact hw.handle hhandle
    unfold Dispatcher.walk
    rw [h]
    rcases hwire : c.wire w with ⟨claim, mid⟩
    rw [hwire] at hone
    -- the walk ends at an error and goes on otherwise
    cases hclaimed : claim.outcome with
    | error e =>
      simp only [hclaimed]
      exact hone
    | ok claimed =>
      simp only [hclaimed]
      exact ih hone

end Wiring

namespace Environment

variable {σ : Type}

theorem refusesEmpty_next (e : Environment σ) (s : Setup σ)
    (h : e.wiring.application.RefusesEmpty) : (e.next s).wiring.application.RefusesEmpty := by
  cases s with
  | handle surface method pattern handler =>
    rcases e.wiring_next_handle surface method pattern handler with hsame | hr
    · rwa [hsame]
    · rcases Wiring.handle_cases hr with ⟨router, hrouter, hafter⟩ | ⟨router, -, hafter⟩
      · rw [hafter]
        exact h.handle hrouter
      · rwa [hafter]
  | _ => exact h

theorem refusesEmpty_setUp (name : String) (config : ServerConfig) (logger : Logger)
    (steps : List (Setup σ)) :
    ((ofConfig name config logger).setUp steps).wiring.application.RefusesEmpty :=
  setUp_invariant refusesEmpty_next (fun _ => rfl) steps

theorem refusesEmpty_finalize {e : Environment σ}
    (hask : ∀ c w, Dispatcher.ask c e.dispatcher.handlers.reverse w = c.wire w)
    (h : e.wiring.application.RefusesEmpty) :
    e.finalize.2.wiring.application.RefusesEmpty := by
  unfold finalize Dispatcher.finalize
  cases e.dispatcher.finalized with
  | true => exact h
  | false => exact Wiring.refusesEmpty_walk hask _ h

/-- Whether a request in the usual form reaches the handler of an endpoint. -/
def Reaches (router : Router (Handler σ)) (endpoint : Endpoint) (handler : Handler σ) : Prop :=
  ∃ text target, beginsWith text "/" = true ∧ Target.parse? text = some target ∧
    router.resolve endpoint.method target = .handler endpoint.path handler

/-- The component of a resource stands behind an endpoint, and a request reaches it there exactly
when the path of the endpoint is one of a request. -/
def ReachedByPath (router : Router (Handler σ)) (contextPath : String) (c : Component σ)
    (endpoint : Endpoint) : Prop :=
  ∃ r, c.resource = some r ∧ endpoint = ⟨r.method, contextPath ++ r.path, c.typeName⟩ ∧
    (Reaches router endpoint r.handler ↔ Target.IsOriginPath endpoint.path)

/-- **Endpoints within reach.** Set an environment up in any steps of which one or more build a
server, and start it. If the start succeeds, its log tells the resources in the order of their
registration, and of these a request in the usual form reaches the ones whose path is that of such
a request. A start does not ask for it: the others are logged as well. -/
theorem start_reaches_iff (name : String) (config : ServerConfig) (logger : Logger)
    (steps : List (Setup σ)) (built : 0 < servers steps) {endpoints : EndpointLog}
    (hstart : ((ofConfig name config logger).setUp steps).start.result = .ok endpoints) :
    List.Forall₂
      (ReachedByPath ((ofConfig name config logger).setUp steps).start.environment.wiring.application
        (dropFinalSlash config.applicationContextPath))
      ((registered steps).filter (·.resource.isSome)) endpoints := by
  have hpath : ((ofConfig name config logger).setUp steps).wiring.application.contextPath =
      dropFinalSlash config.applicationContextPath :=
    ((ofConfig name config logger).adds_setUp steps).contextPath_eq .application
  have hwired := startsWired_setUp name config logger built hstart
  have hrefuses := refusesEmpty_finalize (ask_setUp name config logger built)
    (refusesEmpty_setUp name config logger steps)
  generalize (ofConfig name config logger).setUp steps = e at *
  -- each resource that is wired has its handler in the table and its endpoint in the log
  have hadded := hwired.wired.gains.application.added
  have hendpoints := hwired.wired.endpoints_eq
  rw [hpath] at hadded hendpoints
  rw [← hwired.application_eq] at hadded hrefuses
  have hresource : ∀ c : Component σ, c.resource.isSome =
      (c.asEndpoint? (dropFinalSlash config.applicationContextPath)).isSome := by
    intro c
    rw [Component.asEndpoint?, Option.isSome_map, Component.asRoute?_eq, Option.isSome_map]
  rw [hendpoints]
  simp only [hresource]
  refine forall₂_filterMap fun c hc endpoint hendpoint => ?_
  obtain ⟨route, hroute, rfl⟩ := Option.map_eq_some_iff.mp hendpoint
  have hhandler := hadded route (List.mem_filterMap.mpr ⟨c, hc, hroute⟩)
  rw [Component.asRoute?_eq] at hroute
  obtain ⟨r, hr, rfl⟩ := Option.map_eq_some_iff.mp hroute
  refine ⟨r, hr, rfl, ?_⟩
  constructor
  · rintro ⟨text, target, hbegins, hparse, hresolve⟩
    refine Router.isOriginPath_of_resolve hbegins hparse hresolve ?_
    intro hempty
    -- nothing is served on the empty pattern
    have hnone := hrefuses r.method
    rw [← hempty] at hnone
    exact absurd (hnone.symm.trans hhandler) (by simp)
  · intro horigin
    -- such a path is a target itself, and meets the handler of its own pattern
    exact ⟨_, _, horigin.begins, horigin.parse?, Router.resolve_of_find? hhandler none⟩

/-- A resource whose path has no slash in front. -/
def greeting : Component Nat where
  typeName := "Greeting"
  resource := some { method := .get, path := "hello", handler := fun _ s => (.text 200 "hi", s) }

/-- One resource within reach and one without. -/
def greetingSteps : List (Setup Nat) := [.register [versatile, greeting], .build {}]

theorem starts_greeting :
    ((ofConfig "service" {} ⟨"root"⟩).setUp greetingSteps).start.result =
      .ok [⟨.get, "/x", "Versatile"⟩, ⟨.get, "hello", "Greeting"⟩] := by
  have hok : (((ofConfig "service" {} ⟨"root"⟩).setUp
      greetingSteps).start.result.toOption).isSome = true := rfl
  cases hstart : ((ofConfig "service" {} ⟨"root"⟩).setUp greetingSteps).start.result with
  | error err =>
    rw [hstart] at hok
    cases hok
  | ok endpoints =>
    -- the endpoints are those of the two resources
    have hwired := startsWired_setUp "service" {} ⟨"root"⟩ (by decide) hstart
    rw [hwired.wired.endpoints_eq]
    rfl

theorem start_reaches_iff_greeting :
    let e := (ofConfig "service" {} ⟨"root"⟩).setUp greetingSteps
    0 < servers greetingSteps ∧
      e.start.result = .ok [⟨.get, "/x", "Versatile"⟩, ⟨.get, "hello", "Greeting"⟩] ∧
      List.Forall₂ (ReachedByPath e.start.environment.wiring.application "")
        [versatile, greeting] [⟨.get, "/x", "Versatile"⟩, ⟨.get, "hello", "Greeting"⟩] ∧
      Target.IsOriginPath "/x" := by
  have hbuilt : 0 < servers greetingSteps := by decide
  have hreaches := start_reaches_iff "service" {} ⟨"root"⟩ greetingSteps hbuilt starts_greeting
  exact ⟨hbuilt, starts_greeting, hreaches, by decide, by decide, by decide⟩

/-- The configuration is accepted and the start succeeds, and its log has an endpoint that no
request in the usual form reaches. -/
theorem not_reached_greeting :
    let e := (ofConfig "service" {} ⟨"root"⟩).setUp greetingSteps
    ({} : Configuration).validate = .ok () ∧
      e.start.result = .ok [⟨.get, "/x", "Versatile"⟩, ⟨.get, "hello", "Greeting"⟩] ∧
      ¬ ∃ handler, Reaches e.start.environment.wiring.application ⟨.get, "hello", "Greeting"⟩
        handler := by
  refine ⟨by decide, starts_greeting, ?_⟩
  -- the pattern would have to begin with a slash
  rintro ⟨handler, text, target, hbegins, hparse, hresolve⟩
  have horigin := Router.isOriginPath_of_resolve hbegins hparse hresolve (by decide)
  exact absurd horigin.begins (by decide)

end Environment

end ServiceHost
