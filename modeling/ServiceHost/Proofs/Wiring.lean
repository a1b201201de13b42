import ServiceHost.Proofs.Registration
import ServiceHost.Proofs.RouteTable

/-!
# Where components are wired

The handlers of an environment and the handlers of resources that its servers add make up one
chain, and it is asked from the newest handler to the oldest. A component may have several shapes,
so the order of the chain decides where it is wired: a resource before a managed object, that
before a task, and that before a health check.

* `Component.role?` is the one shape that counts, and `Environment.ask_chain` says that the chain
  wires a component by it alone, however many servers have added a handler.
* `Router.Gains` and `KeyMap.Overwrites` say what a router and a registry gain: a router each route
  once, a registry the last of the values of a name.
* `Wiring.Wired` says what a walk that passes all components has wired, logged and reported, and
  `Wiring.wired_walk` that every such walk has.
-/

namespace ServiceHost

/-! ### What a router gains -/

/-- A router with more routes. They are below its context path, each has its handler, and all that
was there is as it was. -/
structure Router.Gains {H : Type} (before after : Router H) (routes : List (Route H)) : Prop where
  contextPath_eq : after.contextPath = before.contextPath
  routes_perm : after.routes.Perm
    (before.routes ++ routes.map fun r => (r.method, before.contextPath ++ r.pattern))
  added : ∀ r ∈ routes,
    (after.table.verbsAt (before.contextPath ++ r.pattern)).find? r.method = some r.handler
  kept : ∀ method pattern handler, (before.table.verbsAt pattern).find? method = some handler →
    (after.table.verbsAt pattern).find? method = some handler
  /-- There are no other handlers. -/
  only : ∀ method pattern handler, (after.table.verbsAt pattern).find? method = some handler →
    (before.table.verbsAt pattern).find? method = some handler ∨
      ∃ r ∈ routes, r.method = method ∧ before.contextPath ++ r.pattern = pattern ∧
        r.handler = handler

namespace Router

variable {H : Type}

theorem Gains.refl (r : Router H) : r.Gains r [] where
  contextPath_eq := rfl
  routes_perm := by rw [List.map_nil, List.append_nil]
  added _ hr := absurd hr List.not_mem_nil
  kept _ _ _ h := h
  only _ _ _ h := Or.inl h

theorem Gains.append {r mid after : Router H} {xs ys : List (Route H)} (h : r.Gains mid xs)
    (h' : mid.Gains after ys) : r.Gains after (xs ++ ys) where
  contextPath_eq := h'.contextPath_eq.trans h.contextPath_eq
  routes_perm := by
    have hperm := h'.routes_perm.trans (h.routes_perm.append_right _)
    rwa [h.contextPath_eq, List.append_assoc, ← List.map_append] at hperm
  added := by
    intro route hroute
    rcases List.mem_append.mp hroute with hroute | hroute
    · -- a route of the first part is kept by the second
      exact h'.kept _ _ _ (h.added route hroute)
    · have hadded := h'.added route hroute
      rwa [h.contextPath_eq] at hadded
  kept := fun method pattern handler hh => h'.kept _ _ _ (h.kept method pattern handler hh)
  only := by
    intro method pattern handler hh
    rcases h'.only method pattern handler hh with hmid | ⟨route, hroute, hm, hp, hhandler⟩
    · rcases h.only method pattern handler hmid with hbefore | ⟨route, hroute, hm, hp, hhandler⟩
      · exact Or.inl hbefore
      · exact Or.inr ⟨route, List.mem_append_left _ hroute, hm, hp, hhandler⟩
    · rw [h.contextPath_eq] at hp
      exact Or.inr ⟨route, List.mem_append_right _ hroute, hm, hp, hhandler⟩

/-- A route that is accepted enters the table, which had no handler for it. -/
theorem eq_insert_of_handle {r after : Router H} {method : Method} {pattern : String} {handler : H}
    (h : r.handle method pattern handler = .ok after) :
    (r.table.verbsAt (r.contextPath ++ pattern)).find? method = none ∧
      after = { r with table := r.table.insert method (r.contextPath ++ pattern) handler } := by
  -- a registration that gives a new router is the last of its three cases
  have hregister : r.register ⟨method, pattern, handler⟩ = (after, .ok ()) := by
    unfold register
    rw [h]
  rcases r.register_cases ⟨method, pattern, handler⟩ with ⟨-, hr⟩ | ⟨-, -, hr⟩ | ⟨-, hnew, hr⟩
  · rw [hr] at hregister
    cases hregister
  · rw [hr] at hregister
    cases hregister
  · rw [hr] at hregister
    exact ⟨by simpa [RouteTable.contains, KeyMap.contains] using hnew,
      (Prod.mk.inj hregister).1.symm⟩

/-- A router with one handler more lists one pair more. -/
theorem routes_insert (r : Router H) {method : Method} {pattern : String} (handler : H)
    (hnone : (r.table.verbsAt pattern).find? method = none) :
    ({ r with table := r.table.insert method pattern handler } : Router H).routes.Perm
      (r.routes ++ [(method, pattern)]) := by
  -- a pair is listed if it has a handler, and this one has none yet
  have hfresh : (method, pattern) ∉ r.routes := by
    rw [mem_routes, hnone]
    exact Bool.false_ne_true
  have hnodup : (r.routes ++ [(method, pattern)]).Nodup :=
    List.nodup_append.mpr ⟨r.nodup_routes, List.nodup_singleton _, fun a ha b hb hab =>
      hfresh (List.mem_singleton.mp hb ▸ hab ▸ ha)⟩
  -- both lists have each pair once, so they need only have the same pairs
  refine (List.perm_ext_iff_of_nodup (nodup_routes _) hnodup).mpr fun ⟨m, p⟩ => ?_
  rw [mem_routes, List.mem_append, mem_routes, List.mem_singleton,
    RouteTable.find?_verbsAt_insert]
  by_cases hpair : p = pattern ∧ m = method
  · simp [hpair.1, hpair.2]
  · have hother : ¬ (m, p) = (method, pattern) := fun heq =>
      hpair ⟨congrArg Prod.snd heq, congrArg Prod.fst heq⟩
    simp [hpair, hother]

/-- A route that is accepted is gained. -/
theorem gains_handle {r after : Router H} {method : Method} {pattern : String} {handler : H}
    (h : r.handle method pattern handler = .ok after) :
    r.Gains after [⟨method, pattern, handler⟩] := by
  obtain ⟨hnone, rfl⟩ := eq_insert_of_handle h
  have hfind := fun m p =>
    RouteTable.find?_verbsAt_insert r.table method m (r.contextPath ++ pattern) p handler
  refine ⟨rfl, r.routes_insert handler hnone, ?_, ?_, ?_⟩
  · intro route hroute
    obtain rfl := List.mem_singleton.mp hroute
    rw [hfind, if_pos ⟨rfl, rfl⟩]
  · intro m p old hold
    rw [hfind, if_neg]
    · exact hold
    · -- what had a handler is not the new pair, which had none
      rintro ⟨rfl, rfl⟩
      rw [hnone] at hold
      cases hold
  · intro m p found hfound
    rw [hfind] at hfound
    split at hfound
    · next hpair =>
      exact Or.inr ⟨_, List.mem_singleton_self _, hpair.2.symm, hpair.1.symm,
        Option.some.inj hfound⟩
    · exact Or.inl hfound

end Router

/-! ### What a registry gains -/

/-- The last of the values of a name. -/
def lastNamed {α : Type} (name : α → String) (values : List α) (key : String) : Option α :=
  (values.filter (name · == key)).getLast?

section Names

variable {α : Type} {name : α → String}

theorem lastNamed_append (xs ys : List α) (key : String) :
    lastNamed name (xs ++ ys) key = (lastNamed name ys key).or (lastNamed name xs key) := by
  rw [lastNamed, List.filter_append, List.getLast?_append]
  rfl

theorem isSome_lastNamed {values : List α} {key : String} :
    (lastNamed name values key).isSome = true ↔ key ∈ values.map name := by
  -- there is no last value if no value has the name
  have hnone : lastNamed name values key = none ↔ key ∉ values.map name := by
    rw [lastNamed, List.getLast?_eq_none_iff, List.filter_eq_nil_iff, List.mem_map]
    simp
  rw [Option.isSome_iff_ne_none, Ne, hnone, not_not]

/-- Value number `i` is the last of a name. -/
structure IsLast (name : α → String) (values : List α) (key : String) (i : ℕ) (a : α) : Prop where
  getElem?_eq : values[i]? = some a
  name_eq : name a = key
  later : key ∉ (values.drop (i + 1)).map name

/-- A name that occurs has a last value. -/
theorem exists_last {values : List α} {key : String} (h : key ∈ values.map name) :
    ∃ i a, IsLast name values key i a := by
  induction values with
  | nil => exact absurd h List.not_mem_nil
  | cons value rest ih =>
    -- a later value of the name comes before this one
    by_cases hrest : key ∈ rest.map name
    · obtain ⟨i, a, hi⟩ := ih hrest
      exact ⟨i + 1, a, hi.getElem?_eq, hi.name_eq, hi.later⟩
    · rcases List.mem_cons.mp h with hkey | hlater
      · exact ⟨0, value, rfl, hkey.symm, hrest⟩
      · exact absurd hlater hrest

theorem lastNamed_of_last {values : List α} {key : String} {i : ℕ} {a : α}
    (h : IsLast name values key i a) : lastNamed name values key = some a := by
  obtain ⟨hi, ha⟩ := List.getElem?_eq_some_iff.mp h.getElem?_eq
  have hsplit : values = values.take i ++ [a] ++ values.drop (i + 1) := by
    rw [List.append_assoc, List.singleton_append, ← ha, ← List.drop_eq_getElem_cons hi,
      List.take_append_drop]
  -- behind the value there is none of the name, so that it is the last one itself
  have hlater : lastNamed name (values.drop (i + 1)) key = none := by
    rw [← Option.not_isSome_iff_eq_none, isSome_lastNamed]
    exact h.later
  have hself : lastNamed name [a] key = some a := by
    rw [lastNamed, List.filter_singleton, beq_iff_eq.mpr h.name_eq]
    rfl
  rw [hsplit, lastNamed_append, lastNamed_append, hlater, hself]
  rfl

/-- A registry after values were registered in order, each in place of the one of its name: a name
has the last value that was registered under it, and every other name what it had. -/
def KeyMap.Overwrites (name : α → String) (before after : KeyMap String α) (values : List α) :
    Prop :=
  ∀ key, after.find? key = (lastNamed name values key).or (before.find? key)

/-- A name is taken if a registry holds a value under it, or if one of the values that were
registered since has it. -/
def KeyMap.Taken (name : α → String) (m : KeyMap String α) (values : List α) (key : String) :
    Prop :=
  m.contains key = true ∨ key ∈ values.map name

instance (m : KeyMap String α) (values : List α) (key : String) :
    Decidable (KeyMap.Taken name m values key) :=
  inferInstanceAs (Decidable (m.contains key = true ∨ key ∈ values.map name))

namespace KeyMap.Overwrites

variable {before mid after : KeyMap String α}

theorem refl (m : KeyMap String α) : Overwrites name m m [] := fun _ => rfl

theorem append {xs ys : List α} (h : Overwrites name before mid xs)
    (h' : Overwrites name mid after ys) : Overwrites name before after (xs ++ ys) := by
  intro key
  rw [h' key, h key, lastNamed_append, Option.or_assoc]

theorem insert (m : KeyMap String α) (value : α) :
    Overwrites name m (m.insert (name value) value) [value] := by
  intro key
  rw [KeyMap.find?_insert, lastNamed]
  by_cases h : key = name value
  · simp [h]
  · have hother : (name value == key) = false := beq_eq_false_iff_ne.mpr (Ne.symm h)
    rw [if_neg h, List.filter_cons, hother]
    rfl

variable (name) in
/-- Values that are inserted in order overwrite each other. -/
theorem foldl (m : KeyMap String α) (values : List α) :
    Overwrites name m (values.foldl (fun m value => m.insert (name value) value) m) values := by
  induction values generalizing m with
  | nil => exact .refl m
  | cons value rest ih => exact (insert m value).append (ih _)

/-- A name that is taken after the new values was taken before them, or is one of theirs. -/
theorem taken_iff {xs : List α} (h : Overwrites name before after xs) (ys : List α)
    (key : String) : Taken name after ys key ↔ Taken name before (xs ++ ys) key := by
  -- the registry holds what it held, and what was registered under a name since
  have hcontains : after.contains key = true ↔ before.contains key = true ∨ key ∈ xs.map name := by
    rw [KeyMap.contains, h key, Option.isSome_or, Bool.or_eq_true, isSome_lastNamed, or_comm]
    rfl
  rw [Taken, Taken, hcontains, List.map_append, List.mem_append, or_assoc]

end KeyMap.Overwrites

end Names

variable {σ : Type}

/-! ### Roles -/

/-- What a component is wired as. -/
inductive Role (σ : Type) where
  | resource (r : Resource σ)
  | managed (object : Managed)
  | task (t : Task σ)
  | health (check : HealthCheck σ)

namespace Role

/-- The route of a resource. -/
def route? : Role σ → Option (Route (Handler σ))
  | .resource r => some ⟨r.method, r.path, r.handler⟩
  | _ => none

/-- The object of a managed object. -/
def object? : Role σ → Option Managed
  | .managed object => some object
  | _ => none

/-- The task of a task. -/
def task? : Role σ → Option (Task σ)
  | .task t => some t
  | _ => none

/-- The check of a health check. -/
def check? : Role σ → Option (HealthCheck σ)
  | .health check => some check
  | _ => none

end Role

namespace Component

/-- The shape of a component that counts: a resource before a managed object, that before a task,
and that before a health check. -/
def role? (c : Component σ) : Option (Role σ) :=
  (c.resource.map .resource).or <| (c.managed.map .managed).or <|
    (c.task.map .task).or (c.health.map .health)

/-- A component has the first of its shapes for a role, or no shape and no role. -/
theorem role?_cases (c : Component σ) :
    (∃ r, c.resource = some r ∧ c.role? = some (.resource r)) ∨
    (∃ object, c.managed = some object ∧ c.role? = some (.managed object)) ∨
    (∃ t, c.task = some t ∧ c.role? = some (.task t)) ∨
    (∃ check, c.health = some check ∧ c.role? = some (.health check)) ∨
    c.role? = none := by
  unfold role?
  cases c.resource with
  | some r => exact Or.inl ⟨r, rfl, rfl⟩
  | none =>
    cases c.managed with
    | some object => exact Or.inr (Or.inl ⟨object, rfl, rfl⟩)
    | none =>
      cases c.task with
      | some t => exact Or.inr (Or.inr (Or.inl ⟨t, rfl, rfl⟩))
      | none =>
        cases c.health with
        | some check => exact Or.inr (Or.inr (Or.inr (Or.inl ⟨check, rfl, rfl⟩)))
        | none => exact Or.inr (Or.inr (Or.inr (Or.inr rfl)))

/-- The route that a component is wired as. -/
def asRoute? (c : Component σ) : Option (Route (Handler σ)) := c.role?.bind Role.route?

/-- The endpoint that a component is wired as below a context path. -/
def asEndpoint? (contextPath : String) (c : Component σ) : Option Endpoint :=
  c.asRoute?.map fun r => ⟨r.method, contextPath ++ r.pattern, c.typeName⟩

/-- The managed object that a component is wired as, under its type name. -/
def asObject? (c : Component σ) : Option (String × Managed) :=
  (c.role?.bind Role.object?).map (c.typeName, ·)

/-- The task that a component is wired as. -/
def asTask? (c : Component σ) : Option (Task σ) := c.role?.bind Role.task?

/-- The health check that a component is wired as. -/
def asCheck? (c : Component σ) : Option (HealthCheck σ) := c.role?.bind Role.check?

/-- **One place.** Every component is wired in one of the four places, or it has no role. -/
theorem length_eq_places (components : List (Component σ)) :
    components.length = (components.filterMap asRoute?).length +
      (components.filterMap asObject?).length + (components.filterMap asTask?).length +
      (components.filterMap asCheck?).length + (components.filter (·.role?.isNone)).length := by
  induction components with
  | nil => rfl
  | cons c rest ih =>
    rw [List.length_cons, ih]
    simp only [List.filterMap_cons, List.filter_cons, asRoute?, asObject?, asTask?, asCheck?]
    cases c.role? with
    | none =>
      simp
      omega
    | some role =>
      cases role <;> simp [Role.route?, Role.object?, Role.task?, Role.check?] <;> omega

/-- Wires a component by its role alone. -/
def wire (c : Component σ) (w : Wiring σ) : Claim × Wiring σ :=
  match c.role? with
  | some (.resource _) => Wiring.resourceHandler .application c w
  | some (.managed _) => Wiring.managedHandler c w
  | some (.task _) => Wiring.taskHandler c w
  | some (.health _) => Wiring.healthHandler c w
  | none => (.decline, w)

/-- What is reported of a component in a role that is wired behind others: that it has none, or that
the name of its task or of its health check was taken. -/
def reportsIn (w : Wiring σ) (before : List (Component σ)) (c : Component σ) :
    Option (Role σ) → List Event
  | some (.resource _) | some (.managed _) => []
  | some (.task t) =>
    if KeyMap.Taken Task.name w.admin.tasks (before.filterMap asTask?) t.name then
      [Wiring.replacedWarning ⟨"tasks"⟩ .tasks "Task" c] else []
  | some (.health check) =>
    if KeyMap.Taken HealthCheck.name w.admin.health (before.filterMap asCheck?) check.name then
      [Wiring.replacedWarning ⟨"health"⟩ .health "Health check" c] else []
  | none => [Dispatcher.log .warn "Could not handle component" [("component", .text c.typeName)]]

/-- The visit of a component that is wired behind others. -/
def visit (w : Wiring σ) (before : List (Component σ)) (c : Component σ) : Dispatcher.Visit where
  outcome := .ok c.role?.isSome
  events := c.reportsIn w before c.role?

end Component

/-! ### The chain -/

namespace Dispatcher

variable {W C : Type}

/-- A handler takes the components of a shape: it leaves those that lack the shape to the others as
they are, and of those that have it none. -/
structure Takes {α : Type} (handler : ResourceHandler W C) (shape : C → Option α) : Prop where
  declines : ∀ c w, shape c = none → handler c w = (.decline, w)
  settles : ∀ c w a, shape c = some a → (handler c w).1.outcome ≠ .ok false

variable {α : Type} {handler : ResourceHandler W C} {shape : C → Option α}

/-- A handler that takes a shape is asked first, and the others are asked about the rest. -/
theorem Takes.ask_cons (h : Takes handler shape) (rest : List (ResourceHandler W C)) (c : C)
    (w : W) :
    ask c (handler :: rest) w = if (shape c).isSome then handler c w else ask c rest w := by
  cases hshape : shape c with
  | none =>
    rw [ask, h.declines c w hshape]
    rfl
  | some a =>
    -- a handler that takes the shape claims it or fails, and both end the questions
    have hsettles := h.settles c w a hshape
    rw [ask, if_pos Option.isSome_some]
    rcases hclaim : handler c w with ⟨claim, after⟩
    rw [hclaim] at hsettles
    cases houtcome : claim.outcome with
    | error e => simp only [houtcome]
    | ok claimed =>
      cases claimed with
      | false => exact absurd houtcome hsettles
      | true => simp only [houtcome]

/-- A handler that was added more than once is asked as if it had been added once. -/
theorem Takes.ask_replicate (h : Takes handler shape) (n : ℕ)
    (rest : List (ResourceHandler W C)) (c : C) (w : W) :
    ask c (List.replicate (n + 1) handler ++ rest) w =
      if (shape c).isSome then handler c w else ask c rest w := by
  induction n with
  | zero => exact h.ask_cons rest c w
  | succ n ih =>
    rw [List.replicate_succ, List.cons_append, h.ask_cons, ih]
    -- what the first of them declines, the others decline as well
    cases (shape c).isSome <;> rfl

theorem walk_congr (typeName : C → String) {handlers handlers' : List (ResourceHandler W C)}
    (h : ∀ c w, ask c handlers w = ask c handlers' w) (components : List C) (w : W) :
    walk typeName handlers components w = walk typeName handlers' components w := by
  induction components generalizing w with
  | nil => rfl
  | cons c rest ih => simp only [walk, h, ih]

end Dispatcher

namespace Wiring

theorem takes_resourceHandler (surface : Surface) :
    Dispatcher.Takes (resourceHandler (σ := σ) surface) (·.resource) where
  declines c w h := by
    unfold resourceHandler
    rw [h]
  settles c w r h := by
    unfold resourceHandler
    rw [h]
    cases hhandle : w.handle surface r.method r.path r.handler <;> simp [hhandle]

theorem takes_managedHandler : Dispatcher.Takes (managedHandler (σ := σ)) (·.managed) where
  declines c w h := by
    unfold managedHandler
    rw [h]
  settles c w object h := by
    unfold managedHandler
    rw [h]
    exact fun hfalse => nomatch hfalse

theorem takes_taskHandler : Dispatcher.Takes (taskHandler (σ := σ)) (·.task) where
  declines c w h := by
    unfold taskHandler
    rw [h]
  settles c w t h := by
    unfold taskHandler
    rw [h]
    exact fun hfalse => nomatch hfalse

theorem takes_healthHandler : Dispatcher.Takes (healthHandler (σ := σ)) (·.health) where
  declines c w h := by
    unfold healthHandler
    rw [h]
  settles c w check h := by
    unfold healthHandler
    rw [h]
    exact fun hfalse => nomatch hfalse

end Wiring

namespace Environment

/-- The handlers of an environment to which servers have added theirs, in the order of their
adding. -/
def handlersWith (servers : ℕ) : List (ResourceHandler (Wiring σ) (Component σ)) :=
  baseHandlers ++ List.replicate servers (Wiring.resourceHandler .application)

/-- **The chain wires by role.** With one server or more, the handlers wire a component by the
shape that counts. -/
theorem ask_chain {servers : ℕ} (h : 0 < servers) (c : Component σ) (w : Wiring σ) :
    Dispatcher.ask c (handlersWith servers).reverse w = c.wire w := by
  obtain ⟨n, rfl⟩ := Nat.exists_eq_add_one.mpr h
  have hchain : (handlersWith (σ := σ) (n + 1)).reverse =
      List.replicate (n + 1) (Wiring.resourceHandler .application) ++
        [Wiring.managedHandler, Wiring.taskHandler, Wiring.healthHandler] := by
    rw [handlersWith, List.reverse_append, List.reverse_replicate]
    rfl
  rw [hchain, (Wiring.takes_resourceHandler .application).ask_replicate,
    Wiring.takes_managedHandler.ask_cons, Wiring.takes_taskHandler.ask_cons,
    Wiring.takes_healthHandler.ask_cons, Component.wire, Component.role?]
  -- the first shape that the component has decides on both sides
  cases c.resource with
  | some r => rfl
  | none =>
    cases c.managed with
    | some object => rfl
    | none =>
      cases c.task with
      | some t => rfl
      | none => cases c.health <;> rfl

end Environment

/-! ### Walks -/

namespace Wiring

/-- A wiring with more routes, managed objects, tasks and health checks. -/
structure Gains (w after : Wiring σ) (routes : List (Route (Handler σ)))
    (objects : List (String × Managed)) (tasks : List (Task σ)) (checks : List (HealthCheck σ)) :
    Prop where
  application : w.application.Gains after.application routes
  objects_eq : after.lifecycle.objects = w.lifecycle.objects ++ objects
  started_eq : after.lifecycle.started = w.lifecycle.started
  tasks : KeyMap.Overwrites Task.name w.admin.tasks after.admin.tasks tasks
  checks : KeyMap.Overwrites HealthCheck.name w.admin.health after.admin.health checks
  adminRouter_eq : after.admin.router = w.admin.router

theorem Gains.refl (w : Wiring σ) : w.Gains w [] [] [] [] where
  application := .refl _
  objects_eq := (List.append_nil _).symm
  started_eq := rfl
  tasks := .refl _
  checks := .refl _
  adminRouter_eq := rfl

theorem Gains.append {w mid after : Wiring σ} {routes routes' : List (Route (Handler σ))}
    {objects objects' : List (String × Managed)} {tasks tasks' : List (Task σ)}
    {checks checks' : List (HealthCheck σ)} (h : w.Gains mid routes objects tasks checks)
    (h' : mid.Gains after routes' objects' tasks' checks') :
    w.Gains after (routes ++ routes') (objects ++ objects') (tasks ++ tasks')
      (checks ++ checks') where
  application := h.application.append h'.application
  objects_eq := by rw [h'.objects_eq, h.objects_eq, List.append_assoc]
  started_eq := h'.started_eq.trans h.started_eq
  tasks := h.tasks.append h'.tasks
  checks := h.checks.append h'.checks
  adminRouter_eq := h'.adminRouter_eq.trans h.adminRouter_eq

/-- What a walk wires that passes all components: each is wired by its role, and nothing else is.
The visits tell which roles were taken, and the endpoints are those of the resources. -/
structure Wired (w : Wiring σ) (components : List (Component σ)) (endpoints : EndpointLog)
    (visits : List Dispatcher.Visit) (after : Wiring σ) : Prop where
  endpoints_eq : endpoints = components.filterMap (·.asEndpoint? w.application.contextPath)
  visits_eq : visits = components.mapIdx fun i c => c.visit w (components.take i)
  gains : w.Gains after (components.filterMap (·.asRoute?)) (components.filterMap (·.asObject?))
    (components.filterMap (·.asTask?)) (components.filterMap (·.asCheck?))

theorem Wired.nil (w : Wiring σ) : w.Wired [] [] [] w := ⟨rfl, rfl, .refl w⟩

/-- What is taken behind a walk is what was taken before it or on it. -/
theorem Wired.visit_eq {w mid : Wiring σ} {components : List (Component σ)}
    {endpoints : EndpointLog} {visits : List Dispatcher.Visit}
    (h : w.Wired components endpoints visits mid) (before : List (Component σ))
    (c : Component σ) : c.visit mid before = c.visit w (components ++ before) := by
  have htasks := h.gains.tasks.taken_iff (before.filterMap Component.asTask?)
  have hchecks := h.gains.checks.taken_iff (before.filterMap Component.asCheck?)
  rw [← List.filterMap_append] at htasks hchecks
  unfold Component.visit Component.reportsIn
  simp only [htasks, hchecks]

theorem Wired.append {w mid after : Wiring σ} {xs ys : List (Component σ)}
    {endpoints endpoints' : EndpointLog} {visits visits' : List Dispatcher.Visit}
    (h : w.Wired xs endpoints visits mid) (h' : mid.Wired ys endpoints' visits' after) :
    w.Wired (xs ++ ys) (endpoints ++ endpoints') (visits ++ visits') after where
  endpoints_eq := by
    rw [h.endpoints_eq, h'.endpoints_eq, h.gains.application.contextPath_eq,
      List.filterMap_append]
  visits_eq := by
    -- before a component of the second part stand all of the first and some of the second
    have hfirst : xs.mapIdx (fun i c => c.visit w (xs.take i)) =
        xs.mapIdx fun i c => c.visit w ((xs ++ ys).take i) := by
      refine List.mapIdx_eq_mapIdx_iff.mpr fun i hi => ?_
      rw [List.take_append_of_le_length hi.le]
    have hsecond : ys.mapIdx (fun i c => c.visit mid (ys.take i)) =
        ys.mapIdx fun i c => c.visit w ((xs ++ ys).take (i + xs.length)) := by
      refine List.mapIdx_eq_mapIdx_iff.mpr fun i hi => ?_
      rw [Nat.add_comm, List.take_length_add_append, h.visit_eq]
    rw [h.visits_eq, h'.visits_eq, hfirst, hsecond, List.mapIdx_append]
  gains := by
    have hgains := h.gains.append h'.gains
    simp only [← List.filterMap_append] at hgains
    exact hgains

/-- One component in a role, with all that it is wired as. -/
theorem Wired.single {c : Component σ} {w after : Wiring σ} {role : Option (Role σ)}
    (hrole : c.role? = role) {endpoints : EndpointLog} {visit : Dispatcher.Visit}
    (endpoints_eq : endpoints = ((role.bind Role.route?).map fun r =>
      ⟨r.method, w.application.contextPath ++ r.pattern, c.typeName⟩).toList)
    (visit_eq : visit = { outcome := .ok role.isSome, events := c.reportsIn w [] role })
    (gains : w.Gains after (role.bind Role.route?).toList
      ((role.bind Role.object?).map (c.typeName, ·)).toList (role.bind Role.task?).toList
      (role.bind Role.check?).toList) : w.Wired [c] endpoints [visit] after := by
  subst hrole
  have hsingle : ∀ {β : Type} (f : Component σ → Option β), [c].filterMap f = (f c).toList := by
    intro β f
    cases h : f c <;> simp [h]
  refine ⟨by rw [hsingle, endpoints_eq]; rfl, by rw [visit_eq]; rfl, ?_⟩
  simp only [hsingle]
  exact gains

/-- **One component.** If no handler fails on it, a component is wired by its role. -/
theorem wired_wire {c : Component σ} {w after : Wiring σ} {claim : Claim}
    (h : c.wire w = (claim, after)) {claimed : Bool} (hclaimed : claim.outcome = .ok claimed) :
    w.Wired [c] claim.endpoints
      [{ outcome := .ok claimed
         events := claim.events ++ Dispatcher.report Component.typeName c (.ok claimed) }]
      after := by
  -- each role changes one of the four places, and the others stay as they are
  have hgains := Gains.refl w
  unfold Component.wire at h
  rcases c.role?_cases with ⟨r, hresource, hrole⟩ | ⟨object, hmanaged, hrole⟩ | ⟨t, htask, hrole⟩ |
    ⟨check, hhealth, hrole⟩ | hrole
  · -- a resource is on the router, or its route is refused and the handler fails
    simp only [hrole, resourceHandler, hresource, handle] at h
    cases hhandle : w.application.handle r.method r.path r.handler with
    | error e =>
      rw [hhandle] at h
      obtain ⟨rfl, rfl⟩ := Prod.mk.inj h
      cases hclaimed
    | ok router =>
      rw [hhandle] at h
      obtain ⟨rfl, rfl⟩ := Prod.mk.inj h
      obtain rfl := Except.ok.inj hclaimed
      exact .single hrole rfl rfl { hgains with application := Router.gains_handle hhandle }
  · -- an object goes behind the others
    simp only [hrole, managedHandler, hmanaged] at h
    obtain ⟨rfl, rfl⟩ := Prod.mk.inj h
    obtain rfl := Except.ok.inj hclaimed
    exact .single hrole rfl rfl { hgains with objects_eq := Lifecycle.objects_manage _ _ _ }
  · simp only [hrole, taskHandler, htask] at h
    obtain ⟨rfl, rfl⟩ := Prod.mk.inj h
    obtain rfl := Except.ok.inj hclaimed
    refine .single hrole rfl ?_ { hgains with tasks := .insert _ _ }
    simp [Component.reportsIn, KeyMap.Taken, Dispatcher.report]
  · simp only [hrole, healthHandler, hhealth, HealthRegistry.register] at h
    obtain ⟨rfl, rfl⟩ := Prod.mk.inj h
    obtain rfl := Except.ok.inj hclaimed
    refine .single hrole rfl ?_ { hgains with checks := .insert _ _ }
    -- the warning is there if the registry held a check of the name
    by_cases hheld : (w.admin.health.find? check.name).isSome = true <;>
      simp [Component.reportsIn, KeyMap.Taken, KeyMap.contains, hheld, Dispatcher.report]
  · -- nobody claims the component
    simp only [hrole] at h
    obtain ⟨rfl, rfl⟩ := Prod.mk.inj h
    obtain rfl := Except.ok.inj hclaimed
    exact .single hrole rfl rfl hgains

/-- **A walk that passes all components** has wired each by its role. -/
theorem wired_walk {handlers : List (ResourceHandler (Wiring σ) (Component σ))}
    (h : ∀ c w, Dispatcher.ask c handlers w = c.wire w) {components : List (Component σ)}
    {w : Wiring σ} {endpoints : EndpointLog}
    (hresult : (Dispatcher.walk Component.typeName handlers components w).1.result =
      .ok endpoints) :
    w.Wired components endpoints
      (Dispatcher.walk Component.typeName handlers components w).1.visits
      (Dispatcher.walk Component.typeName handlers components w).2 := by
  induction components generalizing w endpoints with
  | nil =>
    obtain rfl := Except.ok.inj hresult
    exact .nil w
  | cons c rest ih =>
    unfold Dispatcher.walk at hresult ⊢
    rw [h] at hresult ⊢
    -- one component is wired by its role, and the rest in what it leaves
    rcases hwire : c.wire w with ⟨claim, mid⟩
    rw [hwire] at hresult
    cases hclaimed : claim.outcome with
    | error e =>
      -- the walk would have failed
      simp only [hclaimed] at hresult
      cases hresult
    | ok claimed =>
      simp only [hclaimed] at hresult ⊢
      cases hlater : (Dispatcher.walk Component.typeName handlers rest mid).1.result with
      | error e =>
        rw [hlater] at hresult
        cases hresult
      | ok found =>
        rw [hlater] at hresult
        obtain rfl := Except.ok.inj hresult
        have hone := wired_wire hwire hclaimed
        exact hone.append (ih hlater)

end Wiring

end ServiceHost
