import ServiceHost.Proofs.Dispatch

/-!
# The order of a dispatch

The first finalization of a dispatcher consults handlers about components, in two nested loops that
run in opposite directions: components are gone through in the order of their registration, and
about each of them the handlers are asked from the newest to the oldest. Here the whole trace of
this is described, with everything that the handlers answer.

* `Dispatcher.Pass` is the part of the trace that is about one component. It ends with the first
  handler that claims the component or fails, or with the oldest handler.
* `Dispatcher.Consulted` says that every handler acts on what the one before it left.
* `Dispatcher.ask_consulted` and `Dispatcher.walk_consulted` follow the two loops.
* `Dispatcher.finalize_consults_in_order` puts them together for the first finalization.
-/

namespace ServiceHost

namespace Dispatcher

variable {W C : Type}

/-! ### Consultations -/

/-- A handler is asked about a component, and answers. -/
structure Consultation (W : Type) extends Question where
  /-- What was wired when the handler was asked. -/
  before : W
  claim : Claim

/-- How the consultations about a component end: as the last one does. Without any the component is
left over. -/
def outcome (pass : List (Consultation W)) : Except RouteError Bool :=
  (pass.getLast?.map (·.claim.outcome)).getD (.ok false)

/-- The endpoints that are logged in consultations. -/
def logged (trace : List (Consultation W)) : EndpointLog := trace.flatMap (·.claim.endpoints)

/-- The warning about a component that no handler claims. -/
def unhandled (typeName : C → String) (c : C) : Event :=
  log .warn "Could not handle component" [("component", .text (typeName c))]

/-- The record of a component on which a handler fails. -/
def unwired (typeName : C → String) (c : C) (e : RouteError) : Event :=
  log .error "Could not wire component"
    [("component", .text (typeName c)), ("error", .text e.message)]

/-- What the consultations about a component show: what each handler shows, and at the end a record
of the component unless it was claimed. -/
def shown (typeName : C → String) (c : C) (pass : List (Consultation W)) : List Event :=
  pass.flatMap (·.claim.events) ++
    match outcome pass with
    | .ok true => []
    | .ok false => [unhandled typeName c]
    | .error e => [unwired typeName c e]

/-- The consultations about component number `i`, given the numbers of the handlers in the order in
which they are to be asked. -/
structure Pass (order : List ℕ) (i : ℕ) (pass : List (Consultation W)) : Prop where
  /-- The handlers are asked in this order, each at most once. -/
  asked : pass.map (·.toQuestion) = (order.take pass.length).map (⟨i, ·⟩)
  /-- A handler is asked only if those before it have declined. -/
  declined : ∀ x ∈ pass.dropLast, x.claim.outcome = .ok false
  /-- A component is left over only if every handler has declined. -/
  exhausted : outcome pass = .ok false → pass.length = order.length

/-- Handlers are consulted one after another, each on what the one before it left. -/
inductive Consulted (handlers : List (ResourceHandler W C)) (components : List C) :
    W → List (Consultation W) → W → Prop
  | nil (w : W) : Consulted handlers components w [] w
  | cons {x : Consultation W} {rest : List (Consultation W)} {after : W} {c : C}
      {h : ResourceHandler W C} (hc : components[x.component]? = some c)
      (hh : handlers[x.handler]? = some h) (hclaim : x.claim = (h c x.before).1)
      (hrest : Consulted handlers components (h c x.before).2 rest after) :
      Consulted handlers components x.before (x :: rest) after

section Passes

variable {order : List ℕ} {i : ℕ} {x : Consultation W} {pass : List (Consultation W)}

theorem outcome_singleton (x : Consultation W) : outcome [x] = x.claim.outcome := rfl

theorem outcome_cons (hx : x.claim.outcome = .ok false) (pass : List (Consultation W)) :
    outcome (x :: pass) = outcome pass := by
  cases pass with
  | nil => exact hx
  | cons y rest =>
    unfold outcome
    rw [List.getLast?_cons_cons]

theorem Pass.nil (i : ℕ) : Pass (W := W) [] i [] where
  asked := rfl
  declined := fun _ hx => absurd hx List.not_mem_nil
  exhausted := fun _ => rfl

/-- The first handler declines, and the others are asked. -/
theorem Pass.cons (h : Pass order i pass) (hi : x.component = i)
    (hx : x.claim.outcome = .ok false) : Pass (x.handler :: order) i (x :: pass) where
  asked := by
    subst hi
    rw [List.length_cons, List.take_succ_cons, List.map_cons, List.map_cons, h.asked]
  declined := forall_mem_dropLast_cons hx h.declined
  exhausted := by
    intro hleft
    rw [outcome_cons hx] at hleft
    rw [List.length_cons, List.length_cons, h.exhausted hleft]

/-- The first handler claims the component or fails. -/
theorem Pass.single (order : List ℕ) (hi : x.component = i) (hx : x.claim.outcome ≠ .ok false) :
    Pass (x.handler :: order) i [x] where
  asked := by
    subst hi
    rfl
  declined := fun _ hy => absurd hy List.not_mem_nil
  exhausted := fun hleft => absurd hleft hx

/-- A handler is asked about every component, if there is one. -/
theorem Pass.ne_nil (h : Pass order i pass) (horder : order ≠ []) : pass ≠ [] := by
  rintro rfl
  -- a component about which nobody is asked is left over
  have hlength := h.exhausted rfl
  exact horder (List.eq_nil_of_length_eq_zero hlength.symm)

/-- The questions of passes, each through the handlers from the newest on. -/
theorem asked_of_passes {handlers first : ℕ} {passes : List (List (Consultation W))}
    (h : ∀ i pass, passes[i]? = some pass → Pass (List.range handlers).reverse (first + i) pass) :
    Asked handlers first (first + passes.length) (passes.flatten.map (·.toQuestion)) := by
  induction passes generalizing first with
  | nil => exact .nil handlers first
  | cons pass rest ih =>
    have hpass : Pass (List.range handlers).reverse first pass := h 0 pass rfl
    -- the newest handler begins every pass, so that it is asked about every component
    have hsingle : Asked handlers first (first + 1) (pass.map (·.toQuestion)) := by
      rw [hpass.asked]
      refine .single first (List.take_prefix _ _) fun hpos hnil => ?_
      have horder : (List.range handlers).reverse ≠ [] := by
        simpa using hpos.ne'
      have hlength := List.length_pos_iff.mpr (hpass.ne_nil horder)
      rcases List.take_eq_nil_iff.mp hnil with hzero | hempty
      · exact absurd hzero hlength.ne'
      · exact horder hempty
    have hlater : Asked handlers (first + 1) (first + 1 + rest.length)
        (rest.flatten.map (·.toQuestion)) := by
      refine ih fun i p hp => ?_
      rw [Nat.add_assoc, Nat.add_comm 1 i]
      exact h (i + 1) p hp
    rw [List.flatten_cons, List.map_append, List.length_cons, Nat.add_comm rest.length 1,
      ← Nat.add_assoc]
    exact hsingle.append hlater (Nat.le_succ first) (Nat.le_add_right _ _)

end Passes

section Consultations

variable {handlers : List (ResourceHandler W C)} {components : List C} {w mid after : W}
  {xs ys : List (Consultation W)}

theorem Consulted.append (hx : Consulted handlers components w xs mid)
    (hy : Consulted handlers components mid ys after) :
    Consulted handlers components w (xs ++ ys) after := by
  induction hx with
  | nil => exact hy
  | cons hc hh hclaim _ ih => exact .cons hc hh hclaim (ih hy)

/-- **Handlers that read the log.** Where the handlers keep the log of the endpoints in what they
act on, each of them finds there what was logged before it was asked. -/
theorem Consulted.log_before {trace : List (Consultation W)}
    (h : Consulted handlers components w trace after) {logOf : W → EndpointLog}
    (hkeep : ∀ h ∈ handlers, ∀ c w, logOf (h c w).2 = logOf w ++ (h c w).1.endpoints)
    {pre post : List (Consultation W)} {x : Consultation W} (htrace : trace = pre ++ x :: post) :
    logOf x.before = logOf w ++ logged pre := by
  induction h generalizing pre with
  | nil => exact absurd htrace (by simp)
  | @cons y rest after c handler hc hh hclaim hrest ih =>
    -- what a handler logs is there before the next one is asked
    cases pre with
    | nil =>
      obtain rfl := (List.cons.inj htrace).1
      rw [logged, List.flatMap_nil, List.append_nil]
    | cons z pre =>
      obtain ⟨rfl, hlater⟩ := List.cons.inj htrace
      rw [ih hlater, hkeep handler (List.mem_of_getElem? hh), ← hclaim, List.append_assoc]
      rfl

end Consultations

/-! ### The two loops -/

/-- **The inner loop.** The handlers are asked about a component in their order, and the claim that
comes of it is put together from their answers. That they note it changes nothing. -/
theorem ask_consulted {handlers : List (ResourceHandler W C)} {components : List C} {c : C} {i : ℕ}
    (hc : components[i]? = some c) (hs : List (ResourceHandler W C × ℕ))
    (hhs : ∀ h ∈ hs, handlers[h.2]? = some h.1) (w : W) (qs : List Question) :
    ∃ pass, Pass (hs.map (·.2)) i pass ∧
      Consulted handlers components w pass (ask c (hs.map (·.1)) w).2 ∧
      (ask c (hs.map (·.1)) w).1 =
        { outcome := outcome pass
          endpoints := logged pass
          events := pass.flatMap (·.claim.events) } ∧
      ask (c, i) (hs.map noting) (w, qs) =
        ((ask c (hs.map (·.1)) w).1, (ask c (hs.map (·.1)) w).2,
          qs ++ pass.map (·.toQuestion)) := by
  induction hs generalizing w qs with
  | nil => exact ⟨[], .nil i, .nil w, rfl, by simp [ask]⟩
  | cons h rest ih =>
    have hhandler := hhs h List.mem_cons_self
    rw [List.map_cons, List.map_cons, List.map_cons]
    unfold ask
    rcases hclaim : h.1 c w with ⟨claim, after⟩
    have hnoting : noting h (c, i) (w, qs) = (claim, after, qs ++ [⟨i, h.2⟩]) := by
      unfold noting
      rw [hclaim]
    rw [hnoting]
    -- the consultation of this handler, whatever becomes of the component
    let x : Consultation W := { component := i, handler := h.2, before := w, claim }
    have hx : x.claim = (h.1 c x.before).1 := by
      rw [show h.1 c x.before = (claim, after) from hclaim]
    have hafter : (h.1 c x.before).2 = after := by
      rw [show h.1 c x.before = (claim, after) from hclaim]
    simp only
    split
    · next hdeclined =>
      -- the handler declines, and the next one is asked
      obtain ⟨pass, hpass, hconsulted, hask, hnoted⟩ :=
        ih (fun h hh => hhs h (List.mem_cons_of_mem _ hh)) after (qs ++ [⟨i, h.2⟩])
      refine ⟨x :: pass, hpass.cons (x := x) rfl hdeclined, ?_, ?_, ?_⟩
      · exact .cons (x := x) hc hhandler hx (hafter ▸ hconsulted)
      · rw [hask, outcome_cons (x := x) hdeclined]
        rfl
      · rw [hnoted, List.append_assoc]
        rfl
    · next hdecided =>
      -- the handler claims the component or fails, and no other is asked
      have hend : Consulted handlers components (h.1 c x.before).2 [] after := by
        rw [hafter]
        exact .nil after
      refine ⟨[x], .single (x := x) _ rfl hdecided, ?_, ?_, rfl⟩
      · exact .cons (x := x) hc hhandler hx hend
      · rw [outcome_singleton, logged, List.flatMap_singleton, List.flatMap_singleton]

/-- How a walk goes through the components from number `first` on, given its passes. -/
structure WalkedBy (typeName : C → String) (handlers : List (ResourceHandler W C))
    (components rest : List C) (first : ℕ) (w : W) (passes : List (List (Consultation W)))
    (found : Walk) (after : W) : Prop where
  consulted : Consulted handlers components w passes.flatten after
  pass : ∀ i pass, passes[i]? = some pass →
    Pass (List.range handlers.length).reverse (first + i) pass
  within : passes.length ≤ rest.length
  goesOn : ∀ pass ∈ passes.dropLast, failure? (outcome pass) = none
  /-- What became of a component is what its handlers have answered. -/
  outcomes : found.visits.map (·.outcome) = passes.map outcome
  visits : found.visits.map (·.events) = List.zipWith (shown typeName) rest passes
  all : (∀ pass ∈ passes, failure? (outcome pass) = none) →
    passes.length = rest.length ∧ found.result = .ok (logged passes.flatten)
  failed : ∀ e, passes.getLast?.map outcome = some (.error e) → found.result = .error e

section Walks

variable {typeName : C → String} {handlers : List (ResourceHandler W C)} {components : List C}
  {w : W}

/-- Every visit has its pass. -/
theorem WalkedBy.length_passes {rest : List C} {first : ℕ}
    {passes : List (List (Consultation W))} {found : Walk} {after : W}
    (h : WalkedBy typeName handlers components rest first w passes found after) :
    passes.length = found.visits.length := by
  have hlength := congrArg List.length h.outcomes
  rw [List.length_map, List.length_map] at hlength
  exact hlength.symm

theorem WalkedBy.nil (first : ℕ) :
    WalkedBy typeName handlers components [] first w [] { result := .ok [] } w where
  consulted := .nil w
  pass := fun _ _ h => nomatch h
  within := Nat.le_refl _
  goesOn := fun _ h => absurd h List.not_mem_nil
  outcomes := rfl
  visits := rfl
  all := fun _ => ⟨rfl, rfl⟩
  failed := fun _ h => nomatch h

variable {c : C} {rest : List C} {first : ℕ} {mid after : W} {pass : List (Consultation W)}
  {passes : List (List (Consultation W))}

/-- The first component of all is one on which a handler fails. -/
theorem WalkedBy.single (rest : List C) {e : RouteError}
    (hconsulted : Consulted handlers components w pass after)
    (hpass : Pass (List.range handlers.length).reverse first pass)
    (he : outcome pass = .error e) {v : Visit} (ho : v.outcome = outcome pass)
    (hv : v.events = shown typeName c pass) :
    WalkedBy typeName handlers components (c :: rest) first w [pass]
      { result := .error e, visits := [v] } after where
  consulted := by
    rw [List.flatten_singleton]
    exact hconsulted
  pass := by
    intro i p hp
    -- there is one pass only
    obtain ⟨rfl, rfl⟩ : i = 0 ∧ pass = p := by
      cases i with
      | zero => exact ⟨rfl, Option.some.inj hp⟩
      | succ i => cases hp
    exact hpass
  within := Nat.succ_le_succ (Nat.zero_le _)
  goesOn := fun _ h => absurd h List.not_mem_nil
  outcomes := congrArg (fun o => [o]) ho
  visits := by
    rw [List.zipWith_cons_cons, List.zipWith_nil_right]
    exact congrArg (fun events => [events]) hv
  all := by
    intro hnone
    have hfails := hnone pass List.mem_cons_self
    rw [he] at hfails
    cases hfails
  failed := by
    intro e' he'
    have hlast : outcome pass = .error e' := Option.some.inj he'
    rw [he] at hlast
    rw [Except.error.inj hlast]

/-- One component more in front of a walk, on which no handler fails. -/
theorem WalkedBy.cons {later : Walk}
    (h : WalkedBy typeName handlers components rest (first + 1) mid passes later after)
    (hconsulted : Consulted handlers components w pass mid)
    (hpass : Pass (List.range handlers.length).reverse first pass)
    (hgoes : failure? (outcome pass) = none) {v : Visit} (ho : v.outcome = outcome pass)
    (hv : v.events = shown typeName c pass) :
    WalkedBy typeName handlers components (c :: rest) first w (pass :: passes)
      { result := later.result.map (logged pass ++ ·), visits := v :: later.visits } after where
  consulted := hconsulted.append h.consulted
  pass := by
    intro i p hp
    cases i with
    | zero => exact Option.some.inj hp ▸ hpass
    | succ i =>
      rw [Nat.add_comm i 1, ← Nat.add_assoc]
      exact h.pass i p hp
  within := Nat.succ_le_succ h.within
  goesOn := forall_mem_dropLast_cons hgoes h.goesOn
  outcomes := by
    rw [List.map_cons, List.map_cons, ho, h.outcomes]
  visits := by
    rw [List.map_cons, List.zipWith_cons_cons, hv, h.visits]
  all := by
    intro hnone
    obtain ⟨hlength, hresult⟩ := h.all fun p hp => hnone p (List.mem_cons_of_mem _ hp)
    refine ⟨congrArg Nat.succ hlength, ?_⟩
    rw [hresult]
    exact congrArg Except.ok List.flatMap_append.symm
  failed := by
    intro e he
    cases passes with
    | nil =>
      -- the component in front would be the one that fails
      have hlast : outcome pass = .error e := Option.some.inj he
      rw [hlast] at hgoes
      cases hgoes
    | cons next passes =>
      rw [List.getLast?_cons_cons] at he
      simp only [h.failed e he]
      rfl

end Walks

/-- **The outer loop.** The components are gone through in their order, up to the first on which a
handler fails. That the handlers note what they are asked changes nothing. -/
theorem walk_consulted (typeName : C → String) (handlers : List (ResourceHandler W C))
    {components rest : List C} {first : ℕ} (hrest : components.drop first = rest) (w : W)
    (qs : List Question) :
    ∃ passes,
      WalkedBy typeName handlers components rest first w passes
        (walk typeName handlers.reverse rest w).1 (walk typeName handlers.reverse rest w).2 ∧
      walk (fun c => typeName c.1) (handlers.zipIdx.map noting).reverse (rest.zipIdx first)
          (w, qs) =
        ((walk typeName handlers.reverse rest w).1, (walk typeName handlers.reverse rest w).2,
          qs ++ passes.flatten.map (·.toQuestion)) := by
  induction rest generalizing first w qs with
  | nil => exact ⟨[], .nil first, by simp [walk]⟩
  | cons c rest ih =>
    obtain ⟨hc, hnext⟩ := getElem?_of_drop_eq_cons hrest
    -- each handler is asked under the number that it has in the order of its adding
    have hnumbered : ∀ h ∈ handlers.zipIdx.reverse, handlers[h.2]? = some h.1 := by
      intro h hh
      exact List.mem_zipIdx_iff_getElem?.mp (List.mem_reverse.mp hh)
    obtain ⟨pass, hpass, hconsulted, hask, hnoted⟩ :=
      ask_consulted hc handlers.zipIdx.reverse hnumbered w qs
    rw [fst_zipIdx_reverse] at hconsulted hask hnoted
    rw [List.map_reverse] at hnoted
    rw [snd_zipIdx_reverse] at hpass
    rcases hfound : ask c handlers.reverse w with ⟨claim, after⟩
    rw [hfound] at hconsulted hask hnoted
    obtain rfl : claim = _ := hask
    rw [List.zipIdx_cons]
    unfold walk
    rw [hnoted, hfound]
    -- what is shown of the visit is what the pass and the report show
    have hshown : pass.flatMap (·.claim.events) ++ report typeName c (outcome pass) =
        shown typeName c pass := by
      unfold shown report
      rfl
    cases ho : outcome pass with
    | error e =>
      rw [ho] at hshown
      refine ⟨[pass], .single rest hconsulted hpass ho ho.symm hshown, ?_⟩
      rw [List.flatten_singleton]
      rfl
    | ok claimed =>
      have hgoes : failure? (outcome pass) = none := by rw [ho]; rfl
      -- the rest is walked on what this pass left, with its questions noted
      obtain ⟨passes, hwalked, hlater⟩ := ih hnext after (qs ++ pass.map (·.toQuestion))
      rw [ho] at hshown
      simp only [hlater]
      refine ⟨pass :: passes, hwalked.cons hconsulted hpass hgoes ho.symm hshown, ?_⟩
      rw [List.flatten_cons, List.map_append, List.append_assoc]
      rfl

/-! ### The first finalization -/

/-- The table of the endpoints at the end of a walk that succeeds. -/
def table : Except RouteError EndpointLog → List Event
  | .ok endpoints => [log .info ("resources =\n\n" ++ EndpointLog.table endpoints)]
  | .error _ => []

/-- A walk with its table at the end. -/
def Walk.withTable (found : Walk) : Walk where
  result := found.result
  visits := found.visits
  closing := table found.result

/-- The first finalization is a walk through the handlers from the newest on. -/
theorem finalize_of_not_finalized (typeName : C → String) {d : Dispatcher W C}
    (h : d.finalized = false) (w : W) :
    d.finalize typeName w =
      ((walk typeName d.handlers.reverse d.components w).1.withTable, { d with finalized := true },
        (walk typeName d.handlers.reverse d.components w).2) := by
  unfold finalize
  simp only [h, Bool.false_eq_true, ↓reduceIte]
  rfl

/-- The table at the end of a walk is not part of the visits. -/
theorem WalkedBy.withTable {typeName : C → String} {handlers : List (ResourceHandler W C)}
    {components rest : List C} {first : ℕ} {w after : W} {passes : List (List (Consultation W))}
    {found : Walk} (h : WalkedBy typeName handlers components rest first w passes found after) :
    WalkedBy typeName handlers components rest first w passes found.withTable after :=
  { h with }

/-- The first finalization goes through all components. That the handlers note what they are asked
changes nothing. -/
theorem finalize_consulted (typeName : C → String) {d : Dispatcher W C}
    (h : d.finalized = false) (w : W) (qs : List Question) :
    ∃ passes,
      WalkedBy typeName d.handlers d.components d.components 0 w passes
        (d.finalize typeName w).1 (d.finalize typeName w).2.2 ∧
      d.noted.finalize (fun c => typeName c.1) (w, qs) =
        ((d.finalize typeName w).1, (d.finalize typeName w).2.1.noted,
          (d.finalize typeName w).2.2, qs ++ passes.flatten.map (·.toQuestion)) := by
  obtain ⟨passes, hwalked, hwalk⟩ := walk_consulted typeName d.handlers d.components.drop_zero w qs
  have hnoted : d.noted.finalized = false := h
  -- the dispatcher that notes walks its numbered components with the numbered handlers
  have hnotedWalk : walk (fun c => typeName c.1) d.noted.handlers.reverse d.noted.components
      (w, qs) = _ := hwalk
  rw [finalize_of_not_finalized _ hnoted, hnotedWalk, finalize_of_not_finalized _ h]
  exact ⟨passes, hwalked.withTable, rfl⟩

/-- What the first finalization of a dispatcher does, given the consultations about each of the
components that it comes to. -/
structure ConsultsInOrder (typeName : C → String) (d : Dispatcher W C) (w : W)
    (passes : List (List (Consultation W))) : Prop where
  /-- Every handler is asked about its component on what the one before it left. -/
  consulted : Consulted d.handlers d.components w passes.flatten (d.finalize typeName w).2.2
  /-- Each component has one pass, through the handlers from the newest to the oldest. -/
  pass : ∀ i pass, passes[i]? = some pass →
    Pass (List.range d.handlers.length).reverse i pass
  within : passes.length ≤ d.components.length
  /-- Only the last component may be one on which a handler fails. -/
  goesOn : ∀ pass ∈ passes.dropLast, failure? (outcome pass) = none
  /-- These consultations are all: handlers that note what they are asked note just them. -/
  noted : d.noted.finalize (fun c => typeName c.1) (w, []) =
    ((d.finalize typeName w).1, (d.finalize typeName w).2.1.noted, (d.finalize typeName w).2.2,
      passes.flatten.map (·.toQuestion))
  /-- Handlers that read the log find in it what was logged before them, in order. -/
  seen : ∀ logOf : W → EndpointLog,
    (∀ h ∈ d.handlers, ∀ c w, logOf (h c w).2 = logOf w ++ (h c w).1.endpoints) →
      ∀ pre x post, passes.flatten = pre ++ x :: post → logOf x.before = logOf w ++ logged pre
  /-- What is shown of the components comes in their order, and the table at the end. -/
  events : (d.finalize typeName w).1.events =
    (List.zipWith (shown typeName) d.components passes).flatten ++
      (d.finalize typeName w).1.closing
  /-- If no handler fails, every component has its pass, and all that was logged is returned, and
  shown once. -/
  all : (∀ pass ∈ passes, failure? (outcome pass) = none) →
    passes.length = d.components.length ∧
      (d.finalize typeName w).1.result = .ok (logged passes.flatten) ∧
      (d.finalize typeName w).1.closing =
        [log .info ("resources =\n\n" ++ EndpointLog.table (logged passes.flatten))]
  /-- The first failure is returned, and no table is shown. -/
  failed : ∀ e, passes.getLast?.map outcome = some (.error e) →
    (d.finalize typeName w).1.result = .error e ∧ (d.finalize typeName w).1.closing = []
  once : (d.finalize typeName w).2.1 = { d with finalized := true }

/-- **Components are dispatched in order.** Take any components and any handlers. The first
finalization gives each component one pass, in the order of their registration, in which the
handlers are asked from the newest to the oldest, up to the first that claims it. A component that
every handler declines is warned about, and the next one has its pass. The first failure ends
everything: it is shown with its component, and returned. If there is none, all the endpoints that
handlers have logged are returned in the order of their logging, also those of handlers that have
declined, and their table is shown. -/
theorem finalize_consults_in_order (typeName : C → String) (handlers : List (ResourceHandler W C))
    (components : List C) (w : W) :
    ∃ passes, ConsultsInOrder typeName { handlers, components } w passes := by
  obtain ⟨passes, hwalked, hnoted⟩ :=
    finalize_consulted typeName (d := { handlers, components }) rfl w []
  have hfinalize := finalize_of_not_finalized typeName
    (d := { handlers, components }) rfl w
  have hclosing : (({ handlers, components } : Dispatcher W C).finalize typeName w).1.closing =
      table (({ handlers, components } : Dispatcher W C).finalize typeName w).1.result := by
    rw [hfinalize]
    rfl
  exact ⟨passes, {
    consulted := hwalked.consulted
    pass := by
      intro i pass hpass
      rw [← Nat.zero_add i]
      exact hwalked.pass i pass hpass
    within := hwalked.within
    goesOn := hwalked.goesOn
    noted := hnoted
    seen := fun logOf hkeep pre x post hsplit => hwalked.consulted.log_before hkeep hsplit
    events := by
      rw [Walk.events, ← hwalked.visits, List.flatMap_def]
    all := by
      intro hnone
      obtain ⟨hlength, hresult⟩ := hwalked.all hnone
      exact ⟨hlength, hresult, hclosing.trans (congrArg table hresult)⟩
    failed := by
      intro e he
      have hresult := hwalked.failed e he
      exact ⟨hresult, hclosing.trans (congrArg table hresult)⟩
    once := by rw [hfinalize] }⟩

/-- A newer handler that logs an endpoint and declines, an older one that claims short names. -/
example :
    let older : ResourceHandler Unit String := fun c w =>
      ({ outcome := .ok (c.length == 1), endpoints := [⟨.get, "/older", c⟩] }, w)
    let newer : ResourceHandler Unit String := fun c w =>
      ({ outcome := .ok false, endpoints := [⟨.get, "/newer", c⟩] }, w)
    let walk := (({ handlers := [older, newer], components := ["a", "bc"] } :
      Dispatcher Unit String).finalize id ()).1
    walk.result = .ok [⟨.get, "/newer", "a"⟩, ⟨.get, "/older", "a"⟩, ⟨.get, "/newer", "bc"⟩,
        ⟨.get, "/older", "bc"⟩] ∧
      walk.visits.map (·.events) = [[], [unhandled id "bc"]] := ⟨rfl, rfl⟩

end Dispatcher

end ServiceHost
