import ServiceHost.Proofs.Redirects

/-!
# Allowed methods

The path of a request decides where it is answered, and the method only what it finds there. A
pattern that lacks the method refuses the request and names the methods that it has, which are those
of the requests for the same path that are given to a handler.

* `Router.reply?` is what a router answers by itself, without a handler.
* `Router.Reflects.reply?_cases` says how this depends on the method: on a pattern by its methods
  alone, and elsewhere not at all.
* `Response.isHeaderValue_allowText`: a list of methods can always be sent.
* `Router.allows_delegated` puts this together.
-/

namespace ServiceHost

/-! ### Header fields of methods -/

theorem isHeaderChar_of_isTokenChar {c : Char} (h : isTokenChar c = true) :
    isHeaderChar c = true := by
  rw [isTokenChar, Bool.or_eq_true] at h
  rcases h with halphanum | hmark
  · -- the ranges of letters and digits lie between the blank and the last control character
    change ((decide ('A'.val ≤ c.val ∧ c.val ≤ 'Z'.val) ||
      (decide ('a'.val ≤ c.val) && decide (c.val ≤ 'z'.val))) ||
      (decide ('0'.val ≤ c.val) && decide (c.val ≤ '9'.val))) = true at halphanum
    simp only [Bool.or_eq_true, Bool.and_eq_true, decide_eq_true_eq,
      UInt32.le_iff_toNat_le] at halphanum
    simp only [isHeaderChar, Bool.or_eq_true, Bool.and_eq_true, decide_eq_true_eq, bne_iff_ne]
    right
    change 0x20 ≤ c.val.toNat ∧ c.val.toNat ≠ 0x7F
    have hbounds : 'A'.val.toNat = 65 ∧ 'Z'.val.toNat = 90 ∧ 'a'.val.toNat = 97 ∧
        'z'.val.toNat = 122 ∧ '0'.val.toNat = 48 ∧ '9'.val.toNat = 57 := by decide
    omega
  · have hall : "!#$%&'*+-.^_\x60|~".toList.all isHeaderChar = true := by decide
    exact List.all_eq_true.mp hall c (List.contains_iff_mem.mp hmark)

theorem isHeaderValue_intercalate {texts : List String}
    (h : ∀ text ∈ texts, isHeaderValue text = true) :
    isHeaderValue (", ".intercalate texts) = true := by
  induction texts with
  | nil => rfl
  | cons text rest ih =>
    have htext := h text List.mem_cons_self
    have hrest := ih fun other hother => h other (List.mem_cons_of_mem _ hother)
    cases rest with
    | nil => rwa [String.intercalate_singleton]
    | cons next rest =>
      -- the separator, a comma and a blank, may stand in a field as well
      rw [String.intercalate_cons_cons, isHeaderValue_append, isHeaderValue_append, htext, hrest]
      rfl

/-- **Lists of methods** can be sent in a header field. -/
theorem Response.isHeaderValue_allowText (methods : List Method) :
    isHeaderValue (allowText methods) = true := by
  refine isHeaderValue_intercalate fun text htext => ?_
  obtain ⟨method, -, rfl⟩ := List.mem_map.mp htext
  refine List.all_eq_true.mpr fun c hc => ?_
  exact isHeaderChar_of_isTokenChar (List.all_eq_true.mp method.isToken.2 c hc)

theorem Response.ne_allow_of_notFound :
    ∀ field ∈ Response.notFound.headers, field.name ≠ "allow" := by
  intro field hfield
  rw [List.mem_singleton.mp hfield]
  exact show "content-type" ≠ "allow" by decide

theorem Response.ne_allow_of_movedPermanently (location : String) :
    ∀ field ∈ (Response.movedPermanently location).headers, field.name ≠ "allow" := by
  intro field hfield
  rcases List.mem_cons.mp hfield with rfl | hfield
  · exact show "content-type" ≠ "allow" by decide
  · rw [List.mem_singleton.mp hfield]
    exact show "location" ≠ "allow" by decide

/-! ### Answers without a handler -/

namespace Resolution

variable {H : Type} {met : Resolution H}

/-- An answer that needs no handler is the answer, whatever handlers do. -/
theorem answer_of_reply {α : Type} {reply : Response}
    (h : met.answer (fun _ => none) some = some reply) (run : H → α) (own : Response → α) :
    met.answer run own = own reply := by
  cases met with
  | handler pattern handler => cases h
  | redirect location => exact congrArg own (Option.some.inj h)
  | notAllowed methods => exact congrArg own (Option.some.inj h)
  | notFound => exact congrArg own (Option.some.inj h)

theorem eq_handler_of_reply_none (h : met.answer (fun _ => none) some = (none : Option Response)) :
    ∃ pattern handler, met = .handler pattern handler := by
  cases met with
  | handler pattern handler => exact ⟨pattern, handler, rfl⟩
  | redirect location => cases h
  | notAllowed methods => cases h
  | notFound => cases h

end Resolution

namespace Router

section Replies

variable {H : Type} {r : Router H} {contextPath : String} {routes : List (Route H)}

/-- The answer that a router gives by itself. There is none where it asks a handler. -/
def reply? (r : Router H) (method : Method) (target : Target) : Option Response :=
  (r.resolve method target).answer (fun _ => none) some

/-- A pattern of the routes has a method. -/
theorem Reflects.keys_ne_nil (h : r.Reflects contextPath routes) {pattern : String}
    (hpattern : Route.isPattern routes pattern = true) : (r.table.verbsAt pattern).keys ≠ [] := by
  obtain ⟨route, hroute, rfl⟩ := Route.isPattern_iff.mp hpattern
  have hhandler := h.table.handler route.method route.pattern
  rw [Route.handler?_of_mem h.table.nodup hroute] at hhandler
  -- the route that makes the path a pattern has a method, which is a key there
  have hkey : route.method ∈ (r.table.verbsAt route.pattern).keys :=
    KeyMap.contains_iff_mem_keys.mp (Option.isSome_iff_exists.mpr ⟨_, hhandler⟩)
  exact List.ne_nil_of_mem hkey

/-- **Answers and methods.** The requests for a path come to a pattern, which refuses the methods
that it lacks; or their method plays no part, and they are sent elsewhere or told that there is
nothing. -/
theorem Reflects.reply?_cases (h : r.Reflects contextPath routes) (path : String) :
    (∃ verbs : Verbs H, verbs.keys ≠ [] ∧ ∀ method query,
      r.reply? method ⟨path, query⟩ =
        if method ∈ verbs.keys then none else some (.methodNotAllowed verbs.keys)) ∨
    ∀ query,
      (∃ location, ∀ method, r.reply? method ⟨path, query⟩ = some (.movedPermanently location)) ∨
      ∀ method, r.reply? method ⟨path, query⟩ = some .notFound := by
  -- what is found depends on the path alone: a pattern, a redirect to one, or nothing
  rcases h.table.find_cases path with ⟨pattern, hpattern, hfind⟩ | ⟨-, -, -, hfind⟩ | hfind
  · refine Or.inl ⟨r.table.verbsAt pattern, h.keys_ne_nil hpattern, fun method query => ?_⟩
    simp only [reply?, resolve, hfind, ← KeyMap.contains_iff_mem_keys, KeyMap.contains]
    cases (r.table.verbsAt pattern).find? method <;> rfl
  · refine Or.inr fun query => ?_
    simp only [reply?, resolve, hfind]
    -- it is a redirect if the location can be sent, and the location has no method in it
    split
    · exact Or.inl ⟨_, fun _ => rfl⟩
    · exact Or.inr fun _ => rfl
  · refine Or.inr fun query => Or.inr fun method => ?_
    simp only [reply?, resolve, hfind]
    rfl

end Replies

section Serve

variable {σ : Type} {r : Router (Handler σ)} {contextPath : String}
  {routes : List (Route (Handler σ))} {request : Request}

theorem serve_of_reply? {reply : Response}
    (h : r.reply? request.method request.target = some reply) (s : σ) :
    r.serve request s = (reply, s) :=
  Resolution.answer_of_reply h _ _

/-- Where a router does not answer by itself, it asks the handler of a route for the method. -/
theorem Reflects.serve_of_reply?_none (h : r.Reflects contextPath routes)
    (hnone : r.reply? request.method request.target = none) :
    ∃ route ∈ routes, route.method = request.method ∧
      ∀ s, r.serve request s = route.handler request s := by
  obtain ⟨pattern, handler, hmet⟩ := Resolution.eq_handler_of_reply_none hnone
  -- the handler that was found is that of a route, since the table holds no other
  have hheld := find?_of_resolve hmet
  rw [h.table.handler, Route.handler?_eq_some_iff h.table.nodup] at hheld
  refine ⟨_, hheld, rfl, fun s => ?_⟩
  unfold serve
  rw [hmet]
  rfl

end Serve

/-! ### What is allowed -/

/-- What a router with the given routes answers to the requests for a path. -/
structure AllowsDelegated {σ : Type} (r : Router (Handler σ)) (routes : List (Route (Handler σ)))
    (path : String) : Prop where
  /-- What the router answers by itself is the answer, and no state changes. -/
  replied : ∀ request : Request, request.target.path = path → ∀ reply,
    r.reply? request.method request.target = some reply → ∀ s, r.serve request s = (reply, s)
  /-- Any other request is given to the handler of a route for its method. -/
  delegated : ∀ request : Request, request.target.path = path →
    r.reply? request.method request.target = none →
    ∃ route ∈ routes, route.method = request.method ∧
      ∀ s, r.serve request s = route.handler request s
  /-- A refusal has one field with the allowed methods. They are in the order of their bytes, there
  is at least one, and they are the methods whose requests for the path are given to a handler. -/
  allowed : ∀ method query reply, r.reply? method ⟨path, query⟩ = some reply →
    reply.status = 405 →
    ∃ methods : List Method, methods ≠ [] ∧
      methods.Pairwise (fun a b => Text.Utf8.encode a.text < Text.Utf8.encode b.text) ∧
      (∀ other query', other ∈ methods ↔ r.reply? other ⟨path, query'⟩ = none) ∧
      isHeaderValue (", ".intercalate (methods.map (·.text))) = true ∧
      reply.headers.filter (·.name = "allow") =
        [⟨"allow", ", ".intercalate (methods.map (·.text))⟩]
  /-- Any other answer of the router has no such field. -/
  unallowed : ∀ method query reply, r.reply? method ⟨path, query⟩ = some reply →
    reply.status ≠ 405 → ∀ field ∈ reply.headers, field.name ≠ "allow"
  /-- Whether there is nothing, a redirect, or a pattern with a handler or a refusal, is the same
  for every method. -/
  alike : ∀ query,
    (∀ method, r.reply? method ⟨path, query⟩ = some .notFound) ∨
    (∃ location, ∀ method, r.reply? method ⟨path, query⟩ = some (.movedPermanently location)) ∨
    ∀ method, r.reply? method ⟨path, query⟩ = none ∨
      ∃ methods, r.reply? method ⟨path, query⟩ = some (.methodNotAllowed methods)

/-- A router that holds the given routes answers as `AllowsDelegated` says. -/
theorem Reflects.allowsDelegated {σ : Type} {r : Router (Handler σ)} {contextPath : String}
    {routes : List (Route (Handler σ))} (h : r.Reflects contextPath routes) (path : String) :
    r.AllowsDelegated routes path where
  replied request _ reply hreply s := serve_of_reply? hreply s
  delegated request _ hnone := h.serve_of_reply?_none hnone
  allowed method query reply hreply hstatus := by
    rcases h.reply?_cases path with ⟨verbs, hne, hverbs⟩ | hother
    · rw [hverbs] at hreply
      split at hreply
      · cases hreply
      · obtain rfl := Option.some.inj hreply
        refine ⟨verbs.keys, hne, ?_, fun other query' => ?_,
          Response.isHeaderValue_allowText verbs.keys, rfl⟩
        · -- the keys ascend as texts, and texts compare as their bytes do
          exact verbs.keys_ascending.imp fun hlt => Text.Utf8.encode_lt_iff.mpr hlt
        · -- the router leaves exactly the keys to handlers
          rw [hverbs]
          split
          · next hmem => exact ⟨fun _ => rfl, fun _ => hmem⟩
          · next hmem => exact ⟨fun hin => absurd hin hmem, nofun⟩
    · -- the other answers have other statuses
      rcases hother query with ⟨location, hmoved⟩ | hnone
      · rw [hmoved] at hreply
        obtain rfl := Option.some.inj hreply
        exact absurd hstatus (show (301 : ℕ) ≠ 405 by decide)
      · rw [hnone] at hreply
        obtain rfl := Option.some.inj hreply
        exact absurd hstatus (by decide)
  unallowed method query reply hreply hstatus := by
    rcases h.reply?_cases path with ⟨verbs, -, hverbs⟩ | hother
    · rw [hverbs] at hreply
      split at hreply
      · cases hreply
      · obtain rfl := Option.some.inj hreply
        exact absurd rfl hstatus
    · rcases hother query with ⟨location, hmoved⟩ | hnone
      · rw [hmoved] at hreply
        obtain rfl := Option.some.inj hreply
        exact Response.ne_allow_of_movedPermanently location
      · rw [hnone] at hreply
        obtain rfl := Option.some.inj hreply
        exact Response.ne_allow_of_notFound
  alike query := by
    rcases h.reply?_cases path with ⟨verbs, -, hverbs⟩ | hother
    · refine Or.inr (Or.inr fun method => ?_)
      rw [hverbs]
      split
      · exact Or.inl rfl
      · exact Or.inr ⟨_, rfl⟩
    · rcases hother query with hmoved | hnone
      · exact Or.inr (Or.inl hmoved)
      · exact Or.inl hnone

/-- **Allowed methods.** Whatever was registered through a router and its clones: a refusal names
the methods whose requests for the path are given to a handler, in the order of their bytes, and no
other answer of the router names any. What the path meets, be it nothing, a redirect or a pattern,
is the same for every method. -/
theorem allows_delegated {σ : Type} (contextPath : String)
    (ops : List (Board.Op (Route (Handler σ)))) (clone : ℕ) (r : Router (Handler σ))
    (path : String)
    (hclone : ((Board.ofValue (ofContextPath contextPath)).run register ops).board.value? clone
      = some r) :
    r.AllowsDelegated
      (Route.accepted contextPath
        ((Board.ofValue (ofContextPath contextPath)).run register ops).log) path :=
  (reflects_run hclone).allowsDelegated path

/-- A method in lower case is another method. -/
def lowerGet : Method := ⟨"get", by decide⟩

/-- A subtree with three methods, of which one is in lower case. -/
def verbsOps : List (Board.Op (Route (Handler Nat))) :=
  [.call 0 ⟨lowerGet, "/files/", counting⟩, .clone 0, .call 1 ⟨.post, "/files/", counting⟩,
    .call 0 ⟨.get, "/files/", counting⟩]

/-- A path of the subtree is refused for another method, with the three methods in the order of
their bytes. -/
theorem allows_delegated_lower :
    let delete : Method := ⟨"DELETE", by decide⟩
    let target : Target := { path := "/api/files/a" }
    ∃ r : Router (Handler Nat),
      ((Board.ofValue (ofContextPath "/api")).run register verbsOps).board.value? 1 = some r ∧
      ∃ reply, (∀ s, r.serve { method := delete, target } s = (reply, s)) ∧ reply.status = 405 ∧
        reply.headers.filter (·.name = "allow") = [⟨"allow", "GET, POST, get"⟩] ∧
        ∃ methods : List Method, ", ".intercalate (methods.map (·.text)) = "GET, POST, get" ∧
          ∀ method, method ∈ methods ↔ r.reply? method target = none := by
  intro delete target
  have hclone : ∃ r : Router (Handler Nat),
      ((Board.ofValue (ofContextPath "/api")).run register verbsOps).board.value? 1 = some r ∧
      r.reply? delete target = some (.methodNotAllowed [.get, .post, lowerGet]) :=
    ⟨_, rfl, by decide +kernel⟩
  obtain ⟨r, hr, hreply⟩ := hclone
  have hallows := allows_delegated "/api" verbsOps 1 r "/api/files/a" hr
  obtain ⟨methods, -, -, hmethods, -, hfield⟩ := hallows.allowed delete none _ hreply rfl
  have hvalue : (Response.methodNotAllowed [.get, .post, lowerGet]).headers.filter
      (·.name = "allow") = [⟨"allow", "GET, POST, get"⟩] := rfl
  refine ⟨r, hr, _, fun s => hallows.replied { method := delete, target } rfl _ hreply s, rfl,
    hvalue, methods, ?_, fun method => hmethods method none⟩
  rw [hfield] at hvalue
  exact (HeaderField.mk.inj (List.cons.inj hvalue).1).2

end Router

end ServiceHost
