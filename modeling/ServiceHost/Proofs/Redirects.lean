import ServiceHost.Proofs.RouteHistory
import ServiceHost.Proofs.TaskParameters

/-!
# Redirects

A path that is no pattern, but is one with a slash after it, is redirected there. The location
keeps the query. What a router is asked for in turn is a pattern, so that it is answered there: no
redirect leads to another one, and none leads nowhere.

* `Target.Plain` says what is known of the characters of a target, and `Target.Plain.of_parse?` that
  it is known of every target that is read. `Target.eq_or_written_of_parse?` says which targets are
  read.
* `RouteTable.Reflects.find_cases` goes through what a path can meet.
* `Router.redirects_once` says what a redirect is, where it leads, and that there is always a
  location to send.
-/

namespace ServiceHost

/-! ### Characters -/

/-- Whether a character is an ASCII control character. -/
def isControlChar (c : Char) : Bool := c.toNat < 0x20 || c.toNat == 0x7F

theorem isHeaderChar_of_isControlChar_eq_false {c : Char} (h : isControlChar c = false) :
    isHeaderChar c = true := by
  simp only [isControlChar, Bool.or_eq_false_iff, decide_eq_false_iff_not, beq_eq_false_iff_ne] at h
  simp only [isHeaderChar, Bool.or_eq_true, Bool.and_eq_true, decide_eq_true_eq, bne_iff_ne]
  exact Or.inr ⟨Nat.not_lt.mp h.1, h.2⟩

namespace Target

theorem isControlChar_of_isPathChar {c : Char} (h : isPathChar c = true) :
    isControlChar c = false := by
  simp only [isPathChar, Bool.or_eq_true, Bool.and_eq_true, beq_iff_eq, decide_eq_true_eq] at h
  simp only [isControlChar, Bool.or_eq_false_iff, decide_eq_false_iff_not, beq_eq_false_iff_ne]
  omega

theorem isControlChar_of_isQueryChar {c : Char} (h : isQueryChar c = true) :
    isControlChar c = false := by
  simp only [isQueryChar, Bool.or_eq_true, Bool.and_eq_true, beq_iff_eq, decide_eq_true_eq] at h
  simp only [isControlChar, Bool.or_eq_false_iff, decide_eq_false_iff_not, beq_eq_false_iff_ne]
  omega

/-- A target without control characters, with nothing in its path that ends a path. -/
structure Plain (t : Target) : Prop where
  path : ∀ c ∈ t.path.toList, endsPath c = false ∧ isControlChar c = false
  query : ∀ query ∈ t.query, ∀ c ∈ query.toList, isControlChar c = false

/-- Such a target may stand in a header field. -/
theorem Plain.sendable {t : Target} (h : t.Plain) : t.Sendable where
  path := List.all_eq_true.mpr fun c hc =>
    isHeaderChar_of_isControlChar_eq_false (h.path c hc).2
  query query hquery := List.all_eq_true.mpr fun c hc =>
    isHeaderChar_of_isControlChar_eq_false (h.query query hquery c hc)

theorem Written.plain {t : Target} (h : t.Written) : t.Plain where
  path c hc :=
    ⟨not_endsPath_of_isPathChar (h.path c hc), isControlChar_of_isPathChar (h.path c hc)⟩
  query query hquery c hc := isControlChar_of_isQueryChar (h.query query hquery c hc)

/-! ### What is read -/

/-- What is read of a path and a query has their characters. -/
theorem chars_of_ofOrigin? {cs : List Char} {t : Target} (h : ofOrigin? cs = some t) :
    (∀ c ∈ t.path.toList, isPathChar c = true) ∧
      ∀ query ∈ t.query, ∀ c ∈ query.toList, isQueryChar c = true := by
  obtain ⟨hpath, hchars⟩ := path_of_ofOrigin? h
  refine ⟨fun c hc => ?_, fun query hquery c hc => ?_⟩
  · rw [hpath, String.toList_ofList] at hc
    exact List.all_eq_true.mp hchars c hc
  · simp only [ofOrigin?, hchars, Bool.not_true, Bool.false_eq_true, ↓reduceIte] at h
    split at h
    · split at h
      · next hall =>
        obtain rfl := Option.some.inj h
        obtain rfl := Option.some.inj hquery
        rw [String.toList_ofList] at hc
        exact List.all_eq_true.mp hall c hc
      · cases h
    · obtain rfl := Option.some.inj h
      cases hquery

/-- What is read behind a slash begins with it. -/
theorem written_of_ofOrigin? {rest : List Char} {t : Target}
    (h : ofOrigin? ('/' :: rest) = some t) : t.Written := by
  obtain ⟨hpath, hquery⟩ := chars_of_ofOrigin? h
  -- a slash does not end a path, so it is the first character that is taken
  have hlist : t.path.toList = '/' :: rest.takeWhile (!endsPath ·) := by
    rw [(path_of_ofOrigin? h).1, String.toList_ofList, List.takeWhile_cons_of_pos (by decide)]
  refine ⟨?_, hpath, hquery⟩
  rw [beginsWith_iff, hlist]
  exact List.prefix_append ['/'] _

/-- Where a path ends at once, none is read. -/
theorem path_eq_empty_of_ofOrigin? {cs : List Char} {t : Target}
    (hend : ∀ c ∈ cs.head?, endsPath c = true) (h : ofOrigin? cs = some t) : t.path = "" := by
  have hpath := (path_of_ofOrigin? h).1
  cases cs with
  | nil => exact hpath
  | cons c rest =>
    rwa [List.takeWhile_cons_of_neg (by rw [hend c rfl]; decide)] at hpath

/-- What is left behind an authority begins with what ends one. -/
theorem endsAuthority_of_splitAuthority? {cs authority rest : List Char} {c : Char}
    (h : splitAuthority? cs = some (authority, c :: rest)) : endsAuthority c = true := by
  simp only [splitAuthority?, Option.bind_eq_bind, Option.bind_eq_some_iff] at h
  obtain ⟨scan, -, hscan⟩ := h
  split at hscan
  · -- the rest is what is left when all that ends no authority is dropped
    have hdrop := (Prod.mk.inj (Option.some.inj hscan)).2
    have hhead := List.head?_dropWhile_not (!endsAuthority ·) cs
    rw [hdrop] at hhead
    simpa using hhead
  · cases hscan

/-- Behind an authority a path begins with a slash, or there is none. -/
theorem written_of_splitAuthority? {cs authority rest : List Char} {t : Target}
    (hsplit : splitAuthority? cs = some (authority, rest)) (hread : ofOrigin? rest = some t) :
    t.Written ∨ t.path = "" := by
  cases rest with
  | nil => exact Or.inr (path_eq_empty_of_ofOrigin? (by simp) hread)
  | cons c rest =>
    have hends := endsAuthority_of_splitAuthority? hsplit
    -- the rest begins with what ends a path as well, or with a slash
    cases hpath : endsPath c with
    | true =>
      refine Or.inr (path_eq_empty_of_ofOrigin? ?_ hread)
      rintro _ ⟨⟩
      exact hpath
    | false =>
      -- what ends an authority and does not end a path is a slash
      simp only [endsPath, Bool.or_eq_false_iff, beq_eq_false_iff_ne] at hpath
      simp only [endsAuthority, Bool.or_eq_true, beq_iff_eq, hpath.1, hpath.2, or_false] at hends
      rw [hends] at hread
      exact Or.inl (written_of_ofOrigin? hread)

/-- The path that is a slash, with the query that was read. -/
theorem written_slash {query : Option String}
    (h : ∀ text ∈ query, ∀ c ∈ text.toList, isQueryChar c = true) :
    ({ path := "/", query } : Target).Written where
  begins := show beginsWith "/" "/" = true by decide
  path := List.all_eq_true.mp (show "/".toList.all isPathChar = true by decide)
  query := h

theorem eq_or_written_of_ofAuthority? {cs : List Char} {t : Target}
    (h : ofAuthority? cs = some t) : t = { path := "" } ∨ t.Written := by
  unfold ofAuthority? at h
  split at h
  · cases h
  · split at h
    · exact Or.inl (Option.some.inj h).symm
    · cases h
  · split at h
    · next rest hsplit =>
      obtain ⟨t', hread, rfl⟩ := Option.map_eq_some_iff.mp h
      right
      -- where there is no path, a slash is put for it
      split
      · exact written_slash (chars_of_ofOrigin? hread).2
      · next hne => exact (written_of_splitAuthority? hsplit hread).resolve_right hne
    · cases h

/-- **Targets that are read.** A target that is read stands for an asterisk or for an authority
alone, or its path begins with a slash and it has the characters of a path and a query. -/
theorem eq_or_written_of_parse? {text : String} {t : Target} (h : parse? text = some t) :
    t = { path := "*" } ∨ t = { path := "" } ∨ t.Written := by
  unfold parse? at h
  split at h
  · cases h
  · split at h
    · cases h
    · -- an asterisk alone
      exact Or.inl (Option.some.inj h).symm
    · exact Or.inr (Or.inr (written_of_ofOrigin? h))
    · exact Or.inr (eq_or_written_of_ofAuthority? h)

/-- What is read is plain. -/
theorem Plain.of_parse? {text : String} {t : Target} (h : parse? text = some t) : t.Plain := by
  rcases eq_or_written_of_parse? h with rfl | rfl | hwritten
  · refine ⟨fun c hc => ?_, nofun⟩
    rw [List.mem_singleton.mp hc]
    decide
  · exact ⟨fun c hc => absurd hc List.not_mem_nil, nofun⟩
  · exact hwritten.plain

/-- A slash may be put after a path. -/
theorem Written.slashed {t : Target} (h : t.Written) :
    ({ t with path := t.path ++ "/" } : Target).Written := by
  obtain ⟨rest, hrest⟩ := beginsWith_iff.mp h.begins
  -- the path begins with a slash as before, and what is put after it is a character of paths
  refine ⟨beginsWith_iff.mpr ⟨rest ++ ['/'], ?_⟩, fun c hc => ?_, h.query⟩
  · rw [String.toList_append, ← hrest, List.append_assoc]
    rfl
  · rw [String.toList_append, List.mem_append] at hc
    rcases hc with hc | hc
    · exact h.path c hc
    · rw [List.mem_singleton.mp hc]
      decide

/-- The text of a redirect from a target that is read, other than the asterisk, is read as the path
with a slash after it and the same query, if it is not too long. -/
theorem parse?_locationText {text : String} {t : Target} (h : parse? text = some t)
    (hstar : t.path ≠ "*") :
    parse? (Router.locationText (t.path ++ "/") t.query) =
      if (Router.locationText (t.path ++ "/") t.query).utf8ByteSize > maxBytes then none
      else some { t with path := t.path ++ "/" } := by
  -- what is read and is no asterisk begins with a slash once one is put after it
  have hwritten : ({ t with path := t.path ++ "/" } : Target).Written := by
    rcases eq_or_written_of_parse? h with rfl | rfl | ht
    · exact absurd rfl hstar
    · exact written_slash nofun
    · exact ht.slashed
  have htext : Router.locationText (t.path ++ "/") t.query =
      ({ t with path := t.path ++ "/" } : Target).text := by
    unfold Router.locationText Target.text
    cases t.query <;> rfl
  rw [htext]
  exact hwritten.parse?_text

/-- The path of a location goes on to the slash that was put after it. -/
theorem Plain.takeWhile_locationText {t : Target} (h : t.Plain) :
    (Router.locationText (t.path ++ "/") t.query).toList.takeWhile (!endsPath ·) =
      (t.path ++ "/").toList := by
  -- neither the path nor the slash has a question mark or a number sign
  have hpath : ∀ c ∈ (t.path ++ "/").toList, (!endsPath c) = true := by
    intro c hc
    rw [String.toList_append, List.mem_append] at hc
    rcases hc with hc | hc
    · rw [(h.path c hc).1]
      rfl
    · rw [List.mem_singleton.mp hc]
      decide
  cases t.query with
  | none => exact List.takeWhile_eq_self_iff.mpr hpath
  | some query =>
    have htext : (Router.locationText (t.path ++ "/") (some query)).toList =
        (t.path ++ "/").toList ++ '?' :: query.toList := by
      rw [Router.locationText, String.toList_append, String.toList_append, List.append_assoc]
      rfl
    rw [htext, List.takeWhile_append_of_pos hpath, List.takeWhile_cons_of_neg (by decide),
      List.append_nil]

end Target

/-! ### What a path meets -/

namespace RouteTable.Reflects

variable {H : Type} {t : RouteTable H} {routes : List (Route H)}

/-- A pattern is met by the path that equals it. -/
theorem find_of_isPattern (h : t.Reflects routes) {path : String}
    (hpath : Route.isPattern routes path = true) : t.find path = .node path (t.verbsAt path) := by
  rw [← h.pattern] at hpath
  obtain ⟨verbs, hverbs⟩ := Option.isSome_iff_exists.mp hpath
  simp only [find, verbsAt, hverbs, Option.getD_some]

/-- **What a path meets**: a pattern of the routes, or nothing, unless it is no pattern without a
slash and is one with it. -/
theorem find_cases (h : t.Reflects routes) (path : String) :
    (∃ pattern, Route.isPattern routes pattern = true ∧
        t.find path = .node pattern (t.verbsAt pattern)) ∨
      (endsInSlash path = false ∧ Route.isPattern routes path = false ∧
        Route.isPattern routes (path ++ "/") = true ∧ t.find path = .redirect (path ++ "/")) ∨
      t.find path = .none := by
  cases hpath : Route.isPattern routes path with
  | true => exact Or.inl ⟨path, hpath, h.find_of_isPattern hpath⟩
  | false =>
    have hnone : t.nodes.find? path = none := by
      rw [← Option.not_isSome_iff_eq_none, ← KeyMap.contains, h.pattern, hpath]
      exact Bool.false_ne_true
    unfold find
    simp only [hnone, h.pattern]
    -- a redirect is looked for before the subtrees
    split
    · next hslash =>
      rw [Bool.and_eq_true, Bool.not_eq_true'] at hslash
      exact Or.inr (Or.inl ⟨hslash.1, trivial, hslash.2, rfl⟩)
    · cases hsub : t.subtrees.find? (beginsWith path) with
      | some pattern =>
        -- the list of subtrees holds patterns of the routes only
        have hnode := (h.wellFormed.find?_subtrees hsub).2.1
        rw [h.pattern] at hnode
        exact Or.inl ⟨pattern, hnode, rfl⟩
      | none => exact Or.inr (Or.inr rfl)

end RouteTable.Reflects

/-! ### Where a redirect leads -/

namespace Router

/-- What a redirect from a target to a location is, on a router with the given routes. -/
structure RedirectsTo {σ : Type} (r : Router (Handler σ)) (routes : List (Route (Handler σ)))
    (target : Target) (location : String) : Prop where
  unslashed : endsInSlash target.path = false
  unregistered : Route.isPattern routes target.path = false
  /-- The location is the path with a slash after it, and the query where there is one. -/
  location_eq : location =
    match target.query with
    | none => target.path ++ "/"
    | some query => target.path ++ "/" ++ "?" ++ query
  /-- Nothing in the location ends the path before that slash. -/
  path_eq : location.toList.takeWhile (!Target.endsPath ·) = (target.path ++ "/").toList
  registered : Route.isPattern routes (target.path ++ "/") = true
  /-- A request for the new path is answered on the pattern that equals it: by its handler for the
  method, or by a refusal. -/
  answered : ∀ next : Request, next.target.path = target.path ++ "/" →
    (∀ s, (Route.decideAt routes next.method (target.path ++ "/")).Governs next s
      (r.serve next s)) ∧
    (∀ location', r.resolve next.method next.target ≠ .redirect location') ∧
    r.resolve next.method next.target ≠ .notFound
  /-- What was read as a target, and not as an asterisk, is followed by the new path with the old
  query, unless the location is too long to be read. -/
  followed : ∀ text, Target.parse? text = some target → target.path ≠ "*" →
    Target.parse? location =
      if location.utf8ByteSize > Target.maxBytes then none
      else some { target with path := target.path ++ "/" }

variable {σ : Type} {r : Router (Handler σ)} {contextPath : String}
  {routes : List (Route (Handler σ))}

/-- Where a path meets a redirect, there is a location that can be sent. -/
theorem resolve_of_find_redirect {target : Target} (hplain : target.Plain)
    (hfind : r.table.find target.path = .redirect (target.path ++ "/")) (method : Method) :
    r.resolve method target = .redirect (locationText (target.path ++ "/") target.query) := by
  unfold resolve
  rw [hfind]
  simp only [isHeaderValue_locationText hplain.sendable, if_true]

/-- A pattern is met by its handler for the method or by its methods. -/
theorem resolve_of_find_node {H : Type} {r : Router H} {target : Target} {pattern : String}
    {verbs : Verbs H} (hfind : r.table.find target.path = .node pattern verbs) (method : Method) :
    (∃ handler, r.resolve method target = .handler pattern handler) ∨
      r.resolve method target = .notAllowed verbs.keys := by
  simp only [resolve, hfind]
  split
  · exact Or.inl ⟨_, rfl⟩
  · exact Or.inr rfl

/-- A request for a pattern is answered there. -/
theorem Reflects.answered (h : r.Reflects contextPath routes) {request : Request}
    (hpath : Route.isPattern routes request.target.path = true) :
    (∀ s, (Route.decideAt routes request.method request.target.path).Governs request s
      (r.serve request s)) ∧
    (∀ location, r.resolve request.method request.target ≠ .redirect location) ∧
    r.resolve request.method request.target ≠ .notFound := by
  have hfind := h.table.find_of_isPattern hpath
  refine ⟨fun s => h.governs_node request s _ hfind, ?_⟩
  -- on a pattern there is a handler or a refusal
  rcases resolve_of_find_node hfind request.method with ⟨handler, hmet⟩ | hmet
  · rw [hmet]
    exact ⟨nofun, nofun⟩
  · rw [hmet]
    exact ⟨nofun, nofun⟩

/-- A redirect is what `RedirectsTo` says. -/
theorem Reflects.redirectsTo (h : r.Reflects contextPath routes) {method : Method}
    {target : Target} (hplain : target.Plain) {location : String}
    (hredirect : r.resolve method target = .redirect location) :
    r.RedirectsTo routes target location := by
  rcases h.table.find_cases target.path with
    ⟨pattern, -, hfind⟩ | ⟨hslash, hold, hnew, hfind⟩ | hfind
  · -- on a pattern there is no redirect
    rcases resolve_of_find_node hfind method with ⟨handler, hmet⟩ | hmet
    · rw [hmet] at hredirect
      cases hredirect
    · rw [hmet] at hredirect
      cases hredirect
  · -- the one way to a redirect is a path that is a pattern once it has a slash
    rw [resolve_of_find_redirect hplain hfind] at hredirect
    obtain rfl := Resolution.redirect.inj hredirect
    refine ⟨hslash, hold, ?_, hplain.takeWhile_locationText, hnew, fun next hnext => ?_,
      fun text hread hstar => Target.parse?_locationText hread hstar⟩
    · unfold locationText
      cases target.query <;> rfl
    · rw [← hnext] at hnew ⊢
      exact h.answered hnew
  · simp only [resolve, hfind] at hredirect
    cases hredirect

/-- **Redirects lead to a pattern, once.** Whatever was registered through a router and its clones:
where a request without control characters is redirected, the location is that of a registered
pattern with the query of the request, and whoever follows it is answered there. A redirect that a
path meets can always be sent. -/
theorem redirects_once {σ : Type} (contextPath : String)
    (ops : List (Board.Op (Route (Handler σ)))) (clone : ℕ) (r : Router (Handler σ))
    (request : Request)
    (hclone : ((Board.ofValue (ofContextPath contextPath)).run register ops).board.value? clone
      = some r)
    (hplain : request.target.Plain) :
    let run := (Board.ofValue (ofContextPath contextPath)).run register ops
    (∀ location, r.resolve request.method request.target = .redirect location →
      (∀ s, r.serve request s = (.movedPermanently location, s)) ∧
      r.RedirectsTo (Route.accepted contextPath run.log) request.target location) ∧
    ∀ path, r.table.find request.target.path = .redirect path →
      ∃ location, r.resolve request.method request.target = .redirect location := by
  have h := reflects_run hclone
  refine ⟨fun location hredirect => ⟨fun s => ?_, h.redirectsTo hplain hredirect⟩,
    fun path hfind => ?_⟩
  · unfold serve
    rw [hredirect]
    rfl
  · rcases h.table.find_cases request.target.path with
      ⟨pattern, -, hnode⟩ | ⟨-, -, -, hmoved⟩ | hnone
    · rw [hnode] at hfind
      cases hfind
    · exact ⟨_, resolve_of_find_redirect hplain hmoved request.method⟩
    · rw [hnone] at hfind
      cases hfind

/-- A subtree under a context path. -/
def subtreeOps : List (Board.Op (Route (Handler Nat))) := [.call 0 ⟨.get, "/", counting⟩]

/-- The context path without a slash and with an empty query is redirected to the subtree, and the
query stays. A request for another method is refused there. -/
theorem redirects_once_empty_query :
    let target : Target := { path := "/api", query := some "" }
    ∃ r : Router (Handler Nat),
      ((Board.ofValue (ofContextPath "/api")).run register subtreeOps).board.value? 0 = some r ∧
      target.Plain ∧
      r.serve { method := .get, target } 0 = (.movedPermanently "/api/?", 0) ∧
      ∃ methods, r.serve { method := .post, target := { path := "/api/" } } 0 =
        (.methodNotAllowed methods, 0) := by
  have hclone : ∃ r : Router (Handler Nat),
      ((Board.ofValue (ofContextPath "/api")).run register subtreeOps).board.value? 0 = some r ∧
      ∀ method, r.resolve method { path := "/api", query := some "" } = .redirect "/api/?" :=
    ⟨_, rfl, fun _ => rfl⟩
  intro target
  obtain ⟨r, hr, hresolve⟩ := hclone
  have hread : Target.parse? "/api?" = some target := by rfl
  have hplain := Target.Plain.of_parse? hread
  obtain ⟨hserve, hredirects⟩ :=
    (redirects_once "/api" subtreeOps 0 r { method := .get, target } hr hplain).1 _ (hresolve _)
  -- at the new path there is one method, and a post is refused
  have hdecide : Route.decideAt
      (Route.accepted "/api" ((Board.ofValue (ofContextPath "/api")).run register subtreeOps).log)
      .post "/api/" = .refuse := by rfl
  have hanswer :=
    (hredirects.answered { method := .post, target := { path := "/api/" } } rfl).1 0
  change (Route.decideAt _ .post "/api/").Governs _ _ _ at hanswer
  rw [hdecide] at hanswer
  exact ⟨r, hr, hplain, hserve 0, hanswer⟩

end Router

end ServiceHost
