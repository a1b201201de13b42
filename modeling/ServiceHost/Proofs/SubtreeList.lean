import ServiceHost.Proofs.AllowedMethods

/-!
# The list of subtrees

A table keeps its subtrees in a list besides the patterns, so that a path need not be compared with
all of them. A subtree enters the list when its pattern is registered for the first time; a further
method on a pattern and a route that is refused leave the list alone. So the list has every
registered subtree once, and since of two patterns that a path begins with one is longer, the first
that it begins with is the longest.

* `RouteTable.placeSubtree_perm`: a subtree that is put in its place is one more in the list.
* `Router.nodup_subtrees_register` is the step, and `Router.nodup_subtrees_run` the run.
* `RouteTable.Caches` says what the list is to the registered routes, and `Router.table_cached` that
  it is so in every table that registrations lead to.
-/

namespace ServiceHost

/-! ### Beginnings of equal size -/

/-- Two beginnings of one text that have as many bytes are the same. -/
theorem eq_of_beginsWith_of_utf8ByteSize_eq {path a b : String} (ha : beginsWith path a = true)
    (hb : beginsWith path b = true) (h : a.utf8ByteSize = b.utf8ByteSize) : a = b := by
  refine eq_of_beginsWith_of_length_eq ha hb (Nat.le_antisymm ?_ ?_)
  · exact length_le_of_beginsWith ha hb h.le
  · exact length_le_of_beginsWith hb ha h.ge

namespace RouteTable

variable {H : Type}

/-! ### One subtree more -/

theorem placeSubtree_perm (pattern : String) (subtrees : List String) :
    (placeSubtree pattern subtrees).Perm (pattern :: subtrees) := by
  induction subtrees with
  | nil => exact .refl _
  | cons other rest ih =>
    unfold placeSubtree
    split
    · exact .refl _
    · exact (ih.cons other).trans (.swap pattern other rest)

/-- A subtree enters the list only if its pattern is new, and then it is not there yet. -/
theorem WellFormed.nodup_insert {t : RouteTable H} (h : t.WellFormed) (hnodup : t.subtrees.Nodup)
    (method : Method) (pattern : String) (handler : H) :
    (t.insert method pattern handler).subtrees.Nodup := by
  unfold RouteTable.insert
  split
  · next hnew =>
    -- the list has registered patterns only, and this one is not registered yet
    have hfresh : pattern ∉ t.subtrees := by
      intro hmem
      have hold := ((h.mem_subtrees pattern).mp hmem).2
      simp [hold] at hnew
    exact (placeSubtree_perm pattern t.subtrees).nodup_iff.mpr
      (List.nodup_cons.mpr ⟨hfresh, hnodup⟩)
  · exact hnodup

/-! ### The longest subtree -/

/-- What the list of subtrees is to the registered routes. -/
structure Caches (t : RouteTable H) (routes : List (Route H)) : Prop where
  /-- The list has the registered patterns that end in a slash, -/
  mem_subtrees_iff : ∀ p,
    p ∈ t.subtrees ↔ Route.isPattern routes p = true ∧ endsInSlash p = true
  /-- each once, -/
  subtrees_nodup : t.subtrees.Nodup
  /-- and none of them stands before one with more bytes. -/
  subtrees_ordered : t.subtrees.Pairwise fun a b => b.utf8ByteSize ≤ a.utf8ByteSize
  /-- The table has the registered patterns, -/
  find?_isSome_iff : ∀ p, (t.nodes.find? p).isSome = true ↔ Route.isPattern routes p = true
  /-- and every pattern in the table has a method. -/
  exists_method : ∀ p verbs, t.nodes.find? p = some verbs → ∃ method, method ∈ verbs.keys
  /-- A path begins with no more than one pattern of a size. -/
  one_of_size : ∀ path a b, Route.isPattern routes a = true → Route.isPattern routes b = true →
    beginsWith path a = true → beginsWith path b = true → a.utf8ByteSize = b.utf8ByteSize → a = b
  /-- The first subtree of the list that a path begins with is longer than any other of them that it
  begins with. -/
  first_iff : ∀ path pattern, t.subtrees.find? (beginsWith path) = some pattern ↔
    pattern ∈ t.subtrees ∧ beginsWith path pattern = true ∧
      ∀ other ∈ t.subtrees, beginsWith path other = true → other ≠ pattern →
        other.utf8ByteSize < pattern.utf8ByteSize

/-- In a list without doubles that has the longest first, the first subtree that a path begins with
is the longest of those that it begins with, and there is no other. -/
theorem find?_subtrees_iff {subtrees : List String}
    (hordered : subtrees.Pairwise fun a b => b.utf8ByteSize ≤ a.utf8ByteSize)
    (path pattern : String) :
    subtrees.find? (beginsWith path) = some pattern ↔
      pattern ∈ subtrees ∧ beginsWith path pattern = true ∧
        ∀ other ∈ subtrees, beginsWith path other = true → other ≠ pattern →
          other.utf8ByteSize < pattern.utf8ByteSize := by
  have hfound : ∀ {first}, subtrees.find? (beginsWith path) = some first →
      first ∈ subtrees ∧ beginsWith path first = true ∧
        ∀ other ∈ subtrees, beginsWith path other = true → other ≠ first →
          other.utf8ByteSize < first.utf8ByteSize := by
    intro first hfirst
    obtain ⟨hbegins, before, after, rfl, hnone⟩ := List.find?_eq_some_iff_append.mp hfirst
    refine ⟨List.mem_append_right _ List.mem_cons_self, hbegins, fun other hother hpath hne => ?_⟩
    rcases List.mem_append.mp hother with hother | hother
    · -- the path begins with nothing that stands before the first match
      have := hnone other hother
      simp [hpath] at this
    · -- what stands behind it has no more bytes, and not as many
      have hafter : other ∈ after := (List.mem_cons.mp hother).resolve_left hne
      have hle := (List.pairwise_cons.mp (List.pairwise_append.mp hordered).2.1).1 other hafter
      exact lt_of_le_of_ne hle fun h =>
        hne (eq_of_beginsWith_of_utf8ByteSize_eq hpath hbegins h)
  refine ⟨hfound, fun ⟨hmem, hbegins, hlongest⟩ => ?_⟩
  -- something is found, and were it another one, each of the two would be longer
  obtain ⟨first, hfirst⟩ := Option.isSome_iff_exists.mp
    (List.find?_isSome.mpr ⟨pattern, hmem, hbegins⟩)
  obtain ⟨hmem', hbegins', hlongest'⟩ := hfound hfirst
  by_cases hsame : first = pattern
  · rw [hfirst, hsame]
  · have hlt := hlongest first hmem' hbegins' hsame
    exact absurd (hlongest' pattern hmem hbegins (Ne.symm hsame)) hlt.asymm

end RouteTable

namespace Router

variable {H : Type} {contextPath : String}

/-! ### Registrations -/

/-- **The step.** A registration, accepted or refused, brings no double into the list. -/
theorem nodup_subtrees_register {r : Router H} (h : r.table.WellFormed)
    (hnodup : r.table.subtrees.Nodup) (route : Route H) :
    (r.register route).1.table.subtrees.Nodup := by
  rcases r.register_cases route with ⟨-, hr⟩ | ⟨-, -, hr⟩ | ⟨-, -, hr⟩
  · rwa [hr]
  · rwa [hr]
  · rw [hr]
    exact h.nodup_insert hnodup _ _ _

/-- **The run.** Whatever is registered through a router and its clones, there is no double in the
list. -/
theorem nodup_subtrees_run {ops : List (Board.Op (Route H))} {clone : ℕ} {r : Router H}
    (hclone : ((Board.ofValue (ofContextPath contextPath)).run register ops).board.value? clone
      = some r) :
    r.table.subtrees.Nodup := by
  have start : (ofContextPath contextPath : Router H).Reflects contextPath
      (Route.accepted contextPath []) := ⟨rfl, .empty⟩
  -- that a new subtree is not in the list takes the routes with it, so both go into the invariant
  exact (Board.run_invariant
    (P := fun log r => Router.Reflects contextPath r (Route.accepted contextPath log) ∧
      r.table.subtrees.Nodup) ⟨start, List.nodup_nil⟩
    (fun log r route hr =>
      ⟨hr.1.register route, nodup_subtrees_register hr.1.table.wellFormed hr.2 route⟩) ops hclone).2

/-- **The list of every table.** Whatever is registered through a router and its clones, accepted or
refused, the list of subtrees of each of them has exactly the accepted patterns that end in a slash,
each once and the longest first, every pattern in the table has a method, and the first subtree that
a path begins with is the longest. -/
theorem table_cached (contextPath : String) (ops : List (Board.Op (Route H))) (clone : ℕ)
    (r : Router H)
    (hclone : ((Board.ofValue (ofContextPath contextPath)).run register ops).board.value? clone
      = some r) :
    r.table.Caches (Route.accepted contextPath
      ((Board.ofValue (ofContextPath contextPath)).run register ops).log) := by
  have h := reflects_run hclone
  have hwell := h.table.wellFormed
  refine ⟨fun p => ?_, nodup_subtrees_run hclone, hwell.longest_first, fun p => ?_,
    fun p verbs hverbs => ?_, fun path a b _ _ => eq_of_beginsWith_of_utf8ByteSize_eq,
    RouteTable.find?_subtrees_iff hwell.longest_first⟩
  · rw [hwell.mem_subtrees, h.table.pattern, and_comm]
  · rw [← h.table.pattern]
    rfl
  · -- a pattern is in the table because a route has it, with the method of the route
    have hcontains : r.table.nodes.contains p = true := by
      rw [KeyMap.contains, hverbs]
      rfl
    have hkeys := h.keys_ne_nil ((h.table.pattern p).symm.trans hcontains)
    rw [RouteTable.verbsAt, hverbs, Option.getD_some] at hkeys
    exact List.exists_mem_of_ne_nil _ hkeys

/-- A subtree that is registered behind a longer one, a second method on it, and a double that is
refused. -/
def staticOps : List (Board.Op (Route Nat)) :=
  [.clone 0, .call 0 ⟨.get, "/static/css/", 0⟩, .call 1 ⟨.get, "/static/", 1⟩,
    .call 0 ⟨.post, "/static/", 2⟩, .call 1 ⟨.get, "/static/", 3⟩, .call 1 ⟨.get, "/ping", 4⟩]

theorem table_cached_static :
    ∃ r : Router Nat,
      ((Board.ofValue (ofContextPath "/api")).run register staticOps).board.value? 1 = some r ∧
      r.table.subtrees = ["/api/static/css/", "/api/static/"] ∧
      r.table.subtrees.find? (beginsWith "/api/static/site.css") = some "/api/static/" ∧
      ∀ other ∈ r.table.subtrees, beginsWith "/api/static/site.css" other = true →
        other ≠ "/api/static/" → other.utf8ByteSize < "/api/static/".utf8ByteSize := by
  have hclone : ∃ r : Router Nat,
      ((Board.ofValue (ofContextPath "/api")).run register staticOps).board.value? 1 = some r ∧
      r.table.subtrees = ["/api/static/css/", "/api/static/"] := ⟨_, rfl, by decide⟩
  obtain ⟨r, hr, hsubtrees⟩ := hclone
  have hfirst : r.table.subtrees.find? (beginsWith "/api/static/site.css") =
      some "/api/static/" := by
    rw [hsubtrees]
    decide
  have hcached := table_cached "/api" staticOps 1 r hr
  exact ⟨r, hr, hsubtrees, hfirst, ((hcached.first_iff _ _).mp hfirst).2.2⟩

end Router

end ServiceHost
