import Mathlib.Data.List.Basic
import ServiceHost.Proofs.Unwinding

/-!
# The order of bundles

A bundle is initialized as soon as it is added, and enters the list only when its initialization is
over. So a forest of bundles is initialized in the order in which its trees are entered, and listed
in the order in which they are left. Both orders are said of addresses, which tell the bundles of a
forest apart: a bundle comes before all that it added where trees are entered and after it where they
are left, and of two bundles of which neither was added below the other the earlier branch comes
first.

The bundles are run in the order of the list, each in the environment that the one before it left,
up to the first that fails.

* `Address.Before` is the order of the addresses, and `Forest.Traverses` says that a list of bundles
  follows it.
* `Bundle.addAll_traverses` is the assembly of a forest.
* `Trail.setUps` are the runs of bundles and of the application on a trail, and
  `runBundles_of_fails`, `runBundles_of_passes` say what runs of bundles there are.
* `Bootstrap.server_runs_bundles` puts this together for every server command.
-/

namespace ServiceHost

variable {σ : Type}

/-! ### Addresses -/

/-- The order of a traversal: a tree comes before the trees below it, or after them. -/
inductive Traversal where
  | entering
  | leaving
  deriving DecidableEq

/-- A tree with what is below it, in the order of a traversal. -/
def Traversal.around {α : Type} : Traversal → α → List α → List α
  | entering, x, below => x :: below
  | leaving, x, below => below ++ [x]

theorem Traversal.mem_around {α : Type} {t : Traversal} {x y : α} {below : List α} :
    y ∈ t.around x below ↔ y = x ∨ y ∈ below := by
  cases t with
  | entering => exact List.mem_cons
  | leaving => rw [around, List.mem_append, List.mem_singleton, or_comm]

theorem Traversal.map_around {α β : Type} (t : Traversal) (f : α → β) (x : α) (below : List α) :
    (t.around x below).map f = t.around (f x) (below.map f) := by
  cases t with
  | entering => rfl
  | leaving => exact List.map_append

/-- The address of a bundle in a forest: the place of its tree, then the place among the trees that
this one added, and so on down to the bundle. -/
abbrev Address := List ℕ

/-- Which of two addresses comes first in a traversal. -/
def Address.Before (t : Traversal) : Address → Address → Prop
  | [], _ :: _ => t = .entering
  | _ :: _, [] => t = .leaving
  | i :: p, j :: q => i < j ∨ i = j ∧ Before t p q
  | [], [] => False

/-- The address one tree further to the right. -/
def Address.right : Address → Address
  | [] => []
  | i :: p => (i + 1) :: p

namespace Address

variable {t : Traversal}

theorem Before.irrefl : ∀ p : Address, ¬ Before t p p
  | [], h => h
  | _ :: p, h => h.elim (Nat.lt_irrefl _) fun h => Before.irrefl p h.2

/-- An address comes before all that are below it where trees are entered, and after them where trees
are left. -/
theorem before_append (p : Address) (i : ℕ) (q : Address) :
    Before .entering p (p ++ i :: q) ∧ Before .leaving (p ++ i :: q) p := by
  induction p with
  | nil => exact ⟨rfl, rfl⟩
  | cons j p ih => exact ⟨Or.inr ⟨rfl, ih.1⟩, Or.inr ⟨rfl, ih.2⟩⟩

theorem Before.right {p q : Address} (hp : p ≠ []) (hq : q ≠ []) (h : Before t p q) :
    Before t p.right q.right := by
  -- both first places move by one, which keeps their order, and the places below do not move
  cases p with
  | nil => exact absurd rfl hp
  | cons i p =>
    cases q with
    | nil => exact absurd rfl hq
    | cons j q => exact h.imp Nat.succ_lt_succ fun h => ⟨congrArg Nat.succ h.1, h.2⟩

end Address

namespace Bundle

/-- The bundle itself, without those that it adds. -/
def part : Bundle σ → BundlePart σ
  | tree part _ => part

/-- The bundles that a bundle adds. -/
def added : Bundle σ → List (Bundle σ)
  | tree _ added => added

/-- The bundle that an address leads to from a tree. -/
def at? : Bundle σ → Address → Option (BundlePart σ)
  | b, [] => some b.part
  | b, i :: p => b.added[i]?.bind (·.at? p)

end Bundle

namespace Forest

/-- The bundle of an address in a forest. -/
def at? (forest : List (Bundle σ)) : Address → Option (BundlePart σ)
  | [] => none
  | i :: p => forest[i]?.bind (·.at? p)

section Cons

variable (b : Bundle σ) (rest : List (Bundle σ))

/-- An address below the first tree. -/
theorem at?_cons_zero {p : Address} (hp : p ≠ []) :
    at? (b :: rest) (0 :: p) = at? b.added p := by
  cases p with
  | nil => exact absurd rfl hp
  | cons i p => rfl

/-- An address in the trees behind the first one. -/
theorem at?_cons_right {p : Address} (hp : p ≠ []) :
    at? (b :: rest) p.right = at? rest p := by
  cases p with
  | nil => exact absurd rfl hp
  | cons i p => rfl

/-- The addresses of a forest are that of its first tree, those below it and those behind it. -/
theorem isSome_at?_cons {p : Address} :
    (at? (b :: rest) p).isSome = true ↔
      (p = [0] ∨ ∃ q, (at? b.added q).isSome = true ∧ 0 :: q = p) ∨
        ∃ q, (at? rest q).isSome = true ∧ q.right = p := by
  constructor
  · intro h
    -- the first place tells the tree: none before the first tree is left out
    match p, h with
    | [0], _ => exact Or.inl (Or.inl rfl)
    | 0 :: i :: p, h => exact Or.inl (Or.inr ⟨i :: p, h, rfl⟩)
    | (i + 1) :: p, h => exact Or.inr ⟨i :: p, h, rfl⟩
  · have hne : ∀ {forest : List (Bundle σ)} {q : Address}, (at? forest q).isSome = true → q ≠ [] := by
      rintro forest q hq rfl
      exact Bool.false_ne_true hq
    -- backwards the address must not be empty, as the empty one leads to no bundle of a forest
    rintro ((rfl | ⟨q, hq, rfl⟩) | ⟨q, hq, rfl⟩)
    · rfl
    · rwa [at?_cons_zero b rest (hne hq)]
    · rwa [at?_cons_right b rest (hne hq)]

end Cons

/-- A list of bundles is the traversal of a forest: it has the bundle of every address, each once, in
the order of the addresses. -/
structure Traverses (t : Traversal) (forest : List (Bundle σ)) (addresses : List Address)
    (parts : List (BundlePart σ)) : Prop where
  mem_iff : ∀ p, p ∈ addresses ↔ (at? forest p).isSome = true
  nodup : addresses.Nodup
  inOrder : addresses.Pairwise (Address.Before t)
  parts_eq : parts.map some = addresses.map (at? forest)

namespace Traverses

variable {t : Traversal} {b : Bundle σ} {forest rest : List (Bundle σ)}
  {addresses addresses' : List Address} {parts parts' : List (BundlePart σ)}

theorem of_inOrder (hmem : ∀ p, p ∈ addresses ↔ (at? forest p).isSome = true)
    (horder : addresses.Pairwise (Address.Before t))
    (hparts : parts.map some = addresses.map (at? forest)) :
    Traverses t forest addresses parts where
  mem_iff := hmem
  nodup := by
    refine horder.imp fun {p q} h hpq => ?_
    -- no address comes before itself, so that none stands twice
    subst hpq
    exact Address.Before.irrefl p h
  inOrder := horder
  parts_eq := hparts

theorem nil (t : Traversal) : Traverses t ([] : List (Bundle σ)) [] [] :=
  of_inOrder (fun p => by cases p <;> simp [at?]) .nil rfl

theorem ne_nil (h : Traverses t forest addresses parts) {p : Address} (hp : p ∈ addresses) :
    p ≠ [] := by
  rintro rfl
  exact absurd ((h.mem_iff []).mp hp) Bool.false_ne_true

/-- The root of a tree and what is below it, in the order of a traversal. -/
theorem pairwise_around (h : Traverses t forest addresses parts) :
    (t.around [0] (addresses.map (0 :: ·))).Pairwise (Address.Before t) := by
  -- below the root the order is that of what is left of the addresses
  have hbelow : (addresses.map (0 :: ·)).Pairwise (Address.Before t) :=
    List.pairwise_map.mpr (h.inOrder.imp fun hpq => Or.inr ⟨rfl, hpq⟩)
  -- an address below the root is longer than that of the root, and the traversal tells which is first
  have hroot : ∀ q ∈ addresses.map (0 :: ·), ∃ i p, q = [0] ++ i :: p := by
    intro q hq
    obtain ⟨p, hp, rfl⟩ := List.mem_map.mp hq
    obtain ⟨i, p, rfl⟩ := List.exists_cons_of_ne_nil (h.ne_nil hp)
    exact ⟨i, p, rfl⟩
  cases t with
  | entering =>
    refine List.pairwise_cons.mpr ⟨fun q hq => ?_, hbelow⟩
    obtain ⟨i, p, rfl⟩ := hroot q hq
    exact (Address.before_append [0] i p).1
  | leaving =>
    refine List.pairwise_append.mpr ⟨hbelow, List.pairwise_singleton _ _, fun q hq r hr => ?_⟩
    rw [List.mem_singleton.mp hr]
    obtain ⟨i, p, rfl⟩ := hroot q hq
    exact (Address.before_append [0] i p).2

/-- **One tree more.** The traversal of a tree is its root around the traversal of what it added, and
the trees behind it come after that. -/
theorem cons (h : Traverses t b.added addresses parts)
    (h' : Traverses t rest addresses' parts') :
    Traverses t (b :: rest)
      (t.around [0] (addresses.map (0 :: ·)) ++ addresses'.map Address.right)
      (t.around b.part parts ++ parts') := by
  refine of_inOrder (fun p => ?_) ?_ ?_
  · -- the addresses are those of the tree and of what is behind it
    rw [List.mem_append, Traversal.mem_around, List.mem_map, List.mem_map, isSome_at?_cons]
    simp only [h.mem_iff, h'.mem_iff]
  · refine List.pairwise_append.mpr ⟨h.pairwise_around, ?_, fun p hp q hq => ?_⟩
    · refine List.pairwise_map.mpr (h'.inOrder.imp_of_mem fun hp hq hpq => ?_)
      exact hpq.right (h'.ne_nil hp) (h'.ne_nil hq)
    · -- the first step of an address tells the trees apart
      obtain ⟨q', hq', rfl⟩ := List.mem_map.mp hq
      obtain ⟨j, q', rfl⟩ := List.exists_cons_of_ne_nil (h'.ne_nil hq')
      have hzero : ∃ p', p = 0 :: p' := by
        rcases Traversal.mem_around.mp hp with rfl | hp
        · exact ⟨[], rfl⟩
        · obtain ⟨p', -, rfl⟩ := List.mem_map.mp hp
          exact ⟨p', rfl⟩
      obtain ⟨p, rfl⟩ := hzero
      exact Or.inl (Nat.succ_pos j)
  · -- each address leads to the same bundle as it did in the part it comes from
    have hbelow : (addresses.map (0 :: ·)).map (at? (b :: rest)) = addresses.map (at? b.added) := by
      rw [List.map_map]
      exact List.map_congr_left fun p hp => at?_cons_zero b rest (h.ne_nil hp)
    have hright : (addresses'.map Address.right).map (at? (b :: rest)) =
        addresses'.map (at? rest) := by
      rw [List.map_map]
      exact List.map_congr_left fun p hp => at?_cons_right b rest (h'.ne_nil hp)
    rw [List.map_append, List.map_append, Traversal.map_around, Traversal.map_around, hbelow, hright,
      h.parts_eq, h'.parts_eq]
    rfl

end Traverses

/-- Induction on a forest: over the trees that its first tree added, and those behind it. -/
theorem induction {P : List (Bundle σ) → Prop} (nil : P [])
    (cons : ∀ part added rest, P added → P rest → P (.tree part added :: rest)) :
    ∀ forest, P forest
  | [] => nil
  | .tree part added :: rest =>
    cons part added rest (induction nil cons added) (induction nil cons rest)

end Forest

/-! ### The assembly of a forest -/

namespace Bundle

/-- **Assembly.** To add a forest is to initialize its bundles in the order in which they are
entered, and to list them in the order in which they are left. -/
theorem addAll_traverses (forest : List (Bundle σ)) :
    ∃ entered initialized left listed,
      Forest.Traverses .entering forest entered initialized ∧
      Forest.Traverses .leaving forest left listed ∧
      ∀ a : Assembly σ, addAll forest a = ⟨a.initialized ++ initialized, a.bundles ++ listed⟩ := by
  induction forest using Forest.induction with
  | nil => exact ⟨[], [], [], [], .nil _, .nil _, fun a => by simp [addAll]⟩
  | cons part added rest ihAdded ihRest =>
    obtain ⟨entered, initialized, left, listed, hentered, hleft, hadd⟩ := ihAdded
    -- both traversals are those of the two parts, put together for one tree more
    obtain ⟨entered', initialized', left', listed', hentered', hleft', hadd'⟩ := ihRest
    refine ⟨_, _, _, _, hentered.cons hentered', hleft.cons hleft', fun a => ?_⟩
    rw [addAll, add, hadd, hadd']
    -- the root is initialized before what it added, and listed after it
    simp only [Traversal.around, Bundle.part, List.append_assoc, List.cons_append, List.nil_append]

theorem addAll_append (xs ys : List (Bundle σ)) (a : Assembly σ) :
    addAll (xs ++ ys) a = addAll ys (addAll xs a) := by
  induction xs generalizing a with
  | nil => rfl
  | cons b rest ih => exact ih (b.add a)

end Bundle

/-! ### The runs of bundles -/

/-- The runs of bundles one after the other, each in the environment that the one before it left. -/
def bundleRuns (c : Configuration) :
    List (BundlePart σ) → Environment σ → List (SetUpRun σ String)
  | [], _ => []
  | part :: rest, e => part.run c e :: bundleRuns c rest (part.run c e).environment

/-- The environment that is left by bundles that are run one after the other. -/
def bundlesLeave (c : Configuration) (parts : List (BundlePart σ)) (e : Environment σ) :
    Environment σ :=
  parts.foldl (fun e part => (part.run c e).environment) e

/-- Every run of these succeeds. -/
def AllPass (runs : List (SetUpRun σ String)) : Prop := ∀ r ∈ runs, r.result = .ok ()

/-- The trail of bundles that have succeeded, the first of them with an index. -/
def passedTrail (server : Option (Server Surface)) (i : ℕ) (runs : List (SetUpRun σ String)) :
    Trail :=
  runs.mapIdx fun k r => ⟨.step (.bundle (i + k)) none, r.events, server⟩

/-- A bundle is the first of a list that fails. -/
structure FirstFails (c : Configuration) (parts : List (BundlePart σ)) (e : Environment σ)
    (before : List (BundlePart σ)) (part : BundlePart σ) (cause : String) : Prop where
  among : ∃ after, parts = before ++ part :: after
  passed : AllPass (bundleRuns c before e)
  failed : (part.run c (bundlesLeave c before e)).result = .error cause

section Runs

variable (server : Option (Server Surface)) (c : Configuration)

/-- Bundles run until one of them fails, or all succeed. -/
theorem allPass_or_firstFails (parts : List (BundlePart σ)) (e : Environment σ) :
    AllPass (bundleRuns c parts e) ∨ ∃ before part cause, FirstFails c parts e before part cause := by
  induction parts generalizing e with
  | nil => exact Or.inl fun r hr => nomatch hr
  | cons part rest ih =>
    -- a failure here is the first; otherwise the others run in what this bundle leaves
    cases hr : (part.run c e).result with
    | error cause =>
      exact Or.inr ⟨[], part, cause, ⟨rest, rfl⟩, fun r hr => (nomatch hr), hr⟩
    | ok =>
      rcases ih (part.run c e).environment with hpass | ⟨before, later, cause, ⟨after, rfl⟩, hpassed, hfailed⟩
      · exact Or.inl (List.forall_mem_cons.mpr ⟨hr, hpass⟩)
      · exact Or.inr ⟨part :: before, later, cause, ⟨after, rfl⟩,
          List.forall_mem_cons.mpr ⟨hr, hpassed⟩, hfailed⟩

/-- Bundles that succeed leave the others to run after them. -/
theorem runBundles_append {before : List (BundlePart σ)} (rest : List (BundlePart σ)) (i : ℕ)
    (e : Environment σ) (h : AllPass (bundleRuns c before e)) :
    runBundles server c i (before ++ rest) e =
      { runBundles server c (i + before.length) rest (bundlesLeave c before e) with
        trail := passedTrail server i (bundleRuns c before e) ++
          (runBundles server c (i + before.length) rest (bundlesLeave c before e)).trail } := by
  induction before generalizing i e with
  | nil => rfl
  | cons part before ih =>
    obtain ⟨hpart, hbefore⟩ := List.forall_mem_cons.mp h
    -- the first of the others has the index behind all that have passed
    have hindex : i + (part :: before).length = i + 1 + before.length := by
      rw [List.length_cons]
      omega
    have htrail : passedTrail server i (bundleRuns c (part :: before) e) =
        ⟨.step (.bundle i) none, (part.run c e).events, server⟩ ::
          passedTrail server (i + 1) (bundleRuns c before (part.run c e).environment) := by
      rw [bundleRuns, passedTrail, List.mapIdx_cons, passedTrail]
      simp only [Nat.add_zero, Nat.add_assoc, Nat.add_comm 1]
    rw [htrail, hindex]
    simp only [List.cons_append, runBundles, hpart, Except.mapError, ih (i + 1) _ hbefore]
    rfl

/-- **All succeed.** -/
theorem runBundles_of_passes {parts : List (BundlePart σ)} (e : Environment σ)
    (h : AllPass (bundleRuns c parts e)) :
    runBundles server c 0 parts e =
      { result := .ok (), environment := bundlesLeave c parts e
        trail := passedTrail server 0 (bundleRuns c parts e) } := by
  have hrun := runBundles_append server c [] 0 e h
  rw [List.append_nil] at hrun
  rw [hrun, runBundles, List.append_nil]

/-- **One fails.** The bundles before it have run, and it has; those after it have not. -/
theorem runBundles_of_fails {parts before : List (BundlePart σ)} {e : Environment σ}
    {part : BundlePart σ} {cause : String} (h : FirstFails c parts e before part cause) :
    runBundles server c 0 parts e =
      { result := .error (.bundle part.name cause)
        environment := bundlesLeave c (before ++ [part]) e
        trail := passedTrail server 0 (bundleRuns c before e) ++
          [⟨.step (.bundle before.length) (some (.bundle part.name cause)),
            (part.run c (bundlesLeave c before e)).events, server⟩] } := by
  obtain ⟨after, rfl⟩ := h.among
  have hleave : bundlesLeave c (before ++ [part]) e =
      (part.run c (bundlesLeave c before e)).environment := List.foldl_append
  rw [runBundles_append server c _ 0 e h.passed, runBundles, h.failed, hleave, Nat.zero_add]
  rfl

end Runs

/-! ### Set-ups on trails -/

/-- Whether a happening is the run of a bundle or of the application. -/
def Happening.isSetUp (h : Happening) : Bool :=
  match h.act with
  | .step (.bundle _) _ => true
  | .step .application _ => true
  | _ => false

namespace Trail

/-- The runs of bundles and of the application on a trail. -/
def setUps (t : Trail) : Trail := t.filter Happening.isSetUp

theorem setUps_append (t u : Trail) : setUps (t ++ u) = setUps t ++ setUps u := List.filter_append ..

/-- A trail without such runs. -/
def NoSetUp (t : Trail) : Prop := ∀ h ∈ t, h.isSetUp = false

theorem NoSetUp.setUps_eq {t : Trail} (h : NoSetUp t) : t.setUps = [] :=
  List.filter_eq_nil_iff.mpr fun x hx => Bool.not_eq_true _ ▸ h x hx

theorem NoSetUp.append {t u : Trail} (ht : NoSetUp t) (hu : NoSetUp u) : NoSetUp (t ++ u) :=
  fun x hx => (List.mem_append.mp hx).elim (ht x) (hu x)

theorem NoSetUp.cons {x : Happening} {t : Trail} (hx : x.isSetUp = false) (ht : NoSetUp t) :
    NoSetUp (x :: t) := List.forall_mem_cons.mpr ⟨hx, ht⟩

theorem NoSetUp.nil : NoSetUp [] := fun _ h => nomatch h

section Parts

variable (server : Option (Server Surface))

theorem noSetUp_ofVisits (i : ℕ) (visits : List Dispatcher.Visit) :
    NoSetUp (ofVisits server i visits) := by
  induction visits generalizing i with
  | nil => exact .nil
  | cons v rest ih => exact .cons rfl (ih (i + 1))

theorem noSetUp_ofMoments (moments : List Moment) : NoSetUp (ofMoments server moments) := by
  intro h hh
  obtain ⟨m, -, rfl⟩ := List.mem_map.mp hh
  rfl

/-- The start of an environment is behind the set-up. -/
theorem noSetUp_ofStart (s : Environment.Started σ) : NoSetUp (ofStart server s) := by
  refine .append (.append (.append (noSetUp_ofVisits server 0 _) (.cons rfl .nil)) ?_)
    (noSetUp_ofMoments server _)
  cases s.routes with
  | none => exact .nil
  | some routes => exact .cons rfl .nil

theorem setUps_passedTrail (i : ℕ) (runs : List (SetUpRun σ String)) :
    (passedTrail server i runs).setUps = passedTrail server i runs := by
  refine List.filter_eq_self.mpr fun h hh => ?_
  -- every entry of it is the run of a bundle
  obtain ⟨k, hk, rfl⟩ := List.mem_mapIdx.mp hh
  rfl

end Parts

end Trail

namespace Bootstrap

variable (b : Bootstrap σ) (session : Server Surface → Server.Started Surface)

/-- The time of a server is behind the set-up. -/
theorem noSetUp_serve (server : Server Surface) (e : Environment σ) :
    (b.serve session server e).trail.NoSetUp := by
  unfold serve
  -- a session that has not returned leaves the opening of the server alone on the trail
  cases hret : (session server).result with
  | none =>
    simp only [hret]
    exact .cons rfl .nil
  | some result =>
    simp only [hret]
    exact .cons rfl (.cons rfl (Trail.noSetUp_ofMoments _ _))

/-- A launch is behind the set-up. -/
theorem noSetUp_launch (server : Server Surface) (e : Environment σ) :
    (b.launch session server e).trail.NoSetUp := by
  have hopening : (b.opening server e).NoSetUp := .cons rfl (Trail.noSetUp_ofStart _ _)
  cases hstart : e.start.result with
  | error err =>
    rw [launch_of_error b session server hstart]
    exact hopening.append (Trail.noSetUp_ofMoments _ _)
  | ok endpoints =>
    rw [launch_of_ok b session server hstart]
    exact hopening.append (b.noSetUp_serve session server _)

/-- The forest of the bundles: those that the application adds, and then the further ones. -/
def forest : List (Bundle σ) := b.application.bundles ++ b.bundles

/-- What the set-up begins with: the steps before it pass and give a configuration, a server and an
environment. -/
structure Begins (c : Configuration) (server : Server Surface) (e : Environment σ) : Prop where
  configuration : b.configuration = .ok c
  installed : ∀ installLog ∈ b.installLog, installLog c.logging = .ok ()
  built : b.buildServer c.server (.ofConfig b.application.name c.server b.logger) = .ok (server, e)

/-- From the factory on, the set-ups are those of the bundles and the application, and if one of them
fails nothing comes after it. -/
theorem build_of_built {b : Bootstrap σ} {c : Configuration} {server : Server Surface}
    {e : Environment σ}
    (h : b.buildServer c.server (.ofConfig b.application.name c.server b.logger) =
      .ok (server, e)) :
    (b.build session c).trail.setUps = (b.setUp (some server) c e).trail.setUps ∧
      ∀ err, (b.setUp (some server) c e).result = .error err →
        (b.build session c).result = some (.error err) ∧
        (b.build session c).environment = some (b.setUp (some server) c e).environment := by
  unfold build
  simp only [h]
  generalize b.setUp (some server) c e = ready
  -- the launch is reached only after a set-up that succeeded
  cases hr : ready.result with
  | error err =>
    refine ⟨rfl, fun err' herr => ?_⟩
    obtain rfl := Except.error.inj herr
    exact ⟨rfl, rfl⟩
  | ok =>
    refine ⟨?_, fun err herr => nomatch herr⟩
    -- and it adds to the trail, but no set-up
    have hlaunch := (b.noSetUp_launch session server ready.environment).setUps_eq
    change Trail.setUps (_ :: ready.trail ++ _) = _
    rw [Trail.setUps_append, hlaunch, List.append_nil]
    rfl

/-- What comes before the factory is no set-up. -/
theorem Begins.server_eq {b : Bootstrap σ} {c : Configuration} {server : Server Surface}
    {e : Environment σ} (h : b.Begins c server e) :
    ∃ earlier : Trail, earlier.NoSetUp ∧ b.server session =
      { b.build session c with trail := earlier ++ (b.build session c).trail } := by
  unfold Bootstrap.server Bootstrap.install
  simp only [h.configuration]
  -- the log is installed only by applications that have one
  cases hlog : b.installLog with
  | none => exact ⟨[⟨.step .configuration none, [], none⟩], .cons rfl .nil, rfl⟩
  | some installLog =>
    simp only [h.installed installLog hlog, Except.mapError]
    exact ⟨[⟨.step .configuration none, [], none⟩, ⟨.step .logging none, [], none⟩],
      .cons rfl (.cons rfl .nil), rfl⟩

/-- A command that does not come to its set-up runs neither a bundle nor the application. -/
theorem setUps_of_not_begins (h : ¬ ∃ c server e, b.Begins c server e) :
    (b.server session).trail.setUps = [] := by
  refine Trail.NoSetUp.setUps_eq ?_
  unfold Bootstrap.server
  cases hc : b.configuration with
  | error err => exact .cons rfl .nil
  | ok c =>
    have hbuild : (∀ installLog ∈ b.installLog, installLog c.logging = .ok ()) →
        (b.build session c).trail.NoSetUp := by
      intro hinstalled
      unfold Bootstrap.build
      cases hb : b.buildServer c.server (.ofConfig b.application.name c.server b.logger) with
      | error err =>
        simp only [hb]
        exact .cons rfl .nil
      -- with a configuration, a log and a server the set-up would have begun
      | ok built => exact absurd ⟨c, built.1, built.2, hc, hinstalled, hb⟩ h
    refine .cons rfl ?_
    unfold Bootstrap.install
    cases hlog : b.installLog with
    | none => exact hbuild fun _ hmem => nomatch hlog ▸ hmem
    | some installLog =>
      cases hr : installLog c.logging with
      | error err =>
        simp only [hr, Except.mapError]
        exact .cons rfl .nil
      | ok =>
        simp only [hr, Except.mapError]
        refine .cons rfl (hbuild fun installLog' hmem => ?_)
        rw [hlog] at hmem
        rwa [← Option.mem_some.mp hmem]

/-- A set-up in which a bundle fails does not come to the application. -/
theorem setUp_of_fails (server : Option (Server Surface)) {c : Configuration} {e : Environment σ}
    {before : List (BundlePart σ)} {part : BundlePart σ} {cause : String}
    (h : FirstFails c b.bundlesInOrder e before part cause) :
    (b.setUp server c e).result = .error (.bundle part.name cause) ∧
      (b.setUp server c e).environment = bundlesLeave c (before ++ [part]) e ∧
      (b.setUp server c e).trail.setUps = passedTrail server 0 (bundleRuns c before e) ++
        [⟨.step (.bundle before.length) (some (.bundle part.name cause)),
          (part.run c (bundlesLeave c before e)).events, server⟩] := by
  unfold setUp
  rw [runBundles_of_fails server c h]
  refine ⟨rfl, rfl, ?_⟩
  -- what an earlier bundle did stays on the trail, and no application follows
  simp only [Trail.setUps_append, Trail.setUps_passedTrail, List.append_assoc]
  rfl

/-- A set-up in which every bundle succeeds ends with the application. -/
theorem setUp_of_passes {server : Option (Server Surface)} {c : Configuration} {e : Environment σ}
    (h : AllPass (bundleRuns c b.bundlesInOrder e)) :
    ∃ records, (b.setUp server c e).trail.setUps =
      passedTrail server 0 (bundleRuns c b.bundlesInOrder e) ++
        [⟨.step .application
            (failure? (b.application.run c (bundlesLeave c b.bundlesInOrder e)).result),
          (b.application.run c (bundlesLeave c b.bundlesInOrder e)).events ++ records, server⟩] := by
  unfold setUp
  rw [runBundles_of_passes server c e h]
  simp only [Trail.setUps_append, Trail.setUps_passedTrail]
  exact ⟨_, rfl⟩

/-! ### Whole commands -/

/-- What a command does with its bundles and its application, given what its set-up begins with. -/
structure RunsBundles (c : Configuration) (server : Server Surface) (e : Environment σ)
    (ran : CommandRun σ) : Prop where
  /-- The bundles all succeed, or there is a first that fails. -/
  passes_or_fails : AllPass (bundleRuns c b.bundlesInOrder e) ∨
    ∃ before part cause, FirstFails c b.bundlesInOrder e before part cause
  /-- If a bundle fails, then those before it have run, each in the environment that the one before
  it left, and it has; nothing has run after it, and its error is the result. -/
  fails : ∀ before part cause, FirstFails c b.bundlesInOrder e before part cause →
    ran.trail.setUps = passedTrail (some server) 0 (bundleRuns c before e) ++
      [⟨.step (.bundle before.length) (some (.bundle part.name cause)),
        (part.run c (bundlesLeave c before e)).events, some server⟩] ∧
    ran.environment = some (bundlesLeave c (before ++ [part]) e) ∧
    ran.result = some (.error (.bundle part.name cause))
  /-- If all succeed, then all have run in their order, and after them the application. -/
  passes : AllPass (bundleRuns c b.bundlesInOrder e) →
    ∃ records, ran.trail.setUps = passedTrail (some server) 0 (bundleRuns c b.bundlesInOrder e) ++
      [⟨.step .application
          (failure? (b.application.run c (bundlesLeave c b.bundlesInOrder e)).result),
        (b.application.run c (bundlesLeave c b.bundlesInOrder e)).events ++ records, some server⟩]

theorem Begins.runsBundles {b : Bootstrap σ} {c : Configuration} {server : Server Surface}
    {e : Environment σ} (h : b.Begins c server e) :
    b.RunsBundles c server e (b.server session) := by
  obtain ⟨earlier, hearlier, hserver⟩ := h.server_eq session
  obtain ⟨hsetUps, herror⟩ := build_of_built session h.built
  -- what comes before the factory and after the set-up takes no part in the runs
  have htrail : (b.server session).trail.setUps = (b.setUp (some server) c e).trail.setUps := by
    rw [hserver, Trail.setUps_append, hearlier.setUps_eq, hsetUps]
    rfl
  refine ⟨allPass_or_firstFails c _ e, fun before part cause hfails => ?_, fun hpass => ?_⟩
  · obtain ⟨hresult, henvironment, hruns⟩ := b.setUp_of_fails (some server) hfails
    obtain ⟨hresult', henvironment'⟩ := herror _ hresult
    rw [htrail, hruns, hserver]
    exact ⟨rfl, henvironment' ▸ congrArg some henvironment, hresult'⟩
  · rw [htrail]
    exact b.setUp_of_passes hpass

/-- **The order of bundles.** Take any forest of bundles, added by the application and after it. The
bundles are initialized in the order in which their trees are entered, behind the application, and
listed in the order in which they are left: each is there once, after all that it added. Whatever
the bundles do to the environment, a command that comes to its set-up runs them in the order of the
list, up to the first that fails, whose name and cause are the result; if all succeed, then the
application is run after them. A command that does not come to its set-up runs none of them. -/
theorem server_runs_bundles :
    b.initialized =
        b.application.onInitialize ++ b.assembly.initialized.flatMap (·.onInitialize) ∧
      (∃ entered left, Forest.Traverses .entering b.forest entered b.assembly.initialized ∧
        Forest.Traverses .leaving b.forest left b.bundlesInOrder) ∧
      (∀ p i q, Address.Before .leaving (p ++ i :: q) p) ∧
      (∀ c server e, b.Begins c server e → b.RunsBundles c server e (b.server session)) ∧
      ((¬ ∃ c server e, b.Begins c server e) → (b.server session).trail.setUps = []) := by
  obtain ⟨entered, initialized, left, listed, hentered, hleft, hadd⟩ :=
    Bundle.addAll_traverses b.forest
  -- the further bundles are added to the assembly of the application, as one forest
  have hassembly : b.assembly = ⟨initialized, listed⟩ := by
    rw [assembly, ← Bundle.addAll_append]
    exact hadd {}
  refine ⟨rfl, ⟨entered, left, ?_, ?_⟩, fun p i q => (Address.before_append p i q).2,
    fun c server e h => h.runsBundles session, b.setUps_of_not_begins session⟩
  · rw [hassembly]
    exact hentered
  · rw [bundlesInOrder, hassembly]
    exact hleft

/-- A bundle that shows its initialization and its run, and ends as it is told. -/
def notingPart (name : String) (result : Except String Unit) : BundlePart Unit where
  name := name
  onInitialize := [.note ("initialize " ++ name)]
  run := fun _ e => { result, environment := e, events := [.note ("run " ++ name)] }

/-- An application that adds a bundle with another one below it, and a bundle that fails, with one
below it and one behind it. -/
def nestedBootstrap : Bootstrap Unit where
  application :=
    { name := "app"
      bundles := [.tree (notingPart "outer" (.ok ())) [.tree (notingPart "inner" (.ok ())) []]]
      run := fun _ e => { result := .ok (), environment := e } }
  bundles := [.tree (notingPart "broken" (.error "cannot run"))
    [.tree (notingPart "helper" (.ok ())) []], .tree (notingPart "late" (.ok ())) []]

theorem server_runs_bundles_nested :
    nestedBootstrap.assembly.initialized.map (·.name) =
        ["outer", "inner", "broken", "helper", "late"] ∧
      nestedBootstrap.bundlesInOrder.map (·.name) =
        ["inner", "outer", "helper", "broken", "late"] ∧
      (nestedBootstrap.server briefSession).trail.setUps.flatMap (·.events) =
        ["inner", "outer", "helper", "broken"].map (fun name => .note ("run " ++ name)) ∧
      (nestedBootstrap.server briefSession).result =
        some (.error (.bundle "broken" "cannot run")) := by
  obtain ⟨-, -, -, hruns, -⟩ := server_runs_bundles nestedBootstrap briefSession
  have hbegins : ∃ server e, nestedBootstrap.Begins {} server e := ⟨_, _, rfl, nofun, rfl⟩
  obtain ⟨server, e, hbegins⟩ := hbegins
  -- the bundle below the failing one has run before it, and the one behind has not
  have hfails : FirstFails {} nestedBootstrap.bundlesInOrder e
      [notingPart "inner" (.ok ()), notingPart "outer" (.ok ()), notingPart "helper" (.ok ())]
      (notingPart "broken" (.error "cannot run")) "cannot run" := by
    refine ⟨⟨[notingPart "late" (.ok ())], rfl⟩, ?_, rfl⟩
    simp [AllPass, bundleRuns, notingPart]
  obtain ⟨hsetUps, -, hresult⟩ := (hruns _ _ _ hbegins).fails _ _ _ hfails
  refine ⟨rfl, rfl, ?_, hresult⟩
  rw [hsetUps]
  rfl

end Bootstrap

end ServiceHost
