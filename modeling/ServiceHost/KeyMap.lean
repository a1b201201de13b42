/-!
# Maps ordered by their keys

A `KeyMap κ α` is a finite map kept as a list of entries in strictly ascending order of
their keys. The order is part of the type, so every listing of a map (the routes of a
router, the names of a registry, a health report) comes out sorted without a sort.

* `KeyMap.find?_update`, `KeyMap.find?_insert`: a change reaches the answer at one key only.
* `KeyMap.mem_keys_insert`: the keys after an insertion are the keys before it and the new one.
* `KeyMap.contains_iff_mem_keys`: a key has a value exactly when it is listed.
* `KeyMap.find?_eq_some_iff`: what is found under a key is what is held there.
* `KeyMap.eq_of_find?_eq`: a map is what is held in it.
-/

namespace ServiceHost

/-- A finite map: entries in strictly ascending order of their keys. -/
structure KeyMap (κ α : Type) [LT κ] where
  entries : List (κ × α)
  ascending : entries.Pairwise (·.1 < ·.1)

namespace KeyMap

/-! ### Association lists -/

section Entries

variable {κ α : Type}

/-- The value of the first entry with the given key. -/
def lookup [DecidableEq κ] (key : κ) : List (κ × α) → Option α
  | [] => none
  | (k, v) :: rest => if key = k then some v else lookup key rest

/-- Changes the value of a key: `change` makes the new value from the one that is held. -/
def alter [LT κ] [DecidableLT κ] [DecidableEq κ] (key : κ) (change : Option α → α) :
    List (κ × α) → List (κ × α)
  | [] => [(key, change none)]
  | (k, v) :: rest =>
    if key = k then (key, change (some v)) :: rest
    else if key < k then (key, change none) :: (k, v) :: rest
    else (k, v) :: alter key change rest

/-- A change brings in no entry of another key. -/
theorem mem_alter [LT κ] [DecidableLT κ] [DecidableEq κ] {key : κ} {change : Option α → α}
    {entry : κ × α} {entries : List (κ × α)} (h : entry ∈ alter key change entries) :
    entry.1 = key ∨ entry ∈ entries := by
  induction entries with
  | nil => simp_all [alter]
  | cons head rest ih => grind [alter]

/-- What is found is there. -/
theorem mem_of_lookup [DecidableEq κ] {key : κ} {value : α} {entries : List (κ × α)}
    (h : lookup key entries = some value) : (key, value) ∈ entries := by
  induction entries with
  | nil => simp [lookup] at h
  | cons head rest ih => grind [lookup]

/-- A key is found exactly when it stands in the list. -/
theorem lookup_isSome_iff [DecidableEq κ] {key : κ} {entries : List (κ × α)} :
    (lookup key entries).isSome ↔ key ∈ entries.map (·.1) := by
  induction entries with
  | nil => simp [lookup]
  | cons head rest ih => grind [lookup]

variable [LE κ] [LT κ] [Std.IsLinearOrder κ] [Std.LawfulOrderLT κ] [DecidableLT κ] [DecidableEq κ]

/-- A change keeps the order. -/
theorem alter_ascending (key : κ) (change : Option α → α) (entries : List (κ × α))
    (h : entries.Pairwise (·.1 < ·.1)) : (alter key change entries).Pairwise (·.1 < ·.1) := by
  induction entries with
  | nil => simp [alter]
  | cons head rest ih =>
    obtain ⟨k, v⟩ := head
    obtain ⟨above, tail⟩ := List.pairwise_cons.mp h
    unfold alter
    by_cases same : key = k
    · subst same
      simpa using ⟨fun a b hab => above (a, b) hab, tail⟩
    by_cases below : key < k
    · simp only [same, below, if_true, if_false]
      refine List.pairwise_cons.mpr ⟨fun entry hentry => ?_, h⟩
      rcases List.mem_cons.mp hentry with rfl | hrest
      · exact below
      · exact Std.lt_trans below (above entry hrest)
    · simp only [same, below, if_false]
      refine List.pairwise_cons.mpr ⟨fun entry hentry => ?_, ih tail⟩
      rcases mem_alter hentry with hkey | hrest
      · exact hkey ▸ Std.lt_of_le_of_ne (Std.not_lt.mp below) (Ne.symm same)
      · exact above entry hrest

omit [Std.IsLinearOrder κ] [DecidableLT κ] in
/-- A key below every key of a list is not found in it. -/
theorem lookup_of_below {key : κ} {entries : List (κ × α)}
    (h : ∀ entry ∈ entries, key < entry.1) : lookup key entries = none := by
  induction entries with
  | nil => rfl
  | cons head rest ih =>
    have other : key ≠ head.1 := Std.ne_of_lt (h head List.mem_cons_self)
    simp [lookup, other, ih fun entry hentry => h entry (List.mem_cons_of_mem _ hentry)]

/-- A change reaches the answer at one key only. -/
theorem lookup_alter (key other : κ) (change : Option α → α) (entries : List (κ × α))
    (h : entries.Pairwise (·.1 < ·.1)) :
    lookup other (alter key change entries) =
      if other = key then some (change (lookup key entries)) else lookup other entries := by
  induction entries with
  | nil => simp [alter, lookup]
  | cons head rest ih =>
    obtain ⟨k, v⟩ := head
    obtain ⟨above, tail⟩ := List.pairwise_cons.mp h
    have missing : key < k → lookup key rest = none := fun below =>
      lookup_of_below fun entry hentry => Std.lt_trans below (above entry hentry)
    grind [alter, lookup]

omit [DecidableLT κ] in
/-- Lists in ascending order in which the same is found are the same. -/
theorem eq_of_lookup_eq {entries others : List (κ × α)} (h : entries.Pairwise (·.1 < ·.1))
    (h' : others.Pairwise (·.1 < ·.1)) (hlookup : ∀ key, lookup key entries = lookup key others) :
    entries = others := by
  induction entries generalizing others with
  | nil =>
    cases others with
    | nil => rfl
    | cons other rest => simpa [lookup] using hlookup other.1
  | cons head rest ih =>
    obtain ⟨above, tail⟩ := List.pairwise_cons.mp h
    cases others with
    | nil => simpa [lookup] using hlookup head.1
    | cons other rest' =>
      obtain ⟨above', tail'⟩ := List.pairwise_cons.mp h'
      -- a first key below the other one would not be found there
      have hbelow : ¬ head.1 < other.1 := by
        intro hlt
        have hmissing : lookup head.1 (other :: rest') = none :=
          lookup_of_below (List.forall_mem_cons.mpr
            ⟨hlt, fun entry hentry => Std.lt_trans hlt (above' entry hentry)⟩)
        rw [← hlookup, lookup, if_pos rfl] at hmissing
        cases hmissing
      have habove : ¬ other.1 < head.1 := by
        intro hlt
        have hmissing : lookup other.1 (head :: rest) = none :=
          lookup_of_below (List.forall_mem_cons.mpr
            ⟨hlt, fun entry hentry => Std.lt_trans hlt (above entry hentry)⟩)
        rw [hlookup, lookup, if_pos rfl] at hmissing
        cases hmissing
      have hkey : head.1 = other.1 := Std.le_antisymm (Std.not_lt.mp habove) (Std.not_lt.mp hbelow)
      have hvalue : head.2 = other.2 := by
        have hsame := hlookup head.1
        rw [lookup, if_pos rfl, lookup, if_pos hkey] at hsame
        exact Option.some.inj hsame
      have hrest : rest = rest' := by
        refine ih tail tail' fun key => ?_
        by_cases hsame : key = head.1
        · rw [hsame, lookup_of_below above, hkey, lookup_of_below above']
        · have hlater := hlookup key
          rwa [lookup, if_neg hsame, lookup, if_neg (hkey ▸ hsame)] at hlater
      rw [hrest, Prod.ext hkey hvalue]

end Entries

/-! ### Maps -/

variable {κ α β : Type} [LT κ]

/-- The map without entries. -/
def empty : KeyMap κ α := ⟨[], .nil⟩

instance : EmptyCollection (KeyMap κ α) := ⟨empty⟩

instance : Inhabited (KeyMap κ α) := ⟨empty⟩

/-- The value held under a key. -/
def find? [DecidableEq κ] (m : KeyMap κ α) (key : κ) : Option α := lookup key m.entries

/-- Whether a key has a value. -/
def contains [DecidableEq κ] (m : KeyMap κ α) (key : κ) : Bool := (m.find? key).isSome

/-- The keys in ascending order. -/
def keys (m : KeyMap κ α) : List κ := m.entries.map (·.1)

/-- The values in ascending order of their keys. -/
def values (m : KeyMap κ α) : List α := m.entries.map (·.2)

/-- The number of entries. -/
def size (m : KeyMap κ α) : Nat := m.entries.length

/-- Whether the map has no entry. -/
def isEmpty (m : KeyMap κ α) : Bool := m.entries.isEmpty

/-- The same keys with every value changed by `f`. -/
def map (f : α → β) (m : KeyMap κ α) : KeyMap κ β where
  entries := m.entries.map fun (k, v) => (k, f v)
  ascending := List.pairwise_map.mpr m.ascending

/-- Nothing is held in the empty map. -/
@[simp] theorem find?_empty [DecidableEq κ] (key : κ) :
    (empty : KeyMap κ α).find? key = none := rfl

/-- Values that are changed are found changed. -/
theorem find?_map [DecidableEq κ] (f : α → β) (m : KeyMap κ α) (key : κ) :
    (m.map f).find? key = (m.find? key).map f := by
  change lookup key (m.entries.map fun (k, v) => (k, f v)) = (lookup key m.entries).map f
  induction m.entries with
  | nil => rfl
  | cons head rest ih => grind [lookup]

/-- A key has a value exactly when it is listed. -/
theorem contains_iff_mem_keys [DecidableEq κ] {m : KeyMap κ α} {key : κ} :
    m.contains key = true ↔ key ∈ m.keys := lookup_isSome_iff

/-- Keys are listed in strictly ascending order. -/
theorem keys_ascending (m : KeyMap κ α) : m.keys.Pairwise (· < ·) :=
  List.pairwise_map.mpr m.ascending

section Order

variable [LE κ] [Std.IsLinearOrder κ] [Std.LawfulOrderLT κ] [DecidableLT κ] [DecidableEq κ]

/-- The map after a change of the value of one key. -/
def update (m : KeyMap κ α) (key : κ) (change : Option α → α) : KeyMap κ α where
  entries := alter key change m.entries
  ascending := alter_ascending key change m.entries m.ascending

/-- The map with `value` held under `key`, in place of what was held there. -/
def insert (m : KeyMap κ α) (key : κ) (value : α) : KeyMap κ α := m.update key fun _ => value

/-- The map of a list of entries, later ones replacing earlier ones. -/
def ofList (entries : List (κ × α)) : KeyMap κ α :=
  entries.foldl (fun m entry => m.insert entry.1 entry.2) empty

/-- A change reaches the answer at one key only. -/
theorem find?_update (m : KeyMap κ α) (key other : κ) (change : Option α → α) :
    (m.update key change).find? other =
      if other = key then some (change (m.find? key)) else m.find? other :=
  lookup_alter key other change m.entries m.ascending

/-- Insertion changes the answer at one key only. -/
theorem find?_insert (m : KeyMap κ α) (key other : κ) (value : α) :
    (m.insert key value).find? other = if other = key then some value else m.find? other :=
  m.find?_update key other fun _ => value

omit [Std.IsLinearOrder κ] [DecidableLT κ] in
/-- A value is held under a key exactly when the two are an entry. -/
theorem find?_eq_some_iff {m : KeyMap κ α} {key : κ} {value : α} :
    m.find? key = some value ↔ (key, value) ∈ m.entries := by
  refine ⟨mem_of_lookup, fun h => ?_⟩
  obtain ⟨before, after, hsplit⟩ := List.append_of_mem h
  have hascending := m.ascending
  rw [hsplit] at hascending
  -- no entry before this one has its key
  have hbelow : ∀ entry ∈ before, entry.1 < key := fun entry hentry =>
    (List.pairwise_append.mp hascending).2.2 entry hentry (key, value) List.mem_cons_self
  unfold find?
  rw [hsplit]
  clear hsplit hascending h
  induction before with
  | nil => simp [lookup]
  | cons head rest ih =>
    have hother : key ≠ head.1 := (Std.ne_of_lt (hbelow head List.mem_cons_self)).symm
    rw [List.cons_append, lookup, if_neg hother]
    exact ih fun entry hentry => hbelow entry (List.mem_cons_of_mem _ hentry)

omit [DecidableLT κ] in
/-- Maps in which the same is held under every key are the same. -/
theorem eq_of_find?_eq {m m' : KeyMap κ α} (h : ∀ key, m.find? key = m'.find? key) : m = m' := by
  have hentries : m.entries = m'.entries := eq_of_lookup_eq m.ascending m'.ascending h
  obtain ⟨entries, ascending⟩ := m
  subst hentries
  rfl

/-- The keys after an insertion are the keys before it and the new one. -/
theorem mem_keys_insert {m : KeyMap κ α} {key other : κ} {value : α} :
    other ∈ (m.insert key value).keys ↔ other = key ∨ other ∈ m.keys := by
  rw [← contains_iff_mem_keys, ← contains_iff_mem_keys, contains, find?_insert, contains]
  split <;> simp_all

end Order

end KeyMap

end ServiceHost
