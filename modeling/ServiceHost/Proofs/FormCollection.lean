import Mathlib.Data.List.Forall2
import Mathlib.Data.List.Induction
import ServiceHost.Proofs.FormRoundTrip

/-!
# Collecting forms

The parameters of a request come from one form or from two, and a form may be anything: any bytes,
with escapes that are malformed, segments that are empty, and keys that are the same only once they
are decoded.

* `Form.Reads` says which pair a segment stands for, and `Form.reads_pairOfSegment` that this pair
  is read.
* `Params.find?_addPairs` says what is held under a key after pairs have been added, and
  `Params.count_addPairs` how much is held in all.
* `Params.addForm_collects` puts this together for the bytes of a form.
-/

namespace ServiceHost

namespace Form

/-- Whether a segment of a form stands for a pair. The key stands before the first equals sign and
the value behind it, and a segment without equals signs is a key with an empty value. -/
inductive Reads : List UInt8 → String × String → Prop
  | pair {key : List UInt8} (hkey : 0x3D ∉ key) (value : List UInt8) :
      Reads (key ++ 0x3D :: value) (decode key, decode value)
  | key {key : List UInt8} (hkey : 0x3D ∉ key) : Reads key (decode key, "")

theorem reads_pairOfSegment (segment : List UInt8) : Reads segment (pairOfSegment segment) := by
  by_cases hequals : 0x3D ∈ segment
  · obtain ⟨key, value, rfl, hkey⟩ := List.eq_append_cons_of_mem hequals
    rw [pairOfSegment_append hkey]
    exact .pair hkey value
  · -- without an equals sign the whole segment is the key, and nothing is left for the value
    have hbytes : ∀ b ∈ segment, (b != 0x3D) = true := by
      intro b hb
      rw [bne_iff_ne]
      rintro rfl
      exact hequals hb
    have hdrop : (segment.dropWhile (· != 0x3D)).drop 1 = [] := by
      rw [List.dropWhile_eq_nil_iff.mpr hbytes]
      rfl
    have hempty : decode [] = "" := by decide +kernel
    rw [pairOfSegment, List.takeWhile_eq_self_iff.mpr hbytes, hdrop, hempty]
    exact .key hequals

/-- The segments of a form are what stands between its ampersands, where that is something. -/
theorem segments_eq (bytes : List UInt8) :
    segments bytes = (bytes.splitOn 0x26).filter (!·.isEmpty) := by
  rw [segments, splitAt_eq_splitOn]

theorem forall₂_reads_pairs (bytes : List UInt8) :
    List.Forall₂ Reads ((bytes.splitOn 0x26).filter (!·.isEmpty)) (pairs bytes) := by
  rw [← segments_eq, pairs]
  exact List.forall₂_map_right_iff.mpr (List.forall₂_same.mpr fun s _ => reads_pairOfSegment s)

end Form

namespace KeyMap

variable {κ α : Type}

/-- A change under one key that makes its value larger by `n`, and a new value of size `n`, makes
the sum of the sizes larger by `n`. -/
theorem sum_alter [LT κ] [DecidableLT κ] [DecidableEq κ] (size : α → ℕ) {change : Option α → α}
    {n : ℕ} (hnew : size (change none) = n) (hheld : ∀ v, size (change (some v)) = size v + n)
    (key : κ) (entries : List (κ × α)) :
    ((alter key change entries).map (size ·.2)).sum = (entries.map (size ·.2)).sum + n := by
  induction entries with
  | nil => simp [alter, hnew]
  | cons head rest ih =>
    obtain ⟨k, v⟩ := head
    unfold alter
    -- the key is the first one, or comes before it, or its place is further on
    split
    · simp only [List.map_cons, List.sum_cons, hheld]
      omega
    · split
      · simp only [List.map_cons, List.sum_cons, hnew]
        omega
      · simp only [List.map_cons, List.sum_cons, ih]
        omega

end KeyMap

namespace Params

/-! ### What is held -/

/-- The values of a key, in the order of their arrival. -/
def held (params : Params) (key : String) : List String := ((params.find? key).getD #[]).toList

/-- The number of values under all keys. -/
def count (params : Params) : ℕ := (params.values.map Array.size).sum

theorem count_add (params : Params) (pair : String × String) :
    (params.add pair).count = params.count + 1 := by
  unfold count KeyMap.values
  rw [List.map_map, List.map_map]
  exact KeyMap.sum_alter Array.size (by simp) (by simp) pair.1 params.entries

theorem count_addPairs (params : Params) (pairs : List (String × String)) :
    (params.addPairs pairs).count = params.count + pairs.length := by
  induction pairs generalizing params with
  | nil => rfl
  | cons pair rest ih =>
    rw [addPairs, List.foldl_cons]
    -- the hypothesis is for the parameters that the first pair leaves
    exact (ih _).trans (by rw [count_add, List.length_cons]; omega)

/-- Pairs may be added in two parts. -/
theorem addPairs_append (params : Params) (pairs more : List (String × String)) :
    params.addPairs (pairs ++ more) = (params.addPairs pairs).addPairs more :=
  List.foldl_append

/-- **Added pairs** bring their values behind those of their keys, in order, and change nothing
under any other key. -/
theorem find?_addPairs (params : Params) (pairs : List (String × String)) (key : String) :
    (params.addPairs pairs).find? key =
      if valuesOf pairs key = [] then params.find? key
      else some (params.held key ++ valuesOf pairs key).toArray := by
  induction pairs using List.reverseRecOn with
  | nil => rfl
  | append_singleton pairs pair ih =>
    rw [addPairs_append, valuesOf_concat]
    change ((params.addPairs pairs).add pair).find? key = _
    rw [add, KeyMap.find?_update]
    -- the induction is from the end, where values are pushed: only the key of the last pair gets
    -- one more
    by_cases hkey : pair.1 = key
    · subst hkey
      have hheld : ((params.addPairs pairs).find? pair.1).getD #[] =
          (params.held pair.1 ++ valuesOf pairs pair.1).toArray := by
        rw [ih]
        split
        · next hnone => rw [hnone, List.append_nil]; rfl
        · rfl
      -- so there is a value for the key now, whether there was one before or not
      have hsome : valuesOf pairs pair.1 ++ [pair.2] ≠ [] :=
        List.append_ne_nil_of_right_ne_nil _ (List.cons_ne_nil _ _)
      rw [if_pos rfl, if_pos rfl, if_neg hsome, hheld, List.push_toArray, List.append_assoc]
    · rw [if_neg (Ne.symm hkey), if_neg hkey]
      exact ih

theorem held_addPairs (params : Params) (pairs : List (String × String)) (key : String) :
    (params.addPairs pairs).held key = params.held key ++ valuesOf pairs key := by
  rw [held, find?_addPairs]
  split
  · next hnone => rw [hnone, List.append_nil]; rfl
  · rfl

/-- A key has values if it had some before or is one of the pairs. -/
theorem mem_keys_addPairs {params : Params} {pairs : List (String × String)} {key : String} :
    key ∈ (params.addPairs pairs).keys ↔ key ∈ params.keys ∨ key ∈ pairs.map (·.1) := by
  -- a key without values among the pairs is no key of a pair
  have hvalues : valuesOf pairs key = [] ↔ key ∉ pairs.map (·.1) := by
    rw [valuesOf, List.map_eq_nil_iff, List.filter_eq_nil_iff]
    simp only [beq_iff_eq, List.mem_map, not_exists, not_and]
  rw [← KeyMap.contains_iff_mem_keys, ← KeyMap.contains_iff_mem_keys, KeyMap.contains,
    find?_addPairs]
  by_cases hkey : key ∈ pairs.map (·.1)
  · rw [if_neg (mt hvalues.mp (not_not_intro hkey))]
    exact iff_of_true rfl (Or.inr hkey)
  · rw [if_pos (hvalues.mpr hkey)]
    exact (or_iff_left hkey).symm

/-! ### Forms in turn -/

/-- What the bytes of a form do to parameters. -/
structure CollectsForm (params : Params) (bytes : List UInt8) : Prop where
  /-- Two forms in turn are one form with an ampersand between them. -/
  merges : ∀ more, (params.addForm bytes).addForm more = params.addForm (bytes ++ 0x26 :: more)
  /-- Every segment that holds something stands for a pair, and each pair brings one value, which
  goes behind those of its key. -/
  contributes : ∃ pairs,
    List.Forall₂ Form.Reads ((bytes.splitOn 0x26).filter (!·.isEmpty)) pairs ∧
      ∀ key, (params.addForm bytes).held key = params.held key ++ valuesOf pairs key ∧
        (key ∈ (params.addForm bytes).keys ↔ key ∈ params.keys ∨ key ∈ pairs.map (·.1))
  /-- What was held stays in front. -/
  keeps : ∀ key, params.held key <+: (params.addForm bytes).held key
  /-- There are as many new values as segments that hold something. -/
  counts : (params.addForm bytes).count =
    params.count + ((bytes.splitOn 0x26).filter (!·.isEmpty)).length

/-- **Forms are collected in turn.** Whatever the parameters and the bytes are, a form and then
another one give what the one form gives that joins them with an ampersand. Each segment that holds
something brings one value, under the key that is read before its first equals sign, and this value
goes behind those that the key has. Nothing else changes. -/
theorem addForm_collects (params : Params) (bytes : List UInt8) : CollectsForm params bytes where
  merges := by
    intro more
    rw [addForm, addForm, addForm, Form.pairs_append, addPairs_append]
  contributes := ⟨Form.pairs bytes, Form.forall₂_reads_pairs bytes, fun key =>
    ⟨held_addPairs params _ key, mem_keys_addPairs⟩⟩
  keeps := by
    intro key
    rw [addForm, held_addPairs]
    exact List.prefix_append _ _
  counts := by
    rw [addForm, count_addPairs, (Form.forall₂_reads_pairs bytes).length_eq]

/-- Three spellings of one key, an empty segment, and a key alone. -/
example : (addForm .empty (Text.Utf8.encode "a+b=1&&a%20b=2&flag&a b=%zz=3")).lines =
    "a b=1,2,%zz=3\nflag=\n" := by decide +kernel

end Params

end ServiceHost
