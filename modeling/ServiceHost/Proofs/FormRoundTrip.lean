import ServiceHost.Http.Form
import ServiceHost.Proofs.Utf8

/-!
# Reading forms back

A form that has been written is read as the pairs that it was written from, whatever their texts
hold: an ampersand or an equals sign of a key or a value is written as an escape, so that those that
stand in a form as they are separate.

The way back takes the steps of the way there from the last to the first.

* `Form.pairs_append` and `Form.pairOfSegment_segment`: ampersands separate pairs, and the first
  equals sign of a pair separates key and value.
* `Form.percentDecodeOnto_written`: a byte is read as it was written, once a plus is a blank again.
* `Form.decode_encoded`: the text of a key or a value, by `Text.Utf8.repair_encode`.
* `Form.pairs_serialize` puts this together.

The pairs are collected by their keys. `Params.Groups` says what is held of them: under every key
its values in their order, and nothing under a key of no pair.
-/

namespace ServiceHost

namespace Text.Utf8

theorem encode_append (s t : String) : encode (s ++ t) = encode s ++ encode t := by
  rw [encode_eq, encode_eq, encode_eq, String.toList_append, List.flatMap_append]

/-- An ASCII character takes the one byte of its code point. -/
theorem encode_ofList_of_ascii {cs : List Char} (h : ∀ c ∈ cs, c.toNat < 0x80) :
    encode (String.ofList cs) = cs.map fun c => UInt8.ofNat c.toNat := by
  rw [encode_eq, String.toList_ofList]
  induction cs with
  | nil => rfl
  | cons c rest ih =>
    have hshort : c.val.toNat ≤ 0x7F := Nat.le_of_lt_succ (h c List.mem_cons_self)
    have hbyte : String.utf8EncodeChar c = [UInt8.ofNat c.toNat] := by
      unfold String.utf8EncodeChar
      simp only [hshort, ↓reduceIte]
      rfl
    rw [List.flatMap_cons, hbyte, ih fun d hd => h d (List.mem_cons_of_mem _ hd), List.map_cons]
    rfl

end Text.Utf8

namespace Form

/-! ### Bytes -/

/-- What holds of the bytes by their values holds of every byte. -/
theorem forall_byte {p : UInt8 → Prop} (h : ∀ n < 256, p (UInt8.ofNat n)) (b : UInt8) : p b := by
  have hb := h b.toNat b.toNat_lt
  rwa [UInt8.ofNat_toNat] at hb

/-- What holds of the characters that every byte is written with, byte by byte. -/
theorem forall_mem_of_byte {write : UInt8 → List Char} {p : Char → Bool}
    (h : ∀ n < 256, (write (UInt8.ofNat n)).all p = true) (b : UInt8) :
    ∀ c ∈ write b, p c = true :=
  List.all_eq_true.mp (forall_byte (p := fun b => (write b).all p = true) h b)

theorem ascii_encodeByte (b : UInt8) : ∀ c ∈ encodeByte b, c.toNat < 0x80 := by
  intro c hc
  have hascii : decide (c.toNat < 0x80) = true := by
    apply forall_mem_of_byte (p := fun c => decide (c.toNat < 0x80)) _ b c hc
    -- a byte is a letter, a sign, a plus, or an escape of a percent sign and hexadecimal digits
    decide +kernel
  exact of_decide_eq_true hascii

/-- The bytes that a byte of a key or a value is written with. -/
def written (b : UInt8) : List UInt8 := (encodeByte b).map fun c => UInt8.ofNat c.toNat

/-- A byte of a key or a value is never written as a separator. -/
theorem not_mem_written (b : UInt8) : 0x26 ∉ written b ∧ 0x3D ∉ written b := by
  revert b
  apply forall_byte
  decide +kernel

/-- A byte is written as itself, a blank as a plus, and any other byte as an escape with the digits
of its two halves. -/
theorem written_cases (b : UInt8) :
    (b ≠ 0x25 ∧ (written b).map plusToBlank = [b]) ∨
      ∃ high low, (written b).map plusToBlank = [0x25, high, low] ∧
        hexValue? high = some (b / 16) ∧ hexValue? low = some (b % 16) := by
  have hdigits : ∀ b : UInt8, (b ≠ 0x25 ∧ (written b).map plusToBlank = [b]) ∨
      let high := UInt8.ofNat (upperDigit (b.toNat / 16)).toNat
      let low := UInt8.ofNat (upperDigit (b.toNat % 16)).toNat
      (written b).map plusToBlank = [0x25, high, low] ∧
        hexValue? high = some (b / 16) ∧ hexValue? low = some (b % 16) := by
    -- the digits are named by the byte, so that all bytes can be tried
    apply forall_byte
    decide +kernel
  exact (hdigits b).imp_right fun h => ⟨_, _, h⟩

theorem halves_eq (b : UInt8) : 16 * (b / 16) + b % 16 = b := by
  revert b
  apply forall_byte
  decide +kernel

/-! ### Escapes -/

theorem percentDecodeOnto_cons_of_ne {b : UInt8} (hb : b ≠ 0x25) (read rest : List UInt8) :
    percentDecodeOnto read (b :: rest) = percentDecodeOnto (b :: read) rest := by
  rw [percentDecodeOnto]
  intro high low rest' hpercent
  exact absurd hpercent hb

/-- **Bytes are read back.** What a byte is written with is read as the byte. -/
theorem percentDecodeOnto_written (b : UInt8) (read rest : List UInt8) :
    percentDecodeOnto read ((written b).map plusToBlank ++ rest) =
      percentDecodeOnto (b :: read) rest := by
  rcases written_cases b with ⟨hb, hself⟩ | ⟨high, low, hescape, hhigh, hlow⟩
  · rw [hself, List.cons_append, List.nil_append, percentDecodeOnto_cons_of_ne hb]
  · -- an escape takes the digits behind it with it, whatever the rest is
    rw [hescape, List.cons_append, List.cons_append, List.cons_append, List.nil_append,
      percentDecodeOnto]
    simp only [hhigh, hlow, halves_eq]

theorem percentDecodeOnto_flatMap_written (bytes read : List UInt8) :
    percentDecodeOnto read ((bytes.flatMap written).map plusToBlank) = read.reverse ++ bytes := by
  induction bytes generalizing read with
  | nil =>
    rw [List.flatMap_nil, List.map_nil, percentDecodeOnto, List.append_nil]
  | cons b rest ih =>
    rw [List.flatMap_cons, List.map_append, percentDecodeOnto_written, ih, List.reverse_cons,
      List.append_assoc]
    rfl

/-! ### Keys and values -/

/-- The bytes of a key or a value in a form. -/
def encoded (s : String) : List UInt8 := (Text.Utf8.encode s).flatMap written

/-- **Texts are read back.** The bytes of a key or a value are read as its text. -/
theorem decode_encoded (s : String) : decode (encoded s) = s := by
  have hbytes : percentDecode ((encoded s).map plusToBlank) = Text.Utf8.encode s := by
    rw [percentDecode, encoded, percentDecodeOnto_flatMap_written]
    rfl
  rw [decode, hbytes, Text.Utf8.repair_encode]

theorem not_mem_encoded (s : String) : 0x26 ∉ encoded s ∧ 0x3D ∉ encoded s := by
  constructor
  · intro hmem
    obtain ⟨b, -, hb⟩ := List.mem_flatMap.mp hmem
    exact (not_mem_written b).1 hb
  · intro hmem
    obtain ⟨b, -, hb⟩ := List.mem_flatMap.mp hmem
    exact (not_mem_written b).2 hb

/-! ### Pairs -/

/-- The bytes of a pair in a form. -/
def segment (pair : String × String) : List UInt8 := encoded pair.1 ++ 0x3D :: encoded pair.2

theorem segment_ne_nil (pair : String × String) : segment pair ≠ [] :=
  List.append_ne_nil_of_right_ne_nil _ (List.cons_ne_nil _ _)

theorem not_mem_segment (pair : String × String) : 0x26 ∉ segment pair := by
  intro hmem
  rcases List.mem_append.mp hmem with hkey | hrest
  · exact (not_mem_encoded pair.1).1 hkey
  · rcases List.mem_cons.mp hrest with hequals | hvalue
    · exact absurd hequals (by decide)
    · exact (not_mem_encoded pair.2).1 hvalue

/-- A segment with an equals sign is cut at the first one. -/
theorem pairOfSegment_append {key : List UInt8} (hkey : 0x3D ∉ key) (value : List UInt8) :
    pairOfSegment (key ++ 0x3D :: value) = (decode key, decode value) := by
  have hbytes : ∀ b ∈ key, (b != 0x3D) = true := by
    intro b hb
    rw [bne_iff_ne]
    rintro rfl
    exact hkey hb
  have hequals : ((0x3D : UInt8) != 0x3D) = false := by decide
  -- the key ends before the first equals sign, and the value begins behind it, whatever it holds
  have htake : (key ++ 0x3D :: value).takeWhile (· != 0x3D) = key := by
    rw [List.takeWhile_append_of_pos hbytes, List.takeWhile_cons, hequals]
    exact List.append_nil _
  have hdrop : ((key ++ 0x3D :: value).dropWhile (· != 0x3D)).drop 1 = value := by
    rw [List.dropWhile_append_of_pos hbytes, List.dropWhile_cons, hequals]
    rfl
  rw [pairOfSegment, htake, hdrop]

/-- **Pairs are read back.** The first equals sign of a pair is the one between key and value. -/
theorem pairOfSegment_segment (pair : String × String) : pairOfSegment (segment pair) = pair := by
  rw [segment, pairOfSegment_append (not_mem_encoded pair.1).2, decode_encoded, decode_encoded]

/-! ### Forms -/

/-- The pieces between separators are those of the library. -/
theorem splitAt_eq_splitOn (separator : UInt8) (bytes : List UInt8) :
    splitAt separator bytes = bytes.splitOn separator := by
  induction bytes with
  | nil => rw [List.splitOn_nil]; rfl
  | cons b rest ih =>
    unfold splitAt at ih ⊢
    rw [List.foldr_cons, ih, List.splitOn_cons_eq_if_modifyHead]
    -- a separator begins a new piece, and any other byte stands at the front of the first one
    by_cases hb : b = separator
    · rw [if_pos hb, if_pos (beq_iff_eq.mpr hb)]
    · rw [if_neg hb, if_neg (mt beq_iff_eq.mp hb)]
      -- there is a piece at least, so that the byte begins one
      obtain ⟨piece, pieces, hpieces⟩ :=
        List.exists_cons_of_ne_nil (List.splitOn_ne_nil separator rest)
      rw [hpieces]
      rfl

/-- **Ampersands separate.** The pairs of two forms with an ampersand between them are those of the
one and then those of the other. -/
theorem pairs_append (bytes more : List UInt8) :
    pairs (bytes ++ 0x26 :: more) = pairs bytes ++ pairs more := by
  unfold pairs segments
  rw [splitAt_eq_splitOn, splitAt_eq_splitOn, splitAt_eq_splitOn, List.splitOn_append_cons_self,
    List.filter_append, List.map_append]

theorem pairs_segment (pair : String × String) : pairs (segment pair) = [pair] := by
  -- a pair holds no ampersand, so that it is one piece, and it is not empty
  have hwhole : splitAt 0x26 (segment pair) = [segment pair] := by
    have hpieces := List.splitOn_intercalate (0x26 : UInt8)
      (fun bytes hbytes => List.mem_singleton.mp hbytes ▸ not_mem_segment pair)
      (List.cons_ne_nil (segment pair) [])
    rwa [List.intercalate_singleton, ← splitAt_eq_splitOn] at hpieces
  have hheld : (segment pair).isEmpty = false := by
    rw [List.isEmpty_eq_false_iff]
    exact segment_ne_nil pair
  rw [pairs, segments, hwhole]
  simp only [List.filter_cons, hheld, Bool.not_false, ↓reduceIte, List.filter_nil, List.map_cons,
    pairOfSegment_segment, List.map_nil]

/-- What the characters of a form are: separators, and those that bytes are written with. -/
theorem mem_serialize {pairs : List (String × String)} {c : Char}
    (h : c ∈ (serialize pairs).toList) : c = '&' ∨ c = '=' ∨ ∃ b, c ∈ encodeByte b := by
  have hencode : ∀ s, c ∈ encode s → ∃ b, c ∈ encodeByte b := by
    intro s hc
    obtain ⟨b, -, hb⟩ := List.mem_flatMap.mp hc
    exact ⟨b, hb⟩
  rw [serialize, String.toList_ofList] at h
  induction pairs with
  | nil => cases h
  | cons pair rest ih =>
    have hpair : c ∈ encode pair.1 ++ '=' :: encode pair.2 → c = '=' ∨ ∃ b, c ∈ encodeByte b := by
      intro hc
      rcases List.mem_append.mp hc with hkey | hc
      · exact Or.inr (hencode _ hkey)
      · rcases List.mem_cons.mp hc with rfl | hvalue
        · exact Or.inl rfl
        · exact Or.inr (hencode _ hvalue)
    -- only between two pairs is there an ampersand
    cases rest with
    | nil =>
      rw [List.map_cons, List.map_nil, List.intercalate_singleton] at h
      exact Or.inr (hpair h)
    | cons next rest =>
      rw [List.map_cons, List.map_cons, List.intercalate_cons_cons] at h
      rcases List.mem_append.mp h with hfirst | hlater
      · rcases List.mem_append.mp hfirst with hfirst | hand
        · exact Or.inr (hpair hfirst)
        · exact Or.inl (List.mem_singleton.mp hand)
      · exact ih hlater

theorem ascii_serialize (pairs : List (String × String)) :
    ∀ c ∈ (serialize pairs).toList, c.toNat < 0x80 := by
  intro c hc
  rcases mem_serialize hc with rfl | rfl | ⟨b, hb⟩
  · decide
  · decide
  · exact ascii_encodeByte b c hb

theorem map_encode (s : String) :
    (encode s).map (fun c => UInt8.ofNat c.toNat) = encoded s := List.map_flatMap

/-- The bytes of a form are those of its pairs, with ampersands between them. -/
theorem encode_serialize (pairs : List (String × String)) :
    Text.Utf8.encode (serialize pairs) = [0x26].intercalate (pairs.map segment) := by
  have hascii := ascii_serialize pairs
  rw [serialize, String.toList_ofList] at hascii
  rw [serialize, Text.Utf8.encode_ofList_of_ascii hascii]
  -- what is left is to compare characters, of which each is one byte
  clear hascii
  have hpair : ∀ pair : String × String,
      (encode pair.1 ++ '=' :: encode pair.2).map (fun c => UInt8.ofNat c.toNat) =
        segment pair := by
    intro pair
    rw [List.map_append, List.map_cons, map_encode, map_encode]
    rfl
  induction pairs with
  | nil => rfl
  | cons pair rest ih =>
    cases rest with
    | nil =>
      simp only [List.map_cons, List.map_nil, List.intercalate_singleton]
      exact hpair pair
    | cons next rest =>
      simp only [List.map_cons, List.intercalate_cons_cons] at ih ⊢
      rw [List.map_append, List.map_append, ih, hpair]
      rfl

/-- **Forms are read back.** The pairs of a form that has been written are those that it was
written from. -/
theorem pairs_serialize (ps : List (String × String)) :
    pairs (Text.Utf8.encode (serialize ps)) = ps := by
  rw [encode_serialize]
  induction ps with
  | nil => rfl
  | cons pair rest ih =>
    -- a last pair has no ampersand behind it
    cases rest with
    | nil =>
      rw [List.map_cons, List.map_nil, List.intercalate_singleton, pairs_segment]
    | cons next rest =>
      calc pairs ([0x26].intercalate (List.map segment (pair :: next :: rest)))
          = pairs (segment pair ++
              0x26 :: [0x26].intercalate (List.map segment (next :: rest))) := by
            rw [List.map_cons, List.map_cons, List.intercalate_cons_cons, List.append_assoc]
            rfl
        _ = pairs (segment pair) ++ (next :: rest) := by rw [pairs_append, ih]
        _ = pair :: next :: rest := by rw [pairs_segment]; rfl

/-- Only without pairs nothing is written. -/
theorem serialize_eq_empty_iff (ps : List (String × String)) : serialize ps = "" ↔ ps = [] := by
  constructor
  · intro hempty
    -- an empty form is read as no pairs, and reading gives back what was written
    have hnone : pairs (Text.Utf8.encode "") = [] := by
      rw [Text.Utf8.encode_eq]
      rfl
    rw [← pairs_serialize ps, hempty, hnone]
  · rintro rfl
    rfl

end Form

namespace Params

/-! ### Parameters -/

/-- The values of a key among pairs, in the order of the pairs. -/
def valuesOf (pairs : List (String × String)) (key : String) : List String :=
  (pairs.filter (·.1 == key)).map (·.2)

/-- Whether parameters are pairs by their keys: under a key its values in the order of the pairs,
and nothing under a key of no pair. -/
def Groups (params : Params) (pairs : List (String × String)) : Prop :=
  ∀ key, params.find? key =
    if valuesOf pairs key = [] then none else some (valuesOf pairs key).toArray

/-- Parameters are determined by the pairs that they group. -/
theorem Groups.unique {params params' : Params} {pairs : List (String × String)}
    (h : params.Groups pairs) (h' : params'.Groups pairs) : params = params' :=
  KeyMap.eq_of_find?_eq fun key => (h key).trans (h' key).symm

theorem groups_empty : Groups .empty [] := fun _ => rfl

theorem valuesOf_concat (pairs : List (String × String)) (pair : String × String) (key : String) :
    valuesOf (pairs ++ [pair]) key =
      if pair.1 = key then valuesOf pairs key ++ [pair.2] else valuesOf pairs key := by
  unfold valuesOf
  rw [List.filter_append, List.map_append, List.filter_singleton]
  by_cases hkey : pair.1 = key
  · rw [if_pos hkey, beq_iff_eq.mpr hkey]
    rfl
  · rw [if_neg hkey, beq_eq_false_iff_ne.mpr hkey]
    exact List.append_nil _

/-- **One pair.** A pair that is added goes behind the values of its key. -/
theorem Groups.add {params : Params} {pairs : List (String × String)} (h : params.Groups pairs)
    (pair : String × String) : (params.add pair).Groups (pairs ++ [pair]) := by
  intro key
  rw [Params.add, KeyMap.find?_update, valuesOf_concat]
  by_cases hkey : key = pair.1
  · subst hkey
    -- a key without values so far has none in the map at all
    have hheld : (params.find? pair.1).getD #[] = (valuesOf pairs pair.1).toArray := by
      rw [h pair.1]
      split
      · next hnone => rw [hnone]; rfl
      · rfl
    have hsome : valuesOf pairs pair.1 ++ [pair.2] ≠ [] :=
      List.append_ne_nil_of_right_ne_nil _ (List.cons_ne_nil _ _)
    rw [if_pos rfl, if_pos rfl, if_neg hsome, hheld, List.push_toArray]
  · rw [if_neg hkey, if_neg (Ne.symm hkey)]
    exact h key

theorem Groups.addPairs {params : Params} {pairs : List (String × String)}
    (h : params.Groups pairs) (more : List (String × String)) :
    (params.addPairs more).Groups (pairs ++ more) := by
  induction more generalizing params pairs with
  | nil =>
    rw [List.append_nil]
    exact h
  | cons pair rest ih =>
    -- the pair that comes first is behind all that are grouped already
    have hrest := ih (h.add pair)
    rwa [List.append_assoc] at hrest

/-- **Collecting groups.** Pairs that are collected are grouped. -/
theorem groups_addPairs (pairs : List (String × String)) : (addPairs .empty pairs).Groups pairs :=
  groups_empty.addPairs pairs

end Params

end ServiceHost
