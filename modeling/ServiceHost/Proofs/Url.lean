import Mathlib.Data.List.Basic
import Mathlib.Data.List.TakeWhile
import ServiceHost.Http.Url

/-!
# Reading addresses

A client reads the text of an address before it sends a request. Most texts come out changed: what
a path cannot hold is escaped, and some characters are not of a path at all.

* `Url.encode_eq_self_iff` says which texts escaping leaves alone, whatever bytes it keeps.
* `Url.path_target` says what becomes of a path of plain folders with any segment behind it: the
  segment is escaped, and nothing else happens.
-/

namespace ServiceHost

/-! ### Bytes of a text -/

namespace Text.Utf8

theorem toList_loop (bytes : ByteArray) (i : ℕ) (read : List UInt8) :
    ByteArray.toList.loop bytes i read = read.reverse ++ bytes.data.toList.drop i := by
  fun_induction ByteArray.toList.loop bytes i read with
  | case1 i read hlt ih =>
    have hlength : i < bytes.data.toList.length := by simpa using hlt
    have hget : bytes.get! i = bytes.data.toList[i] := by
      rw [Array.getElem_toList]
      exact getElem!_pos bytes.data i hlength
    rw [ih, List.drop_eq_getElem_cons hlength, hget, List.reverse_cons, List.append_assoc]
    rfl
  | case2 i read hlt =>
    -- nothing is left behind the last byte
    have hlength : bytes.data.toList.length ≤ i := by simpa using hlt
    rw [List.drop_eq_nil_of_le hlength, List.append_nil]

/-- The bytes of a text are those of its characters. -/
theorem encode_eq (s : String) : encode s = s.toList.flatMap String.utf8EncodeChar := by
  have hbytes : s.toUTF8 = (s.toList.flatMap String.utf8EncodeChar).toByteArray := by
    rw [String.toUTF8_eq_toByteArray, ← String.utf8Encode_toList]
    rfl
  rw [encode, ByteArray.toList, toList_loop, hbytes, List.toList_data_toByteArray]
  rfl

/-- No text has more characters than bytes. -/
theorem length_le_encode (s : String) : s.toList.length ≤ (encode s).length := by
  rw [encode_eq]
  induction s.toList with
  | nil => exact Nat.le_refl _
  | cons c rest ih =>
    have hpos : 0 < c.utf8Size := Char.utf8Size_pos c
    rw [List.flatMap_cons, List.length_append, String.length_utf8EncodeChar, List.length_cons]
    omega

/-- A lead byte of a longer character is no ASCII byte. -/
theorem not_ofNat_add_lt {lead low : ℕ} (hlow : 0x80 ≤ lead) (hbyte : low + lead < 0x100) :
    ¬ UInt8.ofNat (low + lead) < 0x80 := by
  have hvalue : (UInt8.ofNat (low + lead)).toNat = low + lead := by
    rw [UInt8.toNat_ofNat']
    exact Nat.mod_eq_of_lt hbyte
  rw [UInt8.lt_iff_toNat_lt, hvalue]
  exact Nat.not_lt.mpr (hlow.trans (Nat.le_add_left _ _))

/-- A character that takes ASCII bytes alone takes one, which is its code point. -/
theorem utf8EncodeChar_of_ascii {c : Char} (h : ∀ b ∈ String.utf8EncodeChar c, b < 0x80) :
    ∃ b, String.utf8EncodeChar c = [b] ∧ Char.ofNat b.toNat = c := by
  unfold String.utf8EncodeChar at h ⊢
  simp only at h ⊢
  -- by the number of bytes
  split
  · next hle =>
    refine ⟨_, rfl, ?_⟩
    have hvalue : (UInt8.ofNat c.val.toNat).toNat = c.toNat := by
      rw [UInt8.toNat_ofNat']
      exact Nat.mod_eq_of_lt (Nat.lt_of_le_of_lt hle (by decide))
    rw [hvalue, Char.ofNat_toNat]
  · next hlong =>
    -- the lead byte of two, three or four bytes is too high
    exfalso
    rw [if_neg hlong] at h
    split at h
    · refine not_ofNat_add_lt (by decide) ?_ (h _ List.mem_cons_self)
      omega
    · split at h
      · refine not_ofNat_add_lt (by decide) ?_ (h _ List.mem_cons_self)
        omega
      · refine not_ofNat_add_lt (by decide) ?_ (h _ List.mem_cons_self)
        omega

end Text.Utf8

namespace Url

/-! ### Escapes -/

variable {keep : UInt8 → Bool}

/-- The characters of bytes, escaped where they are not kept. -/
def chars (keep : UInt8 → Bool) (bytes : List UInt8) : List Char :=
  bytes.flatMap fun b => if keep b then [Char.ofNat b.toNat] else Form.escape b

theorem toList_encode (keep : UInt8 → Bool) (s : String) :
    (encode keep s).toList = chars keep (Text.Utf8.encode s) := String.toList_ofList

/-- A byte takes at least one character, and an escape takes more. -/
theorem length_chars (keep : UInt8 → Bool) (bytes : List UInt8) :
    bytes.length + bytes.countP (!keep ·) ≤ (chars keep bytes).length := by
  induction bytes with
  | nil => exact Nat.le_refl _
  | cons b rest ih =>
    have hcons : chars keep (b :: rest) =
        (if keep b then [Char.ofNat b.toNat] else Form.escape b) ++ chars keep rest :=
      List.flatMap_cons
    rw [hcons, List.length_append, List.length_cons, List.countP_cons]
    -- a byte that is kept is one character, an escape is three
    cases keep b with
    | true =>
      simp only [Bool.not_true, Bool.false_eq_true, ↓reduceIte, List.length_singleton]
      omega
    | false =>
      have hescape : (Form.escape b).length = 3 := rfl
      simp only [Bool.not_false, Bool.false_eq_true, ↓reduceIte, hescape]
      omega

/-- Characters of which every byte is kept are left alone. -/
theorem chars_flatMap (hkeep : ∀ b, keep b = true → b < 0x80) {cs : List Char}
    (h : ∀ b ∈ cs.flatMap String.utf8EncodeChar, keep b = true) :
    chars keep (cs.flatMap String.utf8EncodeChar) = cs := by
  induction cs with
  | nil => rfl
  | cons c rest ih =>
    rw [List.flatMap_cons] at h ⊢
    have hfirst : ∀ b ∈ String.utf8EncodeChar c, keep b = true :=
      fun b hb => h b (List.mem_append_left _ hb)
    -- the bytes that are kept are ASCII bytes
    obtain ⟨b, hb, hc⟩ := Text.Utf8.utf8EncodeChar_of_ascii fun b hb => hkeep b (hfirst b hb)
    have hkept : keep b = true := hfirst b (hb ▸ List.mem_singleton_self b)
    have hrest := ih fun b hb => h b (List.mem_append_right _ hb)
    -- a character of kept bytes is the one byte that it takes
    rw [hb]
    calc chars keep ([b] ++ rest.flatMap String.utf8EncodeChar)
        = [Char.ofNat b.toNat] ++ chars keep (rest.flatMap String.utf8EncodeChar) := by
          unfold chars
          rw [List.flatMap_append, List.flatMap_singleton, if_pos hkept]
      _ = c :: rest := by rw [hrest, hc]; rfl

/-- **Texts that are left alone** are those of which every byte is kept. -/
theorem encode_eq_self_iff (hkeep : ∀ b, keep b = true → b < 0x80) (s : String) :
    encode keep s = s ↔ ∀ b ∈ Text.Utf8.encode s, keep b = true := by
  constructor
  · intro h
    -- an escape would make the segment longer than the text
    have hlength := length_chars keep (Text.Utf8.encode s)
    have hle := Text.Utf8.length_le_encode s
    rw [← toList_encode, h] at hlength
    have hnone : (Text.Utf8.encode s).countP (!keep ·) = 0 := by omega
    intro b hb
    have hb := List.countP_eq_zero.mp hnone b hb
    rwa [Bool.not_eq_true', Bool.not_eq_false] at hb
  · intro h
    rw [Text.Utf8.encode_eq] at h
    rw [← String.toList_inj, toList_encode, Text.Utf8.encode_eq]
    exact chars_flatMap hkeep h

/-- Only of the empty text nothing is left. -/
theorem encode_ne_empty {s : String} (h : s ≠ "") (keep : UInt8 → Bool) : encode keep s ≠ "" := by
  intro hempty
  -- were nothing written, there would be no byte and so no character
  have hlength := length_chars keep (Text.Utf8.encode s)
  have hle := Text.Utf8.length_le_encode s
  rw [← toList_encode, hempty] at hlength
  have hnil : s.toList.length = 0 := by
    have hzero : ("".toList : List Char).length = 0 := rfl
    omega
  exact h (String.toList_inj.mp (List.eq_nil_of_length_eq_zero hnil))

/-! ### Paths of plain folders -/

/-- Whether a character is one of a segment: it neither ends the segment nor is left out. -/
def isSegmentChar (c : Char) : Bool := !isSeparator c && !Target.endsPath c && !isLeftOut c

/-- Whether a text is read as a segment of a path: all of it is, and it is none of the dots. -/
structure IsSegment (segment : List Char) : Prop where
  chars : segment.all isSegmentChar = true
  above : isAbove segment = false
  here : isHere segment = false

/-- Whether a segment is read as it stands: nothing in it is escaped. -/
structure IsFolder (folder : String) : Prop where
  segment : IsSegment folder.toList
  kept : (Text.Utf8.encode folder).all isPathByte = true

/-- Whether a text is read as the last segment of an address: it does not end in a blank, which
would be cut off. -/
structure IsLast (last : String) : Prop where
  segment : IsSegment last.toList
  ends : ∃ c, last.toList.getLast? = some c ∧ isBlank c = false

theorem IsLast.ne_empty {last : String} (h : IsLast last) : last ≠ "" := by
  rintro rfl
  obtain ⟨c, hc, -⟩ := h.ends
  cases hc

/-- The text of folders, each with a slash before it. -/
def joined (folders : List String) : List Char := folders.flatMap ('/' :: ·.toList)

/-- Whether a text is a path of folders alone, which is read as it stands. -/
def IsPlain (path : String) : Prop :=
  ∃ folders : List String, (∀ folder ∈ folders, IsFolder folder) ∧ path.toList = joined folders

theorem isSegmentChar_iff {c : Char} : isSegmentChar c = true ↔
    isSeparator c = false ∧ Target.endsPath c = false ∧ isLeftOut c = false := by
  simp only [isSegmentChar, Bool.and_eq_true, Bool.not_eq_true', and_assoc]

theorem IsSegment.char {segment : List Char} (h : IsSegment segment) {c : Char}
    (hc : c ∈ segment) :
    isSeparator c = false ∧ Target.endsPath c = false ∧ isLeftOut c = false :=
  isSegmentChar_iff.mp (List.all_eq_true.mp h.chars c hc)

theorem isPathByte_lt (b : UInt8) (h : isPathByte b = true) : b < 0x80 := by
  unfold isPathByte isKept at h
  simp only [Bool.and_eq_true, decide_eq_true_eq] at h
  exact UInt8.lt_of_le_of_lt h.1.2 (by decide)

theorem segments_cons_of_not {c : Char} (hc : isSeparator c = false) {cs first : List Char}
    {rest : List (List Char)} (h : segments cs = first :: rest) :
    segments (c :: cs) = (c :: first) :: rest := by
  unfold segments at h ⊢
  rw [List.foldr_cons, h]
  simp only [hc, Bool.false_eq_true, ↓reduceIte]

theorem segments_append {first : List Char} (h : ∀ c ∈ first, isSeparator c = false)
    {cs segment : List Char} {rest : List (List Char)} (hcs : segments cs = segment :: rest) :
    segments (first ++ cs) = (first ++ segment) :: rest := by
  induction first with
  | nil => exact hcs
  | cons c first ih =>
    have hrest := ih fun c hc => h c (List.mem_cons_of_mem _ hc)
    exact segments_cons_of_not (h c List.mem_cons_self) hrest

/-- Segments that are joined are found again. -/
theorem segments_joined (first : List Char) (rest : List (List Char))
    (h : ∀ segment ∈ first :: rest, ∀ c ∈ segment, isSeparator c = false) :
    segments (first ++ rest.flatMap ('/' :: ·)) = first :: rest := by
  induction rest generalizing first with
  | nil =>
    have hnil : segments [] = [[]] := rfl
    have hfirst := segments_append (h first List.mem_cons_self) hnil
    rw [List.append_nil] at hfirst
    rwa [List.flatMap_nil, List.append_nil]
  | cons second rest ih =>
    have hrest := ih second fun segment hsegment => h segment (List.mem_cons_of_mem _ hsegment)
    -- the slash ends what stands before it
    have hslash : segments ((second :: rest).flatMap ('/' :: ·)) = [] :: second :: rest := by
      rw [List.flatMap_cons, List.cons_append]
      exact congrArg ([] :: ·) hrest
    have hfirst := segments_append (h first List.mem_cons_self) hslash
    rwa [List.append_nil] at hfirst

/-- Without dots, walking along segments leaves them alone. -/
theorem walk_eq {found : List (List Char)} (walked : List (List Char))
    (h : ∀ segment ∈ found, isAbove segment = false ∧ isHere segment = false) :
    walk walked found = walked.reverse ++ found := by
  induction found generalizing walked with
  | nil => exact (List.append_nil _).symm
  | cons segment rest ih =>
    obtain ⟨habove, hhere⟩ := h segment List.mem_cons_self
    have hrest := ih (segment :: walked) fun s hs => h s (List.mem_cons_of_mem _ hs)
    unfold walk
    simp only [habove, hhere, Bool.false_eq_true, ↓reduceIte]
    rw [hrest, List.reverse_cons, List.append_assoc]
    rfl

/-- A text in which nothing is to be left out, and which does not end in a blank, is read whole. -/
theorem readable_eq {s : String} (hleftOut : ∀ c ∈ s.toList, isLeftOut c = false)
    (hends : ∃ c, s.toList.getLast? = some c ∧ isBlank c = false) : readable s = s.toList := by
  obtain ⟨c, hlast, hc⟩ := hends
  have hhead : s.toList.reverse.head? = some c := by rw [List.head?_reverse, hlast]
  obtain ⟨rest, hrest⟩ := List.head?_eq_some_iff.mp hhead
  -- the first character from the end stops the cut
  have hcut : s.toList.reverse.dropWhile isBlank = s.toList.reverse := by
    rw [hrest, List.dropWhile_cons_of_neg (by rw [hc]; exact Bool.false_ne_true)]
  unfold readable
  rw [hcut, List.reverse_reverse, List.filter_eq_self]
  intro d hd
  rw [hleftOut d hd]
  rfl

/-- A character of joined segments is one of a segment, or a slash between them. -/
theorem eq_slash_or_mem {found : List (List Char)} {c : Char}
    (hc : c ∈ found.flatMap ('/' :: ·)) : c = '/' ∨ ∃ segment ∈ found, c ∈ segment := by
  obtain ⟨segment, hsegment, hc⟩ := List.mem_flatMap.mp hc
  rcases List.mem_cons.mp hc with rfl | hc
  · exact Or.inl rfl
  · exact Or.inr ⟨segment, hsegment, hc⟩

/-- A path of segments that are joined is read as these segments. -/
theorem path_joined {found : List (List Char)} (hne : found ≠ [])
    (h : ∀ segment ∈ found, IsSegment segment) :
    path (found.flatMap ('/' :: ·)) = pathText found := by
  obtain ⟨first, rest, rfl⟩ := List.exists_cons_of_ne_nil hne
  have hwhole := segments_joined first rest fun segment hsegment c hc =>
    ((h segment hsegment).char hc).1
  have hwalk := walk_eq [] fun segment hsegment =>
    ⟨(h segment hsegment).above, (h segment hsegment).here⟩
  rw [List.flatMap_cons, List.cons_append]
  change pathText (walk [] (segments (first ++ rest.flatMap ('/' :: ·)))) = _
  rw [hwhole, hwalk]
  rfl

/-- **Segments that are joined**, the last one not ending in a blank, are the path of the target
that is read of them. -/
theorem target_joined {text : String} {found : List (List Char)}
    (htext : text.toList = found.flatMap ('/' :: ·)) (h : ∀ segment ∈ found, IsSegment segment)
    (hends : ∃ c, text.toList.getLast? = some c ∧ isBlank c = false) :
    (target text).path = pathText found := by
  have hreadable : readable text = text.toList := by
    refine readable_eq (fun c hc => ?_) hends
    rw [htext] at hc
    rcases eq_slash_or_mem hc with rfl | ⟨segment, hsegment, hc⟩
    · rfl
    · exact ((h segment hsegment).char hc).2.2
  -- neither a slash nor a character of a segment ends the path
  have hpath : text.toList.takeWhile (!Target.endsPath ·) = text.toList := by
    refine List.takeWhile_eq_self_iff.mpr fun c hc => ?_
    rw [htext] at hc
    rcases eq_slash_or_mem hc with rfl | ⟨segment, hsegment, hc⟩
    · rfl
    · rw [((h segment hsegment).char hc).2.1]
      rfl
  have hne : found ≠ [] := by
    rintro rfl
    obtain ⟨c, hc, -⟩ := hends
    rw [htext] at hc
    cases hc
  change path ((readable text).takeWhile (!Target.endsPath ·)) = _
  rw [hreadable, hpath, htext]
  exact path_joined hne h

/-- **A segment behind folders** is escaped as it has to be, and nothing else happens to the
path. -/
theorem path_target {folders : List String} (hfolders : ∀ folder ∈ folders, IsFolder folder)
    {last text : String} (hlast : IsLast last)
    (htext : text.toList = joined folders ++ '/' :: last.toList) :
    (target text).path.toList = joined folders ++ '/' :: (encode isPathByte last).toList := by
  have hjoined : text.toList = ((folders ++ [last]).map String.toList).flatMap ('/' :: ·) := by
    rw [htext, joined, List.flatMap_map, List.flatMap_append, List.flatMap_singleton]
  have hsegments : ∀ segment ∈ (folders ++ [last]).map String.toList, IsSegment segment := by
    intro segment hsegment
    obtain ⟨s, hs, rfl⟩ := List.mem_map.mp hsegment
    rcases List.mem_append.mp hs with hs | hs
    · exact (hfolders s hs).segment
    · obtain rfl := List.mem_singleton.mp hs
      exact hlast.segment
  have hends : ∃ c, text.toList.getLast? = some c ∧ isBlank c = false := by
    obtain ⟨c, hc, hblank⟩ := hlast.ends
    refine ⟨c, ?_, hblank⟩
    rw [htext, List.getLast?_append, List.getLast?_cons, hc]
    rfl
  -- the folders are kept as they are, byte by byte
  rw [target_joined hjoined hsegments hends, pathText, String.toList_ofList, List.flatMap_map,
    List.flatMap_append, List.flatMap_singleton, String.ofList_toList]
  refine congrArg (· ++ _) (List.flatMap_congr fun folder hfolder => ?_)
  have hkept := (encode_eq_self_iff isPathByte_lt folder).mpr
    (List.all_eq_true.mp (hfolders folder hfolder).kept)
  rw [String.ofList_toList, hkept]

end Url

end ServiceHost
