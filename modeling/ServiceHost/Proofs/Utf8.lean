import Mathlib.Tactic.IntervalCases
import ServiceHost.Proofs.Url

/-!
# Reading text back from its bytes

The bytes of a character are read as this character again, whatever follows them, and so the bytes
of a text are read as this text: nothing in them is repaired.

* `Text.Utf8.next_utf8EncodeChar` is the case of a single character. A character takes one to four
  bytes, and the range of the second byte leaves out what is written shorter, the surrogates and all
  beyond the last code point, so that it never leaves out a byte of a character.
* `Text.Utf8.repair_encode` puts characters together.
-/

namespace ServiceHost.Text.Utf8

/-! ### Bytes by their values -/

theorem toNat_ofNat_of_lt {n : ℕ} (h : n < 0x100) : (UInt8.ofNat n).toNat = n := by
  rw [UInt8.toNat_ofNat']
  exact Nat.mod_eq_of_lt h

/-- A lead byte of two bytes. -/
theorem lead?_two {n : ℕ} (hlow : 0xC2 ≤ n) (hhigh : n < 0xE0) :
    lead? (UInt8.ofNat n) = some (1, 0x80, 0xBF) := by
  -- there are few lead bytes, so each is looked up
  interval_cases n <;> rfl

/-- A lead byte of three bytes. Behind the first one, what is written shorter is left out, and
behind the last but two the surrogates are. -/
theorem lead?_three {n : ℕ} (hlow : 0xE0 ≤ n) (hhigh : n < 0xF0) :
    lead? (UInt8.ofNat n) =
      some (2, if n = 0xE0 then 0xA0 else 0x80, if n = 0xED then 0x9F else 0xBF) := by
  interval_cases n <;> rfl

/-- A lead byte of four bytes. Behind the first one, what is written shorter is left out, and
behind the last one all that is no code point. -/
theorem lead?_four {n : ℕ} (hlow : 0xF0 ≤ n) (hhigh : n < 0xF5) :
    lead? (UInt8.ofNat n) =
      some (3, if n = 0xF0 then 0x90 else 0x80, if n = 0xF4 then 0x8F else 0xBF) := by
  interval_cases n <;> rfl

/-- A byte in range gives its six lower bits. -/
theorem continuation_cons {low high : UInt8} {m : ℕ} (hlow : low.toNat ≤ m)
    (hhigh : m ≤ high.toNat) (n bits : ℕ) (rest : List UInt8) :
    continuation (n + 1) low high bits (UInt8.ofNat m :: rest) =
      continuation n 0x80 0xBF (bits * 0x40 + m % 0x40) rest := by
  have hlt : m < 0x100 := Nat.lt_of_le_of_lt hhigh high.toNat_lt
  have hrange : low ≤ UInt8.ofNat m ∧ UInt8.ofNat m ≤ high := by
    rw [UInt8.le_iff_toNat_le, UInt8.le_iff_toNat_le, toNat_ofNat_of_lt hlt]
    exact ⟨hlow, hhigh⟩
  rw [continuation, if_pos hrange, toNat_ofNat_of_lt hlt]

/-- A byte behind the second one is in range whatever six bits it holds. -/
theorem continuation_cons_bits (m n bits : ℕ) (rest : List UInt8) :
    continuation (n + 1) 0x80 0xBF bits (UInt8.ofNat (m % 64 + 128) :: rest) =
      continuation n 0x80 0xBF (bits * 0x40 + m % 64) rest := by
  -- the six bits lie upon the lower end of the range
  have hbelow : (0x80 : UInt8).toNat ≤ m % 64 + 128 := Nat.le_add_left _ _
  have habove : m % 64 + 128 ≤ (0xBF : UInt8).toNat := by
    change m % 64 + 128 ≤ 191
    omega
  have hbits : (m % 64 + 128) % 0x40 = m % 64 := by omega
  rw [continuation_cons hbelow habove, hbits]

/-- Behind a lead byte, the bytes of the rest of the character are read. -/
theorem next_of_lead {b low high : UInt8} {n value : ℕ} {rest after : List UInt8}
    (hlead : lead? b = some (n, low, high))
    (hread : continuation n low high (leadBits n b) rest = (value, 0, after)) :
    next (b :: rest) = (some (Char.ofNat value), after) := by
  -- a lead byte is no ASCII byte
  have hlong : ¬ b < 0x80 := by
    intro hshort
    have hbelow : b < 0xC2 := UInt8.lt_trans hshort (by decide)
    rw [lead?, if_pos hbelow] at hlead
    cases hlead
  rw [next, if_neg hlong]
  simp only [hlead, hread, ↓reduceIte]

/-! ### Characters by their number of bytes -/

theorem next_one {v : ℕ} (h : v ≤ 0x7F) (rest : List UInt8) :
    next (UInt8.ofNat v :: rest) = (some (Char.ofNat v), rest) := by
  have hvalue : (UInt8.ofNat v).toNat = v := toNat_ofNat_of_lt (by omega)
  have hshort : UInt8.ofNat v < 0x80 := by
    rw [UInt8.lt_iff_toNat_lt, hvalue]
    exact Nat.lt_succ_of_le h
  rw [next, if_pos hshort, hvalue]

theorem next_two {v : ℕ} (hlow : 0x7F < v) (hhigh : v ≤ 0x7FF) (rest : List UInt8) :
    next (UInt8.ofNat (v / 64 % 32 + 192) :: UInt8.ofNat (v % 64 + 128) :: rest) =
      (some (Char.ofNat v), rest) := by
  have hlead := lead?_two (n := v / 64 % 32 + 192) (by omega) (by omega)
  have hbits : leadBits 1 (UInt8.ofNat (v / 64 % 32 + 192)) = v / 64 := by
    rw [leadBits, toNat_ofNat_of_lt (by omega)]
    omega
  refine next_of_lead hlead ?_
  rw [hbits, continuation_cons_bits, continuation]
  refine congrArg (·, 0, rest) ?_
  omega

theorem next_three {v : ℕ} (hlow : 0x7FF < v) (hhigh : v ≤ 0xFFFF)
    (hvalid : v < 0xD800 ∨ 0xDFFF < v) (rest : List UInt8) :
    next (UInt8.ofNat (v / 4096 % 16 + 224) :: UInt8.ofNat (v / 64 % 64 + 128) ::
        UInt8.ofNat (v % 64 + 128) :: rest) =
      (some (Char.ofNat v), rest) := by
  have hlead := lead?_three (n := v / 4096 % 16 + 224) (by omega) (by omega)
  have hbits : leadBits 2 (UInt8.ofNat (v / 4096 % 16 + 224)) = v / 4096 := by
    rw [leadBits, toNat_ofNat_of_lt (by omega)]
    omega
  refine next_of_lead hlead ?_
  -- the second byte is in range: the value is neither short nor a surrogate
  have hbelow : (if v / 4096 % 16 + 224 = 0xE0 then 0xA0 else 0x80 : UInt8).toNat ≤
      v / 64 % 64 + 128 := by
    split
    · change 160 ≤ v / 64 % 64 + 128
      omega
    · exact Nat.le_add_left _ _
  have habove : v / 64 % 64 + 128 ≤
      (if v / 4096 % 16 + 224 = 0xED then 0x9F else 0xBF : UInt8).toNat := by
    split
    · change v / 64 % 64 + 128 ≤ 159
      omega
    · change v / 64 % 64 + 128 ≤ 191
      omega
  rw [hbits, continuation_cons hbelow habove, continuation_cons_bits, continuation]
  refine congrArg (·, 0, rest) ?_
  omega

theorem next_four {v : ℕ} (hlow : 0xFFFF < v) (hhigh : v < 0x110000) (rest : List UInt8) :
    next (UInt8.ofNat (v / 262144 % 8 + 240) :: UInt8.ofNat (v / 4096 % 64 + 128) ::
        UInt8.ofNat (v / 64 % 64 + 128) :: UInt8.ofNat (v % 64 + 128) :: rest) =
      (some (Char.ofNat v), rest) := by
  have hlead := lead?_four (n := v / 262144 % 8 + 240) (by omega) (by omega)
  have hbits : leadBits 3 (UInt8.ofNat (v / 262144 % 8 + 240)) = v / 262144 := by
    rw [leadBits, toNat_ofNat_of_lt (by omega)]
    · omega
    · exact nofun
    · exact nofun
  refine next_of_lead hlead ?_
  -- the second byte is in range: the value is neither short nor too high
  have hbelow : (if v / 262144 % 8 + 240 = 0xF0 then 0x90 else 0x80 : UInt8).toNat ≤
      v / 4096 % 64 + 128 := by
    split
    · change 144 ≤ v / 4096 % 64 + 128
      omega
    · exact Nat.le_add_left _ _
  have habove : v / 4096 % 64 + 128 ≤
      (if v / 262144 % 8 + 240 = 0xF4 then 0x8F else 0xBF : UInt8).toNat := by
    split
    · change v / 4096 % 64 + 128 ≤ 143
      omega
    · change v / 4096 % 64 + 128 ≤ 191
      omega
  rw [hbits, continuation_cons hbelow habove, continuation_cons_bits, continuation_cons_bits,
    continuation]
  refine congrArg (·, 0, rest) ?_
  omega

/-- **Characters are read back.** The bytes of a character are read as this character, and what
follows them is left. -/
theorem next_utf8EncodeChar (c : Char) (rest : List UInt8) :
    next (String.utf8EncodeChar c ++ rest) = (some c, rest) := by
  have hchar : Char.ofNat c.val.toNat = c := Char.ofNat_toNat c
  -- a character is no surrogate and not beyond the last code point
  have hvalid : c.val.toNat < 0xD800 ∨ 0xDFFF < c.val.toNat ∧ c.val.toNat < 0x110000 := c.valid
  unfold String.utf8EncodeChar
  simp only
  split
  · next hone =>
    rw [List.cons_append, List.nil_append, next_one hone, hchar]
  · next hone =>
    split
    · next htwo =>
      simp only [List.cons_append, List.nil_append]
      rw [next_two (Nat.lt_of_not_le hone) htwo, hchar]
    · next htwo =>
      split
      · next hthree =>
        simp only [List.cons_append, List.nil_append]
        rw [next_three (Nat.lt_of_not_le htwo) hthree (hvalid.imp_right And.left), hchar]
      · next hthree =>
        have hmost : c.val.toNat < 0x110000 := by omega
        simp only [List.cons_append, List.nil_append]
        rw [next_four (Nat.lt_of_not_le hthree) hmost, hchar]

/-! ### Texts -/

theorem repairOnto_utf8EncodeChar (read : List Char) (c : Char) (rest : List UInt8) :
    repairOnto read (String.utf8EncodeChar c ++ rest) = repairOnto (c :: read) rest := by
  have hnext := next_utf8EncodeChar c rest
  -- every character takes a byte, so that the reading goes on
  cases hbytes : String.utf8EncodeChar c ++ rest with
  | nil =>
    have hlength := congrArg List.length hbytes
    rw [List.length_append, String.length_utf8EncodeChar] at hlength
    have hpos : 0 < c.utf8Size := c.utf8Size_pos
    simp only [List.length_nil] at hlength
    omega
  | cons b bytes =>
    rw [hbytes] at hnext
    rw [repairOnto, hnext]
    rfl

/-- **Texts are read back.** Reading the bytes of a text gives the text: there is nothing in them to
repair. -/
theorem repair_encode (s : String) : repair (encode s) = s := by
  have hread : ∀ (cs read : List Char),
      repairOnto read (cs.flatMap String.utf8EncodeChar) = read.reverse ++ cs := by
    -- along the characters; what is read already is kept in front
    intro cs
    induction cs with
    | nil =>
      intro read
      rw [List.flatMap_nil, repairOnto, List.append_nil]
    | cons c rest ih =>
      intro read
      rw [List.flatMap_cons, repairOnto_utf8EncodeChar, ih, List.reverse_cons, List.append_assoc]
      rfl
  rw [repair, encode_eq, hread, List.reverse_nil, List.nil_append, String.ofList_toList]

end ServiceHost.Text.Utf8
