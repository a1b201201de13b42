import Mathlib.Algebra.Group.Nat.Defs
import ServiceHost.Proofs.Url

/-!
# The order of bytes

Texts are ordered by their characters, and what compares them outside sees their bytes. Both orders
are the same, since the bytes of a character have the order of the characters: the lead byte grows
with the number of bytes behind it and with the highest bits, and each byte behind it holds the next
six bits.

* `Text.Utf8.utf8EncodeChar_eq` splits the bytes of a character into a lead byte and the bytes
  behind it.
* `Text.Utf8.encode_lt_iff` is the order of texts.
-/

namespace ServiceHost.Text.Utf8

/-! ### Lead bytes and what follows them -/

/-- The number of bytes behind the lead byte of a code point. -/
def followers (v : ℕ) : ℕ :=
  if v ≤ 0x7F then 0 else if v ≤ 0x7FF then 1 else if v ≤ 0xFFFF then 2 else 3

/-- The value of the lead byte of a code point. -/
def leadValue (v : ℕ) : ℕ :=
  if v ≤ 0x7F then v else if v ≤ 0x7FF then v / 64 + 192
  else if v ≤ 0xFFFF then v / 4096 + 224 else v / 262144 + 240

/-- The last bytes of a code point, of which each holds six bits. -/
def lowBytes : ℕ → ℕ → List UInt8
  | 0, _ => []
  | n + 1, v => UInt8.ofNat (v / 64 ^ n % 64 + 128) :: lowBytes n v

theorem leadValue_lt {v : ℕ} (h : v < 0x110000) : leadValue v < 0x100 := by
  unfold leadValue
  split_ifs <;> omega

/-- Lead bytes have the order of their code points. -/
theorem leadValue_le {v w : ℕ} (h : v ≤ w) : leadValue v ≤ leadValue w := by
  unfold leadValue
  split_ifs <;> omega

/-- Behind the same lead byte there are as many bytes, and what is above their bits is the same. -/
theorem followers_eq_of_leadValue_eq {v w : ℕ} (hv : v < 0x110000) (hw : w < 0x110000)
    (h : leadValue v = leadValue w) :
    followers v = followers w ∧ v / 64 ^ followers v = w / 64 ^ followers v := by
  unfold leadValue at h
  unfold followers
  split_ifs at h ⊢ <;> omega

theorem val_lt (c : Char) : c.val.toNat < 0x110000 := by
  have hvalid : c.val.toNat < 0xD800 ∨ 0xDFFF < c.val.toNat ∧ c.val.toNat < 0x110000 := c.valid
  omega

/-- The bytes of a character are a lead byte and the bytes behind it. -/
theorem utf8EncodeChar_eq (c : Char) :
    String.utf8EncodeChar c =
      UInt8.ofNat (leadValue c.val.toNat) :: lowBytes (followers c.val.toNat) c.val.toNat := by
  have hlt := val_lt c
  unfold String.utf8EncodeChar leadValue followers
  simp only
  generalize c.val.toNat = v at hlt
  -- the highest bits fit into the lead byte
  split_ifs with hone htwo hthree
  · rfl
  · have hlead : v / 64 % 32 = v / 64 := by omega
    simp [lowBytes, hlead]
  · have hlead : v / 4096 % 16 = v / 4096 := by omega
    simp [lowBytes, hlead]
  · have hlead : v / 262144 % 8 = v / 262144 := by omega
    simp [lowBytes, hlead]

/-! ### The order -/

/-- A byte is put in front of two lists. If it is the same for both, the order is that of the
lists. -/
theorem ofNat_cons_lt {m n : ℕ} (hle : m ≤ n) (hbyte : n < 0x100) {as bs : List UInt8}
    (h : m = n → as < bs) : UInt8.ofNat m :: as < UInt8.ofNat n :: bs := by
  rw [List.cons_lt_cons_iff]
  rcases Nat.lt_or_eq_of_le hle with hlt | rfl
  · left
    rw [UInt8.lt_iff_toNat_lt, UInt8.toNat_ofNat', UInt8.toNat_ofNat', Nat.mod_eq_of_lt hbyte,
      Nat.mod_eq_of_lt (Nat.lt_trans hlt hbyte)]
    exact hlt
  · exact Or.inr ⟨rfl, h rfl⟩

/-- The last bytes have the order of their code points, if these agree in all bits above. -/
theorem lowBytes_append_lt {n v w : ℕ} (hhigh : v / 64 ^ n = w / 64 ^ n) (h : v < w)
    (as bs : List UInt8) : lowBytes n v ++ as < lowBytes n w ++ bs := by
  induction n with
  | zero =>
    rw [Nat.pow_zero, Nat.div_one, Nat.div_one] at hhigh
    exact absurd hhigh (Nat.ne_of_lt h)
  | succ n ih =>
    have hle : v / 64 ^ n ≤ w / 64 ^ n := Nat.div_le_div_right h.le
    rw [Nat.pow_succ, ← Nat.div_div_eq_div_mul, ← Nat.div_div_eq_div_mul] at hhigh
    unfold lowBytes
    refine ofNat_cons_lt (by omega) (by omega) fun hdigit => ih ?_
    omega

/-- **Characters.** The bytes of a character have its place in the order, whatever follows them. -/
theorem utf8EncodeChar_append_lt {c d : Char} (h : c < d) (as bs : List UInt8) :
    String.utf8EncodeChar c ++ as < String.utf8EncodeChar d ++ bs := by
  have hlt : c.val.toNat < d.val.toNat := h
  rw [utf8EncodeChar_eq, utf8EncodeChar_eq, List.cons_append, List.cons_append]
  refine ofNat_cons_lt (leadValue_le hlt.le) (leadValue_lt (val_lt d)) fun hlead => ?_
  obtain ⟨hfollowers, hhigh⟩ := followers_eq_of_leadValue_eq (val_lt c) (val_lt d) hlead
  rw [← hfollowers]
  exact lowBytes_append_lt hhigh hlt as bs

theorem flatMap_lt {cs ds : List Char} (h : cs < ds) :
    cs.flatMap String.utf8EncodeChar < ds.flatMap String.utf8EncodeChar := by
  induction h with
  | nil =>
    rw [List.flatMap_cons, utf8EncodeChar_eq]
    exact List.nil_lt_cons _ _
  | rel hlt => exact utf8EncodeChar_append_lt hlt _ _
  | cons _ ih => exact List.append_left_lt ih

/-- **Texts.** One text stands before another if its bytes do. -/
theorem encode_lt_iff {a b : String} : encode a < encode b ↔ a < b := by
  have hforward : ∀ {a b : String}, a < b → encode a < encode b := by
    intro a b h
    rw [encode_eq, encode_eq]
    exact flatMap_lt (String.lt_iff.mp h)
  refine ⟨fun h => ?_, hforward⟩
  -- of two different texts one stands before the other
  rcases Std.lt_trichotomy a b with hab | rfl | hba
  · exact hab
  · exact absurd h (Std.lt_irrefl)
  · exact absurd (Std.lt_trans h (hforward hba)) Std.lt_irrefl

end ServiceHost.Text.Utf8
