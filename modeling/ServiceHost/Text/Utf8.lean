/-!
# UTF-8

Decoding of byte lists. A character takes one to four bytes; after a lead byte the second
byte is confined to a range (which excludes overlong forms, surrogates and code points past
U+10FFFF) and every later byte is a continuation byte.

* `decode?` reads well-formed text and refuses all else.
* `repair` reads anything: every maximal ill-formed part stands for one U+FFFD, a part being
  as long a beginning of a well-formed character as the bytes give, or one byte.
-/

namespace ServiceHost.Text.Utf8

/-- The bytes of a text. -/
def encode (s : String) : List UInt8 := s.toUTF8.toList

/-- The number of bytes after a lead byte and the range of the second byte. -/
def lead? (b : UInt8) : Option (Nat × UInt8 × UInt8) :=
  if b < 0xC2 then none
  else if b < 0xE0 then some (1, 0x80, 0xBF)
  else if b = 0xE0 then some (2, 0xA0, 0xBF)
  else if b = 0xED then some (2, 0x80, 0x9F)
  else if b < 0xF0 then some (2, 0x80, 0xBF)
  else if b = 0xF0 then some (3, 0x90, 0xBF)
  else if b < 0xF4 then some (3, 0x80, 0xBF)
  else if b = 0xF4 then some (3, 0x80, 0x8F)
  else none

/-- The bits that a lead byte with `n` bytes after it carries. -/
def leadBits (n : Nat) (b : UInt8) : Nat :=
  match n with
  | 1 => b.toNat % 0x20
  | 2 => b.toNat % 0x10
  | _ => b.toNat % 0x08

/-- Reads up to `n` bytes, the next one in `[low, high]` and those after it continuation
bytes. Gives the bits read so far, what is still missing, and the bytes left. -/
def continuation : Nat → UInt8 → UInt8 → Nat → List UInt8 → Nat × Nat × List UInt8
  | 0, _, _, bits, rest => (bits, 0, rest)
  | n + 1, _, _, bits, [] => (bits, n + 1, [])
  | n + 1, low, high, bits, b :: rest =>
    if low ≤ b ∧ b ≤ high then continuation n 0x80 0xBF (bits * 0x40 + b.toNat % 0x40) rest
    else (bits, n + 1, b :: rest)

/-- Continuation bytes are taken off the front, so the rest is no longer. -/
theorem continuation_length_le (n : Nat) (low high : UInt8) (bits : Nat) (bytes : List UInt8) :
    (continuation n low high bits bytes).2.2.length ≤ bytes.length := by
  fun_induction continuation n low high bits bytes <;> (simp_all; try omega)

/-- The first character of a byte list, or none where the list begins ill-formed, and the
bytes after it (after the ill-formed part in the second case). -/
def next : List UInt8 → Option Char × List UInt8
  | [] => (none, [])
  | b :: rest =>
    if b < 0x80 then (some (Char.ofNat b.toNat), rest)
    else match lead? b with
      | none => (none, rest)
      | some (n, low, high) =>
        let read := continuation n low high (leadBits n b) rest
        (if read.2.1 = 0 then some (Char.ofNat read.1) else none, read.2.2)

/-- Every step takes a byte, so decoding comes to an end. -/
theorem next_length_lt (b : UInt8) (rest : List UInt8) :
    (next (b :: rest)).2.length < (b :: rest).length := by
  have := continuation_length_le
  simp only [next]
  split
  · simp
  · split <;> grind

/-- Decodes with `U+FFFD` for every maximal ill-formed part, in front of what is read. -/
def repairOnto (read : List Char) : List UInt8 → List Char
  | [] => read.reverse
  | b :: rest => repairOnto ((next (b :: rest)).1.getD '\uFFFD' :: read) (next (b :: rest)).2
termination_by bytes => bytes.length
decreasing_by exact next_length_lt b rest

/-- Decodes any bytes, with U+FFFD for every maximal ill-formed part. -/
def repair (bytes : List UInt8) : String := String.ofList (repairOnto [] bytes)

/-- Decodes well-formed bytes in front of what is read. -/
def decodeOnto? (read : List Char) : List UInt8 → Option (List Char)
  | [] => some read.reverse
  | b :: rest =>
    match (next (b :: rest)).1 with
    | some c => decodeOnto? (c :: read) (next (b :: rest)).2
    | none => none
termination_by bytes => bytes.length
decreasing_by exact next_length_lt b rest

/-- Decodes well-formed bytes. -/
def decode? (bytes : List UInt8) : Option String := (decodeOnto? [] bytes).map String.ofList

end ServiceHost.Text.Utf8
