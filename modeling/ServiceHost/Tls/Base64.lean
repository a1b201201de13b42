import ServiceHost.Http.Form

/-!
# Base64

Four digits of 64 stand for three bytes. Blanks and line ends are skipped. The last group may
be short, with or without the padding that fills it up; padding stands nowhere else.
-/

namespace ServiceHost.Base64

/-- The value of a digit. -/
def digit? (b : UInt8) : Option Nat :=
  if 0x41 ≤ b ∧ b ≤ 0x5A then some (b.toNat - 0x41)
  else if 0x61 ≤ b ∧ b ≤ 0x7A then some (b.toNat - 0x61 + 26)
  else if 0x30 ≤ b ∧ b ≤ 0x39 then some (b.toNat - 0x30 + 52)
  else if b = 0x2B then some 62
  else if b = 0x2F then some 63
  else none

/-- Whether a byte is skipped: the blank, and the tabs, feeds and returns of ASCII. -/
def isSkipped (b : UInt8) : Bool := b == 0x20 || (0x09 ≤ b && b ≤ 0x0D)

/-- The byte that fills up a short group. -/
def padding : UInt8 := 0x3D

/-- The bytes of digits, onto the reverse of what is read. A single digit is no group. -/
def bytesOnto (read : List UInt8) : List Nat → Option (List UInt8)
  | a :: b :: c :: d :: rest =>
    let n := ((a * 64 + b) * 64 + c) * 64 + d
    bytesOnto ((n % 256).toUInt8 :: (n / 256 % 256).toUInt8 :: (n / 65536).toUInt8 :: read) rest
  | [a, b, c] =>
    let n := (a * 64 + b) * 64 + c
    some (((n / 4 % 256).toUInt8 :: (n / 1024).toUInt8 :: read).reverse)
  | [a, b] => some (((a * 64 + b) / 16).toUInt8 :: read).reverse
  | [_] => none
  | [] => some read.reverse

/-- Decodes bytes of text. -/
def decode? (text : List UInt8) : Option (List UInt8) := do
  let text := text.filter (!isSkipped ·)
  let body := text.takeWhile (· != padding)
  let fill := text.drop body.length
  let digits ← body.mapM digit?
  if fill.all (· == padding) ∧ (fill = [] ∨ fill.length < 3 ∧ text.length % 4 = 0) then
    bytesOnto [] digits
  else none

end ServiceHost.Base64
