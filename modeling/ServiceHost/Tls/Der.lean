import ServiceHost.Tls.Bytes

/-!
# Encoded elements

Certificates and keys are made of elements: a tag, a length and a content, which holds
elements again. The length has one byte below 128 and else one or two bytes after a byte that
tells how many; only the shortest form is allowed.

* `Der.element` reads an element, `Der.encode` writes one.
* `Der.whole` reads bytes to their end.
-/

namespace ServiceHost.Der

/-- A reader of a part of the bytes. -/
abbrev Read (α : Type) := List UInt8 → Option (α × List UInt8)

/-! ### Tags -/

/-- The tag of a truth value. -/
def boolean : UInt8 := 0x01

/-- The tag of a whole number. -/
def integer : UInt8 := 0x02

/-- The tag of a string of bits. -/
def bitString : UInt8 := 0x03

/-- The tag of a string of bytes. -/
def octetString : UInt8 := 0x04

/-- The tag of the name of an algorithm, an extension or the like. -/
def identifier : UInt8 := 0x06

/-- The tag of a sequence of elements. -/
def sequence : UInt8 := 0x30

/-- The tag of a numbered part that holds an element. -/
def part (number : UInt8) : UInt8 := 0xA0 + number

/-- Whether a tag goes on in further bytes. -/
def isLong (tag : UInt8) : Bool := tag &&& 0x1F == 0x1F

/-! ### Reading -/

/-- Reads a length. -/
def length : Read Nat
  | 0x81 :: b :: rest => if b < 0x80 then none else some (b.toNat, rest)
  | 0x82 :: a :: b :: rest => if a = 0 then none else some (256 * a.toNat + b.toNat, rest)
  | b :: rest => if b < 0x80 then some (b.toNat, rest) else none
  | [] => none

/-- Reads an element: its tag and its content. -/
def element : Read (UInt8 × List UInt8)
  | [] => none
  | tag :: rest => do
    let (n, rest) ← length rest
    if isLong tag || rest.length < n then none else some ((tag, rest.take n), rest.drop n)

/-- Reads an element with a given tag. -/
def expect (tag : UInt8) : Read (List UInt8) := fun bytes => do
  let ((found, content), rest) ← element bytes
  if found = tag then some (content, rest) else none

/-- Reads bytes to their end. -/
def whole {α : Type} (read : Read α) (bytes : List UInt8) : Option α :=
  match read bytes with
  | some (a, []) => some a
  | _ => none

/-- Reads an element with a given tag, and its content to the end. -/
def nested {α : Type} (tag : UInt8) (read : Read α) : Read α := fun bytes => do
  let (content, rest) ← expect tag bytes
  return (← whole read content, rest)

/-- Reads an element if it has a given tag. -/
def optional (tag : UInt8) (bytes : List UInt8) : Option (Option (List UInt8) × List UInt8) :=
  if bytes.head? = some tag then (expect tag bytes).map fun (content, rest) => (some content, rest)
  else some (none, bytes)

/-- The bytes of a number that is not negative, without a zero in front. A zero stands in
front exactly where the next byte would make the number negative. -/
def magnitude? : List UInt8 → Option (List UInt8)
  | [] => none
  | [0] => some [0]
  | 0 :: b :: rest => if b < 0x80 then none else some (b :: rest)
  | b :: rest => if b < 0x80 then some (b :: rest) else none

/-- Reads a number that is not negative. -/
def natural : Read Nat := fun bytes => do
  let (content, rest) ← expect integer bytes
  return (Bytes.toNat (← magnitude? content), rest)

/-- Reads a number of one byte. -/
def small : Read Nat := fun bytes => do
  let (n, rest) ← natural bytes
  if n < 256 then some (n, rest) else none

/-- The bytes in the content of a string of bits, of which every one is used up. -/
def fullBits? : List UInt8 → Option (List UInt8)
  | 0 :: bytes => some bytes
  | _ => none

/-- Reads a string of bits that fills its bytes. -/
def bits : Read (List UInt8) := fun bytes => do
  let (content, rest) ← expect bitString bytes
  return (← fullBits? content, rest)

/-! ### Writing -/

/-- The shortest form of a length. -/
def encodeLength (n : Nat) : List UInt8 :=
  if n < 0x80 then [n.toUInt8]
  else (0x80 + Bytes.width n).toUInt8 :: Bytes.ofNat (Bytes.width n) n

/-- Writes an element. -/
def encode (tag : UInt8) (content : List UInt8) : List UInt8 :=
  tag :: encodeLength content.length ++ content

/-- Writes a number. -/
def encodeNatural (n : Nat) : List UInt8 :=
  let bytes := Bytes.ofNat (Bytes.width n) n
  encode integer (if bytes.head?.any (0x80 ≤ ·) then 0 :: bytes else bytes)

/-- Writes a string of bits that fills its bytes. -/
def encodeBits (bytes : List UInt8) : List UInt8 := encode bitString (0 :: bytes)

end ServiceHost.Der
