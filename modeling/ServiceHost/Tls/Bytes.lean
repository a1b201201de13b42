/-!
# Numbers as bytes

Numbers are written as bytes in base 256, the highest first, in a given width or in the least
width that holds them.
-/

namespace ServiceHost.Bytes

/-- The number that bytes stand for, the highest first. -/
def toNat (bytes : List UInt8) : Nat := bytes.foldl (fun n b => 256 * n + b.toNat) 0

/-- The last bytes of a number, as many as the width says. -/
def ofNat : Nat → Nat → List UInt8
  | 0, _ => []
  | width + 1, n => ofNat width (n / 256) ++ [(n % 256).toUInt8]

/-- The least width that holds a number; one for zero. -/
def width (n : Nat) : Nat := n.log2 / 8 + 1

end ServiceHost.Bytes
