import ServiceHost.Tls.Modular
import ServiceHost.Tls.Sha512

/-!
# The curve in Edwards form

The points of `y² - x² = 1 + d·x²·y²` over the numbers modulo a prime form a group under one
law of addition. A private key is a seed of 32 bytes: its digest gives the number whose
multiple of the base point is the public key, which is written as `y`, the lowest byte first,
with the parity of `x` in the highest bit.

* `EdwardsCurve.publicKey` is the written public key of a seed.
-/

namespace ServiceHost.EdwardsCurve

/-- The prime of the curve. -/
def prime : Nat := 0x7fffffffffffffffffffffffffffffffffffffffffffffffffffffffffffffed

/-- Twice the coefficient of the curve. -/
def twiceD : Nat := 0x2406d9dc56dffce7198e80f2eef3d13000e0149a8283b156ebd69b9426b2f159

/-- A point `(x / z, y / z)`, with `t = x * y / z`. -/
structure Point where
  x : Nat
  y : Nat
  z : Nat
  t : Nat
  deriving DecidableEq, Repr

/-- The point that adds nothing. -/
def zero : Point := ⟨0, 1, 1, 0⟩

/-- The base point. -/
def base : Point :=
  let x := 0x216936d3cd6e53fec0a4e231fdd6dc5c692cc7609525a7b2c9562d608f25d51a
  let y := 0x6666666666666666666666666666666666666666666666666666666666666658
  ⟨x, y, 1, x * y % prime⟩

/-- The sum of two points. -/
def add (q r : Point) : Point :=
  let a := Modular.sub prime q.y q.x * Modular.sub prime r.y r.x % prime
  let b := (q.y + q.x) * (r.y + r.x) % prime
  let c := q.t * twiceD % prime * r.t % prime
  let d := 2 * q.z * r.z % prime
  let e := Modular.sub prime b a
  let f := Modular.sub prime d c
  let g := (d + c) % prime
  let h := (b + a) % prime
  ⟨e * f % prime, g * h % prime, f * g % prime, e * h % prime⟩

/-- The written form of a point. -/
def encode (q : Point) : List UInt8 :=
  let i := Modular.inv prime q.z
  let parity := q.x * i % prime % 2
  (Bytes.ofNat 32 (q.y * i % prime + (parity <<< 255))).reverse

/-- The number in the first half of a digest: a multiple of eight whose highest bit is the one
of the value 2 to the power of 254. -/
def scalar (digest : List UInt8) : Nat :=
  let n := Bytes.toNat (digest.take 32).reverse % (1 <<< 254)
  n - n % 8 + (1 <<< 254)

/-- The written public key of a seed. -/
def publicKey (seed : List UInt8) : List UInt8 :=
  encode (Modular.multiple zero add base (scalar (Sha512.digest seed)))

end ServiceHost.EdwardsCurve
