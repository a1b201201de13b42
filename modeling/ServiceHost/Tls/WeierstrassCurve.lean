import ServiceHost.Tls.Bytes
import ServiceHost.Tls.Modular

/-!
# Curves in Weierstrass form

The points of a curve `y² = x³ + a·x + b` over the numbers modulo a prime form a group with a
base point of prime order. A private key is a number below the order, and the public key is
that multiple of the base point. Points are kept with a third coordinate that stands for a
common denominator, so that adding needs no division.

* `WeierstrassCurve.publicKey?` is the written public key of a private key.
-/

namespace ServiceHost

/-- A curve: the prime, the coefficient of `x`, the base point, its order, and the number of
bytes in a coordinate. -/
structure WeierstrassCurve where
  prime : Nat
  a : Nat
  baseX : Nat
  baseY : Nat
  order : Nat
  width : Nat
  deriving DecidableEq, Repr

namespace WeierstrassCurve

/-- The curve of 256 bits. -/
def p256 : WeierstrassCurve where
  prime := 0xffffffff00000001000000000000000000000000ffffffffffffffffffffffff
  a := 0xffffffff00000001000000000000000000000000fffffffffffffffffffffffc
  baseX := 0x6b17d1f2e12c4247f8bce6e563a440f277037d812deb33a0f4a13945d898c296
  baseY := 0x4fe342e2fe1a7f9b8ee7eb4a7c0f9e162bce33576b315ececbb6406837bf51f5
  order := 0xffffffff00000000ffffffffffffffffbce6faada7179e84f3b9cac2fc632551
  width := 32

/-- The curve of 384 bits. -/
def p384 : WeierstrassCurve where
  prime := 0xffffffffffffffffffffffffffffffffffffffffffffffff <<< 192
    ||| 0xfffffffffffffffeffffffff0000000000000000ffffffff
  a := 0xffffffffffffffffffffffffffffffffffffffffffffffff <<< 192
    ||| 0xfffffffffffffffeffffffff0000000000000000fffffffc
  baseX := 0xaa87ca22be8b05378eb1c71ef320ad746e1d3b628ba79b98 <<< 192
    ||| 0x59f741e082542a385502f25dbf55296c3a545e3872760ab7
  baseY := 0x3617de4a96262c6f5d9e98bf9292dc29f8f41dbd289a147c <<< 192
    ||| 0xe9da3113b5f0b8c00a60b1ce1d7e819d7a431d7c90ea0e5f
  order := 0xffffffffffffffffffffffffffffffffffffffffffffffff <<< 192
    ||| 0xc7634d81f4372ddf581a0db248b0a77aecec196accc52973
  width := 48

/-- A point `(x / z², y / z³)`. The point at infinity has `z = 0`. -/
structure Point where
  x : Nat
  y : Nat
  z : Nat
  deriving DecidableEq, Repr

variable (c : WeierstrassCurve)

/-- The point at infinity. -/
def infinity : Point := ⟨1, 1, 0⟩

/-- The base point. -/
def base : Point := ⟨c.baseX, c.baseY, 1⟩

/-- Twice a point. -/
def double (q : Point) : Point :=
  let p := c.prime
  let yy := q.y * q.y % p
  let s := 4 * q.x * yy % p
  let zz := q.z * q.z % p
  let m := (3 * q.x * q.x + c.a * (zz * zz % p)) % p
  let x := Modular.sub p (m * m) (2 * s)
  ⟨x, Modular.sub p (m * Modular.sub p s x) (8 * yy * yy), 2 * q.y * q.z % p⟩

/-- The sum of two points. -/
def add (q r : Point) : Point :=
  if q.z = 0 then r
  else if r.z = 0 then q
  else
    let p := c.prime
    let qz := q.z * q.z % p
    let rz := r.z * r.z % p
    let u := q.x * rz % p
    let s := q.y * (rz * r.z % p) % p
    let h := Modular.sub p (r.x * qz) u
    let d := Modular.sub p (r.y * (qz * q.z % p)) s
    if h = 0 then if d = 0 then c.double q else infinity
    else
      let hh := h * h % p
      let hhh := hh * h % p
      let v := u * hh % p
      let x := Modular.sub p (d * d) (hhh + 2 * v)
      ⟨x, Modular.sub p (d * Modular.sub p v x) (s * hhh), h * q.z % p * r.z % p⟩

/-- The coordinates of a point, each in its width, after the byte that announces both. -/
def encode (q : Point) : List UInt8 :=
  let p := c.prime
  let i := Modular.inv p q.z
  let ii := i * i % p
  4 :: Bytes.ofNat c.width (q.x * ii % p) ++ Bytes.ofNat c.width (q.y * (ii * i % p) % p)

/-- The written public key of a private key, which has the width of the curve and stands for
a number between zero and the order. -/
def publicKey? (privateKey : List UInt8) : Option (List UInt8) :=
  let n := Bytes.toNat privateKey
  if privateKey.length = c.width ∧ 0 < n ∧ n < c.order then
    some (c.encode (Modular.multiple infinity c.add c.base n))
  else none

end WeierstrassCurve

end ServiceHost
