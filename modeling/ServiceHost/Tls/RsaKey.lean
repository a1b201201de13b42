import ServiceHost.Tls.Der

/-!
# Keys of two primes

A private key is a list of numbers: a modulus and its two primes, an exponent for each side,
and what makes the private side fast. They must belong together as far as that can be seen
without knowing more than they say.

* `RsaKey.parse?` reads a private key that is consistent.
-/

namespace ServiceHost

open Der (Read)

/-- A private key. -/
structure RsaKey where
  modulus : Nat
  publicExponent : Nat
  privateExponent : Nat
  p : Nat
  q : Nat
  exponentP : Nat
  exponentQ : Nat
  /-- The inverse of `q` modulo `p`. -/
  coefficient : Nat
  deriving DecidableEq, Repr

namespace RsaKey

/-- The number of bits of a number. -/
def bitLength (n : Nat) : Nat := if n = 0 then 0 else n.log2 + 1

/-- Whether a modulus is odd and neither too short nor too long. Its length counts in whole
bytes where it may be too short. -/
def hasGoodModulus (k : RsaKey) : Bool :=
  let bits := bitLength k.modulus
  k.modulus % 2 == 1 && 2048 ≤ (bits + 7) / 8 * 8 && bits ≤ 4096

/-- Whether a public exponent is odd and neither too small nor too large. -/
def hasGoodPublicExponent (k : RsaKey) : Bool :=
  k.publicExponent % 2 == 1 && 65537 ≤ k.publicExponent && k.publicExponent < 1 <<< 33

/-- The length of each prime: half of the length of the modulus, rounded up. -/
def primeBits (k : RsaKey) : Nat := (bitLength k.modulus + 1) / 2

/-- Whether the primes are odd, have their length, and give the modulus. -/
def hasGoodPrimes (k : RsaKey) : Bool :=
  k.p % 2 == 1 && k.q % 2 == 1 && bitLength k.p == k.primeBits && bitLength k.q == k.primeBits
    && k.primeBits % 512 == 0 && k.p * k.q % k.modulus == 0

/-- Whether the private side is odd and within its bounds, and the coefficient an inverse. -/
def hasGoodPrivateSide (k : RsaKey) : Bool :=
  k.privateExponent % 2 == 1 && k.primeBits < bitLength k.privateExponent
    && k.privateExponent < k.modulus
    && k.exponentP % 2 == 1 && k.exponentP < k.p && k.exponentQ % 2 == 1 && k.exponentQ < k.q
    && k.coefficient < k.p && k.coefficient * k.q % k.p == 1

/-- Whether the numbers of a key belong together. -/
def isConsistent (k : RsaKey) : Bool :=
  k.hasGoodModulus && k.hasGoodPublicExponent && k.hasGoodPrimes && k.hasGoodPrivateSide

/-- Reads the numbers of a private key, after that of the version. -/
def numbers : Read RsaKey := fun bytes => do
  let (version, bytes) ← Der.small bytes
  if version ≠ 0 then none
  let (modulus, bytes) ← Der.natural bytes
  let (publicExponent, bytes) ← Der.natural bytes
  let (privateExponent, bytes) ← Der.natural bytes
  let (p, bytes) ← Der.natural bytes
  let (q, bytes) ← Der.natural bytes
  let (exponentP, bytes) ← Der.natural bytes
  let (exponentQ, bytes) ← Der.natural bytes
  let (coefficient, bytes) ← Der.natural bytes
  return ({ modulus, publicExponent, privateExponent, p, q, exponentP, exponentQ, coefficient },
    bytes)

/-- Reads a private key that is consistent. -/
def parse? (bytes : List UInt8) : Option RsaKey :=
  (Der.whole (Der.nested Der.sequence numbers) bytes).filter isConsistent

/-- The written public key. -/
def publicKey (k : RsaKey) : List UInt8 :=
  Der.encode Der.sequence (Der.encodeNatural k.modulus ++ Der.encodeNatural k.publicExponent)

end RsaKey

end ServiceHost
