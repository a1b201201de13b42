import ServiceHost.Tls.EdwardsCurve
import ServiceHost.Tls.RsaKey
import ServiceHost.Tls.WeierstrassCurve

/-!
# Private keys

A private key is written in a wrapper that names its algorithm, or in the form of its own
algorithm. From a key that is well formed and agrees with the public key beside it, if there
is one, the public key follows, in the form in which a certificate describes it.

* `PrivateKey.publicKeyInfo?` gives that description.
-/

namespace ServiceHost.PrivateKey

open Der (Read)

/-- The forms of private keys. -/
inductive Form where
  /-- A wrapper that names the algorithm. -/
  | wrapped
  /-- The form of keys of two primes. -/
  | rsa
  /-- The form of keys on curves. -/
  | curve
  deriving DecidableEq, Repr

/-! ### Algorithms -/

/-- The name of the algorithm of two primes, which has an empty parameter. -/
def rsaAlgorithm : List UInt8 :=
  [0x06, 0x09, 0x2A, 0x86, 0x48, 0x86, 0xF7, 0x0D, 0x01, 0x01, 0x01, 0x05, 0x00]

/-- The name of the algorithm in Edwards form. -/
def edwardsAlgorithm : List UInt8 := [0x06, 0x03, 0x2B, 0x65, 0x70]

/-- The curves in Weierstrass form, with their names. -/
def curves : List (WeierstrassCurve × List UInt8) :=
  [(.p256, [0x06, 0x08, 0x2A, 0x86, 0x48, 0xCE, 0x3D, 0x03, 0x01, 0x07]),
    (.p384, [0x06, 0x05, 0x2B, 0x81, 0x04, 0x00, 0x22])]

/-- The name of the algorithm on a curve, of which the name of the curve is the parameter. -/
def curveAlgorithm (name : List UInt8) : List UInt8 :=
  [0x06, 0x07, 0x2A, 0x86, 0x48, 0xCE, 0x3D, 0x02, 0x01] ++ name

/-- The description of a public key: the algorithm and the written key. -/
def describe (algorithm publicKey : List UInt8) : List UInt8 :=
  Der.encode Der.sequence algorithm ++ Der.encodeBits publicKey

/-! ### Wrappers -/

/-- What a wrapper holds: its version, the key, and what follows. -/
structure Wrapper where
  version : Nat
  key : List UInt8
  rest : List UInt8

/-- Opens a wrapper of a key for an algorithm. Attributes are skipped. -/
def unwrap? (algorithm bytes : List UInt8) : Option Wrapper := do
  let bytes ← Der.whole (Der.expect Der.sequence) bytes
  let (version, bytes) ← Der.small bytes
  let (found, bytes) ← Der.expect Der.sequence bytes
  if found ≠ algorithm then none
  let (key, bytes) ← Der.expect Der.octetString bytes
  let (_, rest) ← Der.optional (Der.part 0) bytes
  return ⟨version, key, rest⟩

/-- Opens a wrapper of the first version, which holds no public key. -/
def unwrapFirst? (algorithm bytes : List UInt8) : Option (List UInt8) := do
  let w ← unwrap? algorithm bytes
  if w.version = 0 ∧ w.rest.isEmpty then some w.key else none

/-! ### Keys of each algorithm -/

/-- The public key of a private key of two primes. -/
def rsa? (bytes : List UInt8) : Option (List UInt8) :=
  (RsaKey.parse? bytes).map fun k => describe rsaAlgorithm k.publicKey

/-- Reads a key on a curve: a version, the private key, the name of the curve or nothing, and
the public key. -/
def curveKey (name : List UInt8) : Read (List UInt8 × List UInt8) := fun bytes => do
  let (version, bytes) ← Der.small bytes
  let (privateKey, bytes) ← Der.expect Der.octetString bytes
  let (found, bytes) ← Der.optional (Der.part 0) bytes
  let (publicKey, bytes) ← Der.nested (Der.part 1) Der.bits bytes
  if version = 1 ∧ found.all (· == name) then some ((privateKey, publicKey), bytes) else none

/-- The public key of a private key on a curve. -/
def curve? (c : WeierstrassCurve) (name bytes : List UInt8) : Option (List UInt8) := do
  let (privateKey, written) ← Der.whole (Der.nested Der.sequence (curveKey name)) bytes
  let publicKey ← c.publicKey? privateKey
  if publicKey = written then some (describe (curveAlgorithm name) publicKey) else none

/-- Reads the public key behind a key in Edwards form. -/
def edwardsPublicKey : Read (List UInt8) := fun bytes =>
  if bytes.head? = some (Der.part 1) then Der.nested (Der.part 1) Der.bits bytes
  else do
    let (content, rest) ← Der.expect 0x81 bytes
    return (← Der.fullBits? content, rest)

/-- The public key of a wrapped private key in Edwards form. A wrapper of the second version
holds the public key, too. -/
def edwards? (bytes : List UInt8) : Option (List UInt8) := do
  let w ← unwrap? edwardsAlgorithm bytes
  let seed ← Der.whole (Der.expect Der.octetString) w.key
  if seed.length ≠ 32 then none
  let publicKey := EdwardsCurve.publicKey seed
  let agrees := match w.version with
    | 0 => w.rest.isEmpty
    | 1 => Der.whole edwardsPublicKey w.rest == some publicKey
    | _ => false
  if agrees then some (describe edwardsAlgorithm publicKey) else none

/-! ### Keys of all algorithms -/

/-- The description of the public key of a private key. None where no algorithm can read
it. -/
def publicKeyInfo? : Form → List UInt8 → Option (List UInt8)
  | .wrapped, bytes =>
    ((unwrapFirst? rsaAlgorithm bytes).bind rsa?)
      <|> curves.findSome? (fun (c, name) =>
        (unwrapFirst? (curveAlgorithm name) bytes).bind (curve? c name))
      <|> edwards? bytes
  | .rsa, bytes => rsa? bytes
  | .curve, bytes => curves.findSome? fun (c, name) => curve? c name bytes

end ServiceHost.PrivateKey
