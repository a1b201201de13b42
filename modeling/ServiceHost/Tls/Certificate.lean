import ServiceHost.Tls.Der

/-!
# Certificates

A certificate is a signed statement that a public key belongs to a subject. Of its parts only
the public key matters here, but all of them must be in their places: version 3, a serial
number, the algorithm of the signature (the same inside and outside), issuer, period of
validity, subject and key, and extensions. An extension that says of itself that it must be
understood is refused unless it is one of the known ones, and none of these may come twice.

* `Certificate.parse?` reads a certificate.
-/

namespace ServiceHost

open Der (Read)

/-- A certificate: its public key, as the content of the element that describes it. -/
structure Certificate where
  publicKeyInfo : List UInt8
  deriving DecidableEq, Repr

namespace Certificate

/-- The bytes of an element in a certificate are fewer than this. -/
def sizeLimit : Nat := 0xFFFF

/-! ### Extensions -/

/-- An extension: its name, whether it must be understood, and its content. -/
structure Extension where
  name : List UInt8
  critical : Bool
  content : List UInt8

/-- The number of an extension among the standard ones. -/
def Extension.number? (e : Extension) : Option UInt8 :=
  match e.name with
  | [0x55, 0x1D, n] => some n
  | _ => none

/-- The number of the extension for the uses of a key, whose content is no sequence. -/
def keyUsage : UInt8 := 15

/-- The numbers of the extensions that are known: uses of the key, names of the subject, basic
constraints, constraints of names, places of revocation lists, extended uses. -/
def knownExtensions : List UInt8 := [keyUsage, 17, 19, 30, 31, 37]

/-- Reads a truth value. It is false where it is missing. -/
def flag : Read Bool := fun bytes => do
  match ← Der.optional Der.boolean bytes with
  | (none, rest) => some (false, rest)
  | (some [0xFF], rest) => some (true, rest)
  | (some [0x00], rest) => some (false, rest)
  | _ => none

/-- Reads the parts of an extension. -/
def extension : Read Extension := fun bytes => do
  let (name, bytes) ← Der.expect Der.identifier bytes
  let (critical, bytes) ← flag bytes
  let (content, bytes) ← Der.expect Der.octetString bytes
  return (⟨name, critical, content⟩, bytes)

/-- Reads extensions to the end. -/
def extensions : Nat → List UInt8 → Option (List Extension)
  | _, [] => some []
  | 0, _ => none
  | fuel + 1, bytes => do
    let (e, rest) ← Der.nested Der.sequence extension bytes
    return e :: (← extensions fuel rest)

/-- Whether an extension can be taken, after those with the given numbers. -/
def Extension.isFine (e : Extension) (before : List UInt8) : Bool :=
  match e.number?.filter knownExtensions.contains with
  | none => !e.critical
  | some n =>
    !before.contains n
      && (n == keyUsage || (Der.whole (Der.expect Der.sequence) e.content).isSome)

/-- Whether extensions can be taken one after another. -/
def areFine : List UInt8 → List Extension → Bool
  | _, [] => true
  | before, e :: rest => e.isFine before && areFine (e.number?.toList ++ before) rest

/-! ### The statement and its signature -/

/-- Reads the number of the version, which is written as one less than it is. -/
def version3 : Read Unit := fun bytes => do
  let (n, rest) ← Der.nested (Der.part 0) Der.small bytes
  if n = 2 then some ((), rest) else none

/-- Reads what is signed, with the algorithm of the signature known. -/
def statement (algorithm : List UInt8) : Read Certificate := fun bytes => do
  let ((), bytes) ← version3 bytes
  let (_, bytes) ← Der.expect Der.integer bytes
  let (signature, bytes) ← Der.expect Der.sequence bytes
  if signature ≠ algorithm then none
  let (_, bytes) ← Der.expect Der.sequence bytes
  let (_, bytes) ← Der.expect Der.sequence bytes
  let (_, bytes) ← Der.expect Der.sequence bytes
  let (publicKeyInfo, bytes) ← Der.expect Der.sequence bytes
  if bytes.isEmpty then some (⟨publicKeyInfo⟩, [])
  else
    let (list, bytes) ← Der.nested (Der.part 3) (Der.expect Der.sequence) bytes
    if areFine [] (← extensions list.length list) then some (⟨publicKeyInfo⟩, bytes) else none

/-- Reads the parts of a certificate: the statement, the algorithm and the signature. -/
def signed : Read Certificate := fun bytes => do
  let (content, bytes) ← Der.expect Der.sequence bytes
  let (algorithm, bytes) ← Der.expect Der.sequence bytes
  let (_, bytes) ← Der.bits bytes
  return (← Der.whole (statement algorithm) content, bytes)

/-- Reads a certificate. -/
def parse? (bytes : List UInt8) : Option Certificate := do
  let content ← Der.whole (Der.expect Der.sequence) bytes
  if content.length < sizeLimit then Der.whole signed content else none

end Certificate

end ServiceHost
