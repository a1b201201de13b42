import ServiceHost.Toml.Text

/-!
# Socket addresses

A socket address is an IPv4 address and a port, or an IPv6 address in brackets, with an
optional scope, and a port. Octets have no leading zeros. In an IPv6 address two colons stand
for one group of zeros or more, and the last two groups may be written as an IPv4 address.

* `SocketAddress.parse?` reads the whole of a text.
* `SocketAddress.render` gives the canonical form: the longest run of zero groups (the first
  of several) is left out if it has two groups or more.
-/

namespace ServiceHost

/-- An internet address. -/
inductive IpAddress where
  | v4 (octets : List Nat)
  | v6 (groups : List Nat) (scope : Nat)
  deriving DecidableEq, Repr

/-- An internet address and a port. -/
structure SocketAddress where
  ip : IpAddress
  port : Nat
  deriving DecidableEq, Repr

namespace SocketAddress

/-! ### Reading -/

/-- A reader of a part of an address. -/
abbrev Read (α : Type) := List Char → Option (α × List Char)

/-- The value of a digit in a base. -/
def digit? (base : Nat) (c : Char) : Option Nat := (Toml.hexDigit? c).filter (· < base)

/-- Reads a number below `bound`, of at most `most` digits. Without `zeros` a number of two
digits or more does not start with zero. -/
def number (base bound : Nat) (most : Option Nat) (zeros : Bool) : Read Nat := fun cs =>
  let text := cs.takeWhile fun c => (digit? base c).isSome
  let value := Toml.ofDigits base (text.filterMap (digit? base))
  if text.isEmpty ∨ most.any (· < text.length) ∨ bound ≤ value then none
  else if !zeros ∧ 1 < text.length ∧ text.head? = some '0' then none
  else some (value, cs.drop text.length)

/-- Reads a separator and then a part. The first part has no separator before it. -/
def separated {α : Type} (separator : Char) (isFirst : Bool) (part : Read α) : Read α :=
  fun cs => if isFirst then part cs else Toml.readChar? separator cs >>= part

/-- Reads an IPv4 address. -/
def ipv4 : Read (List Nat) := fun cs => do
  let octet := number 10 256 (some 3) false
  let (a, cs) ← octet cs
  let (b, cs) ← separated '.' false octet cs
  let (c, cs) ← separated '.' false octet cs
  let (d, cs) ← separated '.' false octet cs
  return ([a, b, c, d], cs)

/-- Two groups of an IPv6 address from the octets of an IPv4 address. -/
def groupsOfOctets : List Nat → List Nat
  | a :: b :: rest => (256 * a + b) :: groupsOfOctets rest
  | _ => []

/-- Reads up to `limit` groups. The flag tells whether the last two were written as an IPv4
address. -/
def groups : Nat → Bool → List Char → (List Nat × Bool) × List Char
  | 0, _, cs => (([], false), cs)
  | limit + 1, isFirst, cs =>
    let embedded := if 0 < limit then separated ':' isFirst ipv4 cs else none
    match embedded with
    | some (octets, rest) => ((groupsOfOctets octets, true), rest)
    | none =>
      match separated ':' isFirst (number 16 65536 (some 4) true) cs with
      | none => (([], false), cs)
      | some (group, rest) =>
        let ((later, isEmbedded), rest) := groups limit false rest
        ((group :: later, isEmbedded), rest)

/-- Reads an IPv6 address. -/
def ipv6 : Read (List Nat) := fun cs => do
  let ((head, isEmbedded), cs) := groups 8 true cs
  if head.length = 8 then return (head, cs)
  if isEmbedded then none
  let cs ← Toml.readChar? ':' cs
  let cs ← Toml.readChar? ':' cs
  let ((tail, _), cs) := groups (7 - head.length) true cs
  return (head ++ List.replicate (8 - head.length - tail.length) 0 ++ tail, cs)

/-- Reads a port after its colon. -/
def readPort : Read Nat := separated ':' false (number 10 65536 none true)

/-- Reads the scope of an IPv6 address, if there is one. -/
def readScope : Read Nat
  | '%' :: cs => number 10 0x100000000 none true cs
  | cs => some (0, cs)

/-- Reads a socket address. -/
def read : Read SocketAddress
  | '[' :: cs => do
    let (ip, cs) ← ipv6 cs
    let (scope, cs) ← readScope cs
    let cs ← Toml.readChar? ']' cs
    let (port, cs) ← readPort cs
    return (⟨.v6 ip scope, port⟩, cs)
  | cs => do
    let (ip, cs) ← ipv4 cs
    let (port, cs) ← readPort cs
    return (⟨.v4 ip, port⟩, cs)

/-- Reads the whole of a text as a socket address. -/
def parse? (text : String) : Option SocketAddress :=
  match read text.toList with
  | some (a, []) => some a
  | _ => none

/-! ### Writing -/

/-- The texts of numbers between separators. -/
def joined (separator : String) (base : Nat) (numbers : List Nat) : String :=
  separator.intercalate (numbers.map fun n => String.ofList (Nat.toDigits base n))

/-- The lengths of the runs of zeros that start at each group. -/
def zeroRuns : List Nat → List Nat
  | [] => []
  | g :: rest =>
    let runs := zeroRuns rest
    (if g = 0 then runs.headD 0 + 1 else 0) :: runs

/-- The canonical text of an IPv6 address. -/
def renderGroups (gs : List Nat) : String :=
  match gs with
  | [0, 0, 0, 0, 0, 0xFFFF, a, b] =>
    "::ffff:" ++ joined "." 10 [a / 256, a % 256, b / 256, b % 256]
  | gs =>
    let runs := zeroRuns gs
    let longest := runs.foldl max 0
    if longest < 2 then joined ":" 16 gs
    else
      let start := runs.findIdx (· == longest)
      joined ":" 16 (gs.take start) ++ "::" ++ joined ":" 16 (gs.drop (start + longest))

/-- The canonical text of a socket address. -/
def render (a : SocketAddress) : String :=
  match a.ip with
  | .v4 octets => joined "." 10 octets ++ ":" ++ toString a.port
  | .v6 gs scope =>
    let scope := if scope = 0 then "" else "%" ++ toString scope
    "[" ++ renderGroups gs ++ scope ++ "]:" ++ toString a.port

end SocketAddress

end ServiceHost
