import ServiceHost.Files
import ServiceHost.Net.Address

/-!
# Hosts

A host is what a connector finds outside the program: the files, and the socket addresses that
are in use. An address is bound as it is written, or after the look-up of its host name; the
port 0 stands for a free port of the host.
-/

namespace ServiceHost

/-- Why an address cannot be bound. -/
inductive BindError where
  | inUse
  | notLocal
  | invalidPort
  | invalidAddress
  | nulByte
  | lookUpFailed
  /-- A refusal in words of its own. -/
  | refused (text : String)
  deriving DecidableEq, Repr

/-- The text of a bind error. -/
def BindError.message : BindError → String
  | .inUse => "Address already in use (os error 98)"
  | .notLocal => "Cannot assign requested address (os error 99)"
  | .invalidPort => "invalid port value"
  | .invalidAddress => "invalid socket address"
  | .nulByte => ReadError.message .nulByte
  | .lookUpFailed => "failed to lookup address information: Temporary failure in name resolution"
  | .refused text => text

/-- The files, the addresses in use and the next free port. -/
structure Host where
  files : FileTree := {}
  inUse : List SocketAddress := []
  freePort : Nat := 40001

namespace IpAddress

/-- Whether an address stands for every interface. -/
def isUnspecified : IpAddress → Bool
  | .v4 octets => octets.all (· == 0)
  | .v6 groups _ => groups.all (· == 0)

/-- Whether an address belongs to the host itself: it stands for every interface or for the
one that leads back. -/
def isLocal : IpAddress → Bool
  | .v4 octets => octets.head? == some 127 || octets.all (· == 0)
  | .v6 [0, 0, 0, 0, 0, 0, 0, last] _ => last == 0 || last == 1
  | .v6 [0, 0, 0, 0, 0, 0xFFFF, a, b] _ => a / 256 == 127 || (a == 0 && b == 0)
  | .v6 _ _ => false

/-- Whether two addresses cannot share a port. -/
def conflicts (a b : IpAddress) : Bool := a == b || a.isUnspecified || b.isUnspecified

end IpAddress

namespace Host

/-- Binds a socket address. -/
def bind (h : Host) (a : SocketAddress) : Except BindError SocketAddress × Host :=
  if !a.ip.isLocal then (.error .notLocal, h)
  else if a.port = 0 then
    let bound : SocketAddress := { a with port := h.freePort }
    (.ok bound, { h with inUse := bound :: h.inUse, freePort := h.freePort + 1 })
  else if h.inUse.any fun other => other.port == a.port && other.ip.conflicts a.ip then
    (.error .inUse, h)
  else (.ok a, { h with inUse := a :: h.inUse })

/-- Gives an address free. -/
def release (h : Host) (a : SocketAddress) : Host := { h with inUse := h.inUse.erase a }

/-- Reads a port as it stands after a host name: decimal digits, with a plus sign or without. -/
def portOf? (cs : List Char) : Option Nat :=
  let digits := match cs with
    | '+' :: rest => rest
    | cs => cs
  match SocketAddress.number 10 65536 none true digits with
  | some (port, []) => some port
  | _ => none

/-- Reads a number in a host name: in base sixteen after `0x`, in base eight after a zero, in
base ten otherwise. -/
def numberOf? (cs : List Char) : Option Nat :=
  let read := match cs with
    | '0' :: 'x' :: rest => SocketAddress.number 16 0x100000000 none true rest
    | '0' :: 'X' :: rest => SocketAddress.number 16 0x100000000 none true rest
    | '0' :: c :: rest => SocketAddress.number 8 0x100000000 none true (c :: rest)
    | cs => SocketAddress.number 10 0x100000000 none true cs
  match read with
  | some (n, []) => some n
  | _ => none

/-- The octets of a number, as many as are asked for. None for a number that has more. -/
def octets? : Nat → Nat → Option (List Nat)
  | 0, n => if n = 0 then some [] else none
  | count + 1, n => (octets? count (n / 256)).map (· ++ [n % 256])

/-- Reads a host name that is an IPv4 address in numbers: up to four of them between points,
of which the last stands for all octets that are left. -/
def numericV4? (name : List Char) : Option IpAddress := do
  let numbers ← (name.splitOn '.').mapM numberOf?
  let last ← numbers.getLast?
  let leading := numbers.dropLast
  if leading.length < 4 ∧ leading.all (· < 256) then
    some (.v4 (leading ++ (← octets? (4 - leading.length) last)))
  else none

/-- Reads a host name that is an IPv6 address. -/
def numericV6? (name : List Char) : Option IpAddress :=
  match SocketAddress.ipv6 name with
  | some (groups, []) => some (.v6 groups 0)
  | _ => none

/-- The address of a host name: the one that the name spells, or that of the host itself. -/
def addressOf? (name : List Char) : Option IpAddress :=
  if name.map Char.toLower = "localhost".toList then some (.v4 [127, 0, 0, 1])
  else numericV4? name <|> numericV6? name

/-- Looks up an address that is no socket address. It is split at its last colon into a name
and a port. -/
def lookUp (address : String) : Except BindError SocketAddress :=
  let reversed := address.toList.reverse
  if !reversed.contains ':' then .error .invalidAddress
  else
    match portOf? (reversed.takeWhile (· != ':')).reverse with
    | none => .error .invalidPort
    | some port =>
      let name := ((reversed.dropWhile (· != ':')).drop 1).reverse
      if name.contains '\x00' then .error .nulByte
      else
        match addressOf? name with
        | some ip => .ok ⟨ip, port⟩
        | none => .error .lookUpFailed

end Host

end ServiceHost
