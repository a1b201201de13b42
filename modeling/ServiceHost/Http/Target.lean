/-!
# Request targets

A request names what it wants by a target in one of four forms: a path with an optional
query, an absolute address with a scheme and an authority before the path, an authority
alone, or an asterisk. Nothing is decoded or normalised. A fragment is dropped.

* `Target.parse?` reads any form.
* `Target.ofOrigin?` reads the path and the query; a question mark with nothing after it
  gives the empty query, which differs from no query.
-/

namespace ServiceHost

/-- What a request asks for: the path and, after the first question mark, the query. -/
structure Target where
  path : String
  query : Option String := none
  deriving DecidableEq, Repr

namespace Target

/-! ### Path and query -/

/-- Whether a character may stand in a path. Characters outside ASCII may. -/
def isPathChar (c : Char) : Bool :=
  let n := c.toNat
  n == 0x21 || n == 0x22 || (0x24 ≤ n && n ≤ 0x3B) || n == 0x3D || (0x40 ≤ n && n ≤ 0x5F)
    || (0x61 ≤ n && n ≤ 0x7E) || 0x80 ≤ n

/-- Whether a character may stand in a query. Characters outside ASCII may. -/
def isQueryChar (c : Char) : Bool :=
  let n := c.toNat
  n == 0x21 || (0x24 ≤ n && n ≤ 0x3B) || n == 0x3D || (0x3F ≤ n && n ≤ 0x7E) || 0x80 ≤ n

/-- Whether a character ends a path. -/
def endsPath (c : Char) : Bool := c == '?' || c == '#'

/-- Reads a path and a query up to the fragment. -/
def ofOrigin? (cs : List Char) : Option Target :=
  let path := cs.takeWhile (!endsPath ·)
  if !path.all isPathChar then none
  else match cs.dropWhile (!endsPath ·) with
    | '?' :: rest =>
      let query := rest.takeWhile (· != '#')
      if query.all isQueryChar then some ⟨String.ofList path, some (String.ofList query)⟩
      else none
    | _ => some ⟨String.ofList path, none⟩

/-! ### Scheme and authority -/

/-- Whether a character may stand in a scheme. -/
def isSchemeChar (c : Char) : Bool := c.isAlphanum || "+-.~".toList.contains c

/-- The outcome of looking for a scheme at the start of a target. -/
inductive SchemeSplit where
  /-- There is a scheme, and this follows its double slash. -/
  | scheme (rest : List Char)
  /-- There is no scheme. -/
  | absent
  /-- The scheme is longer than any scheme may be. -/
  | tooLong

/-- Looks for a scheme: characters of a scheme, then a colon and two slashes. -/
def splitScheme (cs : List Char) : SchemeSplit :=
  match cs.dropWhile isSchemeChar with
  | ':' :: '/' :: '/' :: rest =>
    if (cs.takeWhile isSchemeChar).length ≤ 64 then .scheme rest else .tooLong
  | _ => .absent

/-- What has been seen of an authority. -/
structure AuthorityScan where
  colons : Nat := 0
  opened : Bool := false
  closed : Bool := false
  percent : Bool := false
  lastIsAt : Bool := false

/-- Whether a character may stand in an authority and has no meaning of its own there. -/
def isAuthorityChar (c : Char) : Bool :=
  c.isAlphanum || "!$&'()*+,-.;=_~".toList.contains c

/-- Takes one character into an authority. Colons and percent signs before an at sign belong
to the user, those before a closing bracket to the address, so both are forgotten there. -/
def AuthorityScan.step (s : AuthorityScan) (c : Char) : Option AuthorityScan :=
  if c = ':' then
    if s.colons ≥ 8 then none else some { s with colons := s.colons + 1, lastIsAt := false }
  else if c = '[' then
    if s.percent || s.opened then none else some { s with opened := true, lastIsAt := false }
  else if c = ']' then
    if !s.opened || s.closed then none
    else some { s with closed := true, colons := 0, percent := false, lastIsAt := false }
  else if c = '@' then some { s with colons := 0, percent := false, lastIsAt := true }
  else if c = '%' then some { s with percent := true, lastIsAt := false }
  else if isAuthorityChar c then some { s with lastIsAt := false }
  else none

/-- Whether an authority may end here. -/
def AuthorityScan.complete (s : AuthorityScan) : Bool :=
  s.opened == s.closed && s.colons ≤ 1 && !s.lastIsAt && !s.percent

/-- Whether a character ends an authority. -/
def endsAuthority (c : Char) : Bool := c == '/' || c == '?' || c == '#'

/-- Splits an authority off the front. None where it is malformed. -/
def splitAuthority? (cs : List Char) : Option (List Char × List Char) := do
  let authority := cs.takeWhile (!endsAuthority ·)
  let scan ← authority.foldlM AuthorityScan.step {}
  if scan.complete then some (authority, cs.dropWhile (!endsAuthority ·)) else none

/-- Reads a target that starts with neither a slash nor stands for an asterisk. -/
def ofAuthority? (cs : List Char) : Option Target :=
  match splitScheme cs with
  | .tooLong => none
  | .absent =>
    match splitAuthority? cs with
    | some (_ :: _, []) => some ⟨"", none⟩
    | _ => none
  | .scheme rest =>
    match splitAuthority? rest with
    | some (_ :: _, rest) =>
      (ofOrigin? rest).map fun t => if t.path = "" then { t with path := "/" } else t
    | _ => none

/-- The greatest number of bytes in a target. -/
def maxBytes : Nat := 65534

/-- Reads a target in any form. -/
def parse? (text : String) : Option Target :=
  if text.utf8ByteSize > maxBytes then none
  else match text.toList with
    | [] => none
    | ['*'] => some ⟨"*", none⟩
    | '/' :: rest => ofOrigin? ('/' :: rest)
    | cs => ofAuthority? cs

end Target

end ServiceHost
