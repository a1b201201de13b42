import ServiceHost.Http.Form
import ServiceHost.Http.Target

/-!
# Addresses

A client is given an address as a text. What stands in it behind the host is read as the target of
a request. Blanks at its end are cut off, and tabs and line ends left out. A question mark begins
the query, and a number sign a fragment, which is not sent. A path has segments with slashes or
backslashes before them, and segments of dots walk along it. What a path or a query cannot hold is
escaped; escapes that are there already stay.

* `Url.encode` escapes the bytes of a text that are not kept.
* `Url.target` reads what stands behind the host.
-/

namespace ServiceHost

namespace Url

/-! ### Escapes -/

/-- A text with escapes for the bytes that are not kept. -/
def encode (keep : UInt8 → Bool) (s : String) : String :=
  String.ofList <| (Text.Utf8.encode s).flatMap fun b =>
    if keep b then [Char.ofNat b.toNat] else Form.escape b

/-- Whether a byte is kept where it is none of a few. -/
def isKept (except : List Char) (b : UInt8) : Bool :=
  0x21 ≤ b && b ≤ 0x7E && !except.any fun c => c.toNat == b.toNat

/-- Whether a byte may stand in a path as it is. -/
def isPathByte (b : UInt8) : Bool := isKept "\"#<>?\x60\x7b\x7d".toList b

/-- Whether a byte may stand in a query as it is. -/
def isQueryByte (b : UInt8) : Bool := isKept "\"#<>'".toList b

/-! ### Paths -/

/-- Whether a character is cut off at the end of an address. -/
def isBlank (c : Char) : Bool := c.toNat ≤ 0x20

/-- Whether a character is left out of an address. -/
def isLeftOut (c : Char) : Bool := c == '\t' || c == '\n' || c == '\r'

/-- The characters of an address that are read. -/
def readable (s : String) : List Char :=
  (s.toList.reverse.dropWhile isBlank).reverse.filter (!isLeftOut ·)

/-- Whether a character stands between two segments. -/
def isSeparator (c : Char) : Bool := c == '/' || c == '\\'

/-- The segments of a path behind its first slash. There is one at least. -/
def segments (cs : List Char) : List (List Char) :=
  cs.foldr (fun c found =>
    if isSeparator c then [] :: found
    else match found with
      | [] => [[c]]
      | segment :: rest => (c :: segment) :: rest) [[]]

/-- Whether a segment stands for the place where it is. -/
def isHere (segment : List Char) : Bool :=
  [".", "%2e"].any fun dots => dots.toList == segment.map Char.toLower

/-- Whether a segment stands for the place above. -/
def isAbove (segment : List Char) : Bool :=
  ["..", ".%2e", "%2e.", "%2e%2e"].any fun dots => dots.toList == segment.map Char.toLower

/-- Walks along segments, from those that have been walked along before, the last one first. Behind
dots at the end the path has an empty segment. -/
def walk (walked : List (List Char)) : List (List Char) → List (List Char)
  | [] => walked.reverse
  | segment :: rest =>
    let here := if rest.isEmpty then [[]] else []
    if isAbove segment then walk (here ++ walked.tail) rest
    else if isHere segment then walk (here ++ walked) rest
    else walk (segment :: walked) rest

/-- A path from its segments. -/
def pathText (found : List (List Char)) : String :=
  String.ofList <| found.flatMap fun segment =>
    '/' :: (encode isPathByte (String.ofList segment)).toList

/-- Reads a path. It begins with a slash, whether one stands there or not. -/
def path (cs : List Char) : String :=
  pathText <| walk [] <| segments <|
    match cs with
    | [] => []
    | c :: rest => if isSeparator c then rest else c :: rest

/-! ### Targets -/

/-- Reads what stands behind the host of an address. -/
def target (behindHost : String) : Target where
  path := path ((readable behindHost).takeWhile (!Target.endsPath ·))
  query :=
    match (readable behindHost).dropWhile (!Target.endsPath ·) with
    | '?' :: rest => some (encode isQueryByte (String.ofList (rest.takeWhile (· != '#'))))
    | _ => none

/-- A target with pairs added to its query. One in which nothing stands then is left out. -/
def withPairs (t : Target) (pairs : List (String × String)) : Target :=
  let parts := [t.query.getD "", Form.serialize pairs].filter (· != "")
  { t with query := if parts.isEmpty then none else some ("&".intercalate parts) }

end Url

end ServiceHost
