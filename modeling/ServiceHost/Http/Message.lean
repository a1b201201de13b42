import ServiceHost.Http.Method
import ServiceHost.Http.Target
import ServiceHost.Text.Utf8

/-!
# Requests and responses

A request is a method, a target, header fields and a body of bytes. A response keeps the
header fields that a service sets: the media type of its body, the location of a redirect
and the methods that a path allows.
-/

namespace ServiceHost

/-- A header field. Field names are compared in lower case. -/
structure HeaderField where
  name : String
  value : String
  deriving DecidableEq, Repr

/-- Whether a text may stand as the value of a header field: no controls but the tab. -/
def isHeaderValue (value : String) : Bool :=
  value.toList.all fun c => c == '\t' || (0x20 ≤ c.toNat && c.toNat != 0x7F)

namespace HeaderField

/-- Reads a header field: the name is a token, the value holds no controls. -/
def ofTexts? (name value : String) : Option HeaderField :=
  if name.isEmpty || !name.toList.all isTokenChar || !isHeaderValue value then none
  else some ⟨String.ofList (name.toList.map Char.toLower), value⟩

end HeaderField

/-- A request. -/
structure Request where
  method : Method
  target : Target
  headers : List HeaderField := []
  body : List UInt8 := []

namespace Request

/-- The value of the first header field of a name. -/
def header? (r : Request) (name : String) : Option String :=
  (r.headers.find? (·.name = name)).map (·.value)

end Request

/-- The media types of the replies. -/
inductive MediaType where
  | text
  | json
  deriving DecidableEq, Repr

/-- The spelling of a media type in a header field. -/
def MediaType.name : MediaType → String
  | .text => "text/plain; charset=utf-8"
  | .json => "application/json"

/-- A response. -/
structure Response where
  status : Nat
  body : String
  mediaType : MediaType := .text
  location : Option String := none
  allow : Option (List Method) := none
  deriving DecidableEq

namespace Response

/-- A plain text with a status. -/
def text (status : Nat) (body : String) : Response := { status, body }

/-- The header field that lists the allowed methods. -/
def allowText (methods : List Method) : String := ", ".intercalate (methods.map (·.text))

/-- The header fields of a response. -/
def headers (r : Response) : List HeaderField :=
  [⟨"content-type", r.mediaType.name⟩]
    ++ (r.location.map (⟨"location", ·⟩)).toList
    ++ (r.allow.map fun methods => ⟨"allow", allowText methods⟩).toList

end Response

end ServiceHost
