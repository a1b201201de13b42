import ServiceHost.Text.Utf8
import ServiceHost.Tls.Base64

/-!
# PEM sections

A section stands between a line that begins it and a line that ends it, both with its label,
and holds bytes in base64. Text around sections is skipped, and so are sections with labels
that are not known. A section that has no end, a beginning without five dashes at its end, and
a content that is no base64 are errors.

* `Pem.readAll` reads a file up to its end or its first error.
-/

namespace ServiceHost.Pem

/-- The sections that matter. -/
inductive Label where
  | certificate
  | privateKey
  | rsaPrivateKey
  | ecPrivateKey
  /-- A section that is known and of no use here. -/
  | other
  deriving DecidableEq, Repr

/-- The label of a name. -/
def Label.ofName? : String → Option Label
  | "CERTIFICATE" => some .certificate
  | "PRIVATE KEY" => some .privateKey
  | "RSA PRIVATE KEY" => some .rsaPrivateKey
  | "EC PRIVATE KEY" => some .ecPrivateKey
  | "PUBLIC KEY" => some .other
  | "X509 CRL" => some .other
  | "CERTIFICATE REQUEST" => some .other
  | "ECHCONFIG" => some .other
  | _ => none

/-- A section: its label and its bytes. -/
structure Section where
  label : Label
  bytes : List UInt8
  deriving DecidableEq

/-- Why a file cannot be read to its end. -/
inductive Error where
  | missingEnd
  | illegalStart
  | badBase64
  deriving DecidableEq, Repr

/-- The text of an error. -/
def Error.message : Error → String
  | .missingEnd => "section end missing"
  | .illegalStart => "illegal section start"
  | .badBase64 => "invalid base64"

/-! ### Lines -/

/-- The lines of a file, each with its end. A carriage return ends a line as a line feed
does. -/
def lines (bytes : List UInt8) : List (List UInt8) :=
  bytes.foldr (fun b acc =>
    if b = 0x0A ∨ b = 0x0D then [b] :: acc
    else match acc with
      | [] => [[b]]
      | line :: rest => (b :: line) :: rest) []

/-- The start of a line that begins a section. -/
def beginMark : List UInt8 := Text.Utf8.encode "-----BEGIN "

/-- The start of a line that ends a section. -/
def endMark : List UInt8 := Text.Utf8.encode "-----END "

/-- The dashes after a label. -/
def dashes : List UInt8 := List.replicate 5 0x2D

/-- Whether a byte may stand among the dashes at the end of a beginning. -/
def isTrailer (b : UInt8) : Bool := b == 0x2D || b == 0x0A || b == 0x0D || b == 0x20

/-- The label in a line that begins a section. None unless five dashes end it. -/
def labelOf? (line : List UInt8) : Option (List UInt8) :=
  let trailer := (line.reverse.takeWhile isTrailer).reverse
  if trailer.count 0x2D = 5 then
    let body := line.take (line.length - trailer.length)
    some ((body ++ trailer.takeWhile (· != 0x2D)).drop beginMark.length)
  else none

/-! ### Sections -/

/-- An open section: its label and the text that is to be decoded. -/
structure OpenSection where
  label : List UInt8
  text : List UInt8 := []

/-- Ends a section. -/
def OpenSection.close (s : OpenSection) : Except Error (Option Section) :=
  match (Text.Utf8.decode? s.label).bind Label.ofName? with
  | none => .ok none
  | some label =>
    match Base64.decode? s.text with
    | some bytes => .ok (some ⟨label, bytes⟩)
    | none => .error .badBase64

/-- Reads lines, with the open section if there is one. Gives the sections before the first
error, and that error. A beginning inside a section opens another one, and the text of the
first is kept. -/
def readLines : Option OpenSection → List (List UInt8) → List Section × Option Error
  | none, [] => ([], none)
  | some _, [] => ([], some .missingEnd)
  | current, line :: rest =>
    if beginMark.isPrefixOf line then
      match labelOf? line with
      | none => ([], some .illegalStart)
      | some label => readLines (some ⟨label, (current.map (·.text)).getD []⟩) rest
    else match current with
      | none => readLines none rest
      | some s =>
        if (endMark ++ s.label ++ dashes).isPrefixOf line then
          match s.close with
          | .error e => ([], some e)
          | .ok found =>
            let (sections, e) := readLines none rest
            (found.toList ++ sections, e)
        else readLines (some { s with text := s.text ++ line }) rest

/-- Reads a file: the sections before the first error, and that error. -/
def readAll (bytes : List UInt8) : List Section × Option Error := readLines none (lines bytes)

end ServiceHost.Pem
