import ServiceHost.KeyMap
import ServiceHost.Text.Utf8

/-!
# Form-encoded parameters

A form is a list of pairs joined by ampersands. In a pair the first equals sign stands
between key and value; a plus is a blank and a percent sign with two hexadecimal digits a
byte. Malformed escapes stand for themselves, and text that is no UTF-8 is repaired.

* `Form.pairs` lists the pairs of a form, empty segments skipped, and `Form.serialize` writes pairs.
* `Params.addForm` collects them: the values of a key in the order of their arrival.
-/

namespace ServiceHost

namespace Form

/-- The value of a hexadecimal digit. -/
def hexValue? (b : UInt8) : Option UInt8 :=
  if 0x30 ≤ b ∧ b ≤ 0x39 then some (b - 0x30)
  else if 0x41 ≤ b ∧ b ≤ 0x46 then some (b - 0x37)
  else if 0x61 ≤ b ∧ b ≤ 0x66 then some (b - 0x57)
  else none

/-- Decodes escapes, onto the reverse of what is read. -/
def percentDecodeOnto (read : List UInt8) : List UInt8 → List UInt8
  | [] => read.reverse
  | 0x25 :: high :: low :: rest =>
    match hexValue? high, hexValue? low with
    | some h, some l => percentDecodeOnto ((16 * h + l) :: read) rest
    | _, _ => percentDecodeOnto (0x25 :: read) (high :: low :: rest)
  | b :: rest => percentDecodeOnto (b :: read) rest

/-- Decodes escapes; malformed ones stay. -/
def percentDecode (bytes : List UInt8) : List UInt8 := percentDecodeOnto [] bytes

/-- A plus stands for a blank. -/
def plusToBlank (b : UInt8) : UInt8 := if b = 0x2B then 0x20 else b

/-- The text of a key or a value. -/
def decode (bytes : List UInt8) : String :=
  Text.Utf8.repair (percentDecode (bytes.map plusToBlank))

/-- The pieces of a list between the elements equal to `separator`. -/
def splitAt (separator : UInt8) (bytes : List UInt8) : List (List UInt8) :=
  (bytes.foldr (fun b pieces =>
    if b = separator then [] :: pieces
    else match pieces with
      | [] => [[b]]
      | piece :: rest => (b :: piece) :: rest) [[]])

/-- The pair of a segment: what stands before and after the first equals sign. -/
def pairOfSegment (segment : List UInt8) : String × String :=
  (decode (segment.takeWhile (· != 0x3D)), decode ((segment.dropWhile (· != 0x3D)).drop 1))

/-- The segments of a form that hold something. -/
def segments (bytes : List UInt8) : List (List UInt8) :=
  (splitAt 0x26 bytes).filter (!·.isEmpty)

/-- The pairs of a form. -/
def pairs (bytes : List UInt8) : List (String × String) := (segments bytes).map pairOfSegment

/-! ### Writing a form -/

/-- The digit of a value below sixteen, in upper case. -/
def upperDigit (n : Nat) : Char := if n < 10 then Char.ofNat (48 + n) else Char.ofNat (55 + n)

/-- A byte as an escape. -/
def escape (b : UInt8) : List Char :=
  ['%', upperDigit (b.toNat / 16), upperDigit (b.toNat % 16)]

/-- A byte of a key or a value as a form writes it. -/
def encodeByte (b : UInt8) : List Char :=
  let c := Char.ofNat b.toNat
  if b < 0x80 ∧ (c.isAlphanum ∨ c = '*' ∨ c = '-' ∨ c = '.' ∨ c = '_') then [c]
  else if b = 0x20 then ['+']
  else escape b

/-- A key or a value as a form writes it. -/
def encode (s : String) : List Char := (Text.Utf8.encode s).flatMap encodeByte

/-- Pairs as a form. -/
def serialize (pairs : List (String × String)) : String :=
  String.ofList <| ['&'].intercalate <| pairs.map fun (key, value) =>
    encode key ++ '=' :: encode value

end Form

/-- Parameters: the values of every key, in the order of their arrival. -/
abbrev Params := KeyMap String (Array String)

namespace Params

/-- Adds a value to those of a key. -/
def add (params : Params) (pair : String × String) : Params :=
  params.update pair.1 fun values => (values.getD #[]).push pair.2

/-- Adds pairs in order. -/
def addPairs (params : Params) (pairs : List (String × String)) : Params :=
  pairs.foldl add params

/-- Adds the pairs of a form. -/
def addForm (params : Params) (bytes : List UInt8) : Params :=
  params.addPairs (Form.pairs bytes)

/-- The text of parameters: a line for each key with its values. -/
def lines (params : Params) : String :=
  String.join (params.entries.map fun (key, values) =>
    key ++ "=" ++ ",".intercalate values.toList ++ "\n")

end Params

end ServiceHost
