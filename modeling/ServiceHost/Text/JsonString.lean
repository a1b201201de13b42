import ServiceHost.Text.Quoted

/-!
# Strings of JSON

A string of JSON text stands in double quotes. Quotes, backslashes and controls are escaped;
every other character stays as it is.
-/

namespace ServiceHost.Text

/-- A control character by its number, in four hexadecimal digits. -/
def unicodeEscape (c : Char) : List Char :=
  let digits := hexDigits c.toNat
  ['\\', 'u'] ++ List.replicate (4 - digits.length) '0' ++ digits

/-- One character as it stands between the quotes. -/
def jsonChar (c : Char) : List Char :=
  if c = '"' then ['\\', '"']
  else if c = '\\' then ['\\', '\\']
  else if c = '\x08' then ['\\', 'b']
  else if c = '\t' then ['\\', 't']
  else if c = '\n' then ['\\', 'n']
  else if c = '\x0c' then ['\\', 'f']
  else if c = '\r' then ['\\', 'r']
  else if c.toNat < 0x20 then unicodeEscape c
  else [c]

/-- A text as a string of JSON. -/
def jsonString (s : String) : String :=
  String.ofList ('"' :: s.toList.flatMap jsonChar ++ ['"'])

/-- An object of JSON without spaces, from names and written values. -/
def jsonObject (entries : List (String × String)) : String :=
  "\x7b" ++ ",".intercalate (entries.map fun (name, value) => jsonString name ++ ":" ++ value)
    ++ "\x7d"

end ServiceHost.Text
