import ServiceHost.Toml.DateTime

/-!
# Values of settings

A settings file holds a table of values. An array of tables that was written under headers of
its own is kept apart from an array that was written out, since only the latter may stand for
a record. Null has no written form; it occurs in settings that were given as data.
-/

namespace ServiceHost.Toml

/-- A value of a settings file. -/
inductive Value where
  | null
  | boolean (b : Bool)
  | integer (n : Int)
  | float (x : Float)
  | string (s : String)
  | dateTime (t : DateTime)
  | array (items : List Value)
  | tables (items : List (List (String × Value)))
  | table (entries : List (String × Value))
  deriving Inhabited

/-- A table: keys with their values. Every key occurs once. -/
abbrev Table := List (String × Value)

/-- The value of a key. -/
def Table.get? (t : Table) (key : String) : Option Value := t.lookup key

/-- Whether an integer fits into 64 bits with a sign. -/
def isInteger64 (n : Int) : Bool := -0x8000000000000000 ≤ n && n < 0x8000000000000000

/-- The largest nesting of arrays and tables in a value, and the largest number of parts in a
key, are below this. -/
def nestingLimit : Nat := 80

/-- Why a settings file is refused. -/
inductive SyntaxError where
  | unexpected (found : Option Char)
  | controlCharacter (found : Char)
  | unclosedString
  | badEscape
  | badNumber
  | outOfRange
  | badDateTime
  | tooDeep
  | duplicateKey (key : String)
  | notATable (key : String)
  deriving DecidableEq, Repr

/-- The text of a refusal. -/
def SyntaxError.message : SyntaxError → String
  | .unexpected none => "unexpected end of the settings"
  | .unexpected (some c) => s!"unexpected character {c}"
  | .controlCharacter c => s!"control character {c.toNat}"
  | .unclosedString => "a string has no end"
  | .badEscape => "invalid escape sequence"
  | .badNumber => "invalid number"
  | .outOfRange => "a number is out of range"
  | .badDateTime => "invalid date or time"
  | .tooDeep => "values are nested too deeply"
  | .duplicateKey key => s!"duplicate key {key}"
  | .notATable key => s!"key {key} is no table"

/-- A reader of a part of a settings file: what it has read and what follows. -/
abbrev Read (α : Type) := List Char → Except SyntaxError (α × List Char)

/-- The refusal of what stands here. -/
def unexpected {α : Type} (cs : List Char) : Except SyntaxError α :=
  .error (.unexpected cs.head?)

end ServiceHost.Toml
