import ServiceHost.Toml.Text

/-!
# Numbers

An integer is decimal, or hexadecimal, octal or binary after `0x`, `0o` or `0b`, and fits
into 64 bits with a sign. A float has a fraction, an exponent or both, or is infinite or no
number. An underscore may stand between two digits, and a decimal integer part has no leading
zero.
-/

namespace ServiceHost.Toml

/-- The digits at the front, underscores between two of them skipped, and what follows. -/
def digitRun (isDigit : Char → Bool) : List Char → List Char × List Char
  | [] => ([], [])
  | c :: rest =>
    if isDigit c then
      let tail := match rest with
        | '_' :: d :: rest' =>
          if isDigit d then digitRun isDigit (d :: rest') else ([], '_' :: d :: rest')
        | rest => digitRun isDigit rest
      (c :: tail.1, tail.2)
    else ([], c :: rest)

/-- Reads one digit or more. -/
def digits (isDigit : Char → Bool) (cs : List Char) :
    Except SyntaxError (List Char × List Char) :=
  match digitRun isDigit cs with
  | ([], _) => .error .badNumber
  | run => .ok run

/-- Reads a sign; true for a minus. -/
def sign : List Char → Bool × List Char
  | '-' :: rest => (true, rest)
  | '+' :: rest => (false, rest)
  | cs => (false, cs)

/-- Reads the integer part of a decimal number. A zero stands alone. -/
def integerPart : List Char → Except SyntaxError (List Char × List Char)
  | '0' :: rest => .ok (['0'], rest)
  | cs => digits Char.isDigit cs

/-- The float nearest to `mantissa · 10 ^ exponent`. Exponents far outside the range of
floats are cut down first, as they change nothing but the work. -/
def scaled (mantissa : Nat) (exponent : Int) : Float :=
  if mantissa = 0 then 0.0
  else
    let size : Int := (toString mantissa).length
    if size + exponent > 400 then 1.0 / 0.0
    else if size + exponent < -400 then 0.0
    else if exponent < 0 then Float.ofScientific mantissa true exponent.natAbs
    else Float.ofScientific mantissa false exponent.natAbs

/-- Whether a float is plus infinity. -/
def isPlusInfinity (x : Float) : Bool := x.isInf && x > 0.0

/-- Reads the fraction of a float, if there is a point. -/
def fraction : List Char → Except SyntaxError (List Char × List Char)
  | '.' :: rest => digits Char.isDigit rest
  | cs => .ok ([], cs)

/-- Reads the exponent of a float, if there is one. -/
def exponent : List Char → Except SyntaxError (Int × List Char)
  | c :: rest =>
    if c = 'e' ∨ c = 'E' then do
      let (negative, rest) := sign rest
      let (run, rest) ← digits Char.isDigit rest
      let n : Int := digitsValue run
      return (if negative then -n else n, rest)
    else .ok (0, c :: rest)
  | [] => .ok (0, [])

/-- Reads a number in a base after its two marking characters. -/
def inBase (base : Nat) (cs : List Char) : Except SyntaxError (Value × List Char) := do
  let isDigit (c : Char) : Bool := (hexDigit? c).any (· < base)
  let (run, rest) ← digits isDigit cs
  let n := ofDigits base (run.filterMap hexDigit?)
  if isInteger64 n then return (.integer n, rest) else .error .outOfRange

/-- Reads a decimal number after its sign. -/
def decimal (negative : Bool) (cs : List Char) : Except SyntaxError (Value × List Char) := do
  let (whole, rest) ← integerPart cs
  let isFloat := match rest with
    | c :: _ => c == '.' || c == 'e' || c == 'E'
    | [] => false
  if isFloat then
    let (part, rest) ← fraction rest
    let (e, rest) ← exponent rest
    let size := scaled (digitsValue (whole ++ part)) (e - part.length)
    let x := if negative then -size else size
    if isPlusInfinity x then .error .outOfRange else return (.float x, rest)
  else
    let n : Int := digitsValue whole
    let n := if negative then -n else n
    if isInteger64 n then return (.integer n, rest) else .error .outOfRange

/-- Reads a number. -/
def number : Read Value
  | '0' :: 'x' :: rest => inBase 16 rest
  | '0' :: 'o' :: rest => inBase 8 rest
  | '0' :: 'b' :: rest => inBase 2 rest
  | cs =>
    let (negative, rest) := sign cs
    match rest with
    | 'i' :: 'n' :: 'f' :: rest =>
      .ok (.float (if negative then -1.0 / 0.0 else 1.0 / 0.0), rest)
    | 'n' :: 'a' :: 'n' :: rest => .ok (.float (0.0 / 0.0), rest)
    | rest => decimal negative rest

end ServiceHost.Toml
