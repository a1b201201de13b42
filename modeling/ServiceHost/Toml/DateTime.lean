/-!
# Dates and times

A date-time of a settings file is a date, a time of day, or both with an optional offset
from UTC. `DateTime.read?` accepts the written forms and `DateTime.render` gives the normal
one: `T` between date and time, `Z` or a signed offset, and a fraction of at most nine digits
without zeros at its end.
-/

namespace ServiceHost.Toml

/-- A day of the calendar. -/
structure Date where
  year : Nat
  month : Nat
  day : Nat
  deriving DecidableEq, Repr, Inhabited

/-- A time of day. The second 60 is a leap second. -/
structure Time where
  hour : Nat
  minute : Nat
  second : Nat
  nanosecond : Nat := 0
  deriving DecidableEq, Repr, Inhabited

/-- The distance from UTC. -/
inductive Offset where
  | utc
  | minutes (east : Int)
  deriving DecidableEq, Repr, Inhabited

/-- A date, a time of day, or both. -/
inductive DateTime where
  | date (date : Date)
  | time (time : Time)
  | both (date : Date) (time : Time) (offset : Option Offset)
  deriving DecidableEq, Repr, Inhabited

/-- A leap year. -/
def isLeapYear (year : Nat) : Bool := year % 4 == 0 && (year % 100 != 0 || year % 400 == 0)

/-- The number of days of a month. -/
def daysInMonth (year month : Nat) : Nat :=
  if month = 2 then if isLeapYear year then 29 else 28
  else if month = 4 ∨ month = 6 ∨ month = 9 ∨ month = 11 then 30
  else 31

/-! ### Reading -/

/-- The value of a list of decimal digits. -/
def digitsValue (digits : List Char) : Nat :=
  digits.foldl (fun n c => 10 * n + (c.toNat - '0'.toNat)) 0

/-- Reads exactly `count` digits. -/
def readDigits? (count : Nat) (cs : List Char) : Option (Nat × List Char) :=
  let digits := cs.take count
  if digits.length = count ∧ digits.all Char.isDigit then
    some (digitsValue digits, cs.drop count)
  else none

/-- Reads two digits with a value between two bounds. -/
def readPair? (low high : Nat) (cs : List Char) : Option (Nat × List Char) := do
  let (n, rest) ← readDigits? 2 cs
  if low ≤ n ∧ n ≤ high then some (n, rest) else none

/-- Reads one given character. -/
def readChar? (c : Char) : List Char → Option (List Char)
  | [] => none
  | d :: rest => if d = c then some rest else none

/-- Reads a date: four digits, two and two with dashes between them. -/
def Date.read? (cs : List Char) : Option (Date × List Char) := do
  let (year, cs) ← readDigits? 4 cs
  let cs ← readChar? '-' cs
  let (month, cs) ← readPair? 1 12 cs
  let cs ← readChar? '-' cs
  let (day, cs) ← readPair? 1 (daysInMonth year month) cs
  return (⟨year, month, day⟩, cs)

/-- The nanoseconds of a fraction: its first nine digits, blanks being zeros. -/
def fractionValue (digits : List Char) : Nat :=
  digitsValue ((digits ++ List.replicate 9 '0').take 9)

/-- Reads a fraction of a second, if there is a point. -/
def readFraction? : List Char → Option (Nat × List Char)
  | '.' :: rest =>
    let digits := rest.takeWhile Char.isDigit
    if digits.isEmpty then none else some (fractionValue digits, rest.dropWhile Char.isDigit)
  | cs => some (0, cs)

/-- Reads a time of day with seconds. -/
def Time.read? (cs : List Char) : Option (Time × List Char) := do
  let (hour, cs) ← readPair? 0 23 cs
  let cs ← readChar? ':' cs
  let (minute, cs) ← readPair? 0 59 cs
  let cs ← readChar? ':' cs
  let (second, cs) ← readPair? 0 60 cs
  let (nanosecond, cs) ← readFraction? cs
  return (⟨hour, minute, second, nanosecond⟩, cs)

/-- Reads an offset, if there is one. -/
def Offset.read? : List Char → Option (Option Offset × List Char)
  | c :: rest =>
    if c = 'Z' ∨ c = 'z' then some (some .utc, rest)
    else if c = '+' ∨ c = '-' then do
      let (h, rest) ← readPair? 0 23 rest
      let rest ← readChar? ':' rest
      let (m, rest) ← readPair? 0 59 rest
      let east : Int := 60 * h + m
      return (some (.minutes (if c = '-' then -east else east)), rest)
    else some (none, c :: rest)
  | [] => some (none, [])

/-- Reads a date and, after `T` or a blank, a time of day with an optional offset. A blank
that no time follows ends the date. -/
def DateTime.read? (cs : List Char) : Option (DateTime × List Char) :=
  match Date.read? cs with
  | none => (Time.read? cs).map fun (t, rest) => (.time t, rest)
  | some (d, rest) =>
    match rest with
    | [] => some (.date d, [])
    | c :: afterMark =>
      let timeFollows := (readDigits? 2 afterMark).isSome
      if c = 'T' ∨ c = 't' ∨ (c = ' ' ∧ timeFollows) then do
        let (t, rest) ← Time.read? afterMark
        let (offset, rest) ← Offset.read? rest
        return (.both d t offset, rest)
      else some (.date d, c :: afterMark)

/-- The date-time that a text spells from its first character to its last. -/
def DateTime.ofText? (s : String) : Option DateTime :=
  match DateTime.read? s.toList with
  | some (t, []) => some t
  | _ => none

/-- Whether a text starts like a date (four digits and a dash) or a time (two digits and a
colon), so that it can be nothing else. -/
def DateTime.startsAt (cs : List Char) : Bool :=
  let isDigits (n : Nat) := (readDigits? n cs).isSome
  (isDigits 4 && (cs.drop 4).head? == some '-') || (isDigits 2 && (cs.drop 2).head? == some ':')

/-! ### Writing -/

/-- A number with zeros in front up to a width. -/
def padded (width n : Nat) : String :=
  let digits := toString n
  String.ofList (List.replicate (width - digits.length) '0') ++ digits

/-- The written form of a date, with a year of four digits. -/
def Date.render (d : Date) : String :=
  padded 4 d.year ++ "-" ++ padded 2 d.month ++ "-" ++ padded 2 d.day

/-- The fraction of a second, empty for a whole second. -/
def renderFraction (nanosecond : Nat) : String :=
  if nanosecond = 0 then ""
  else
    let digits := (padded 9 nanosecond).toList
    "." ++ String.ofList (digits.reverse.dropWhile (· == '0')).reverse

/-- The written form of a time of day. -/
def Time.render (t : Time) : String :=
  padded 2 t.hour ++ ":" ++ padded 2 t.minute ++ ":" ++ padded 2 t.second
    ++ renderFraction t.nanosecond

/-- The written form of an offset. -/
def Offset.render : Offset → String
  | .utc => "Z"
  | .minutes east =>
    (if east < 0 then "-" else "+") ++ padded 2 (east.natAbs / 60) ++ ":"
      ++ padded 2 (east.natAbs % 60)

/-- The normal form of a date-time. -/
def DateTime.render : DateTime → String
  | .date d => d.render
  | .time t => t.render
  | .both d t offset => d.render ++ "T" ++ t.render ++ (offset.map Offset.render).getD ""

end ServiceHost.Toml
