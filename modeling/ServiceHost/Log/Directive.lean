import ServiceHost.Http.Router
import ServiceHost.Log.Record
import ServiceHost.Text.Alphanumeric
import ServiceHost.Text.Pattern.Parser
import ServiceHost.Text.WhiteSpace

/-!
# Filter directives

A directive lets records pass up to a level. It may ask for a target, with which the path of a
record begins; for a scope by its name; and for a field, with a value or without. The written
form is a level alone, a target alone, or a target, a scope in brackets with a field in
braces, an equals sign and a level, each of which may be missing.

* `Directive.parse` reads a directive.
-/

namespace ServiceHost

/-- The gravity of a level: errors have the least number. -/
def Level.rank : Level → Nat
  | .error => 1
  | .warn => 2
  | .info => 3
  | .debug => 4
  | .trace => 5

/-- The levels by rank, none for the rank 0. -/
def Level.ofRank? : Nat → Option (Option Level)
  | 0 => some none
  | 1 => some (some .error)
  | 2 => some (some .warn)
  | 3 => some (some .info)
  | 4 => some (some .debug)
  | 5 => some (some .trace)
  | _ => none

/-- What the value of a field is compared with. -/
inductive ValueTest where
  /-- A number or a truth value. No text is one. -/
  | number (spelling : String)
  | pattern (spelling : String) (p : Text.Pattern)
  deriving DecidableEq, Repr

/-- Whether a text passes a test. -/
def ValueTest.holds : ValueTest → String → Bool
  | .number _, _ => false
  | .pattern _ p, s => p.isWhole s

/-- A field that is asked for. -/
structure FieldTest where
  name : String
  value : Option ValueTest := none
  deriving DecidableEq, Repr

/-- A directive. Without a target it is for every path; without a limit nothing passes. -/
structure Directive where
  target : String := ""
  scope : Option String := none
  field : Option FieldTest := none
  limit : Option Level
  deriving DecidableEq, Repr

/-- Why a field is refused. -/
inductive FieldError where
  | malformedPattern
  | wordEdge
  deriving DecidableEq, Repr

/-- The text of a refusal. -/
def FieldError.message : FieldError → String
  | .malformedPattern => "error building NFA"
  | .wordEdge =>
    "unsupported regex feature for DFAs: cannot build DFAs for regexes with Unicode word "
      ++ "boundaries; switch to ASCII word boundaries, or heuristically enable Unicode word "
      ++ "boundaries or use a different regex engine"

/-- Why directives are refused. -/
inductive FilterError where
  | invalidDirective
  | invalidLevel
  | invalidField (cause : FieldError)
  deriving DecidableEq, Repr

/-- The text of a refusal. -/
def FilterError.message : FilterError → String
  | .invalidDirective => "invalid filter directive"
  | .invalidLevel =>
    "error parsing level filter: expected one of \"off\", \"error\", \"warn\", \"info\", "
      ++ "\"debug\", \"trace\", or a number 0-5"
  | .invalidField cause => "invalid field filter: " ++ cause.message

/-! ### Levels -/

namespace Level

/-- Reads a number in decimal digits, with a plus sign or without. -/
def number? (text : String) : Option Nat :=
  let digits := match text.toList with
    | '+' :: rest => rest
    | cs => cs
  if digits.isEmpty || !digits.all Char.isDigit then none
  else some (digits.foldl (fun n c => 10 * n + (c.toNat - '0'.toNat)) 0)

/-- Reads a limit: a level in any case, `off`, or a rank. -/
def limit? (text : String) : Option (Option Level) :=
  match number? text with
  | some n => ofRank? n
  | none =>
    match String.ofList (text.toList.map Char.toLower) with
    | "off" => some none
    | "error" => some (some .error)
    | "warn" => some (some .warn)
    | "info" => some (some .info)
    | "debug" => some (some .debug)
    | "trace" => some (some .trace)
    | _ => none

end Level

/-! ### Fields -/

namespace ValueTest

/-- Whether characters spell the exponent of a number, or nothing. -/
def isExponent : List Char → Bool
  | [] => true
  | c :: rest =>
    let digits := match rest with
      | '+' :: rest => rest
      | '-' :: rest => rest
      | rest => rest
    (c == 'e' || c == 'E') && !digits.isEmpty && digits.all Char.isDigit

/-- Whether characters spell a number without a sign: digits with a point among them or not,
and an exponent or none. -/
def isDecimal (cs : List Char) : Bool :=
  let whole := cs.takeWhile Char.isDigit
  match cs.drop whole.length with
  | '.' :: rest =>
    let fraction := rest.takeWhile Char.isDigit
    !(whole ++ fraction).isEmpty && isExponent (rest.drop fraction.length)
  | rest => !whole.isEmpty && isExponent rest

/-- Whether a text spells a number. -/
def isNumber (text : String) : Bool :=
  let digits := match text.toList with
    | '+' :: rest => rest
    | '-' :: rest => rest
    | cs => cs
  isDecimal digits
    || ["inf", "infinity", "nan"].contains (String.ofList (digits.map Char.toLower))

/-- Reads a value. What is neither a number nor a truth value is a pattern. -/
def parse (text : String) : Except FieldError ValueTest :=
  if text = "true" ∨ text = "false" ∨ isNumber text then .ok (.number text)
  else match Text.Pattern.parse? text with
    | none => .error .malformedPattern
    | some p => if p.looksForWords then .error .wordEdge else .ok (.pattern text p)

end ValueTest

/-- Reads a field: a name and, between the first equals sign and the second, a value. -/
def FieldTest.parse (text : List Char) : Except FilterError FieldTest :=
  if text.isEmpty then .error .invalidDirective
  else
    match (text.splitOn '=').map String.ofList with
    | name :: value :: _ =>
      match ValueTest.parse value with
      | .ok value => .ok { name, value := some value }
      | .error cause => .error (.invalidField cause)
    | _ => .ok { name := String.ofList text }

/-! ### Directives -/

namespace Directive

/-- Whether a directive decides by the record alone. -/
def isPlain (d : Directive) : Bool := d.scope.isNone && d.field.all (·.value.isNone)

/-- Whether a directive decides by the scope that a record is written in. -/
def isScoped (d : Directive) : Bool := d.scope.isSome || d.field.isSome

/-- Whether two directives ask for the same. -/
def asksLike (d e : Directive) : Bool :=
  d.target == e.target && d.scope == e.scope && d.field == e.field

/-- Whether a directive lets a level pass. -/
def admits (d : Directive) (level : Level) : Bool := d.limit.any (level.rank ≤ ·.rank)

/-- Which part of a directive is being read. The numbers are the places where parts begin. -/
inductive Part where
  | start
  /-- A level or a target. -/
  | word
  | scope (first : Nat)
  | field (first : Nat)
  | fieldClosed
  | scopeClosed
  | level (first : Nat)
  deriving DecidableEq, Repr

/-- What has been read of a directive. -/
structure Scan where
  part : Part := .start
  directive : Directive := { limit := some .trace }
  deriving DecidableEq, Repr

/-- Whether a character may start a level or a target. -/
def startsWord (c : Char) : Bool :=
  Text.inRanges Text.alphanumericRanges c.toNat || c == '-' || c == ':' || c == '_'

/-- The text between two places. Blanks in front of a directive do not count for the places,
though they do where it is cut: what follows a blank in front is cut off too early. -/
def slice (text : List Char) (first last : Nat) : String :=
  String.ofList ((text.drop first).take (last - first))

/-- Takes the character at a place in. -/
def Scan.step (text : List Char) (s : Scan) (spot : Char × Nat) : Except FilterError Scan :=
  let (c, i) := spot
  let d := s.directive
  match s.part with
  | .start =>
    if c = '[' then .ok { s with part := .scope (i + 1) }
    else if startsWord c then .ok { s with part := .word }
    else .error .invalidDirective
  | .word =>
    if c = '=' then .ok ⟨.level (i + 1), { d with target := slice text 0 i }⟩
    else if c = '[' then .ok ⟨.scope (i + 1), { d with target := slice text 0 i }⟩
    else .ok s
  | .scope first =>
    if c = ']' then .ok ⟨.scopeClosed, { d with scope := some (slice text first i) }⟩
    else if c = '\x7b' then
      .ok ⟨.field (i + 1), { d with scope := some (slice text first i) |>.filter (· != "") }⟩
    else .ok s
  | .field first =>
    if c = '\x7d' then do
      let field ← FieldTest.parse (slice text first i).toList
      return ⟨.fieldClosed, { d with field := some field }⟩
    else .ok s
  | .fieldClosed =>
    if c = ']' then .ok { s with part := .scopeClosed } else .error .invalidDirective
  | .scopeClosed =>
    if c = '=' then .ok { s with part := .level (i + 1) } else .error .invalidDirective
  | .level _ => .ok s

/-- Ends a directive. A word alone is a level if it spells one, else a target. -/
def Scan.finish (text : List Char) (s : Scan) : Except FilterError Directive :=
  let d := s.directive
  match s.part with
  | .word =>
    let word := String.ofList text
    match Level.limit? word with
    | some limit => .ok { d with limit }
    | none => .ok { d with target := word }
  | .scopeClosed => .ok d
  | .level first =>
    match String.ofList (text.drop first) with
    | "" => .ok d
    | level =>
      match Level.limit? level with
      | some limit => .ok { d with limit }
      | none => .error .invalidLevel
  | _ => .error .invalidDirective

/-- Reads a directive. -/
def parse (text : List Char) : Except FilterError Directive := do
  let s ← (Text.trimBoth Text.isWhiteSpace text).zipIdx.foldlM (Scan.step text) {}
  s.finish text

end Directive

end ServiceHost
