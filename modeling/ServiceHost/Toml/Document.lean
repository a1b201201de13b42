import ServiceHost.Toml.Number
import ServiceHost.Toml.Tree

/-!
# Settings documents

A document is a sequence of lines: an entry under a dotted key, a header in brackets that
opens a table, or a header in double brackets that opens the next table of an array.

* `Expression.readAll` reads the lines.
* `Table.ofExpressions` puts them together.
* `Table.parse` does both.
-/

namespace ServiceHost.Toml

/-- A line of a document that says something. Its keys are never empty lists. -/
inductive Expression where
  | entry (path : List String) (key : String) (value : Value)
  | table (path : List String) (key : String)
  | tableOfArray (path : List String) (key : String)

/-! ### Keys -/

/-- Whether a character may stand in a key without quotes. -/
def isBareKeyChar (c : Char) : Bool := c.isAlphanum || c == '_' || c == '-'

/-- Reads one part of a key. -/
def keyPart : Read String
  | '"' :: rest => basicOnto [] rest
  | '\'' :: rest => literal rest
  | cs =>
    let name := cs.takeWhile isBareKeyChar
    if name.isEmpty then unexpected cs
    else .ok (String.ofList name, cs.dropWhile isBareKeyChar)

/-- Reads a dotted key of at most `limit` parts: the parts before the last, and the last. -/
def key : Nat → Read (List String × String)
  | 0, _ => .error .tooDeep
  | limit + 1, cs => do
    let (part, rest) ← keyPart (skipBlanks cs)
    match skipBlanks rest with
    | '.' :: rest =>
      let ((path, last), rest) ← key limit rest
      return ((part :: path, last), rest)
    | rest => return (([], part), rest)

/-- Reads a dotted key. -/
def dottedKey : Read (List String × String) := key (nestingLimit - 1)

/-- Reads one given character. -/
def expect (c : Char) (cs : List Char) : Except SyntaxError (List Char) :=
  match readChar? c cs with
  | some rest => .ok rest
  | none => unexpected cs

/-! ### Values -/

/-- What follows blanks, line ends and comments. A comment here ends with its line. -/
def skipSpace : Nat → List Char → Except SyntaxError (List Char)
  | 0, cs => .ok cs
  | fuel + 1, cs =>
    match skipBlanks cs with
    | '#' :: rest =>
      match newline? (skipComment ('#' :: rest)) with
      | some rest => skipSpace fuel rest
      | none => unexpected (skipComment ('#' :: rest))
    | rest =>
      match newline? rest with
      | some rest => skipSpace fuel rest
      | none => .ok rest

/-- What follows the space between the items of an array. -/
def space (cs : List Char) : Except SyntaxError (List Char) := skipSpace (cs.length + 1) cs

/-- Reads the items of an array up to its closing bracket, onto the reverse of what is read.
A comma may follow the last item. -/
def items (item : Read Value) : Nat → List Value → Read (List Value)
  | 0, _, cs => unexpected cs
  | fuel + 1, read, cs => do
    match ← space cs with
    | ']' :: rest => return (read.reverse, rest)
    | cs =>
      let (v, rest) ← item cs
      match ← space rest with
      | ']' :: rest => return ((v :: read).reverse, rest)
      | ',' :: rest => items item fuel (v :: read) rest
      | rest => unexpected rest

/-- Reads the pairs of an inline table up to its closing brace. -/
def inlinePairs (item : Read Value) : Nat → Node.Entries → Read Node.Entries
  | 0, _, cs => unexpected cs
  | fuel + 1, read, cs => do
    let ((path, last), rest) ← dottedKey cs
    let rest ← expect '=' rest
    let (v, rest) ← item (skipBlanks rest)
    let read ← Node.set path last v read
    match skipBlanks rest with
    | '\x7d' :: rest => return (read, rest)
    | ',' :: rest => inlinePairs item fuel read rest
    | rest => unexpected rest

/-- Reads an inline table after its opening brace. -/
def inlineTable (item : Read Value) (cs : List Char) :
    Except SyntaxError (Value × List Char) := do
  match skipBlanks cs with
  | '\x7d' :: rest => return (.table [], rest)
  | cs =>
    let (entries, rest) ← inlinePairs item (cs.length + 1) [] cs
    return (.table (Node.toTable entries), rest)

/-- Reads a value without items. -/
def scalar : Read Value
  | 't' :: 'r' :: 'u' :: 'e' :: rest => .ok (.boolean true, rest)
  | 'f' :: 'a' :: 'l' :: 's' :: 'e' :: rest => .ok (.boolean false, rest)
  | '"' :: rest => (string ('"' :: rest)).map fun (s, rest) => (.string s, rest)
  | '\'' :: rest => (string ('\'' :: rest)).map fun (s, rest) => (.string s, rest)
  | cs =>
    if DateTime.startsAt cs then
      match DateTime.read? cs with
      | some (t, rest) => .ok (.dateTime t, rest)
      | none => .error .badDateTime
    else number cs

/-- Reads a value in which arrays and tables are nested at most `depth` times. -/
def value : Nat → Read Value
  | 0, '[' :: _ => .error .tooDeep
  | 0, '\x7b' :: _ => .error .tooDeep
  | depth + 1, '[' :: rest => do
    let (vs, rest) ← items (value depth) (rest.length + 1) [] rest
    return (.array vs, rest)
  | depth + 1, '\x7b' :: rest => inlineTable (value depth) rest
  | _, cs => scalar cs

/-! ### Lines -/

namespace Expression

/-- Reads a header or an entry, with the rest of its line. -/
def read : Read Expression
  | '[' :: '[' :: rest => do
    let ((path, last), rest) ← dottedKey rest
    let rest ← expect ']' rest
    let rest ← expect ']' rest
    return (.tableOfArray path last, ← endOfLine rest)
  | '[' :: rest => do
    let ((path, last), rest) ← dottedKey rest
    let rest ← expect ']' rest
    return (.table path last, ← endOfLine rest)
  | cs => do
    let ((path, last), rest) ← dottedKey cs
    let rest ← expect '=' rest
    let (v, rest) ← value (nestingLimit - 1) (skipBlanks rest)
    return (.entry path last v, ← endOfLine rest)

/-- Reads the lines of a document, onto the reverse of what is read. -/
def readOnto : Nat → List Expression → List Char → Except SyntaxError (List Expression)
  | 0, _, cs => unexpected cs
  | fuel + 1, read, cs => do
    match skipBlanks cs with
    | [] => return read.reverse
    | c :: rest =>
      if c = '#' ∨ c = '\n' ∨ c = '\r' then
        readOnto fuel read (← endOfLine (c :: rest))
      else
        let (e, rest) ← Expression.read (c :: rest)
        readOnto fuel (e :: read) rest

/-- Reads the lines of a document. A byte-order mark in front is skipped. -/
def readAll (text : String) : Except SyntaxError (List Expression) :=
  let cs := match text.toList with
    | '\uFEFF' :: rest => rest
    | cs => cs
  readOnto (cs.length + 1) [] cs

end Expression

/-! ### Assembly -/

/-- Where the entries of the lines that follow belong. -/
inductive Place where
  | root
  | table (path : List String) (key : String)
  | tableOfArray (path : List String) (key : String)

/-- A document under construction: what is closed, the open place and its entries. -/
structure Assembly where
  closed : Node.Entries := []
  place : Place := .root
  entries : Node.Entries := []

namespace Assembly

/-- Puts the open table in its place. -/
def close (a : Assembly) : Except SyntaxError Node.Entries :=
  match a.place with
  | .root => .ok a.entries
  | .table path key => do
    let ((), closed) ← Node.update path (fun parent =>
      .ok ((), parent ++ [(key, .table .header a.entries)])) a.closed
    return closed
  | .tableOfArray path key => do
    let ((), closed) ← Node.update path (fun parent =>
      match parent.lookup key with
      | some (.tables items) =>
        .ok ((), Node.replace key (.tables (items ++ [a.entries])) parent)
      | _ => .error (.duplicateKey key)) a.closed
    return closed

/-- Takes a line in. A header takes up the entries of an implied table of its name. -/
def step (a : Assembly) : Expression → Except SyntaxError Assembly
  | .entry path key v => do
    return { a with entries := ← Node.set path key v a.entries }
  | .table path key => do
    let (entries, closed) ← Node.update path (fun parent =>
      match parent.lookup key with
      | none => .ok ([], parent)
      | some (.table .implied inner) => .ok (inner, parent.filter (·.1 ≠ key))
      | some _ => .error (.duplicateKey key)) (← a.close)
    return { closed, place := .table path key, entries }
  | .tableOfArray path key => do
    let ((), closed) ← Node.update path (fun parent =>
      match parent.lookup key with
      | none => .ok ((), parent ++ [(key, .tables [])])
      | some (.tables _) => .ok ((), parent)
      | some _ => .error (.duplicateKey key)) (← a.close)
    return { closed, place := .tableOfArray path key, entries := [] }

end Assembly

namespace Table

/-- Puts the lines of a document together. -/
def ofExpressions (lines : List Expression) : Except SyntaxError Table := do
  let a ← lines.foldlM Assembly.step {}
  return Node.toTable (← a.close)

/-- Reads a document. -/
def parse (text : String) : Except SyntaxError Table := do
  ofExpressions (← Expression.readAll text)

end Table

end ServiceHost.Toml
