import ServiceHost.Toml.Value

/-!
# Tables under construction

While a table is read its parts differ in how they came to be. A table may be named by a
header, by the header of a table below it, or by a dotted key; the last two are implicit. A
dotted key may add only to tables that dotted keys made, and a header may name an implicit
table that no dotted key made, once.

* `Node.set` adds a value under a dotted key.
* `Node.update` changes the table at the path of a header.
-/

namespace ServiceHost.Toml

/-- How a table came to be. -/
inductive Origin where
  /-- By its own header. -/
  | header
  /-- By the header of a table below it. -/
  | implied
  /-- By a dotted key. -/
  | dotted
  deriving DecidableEq, Repr

/-- A value, a table or an array of tables under construction. -/
inductive Node where
  | value (v : Value)
  | table (origin : Origin) (entries : List (String × Node))
  | tables (items : List (List (String × Node)))

namespace Node

/-- The entries of a table under construction. -/
abbrev Entries := List (String × Node)

/-- Changes the node of a key that is present. -/
def replace (key : String) (node : Node) (entries : Entries) : Entries :=
  entries.map fun (k, n) => if k = key then (k, node) else (k, n)

/-- Adds a value under a dotted key, making the tables on the way. -/
def set : List String → String → Value → Entries → Except SyntaxError Entries
  | [], key, v, entries =>
    if (entries.lookup key).isSome then .error (.duplicateKey key)
    else .ok (entries ++ [(key, .value v)])
  | part :: path, key, v, entries =>
    match entries.lookup part with
    | none => do
      let inner ← set path key v []
      return entries ++ [(part, .table .dotted inner)]
    | some (.value _) => .error (.notATable part)
    | some (.tables items) =>
      match items.getLast? with
      | none => .error (.notATable part)
      | some last =>
        if path.isEmpty then .error (.duplicateKey key)
        else do
          let inner ← set path key v last
          return replace part (.tables (items.dropLast ++ [inner])) entries
    | some (.table origin inner) =>
      if origin = .header then .error (.duplicateKey part)
      else if path.isEmpty ∧ origin ≠ .dotted then .error (.duplicateKey key)
      else do
        let inner ← set path key v inner
        return replace part (.table origin inner) entries

/-- Changes the entries of the table at the path of a header, making implied tables on the
way. An array of tables stands for its last table. -/
def update {α : Type} : List String → (Entries → Except SyntaxError (α × Entries)) → Entries →
    Except SyntaxError (α × Entries)
  | [], f, entries => f entries
  | part :: path, f, entries =>
    match entries.lookup part with
    | none => do
      let (a, inner) ← update path f []
      return (a, entries ++ [(part, .table .implied inner)])
    | some (.value _) => .error (.notATable part)
    | some (.tables items) =>
      match items.getLast? with
      | none => .error (.notATable part)
      | some last => do
        let (a, inner) ← update path f last
        return (a, replace part (.tables (items.dropLast ++ [inner])) entries)
    | some (.table origin inner) => do
      let (a, inner) ← update path f inner
      return (a, replace part (.table origin inner) entries)

mutual

/-- The finished value. -/
def toValue : Node → Value
  | .value v => v
  | .table _ entries => .table (toTable entries)
  | .tables items => .tables (toTables items)

/-- The finished table. -/
def toTable : List (String × Node) → Table
  | [] => []
  | (key, node) :: rest => (key, node.toValue) :: toTable rest

/-- The finished array of tables. -/
def toTables : List (List (String × Node)) → List Table
  | [] => []
  | entries :: rest => toTable entries :: toTables rest

end

end Node

end ServiceHost.Toml
