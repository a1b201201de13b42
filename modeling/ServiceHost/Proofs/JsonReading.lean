import Mathlib.Data.Nat.Notation
import Mathlib.Tactic.SplitIfs
import ServiceHost.Text.JsonString
import ServiceHost.Toml.Text

/-!
# Reading JSON

A client takes the JSON that a service answers for the texts, the truth values and the objects of
these that it spells. Here is a reader of that part of JSON. It knows nothing of how the service
writes: it takes every escape that JSON has, letters of either case in hexadecimal digits, and
leaves out only pairs of surrogates, blanks between the tokens, numbers, arrays and nulls.

* `Json.readChars`, `Json.readScalar` and `Json.readObject` read the front of a text and leave the
  rest. `Json.read` takes a whole text.
* `Json.readChars_jsonChar` follows the reader over one written character, and
  `Json.readChars_append` over a string.
* `Json.readObject_jsonObject` says that an object is read back as it was written, if its values
  are.
-/

namespace ServiceHost.Text.Json

/-! ### The reader -/

/-- The character that an escape of one letter stands for. -/
def escape? : Char → Option Char
  | '"' => some '"'
  | '\\' => some '\\'
  | '/' => some '/'
  | 'b' => some '\x08'
  | 'f' => some '\x0c'
  | 'n' => some '\n'
  | 'r' => some '\r'
  | 't' => some '\t'
  | _ => none

/-- The character of a code of four digits. -/
def codeUnit? (digits : List Char) : Option Char := (Toml.codePoint? 4 digits).map (·.1)

/-- Reads characters up to the quote that ends a string. -/
def readChars : List Char → Option (List Char × List Char)
  | [] => none
  | '"' :: rest => some ([], rest)
  | '\\' :: 'u' :: a :: b :: c :: d :: rest => do
    let char ← codeUnit? [a, b, c, d]
    let (chars, rest) ← readChars rest
    some (char :: chars, rest)
  | '\\' :: c :: rest => do
    let char ← escape? c
    let (chars, rest) ← readChars rest
    some (char :: chars, rest)
  | c :: rest =>
    if c.toNat < 0x20 then none
    else do
      let (chars, rest) ← readChars rest
      some (c :: chars, rest)

/-- A value that holds no others. -/
inductive Scalar where
  | bool (b : Bool)
  | text (s : String)
  deriving DecidableEq

/-- Reads a truth value or a string. -/
def readScalar : List Char → Option (Scalar × List Char)
  | 't' :: 'r' :: 'u' :: 'e' :: rest => some (.bool true, rest)
  | 'f' :: 'a' :: 'l' :: 's' :: 'e' :: rest => some (.bool false, rest)
  | '"' :: rest => do
    let (chars, rest) ← readChars rest
    some (.text (String.ofList chars), rest)
  | _ => none

section Objects

variable {α : Type} (value : List Char → Option (α × List Char))

/-- Reads an entry of an object, given how a value is read. -/
def readEntry : List Char → Option ((String × α) × List Char)
  | '"' :: rest => do
    let (name, rest) ← readChars rest
    match rest with
    | ':' :: rest => do
      let (v, rest) ← value rest
      some ((String.ofList name, v), rest)
    | _ => none
  | _ => none

/-- Reads entries up to the brace that ends an object. -/
def readEntries : ℕ → List Char → Option (List (String × α) × List Char)
  | 0, _ => none
  | fuel + 1, cs => do
    let (entry, rest) ← readEntry value cs
    match rest with
    | ',' :: rest => do
      let (entries, rest) ← readEntries fuel rest
      some (entry :: entries, rest)
    | '\x7d' :: rest => some ([entry], rest)
    | _ => none

/-- Reads an object, given how a value is read. -/
def readObject : List Char → Option (List (String × α) × List Char)
  | '\x7b' :: '\x7d' :: rest => some ([], rest)
  | '\x7b' :: rest => readEntries value rest.length rest
  | _ => none

/-- Reads a text that is one value and nothing else. -/
def read (s : String) : Option α :=
  match value s.toList with
  | some (v, []) => some v
  | _ => none

end Objects

/-! ### Strings -/

/-- Below the blank a code has two zeros in front. -/
theorem unicodeEscape_eq : ∀ n < 0x20, unicodeEscape (Char.ofNat n) =
    ['\\', 'u', '0', '0', Nat.digitChar (n / 16), Nat.digitChar (n % 16)] := by decide +kernel

theorem codeUnit?_eq : ∀ n < 0x20,
    codeUnit? ['0', '0', Nat.digitChar (n / 16), Nat.digitChar (n % 16)] =
      some (Char.ofNat n) := by decide +kernel

/-- **One character.** However a character is written, the reader takes it off the front. -/
theorem readChars_jsonChar (c : Char) (rest : List Char) :
    readChars (jsonChar c ++ rest) = (readChars rest).map fun read => (c :: read.1, read.2) := by
  -- every case ends in the same way: the character goes in front of what is read of the rest
  have hmap : ∀ c : Char, (do let (chars, rest) ← readChars rest; some (c :: chars, rest)) =
      (readChars rest).map fun read => (c :: read.1, read.2) := by
    intro c
    cases readChars rest <;> rfl
  -- one case for each way of writing a character, in the order of the definition
  unfold jsonChar
  split_ifs with hquote hback hbell htab hline hfeed hreturn hcontrol
  · subst hquote
    exact hmap _
  · subst hback
    exact hmap _
  · subst hbell
    exact hmap _
  · subst htab
    exact hmap _
  · subst hline
    exact hmap _
  · subst hfeed
    exact hmap _
  · subst hreturn
    exact hmap _
  · -- a code of four digits
    have hcode := codeUnit?_eq c.toNat hcontrol
    rw [Char.ofNat_toNat] at hcode
    have hwritten := unicodeEscape_eq c.toNat hcontrol
    rw [Char.ofNat_toNat] at hwritten
    rw [hwritten]
    simp only [List.cons_append, List.nil_append, readChars, hcode, Option.bind_eq_bind,
      Option.bind_some]
    exact hmap c
  · -- the character stands for itself, and begins neither the end of the string nor an escape
    rw [List.singleton_append, readChars, if_neg hcontrol]
    · exact hmap c
    all_goals simp_all

theorem readChars_append (cs rest : List Char) :
    readChars (cs.flatMap jsonChar ++ '"' :: rest) = some (cs, rest) := by
  induction cs with
  | nil => rfl
  | cons c cs ih =>
    rw [List.flatMap_cons, List.append_assoc, readChars_jsonChar, ih]
    rfl

theorem toList_jsonString (s : String) (rest : List Char) :
    (jsonString s).toList ++ rest = '"' :: (s.toList.flatMap jsonChar ++ '"' :: rest) := by
  rw [jsonString, String.toList_ofList, List.cons_append, List.cons_append, List.append_assoc,
    List.singleton_append]

/-! ### Values -/

/-- A scalar as the service writes it. -/
def Scalar.spell : Scalar → String
  | .bool b => if b then "true" else "false"
  | .text s => jsonString s

theorem readScalar_spell (v : Scalar) (rest : List Char) :
    readScalar (v.spell.toList ++ rest) = some (v, rest) := by
  cases v with
  | bool b => cases b <;> rfl
  | text s =>
    rw [Scalar.spell, toList_jsonString, readScalar, readChars_append]
    simp only [Option.bind_eq_bind, Option.bind_some, String.ofList_toList]

section Objects

variable {α : Type} {value : List Char → Option (α × List Char)} {spell : α → String}

/-- An entry as it is written. -/
def entryText (spell : α → String) (e : String × α) : String := jsonString e.1 ++ ":" ++ spell e.2

theorem toList_entryText (spell : α → String) (e : String × α) (rest : List Char) :
    (entryText spell e).toList ++ rest =
      '"' :: (e.1.toList.flatMap jsonChar ++ '"' :: ':' :: ((spell e.2).toList ++ rest)) := by
  rw [entryText, String.toList_append, String.toList_append, List.append_assoc, List.append_assoc,
    toList_jsonString]
  rfl

/-- Entries as they are written begin with a quote, and have at least as many characters as there
are commas between them. -/
theorem exists_toList_intercalate (spell : α → String) (e : String × α)
    (entries : List (String × α)) :
    ∃ cs, (",".intercalate ((e :: entries).map (entryText spell))).toList = '"' :: cs ∧
      entries.length ≤ cs.length := by
  have hfirst := toList_entryText spell e
  cases entries with
  | nil =>
    have htext := hfirst []
    rw [List.append_nil] at htext
    exact ⟨_, htext, Nat.zero_le _⟩
  | cons e' entries =>
    -- each entry brings its first quote, which makes up for the comma before it
    obtain ⟨cs, htext, hlength⟩ := exists_toList_intercalate spell e' entries
    rw [List.map_cons, List.map_cons, String.intercalate_cons_cons, ← List.map_cons,
      String.toList_append, String.toList_append, List.append_assoc, hfirst, htext]
    refine ⟨_, rfl, ?_⟩
    simp only [List.length_append, List.length_cons]
    omega

theorem readObject_quote (value : List Char → Option (α × List Char)) (cs : List Char) :
    readObject value ('\x7b' :: '"' :: cs) = readEntries value (cs.length + 1) ('"' :: cs) := by
  rw [readObject]
  · rfl
  · simp

theorem readEntry_entryText {e : String × α}
    (h : ∀ rest, value ((spell e.2).toList ++ rest) = some (e.2, rest)) (rest : List Char) :
    readEntry value ((entryText spell e).toList ++ rest) = some (e, rest) := by
  rw [toList_entryText, readEntry, readChars_append]
  simp only [Option.bind_eq_bind, Option.bind_some, h, String.ofList_toList]

/-- **Entries** are read back up to the brace at their end. -/
theorem readEntries_intercalate {e : String × α} {entries : List (String × α)}
    (h : ∀ e' ∈ e :: entries, ∀ rest, value ((spell e'.2).toList ++ rest) = some (e'.2, rest))
    {fuel : ℕ} (hfuel : entries.length < fuel) (rest : List Char) :
    readEntries value fuel
        ((",".intercalate ((e :: entries).map (entryText spell))).toList ++ '\x7d' :: rest) =
      some (e :: entries, rest) := by
  -- by the entries behind the first one, each of which takes one of the fuel
  induction entries generalizing e fuel with
  | nil =>
    obtain ⟨fuel, rfl⟩ := Nat.exists_eq_add_one_of_ne_zero (Nat.ne_zero_of_lt hfuel)
    rw [List.map_singleton, String.intercalate_singleton, readEntries,
      readEntry_entryText (h e List.mem_cons_self)]
    rfl
  | cons e' entries ih =>
    obtain ⟨fuel, rfl⟩ := Nat.exists_eq_add_one_of_ne_zero (Nat.ne_zero_of_lt hfuel)
    have hlater := ih (fun x hx => h x (List.mem_cons_of_mem _ hx)) (Nat.lt_of_succ_lt_succ hfuel)
    rw [List.map_cons, List.map_cons, String.intercalate_cons_cons, ← List.map_cons,
      String.toList_append, String.toList_append, List.append_assoc, List.append_assoc, readEntries,
      readEntry_entryText (h e List.mem_cons_self)]
    -- the comma is read, and then the entries behind it
    have hcomma : ",".toList = [','] := rfl
    simp only [Option.bind_eq_bind, Option.bind_some, hcomma, List.singleton_append, hlater]

/-- **Objects** are read back. -/
theorem readObject_jsonObject {entries : List (String × α)}
    (h : ∀ e ∈ entries, ∀ rest, value ((spell e.2).toList ++ rest) = some (e.2, rest))
    (rest : List Char) :
    readObject value ((jsonObject (entries.map fun e => (e.1, spell e.2))).toList ++ rest) =
      some (entries, rest) := by
  have htext : (jsonObject (entries.map fun e => (e.1, spell e.2))).toList ++ rest =
      '\x7b' :: ((",".intercalate (entries.map (entryText spell))).toList ++ '\x7d' :: rest) := by
    rw [jsonObject, List.map_map, String.toList_append, String.toList_append, List.append_assoc,
      List.append_assoc]
    rfl
  rw [htext]
  cases entries with
  -- the two braces are read at once
  | nil => rfl
  | cons e entries =>
    -- an entry takes at least one character, so the length of the text is fuel enough
    obtain ⟨cs, hcs, hlength⟩ := exists_toList_intercalate spell e entries
    have hfuel : entries.length < (cs ++ '\x7d' :: rest).length + 1 := by
      rw [List.length_append]
      omega
    have hread := readEntries_intercalate h hfuel rest
    rw [hcs, List.cons_append] at hread ⊢
    rw [readObject_quote, hread]

end Objects

end ServiceHost.Text.Json
