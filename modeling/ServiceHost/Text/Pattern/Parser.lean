import ServiceHost.Text.Pattern.Basic

/-!
# Reading patterns

The written form of patterns: branches between bars, pieces one after another, and stars,
pluses and question marks after a piece, each with a question mark of its own where it should
prefer less. Parentheses group, brackets hold a class, a backslash gives a class, a place or
a character that stands for itself. A group may begin with flags. Numbers of rounds in braces
are not part of the form.

* `Pattern.parse?` reads the whole of a text.
-/

namespace ServiceHost.Text.Pattern

/-- A reader of a part of a pattern. -/
abbrev Read (α : Type) := List Char → Option (α × List Char)

/-- How the parts of a pattern are read. -/
structure Flags where
  /-- Letters stand for their other case, too. -/
  anyCase : Bool := false
  /-- A point stands for the line feed, too. -/
  anyChar : Bool := false
  /-- A caret and a dollar sign stand for the ends of lines. -/
  byLine : Bool := false
  /-- Repetitions prefer less. -/
  lazy : Bool := false
  /-- Blanks say nothing. -/
  spaced : Bool := false
  deriving DecidableEq, Repr

namespace Flags

/-- The letters that name flags. Two of them, for Unicode and for line ends, change nothing
here. -/
def names : List Char := ['i', 's', 'm', 'U', 'x', 'u', 'R']

/-- Sets the flag of a letter. -/
def set (f : Flags) (value : Bool) : Char → Flags
  | 'i' => { f with anyCase := value }
  | 's' => { f with anyChar := value }
  | 'm' => { f with byLine := value }
  | 'U' => { f with lazy := value }
  | 'x' => { f with spaced := value }
  | _ => f

/-- Sets flags by their letters. Those after a dash are taken back. -/
def apply (f : Flags) (letters : List Char) : Flags :=
  let (on, off) := (letters.takeWhile (· != '-'), letters.dropWhile (· != '-'))
  off.foldl (set · false) (on.foldl (set · true) f)

/-- Whether letters may stand together: no letter and no dash twice, and no dash at the
end. -/
def areValid (letters : List Char) : Bool :=
  letters.all (fun c => c == '-' || names.contains c) && letters.Nodup
    && letters.getLast? != some '-'

end Flags

/-! ### Escapes and classes -/

/-- What stands behind a backslash. -/
inductive Escape where
  | char (c : Char)
  | set (s : CharSet)
  | place (p : Pattern)

/-- Reads a character by its number in so many digits of base sixteen. -/
def numbered (digits : Nat) : Read Escape := fun cs =>
  let text := cs.take digits
  let value := text.foldl (fun n c => 16 * n + ("0123456789abcdef".toList.idxOf c.toLower)) 0
  let isNumber := text.length = digits ∧ text.all fun c =>
    "0123456789abcdef".toList.contains c.toLower
  if h : isNumber ∧ value.isValidChar then
    some (.char (Char.ofNatAux value h.2), cs.drop digits)
  else none

/-- Whether a character stands for itself behind a backslash: what is neither a letter nor a
digit nor an angle bracket. -/
def isEscapable (c : Char) : Bool := c.toNat < 0x80 && !c.isAlphanum && c != '<' && c != '>'

/-- Reads what stands behind a backslash. -/
def escape : Read Escape
  | 'a' :: rest => some (.char '\x07', rest)
  | 'f' :: rest => some (.char '\x0c', rest)
  | 'n' :: rest => some (.char '\n', rest)
  | 'r' :: rest => some (.char '\r', rest)
  | 't' :: rest => some (.char '\t', rest)
  | 'v' :: rest => some (.char '\x0b', rest)
  | 'x' :: rest => numbered 2 rest
  | 'u' :: rest => numbered 4 rest
  | 'U' :: rest => numbered 8 rest
  | 'd' :: rest => some (.set .digits, rest)
  | 'D' :: rest => some (.set (.complement .digits), rest)
  | 's' :: rest => some (.set .blanks, rest)
  | 'S' :: rest => some (.set (.complement .blanks), rest)
  | 'w' :: rest => some (.set .word, rest)
  | 'W' :: rest => some (.set (.complement .word), rest)
  | 'p' :: c :: rest => (CharSet.ofCategory? c).map (.set ·, rest)
  | 'P' :: c :: rest => (CharSet.ofCategory? c).map fun s => (.set (.complement s), rest)
  | 'A' :: rest => some (.place .textStart, rest)
  | 'z' :: rest => some (.place .textEnd, rest)
  | 'b' :: rest => some (.place (.wordEdge true), rest)
  | 'B' :: rest => some (.place (.wordEdge false), rest)
  | c :: rest => if isEscapable c then some (.char c, rest) else none
  | [] => none

/-- Reads an item of a class: a character or a set. -/
def classItem : Read Escape
  | '\\' :: rest =>
    match escape rest with
    | some (.place _, _) => none
    | item => item
  | c :: rest => some (.char c, rest)
  | [] => none

/-- Whether a dash here makes a range of the item before it. -/
def makesRange : List Char → Bool
  | '-' :: ']' :: _ => false
  | '-' :: '-' :: _ => false
  | '-' :: _ => true
  | _ => false

/-- Reads an item of a class or a range of characters. -/
def classRange : Read CharSet := fun cs => do
  let (first, rest) ← classItem cs
  match first, makesRange rest with
  | .char c, false => some (.single c, rest)
  | .char c, true =>
    match ← classItem (rest.drop 1) with
    | (.char last, rest) => if c ≤ last then some (.range c last, rest) else none
    | _ => none
  | .set s, false => some (s, rest)
  | _, _ => none

/-- Reads the name of a class between brackets and colons, after the first of both. -/
def className : Read CharSet := fun cs =>
  let (isComplement, cs) := match cs with
    | '^' :: rest => (true, rest)
    | cs => (false, cs)
  let name := cs.takeWhile (· != ':')
  match cs.dropWhile (· != ':'), CharSet.ofName? (String.ofList name) with
  | ':' :: ']' :: rest, some s => some (if isComplement then .complement s else s, rest)
  | _, _ => none

/-- Reads a class after its opening bracket, by the reader of its items. A bracket and dashes
that come first stand for themselves. -/
def classWith (flags : Flags) (items : CharSet → Read CharSet) : Read CharSet := fun cs => do
  let (isComplement, cs) := match cs with
    | '^' :: rest => (true, rest)
    | cs => (false, cs)
  let dashes := cs.takeWhile (· == '-')
  let cs := cs.drop dashes.length
  let (first, cs) : CharSet × List Char := match dashes, cs with
    | [], ']' :: rest => (.single ']', rest)
    | [], cs => (.empty, cs)
    | _, cs => (.single '-', cs)
  let (s, rest) ← items first cs
  let s := if flags.anyCase then s.folded else s
  return (if isComplement then s.complement else s, rest)

/-- Reads the items of a class up to its closing bracket. What stands before an operator of
sets is kept as the function that waits for the other side. -/
def classItems (flags : Flags) : Nat → (CharSet → CharSet) → CharSet → Read CharSet
  | 0, _, _, _ => none
  | fuel + 1, before, items, cs =>
    let join (s : CharSet) := classItems flags fuel before (.union items s)
    match cs with
    | ']' :: rest => some (before items, rest)
    | '&' :: '&' :: rest => classItems flags fuel (.inter (before items)) .empty rest
    | '-' :: '-' :: rest => classItems flags fuel (.diff (before items)) .empty rest
    | '~' :: '~' :: rest => classItems flags fuel (.symmDiff (before items)) .empty rest
    | '[' :: rest => do
      let named := match rest with
        | ':' :: rest => className rest
        | _ => none
      match named with
      | some (s, rest) => join s rest
      | none =>
        let (s, rest) ← classWith flags (classItems flags fuel id) rest
        join s rest
    | cs => do
      let (s, rest) ← classRange cs
      join s rest

/-- Reads a class after its opening bracket. -/
def charClass (flags : Flags) : Read CharSet := fun cs =>
  classWith flags (classItems flags (cs.length + 1) id) cs

/-! ### Groups -/

/-- What an opening parenthesis begins. -/
inductive Opening where
  /-- A group that is read with flags of its own. -/
  | group (flags : Flags)
  /-- Flags for the rest of the group around it. -/
  | setting (flags : Flags)

/-- Whether a name may be given to a group. -/
def isGroupName (name : List Char) : Bool :=
  match name with
  | [] => false
  | c :: rest =>
    (c.isAlpha || c == '_')
      && rest.all fun c => c.isAlphanum || "_.[]".toList.contains c

/-- Reads the name of a group up to its angle bracket. -/
def groupName (flags : Flags) : Read Opening := fun cs =>
  let name := cs.takeWhile (· != '>')
  if isGroupName name ∧ name.length < cs.length then
    some (.group flags, cs.drop (name.length + 1))
  else none

/-- Reads what follows an opening parenthesis up to where the group begins. A group that looks
ahead or behind is not part of the form. -/
def opening (flags : Flags) : Read Opening
  | '?' :: 'P' :: '<' :: rest => groupName flags rest
  | '?' :: '<' :: rest => groupName flags rest
  | '?' :: rest =>
    let letters := rest.takeWhile fun c => c != ':' && c != ')'
    if !Flags.areValid letters then none
    else match rest.drop letters.length with
      | ':' :: rest => some (.group (flags.apply letters), rest)
      | ')' :: rest => if letters.isEmpty then none else some (.setting (flags.apply letters), rest)
      | _ => none
  | rest => some (.group flags, rest)

/-! ### Pieces and branches -/

/-- Whether a repetition or its brace stands here. -/
def repeats : List Char → Bool
  | c :: _ => "*+?\x7b".toList.contains c
  | [] => false

/-- A piece with the repetition of a sign. -/
def repeated (p : Pattern) (greedy : Bool) : Char → Pattern
  | '*' => .star p greedy
  | '+' => .seq p (.star p greedy)
  | _ => if greedy then .alt p .empty else .alt .empty p

/-- The pattern of one character that stands for itself. -/
def literal (flags : Flags) (c : Char) : Pattern :=
  .one (if flags.anyCase then .folded (.single c) else .single c)

/-- Reads a piece that is no group. -/
def piece (flags : Flags) : Read Pattern
  | '[' :: rest => (charClass flags rest).map fun (s, rest) => (.one s, rest)
  | '\\' :: rest =>
    (escape rest).map fun (e, rest) =>
      match e with
      | .char c => (literal flags c, rest)
      | .set s => (.one s, rest)
      | .place p => (p, rest)
  | '.' :: rest => some (.one (if flags.anyChar then .all else .inLine), rest)
  | '^' :: rest => some (if flags.byLine then .lineStart else .textStart, rest)
  | '$' :: rest => some (if flags.byLine then .lineEnd else .textEnd, rest)
  | c :: rest => some (literal flags c, rest)
  | [] => none

/-- Pieces one after another, from the reverse of their list. -/
def joined (pieces : List Pattern) : Pattern := pieces.foldl (fun later p => .seq p later) .empty

/-- Reads branches up to the end or the parenthesis that closes them. What is read of the
branch is kept in reverse, and what stands before the branch as the function that waits for
the branches from here. -/
def branches : Nat → Flags → (Pattern → Pattern) → List Pattern → Read Pattern
  | 0, _, _, _, _ => none
  | fuel + 1, flags, before, pieces, cs =>
    match cs with
    | [] => some (before (joined pieces), [])
    | ')' :: _ => some (before (joined pieces), cs)
    | '|' :: rest => branches fuel flags (fun p => before (.alt (joined pieces) p)) [] rest
    | '(' :: rest =>
      match opening flags rest with
      | none => none
      | some (.setting flags, rest) =>
        if repeats rest then none else branches fuel flags before pieces rest
      | some (.group inner, rest) =>
        match branches fuel inner id [] rest with
        | some (p, ')' :: rest) => branches fuel flags before (p :: pieces) rest
        | _ => none
    | c :: rest =>
      if flags.spaced && CharSet.blanks.contains c then branches fuel flags before pieces rest
      else if repeats cs then
        match pieces with
        | [] => none
        | p :: pieces =>
          let prefersLess := rest.head? == some '?'
          if c = '\x7b' then none
          else
            branches fuel flags before (repeated p (prefersLess == flags.lazy) c :: pieces)
              (if prefersLess then rest.drop 1 else rest)
      else
        match piece flags cs with
        | none => none
        | some (p, rest) => branches fuel flags before (p :: pieces) rest

/-- Reads the whole of a text as a pattern. -/
def parse? (text : String) : Option Pattern :=
  match branches (text.length + 1) {} id [] text.toList with
  | some (p, []) => some p
  | _ => none

end ServiceHost.Text.Pattern
