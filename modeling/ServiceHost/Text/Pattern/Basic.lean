import ServiceHost.Text.CharSet

/-!
# Patterns

A pattern is a regular expression whose choices have an order: of two alternatives the first
is preferred, and a repetition prefers more rounds if it is greedy and fewer if it is not. The
preferred match at the start of a text is the one that a search with that order finds first.

* `Pattern.ends` lists where a pattern may end, the preferred place first.
* `Pattern.isWhole` tells whether the preferred match is the whole of a text.
-/

namespace ServiceHost.Text

/-- A regular expression. -/
inductive Pattern where
  | empty
  | one (s : CharSet)
  | textStart
  | textEnd
  | lineStart
  | lineEnd
  /-- A place with a word on exactly one side, or on both or neither. -/
  | wordEdge (between : Bool)
  | seq (p q : Pattern)
  | alt (p q : Pattern)
  | star (p : Pattern) (greedy : Bool)
  deriving DecidableEq, Repr

/-- A place in a text: the character before it and what follows. -/
structure Place where
  before : Option Char := none
  rest : List Char
  deriving DecidableEq, Repr

namespace Place

/-- Whether one side of a place belongs to a word and the other does not. -/
def isWordEdge (s : Place) : Bool :=
  s.before.any CharSet.word.contains != s.rest.head?.any CharSet.word.contains

/-- Whether a line starts at a place. -/
def startsLine (s : Place) : Bool := s.before.all (· == '\n')

/-- Whether a line ends at a place. -/
def endsLine (s : Place) : Bool := s.rest.head?.all (· == '\n')

end Place

namespace Pattern

/-- A place, if it passes a test. -/
def stay (passes : Bool) (s : Place) : List Place := if passes then [s] else []

/-- Where a repetition may end. A round that takes nothing is the last. -/
def rounds (round : Place → List Place) (greedy : Bool) : Nat → Place → List Place
  | 0, s => [s]
  | fuel + 1, s =>
    let more := (round s).flatMap fun r =>
      if r.rest.length < s.rest.length then rounds round greedy fuel r else [s]
    if greedy then more ++ [s] else s :: more

/-- Where a pattern that starts at a place may end, the preferred place first. -/
def ends : Pattern → Place → List Place
  | empty, s => [s]
  | one cs, s =>
    match s.rest with
    | [] => []
    | c :: rest => if cs.contains c then [⟨some c, rest⟩] else []
  | textStart, s => stay s.before.isNone s
  | textEnd, s => stay s.rest.isEmpty s
  | lineStart, s => stay s.startsLine s
  | lineEnd, s => stay s.endsLine s
  | wordEdge between, s => stay (s.isWordEdge == between) s
  | seq p q, s => (ends p s).flatMap (ends q)
  | alt p q, s => ends p s ++ ends q s
  | star p greedy, s => rounds (ends p) greedy (s.rest.length + 1) s

/-- Whether the preferred match of a pattern at the start of a text is the whole text. -/
def isWhole (p : Pattern) (text : String) : Bool :=
  match ends p { rest := text.toList } with
  | [] => false
  | s :: _ => s.rest.isEmpty

/-- Whether a pattern looks for the edges of words. -/
def looksForWords : Pattern → Bool
  | wordEdge _ => true
  | seq p q => p.looksForWords || q.looksForWords
  | alt p q => p.looksForWords || q.looksForWords
  | star p _ => p.looksForWords
  | _ => false

/-- The pattern of a text that stands for itself. -/
def ofList : List Char → Pattern
  | [] => empty
  | c :: cs => seq (one (.single c)) (ofList cs)

end Pattern

end ServiceHost.Text
