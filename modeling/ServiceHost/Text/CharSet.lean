/-!
# Sets of characters

The sets that a pattern can name: ranges, the usual classes, and what is put together from
them. The classes hold characters of ASCII only.

* `CharSet.contains` tells whether a character is in a set.
-/

namespace ServiceHost.Text

/-- A set of characters. -/
inductive CharSet where
  | empty
  /-- The characters between two, both included. -/
  | range (first last : Char)
  /-- The characters of ASCII that satisfy one of the named tests. -/
  | letters
  | digits
  | blanks
  | controls
  | marks (among : String)
  /-- A set together with the other cases of its letters. -/
  | folded (s : CharSet)
  | complement (s : CharSet)
  | union (a b : CharSet)
  | inter (a b : CharSet)
  deriving DecidableEq, Repr

namespace CharSet

/-- Whether a character is in a set. -/
def contains : CharSet → Char → Bool
  | empty, _ => false
  | range first last, c => first ≤ c && c ≤ last
  | letters, c => c.isAlpha
  | digits, c => c.isDigit
  | blanks, c => c == ' ' || ('\t' ≤ c && c ≤ '\r')
  | controls, c => c < ' ' || c == '\x7f'
  | marks among, c => among.toList.contains c
  | folded s, c => s.contains c || s.contains c.toLower || s.contains c.toUpper
  | complement s, c => !s.contains c
  | union a b, c => a.contains c || b.contains c
  | inter a b, c => a.contains c && b.contains c

/-- One character. -/
def single (c : Char) : CharSet := range c c

/-- What is in the first set and not in the second. -/
def diff (a b : CharSet) : CharSet := inter a (complement b)

/-- What is in exactly one of two sets. -/
def symmDiff (a b : CharSet) : CharSet := union (diff a b) (diff b a)

/-- Letters, digits and the underscore. -/
def word : CharSet := union (union letters digits) (single '_')

/-- Every character. -/
def all : CharSet := complement empty

/-- Every character but the line feed. -/
def inLine : CharSet := complement (single '\n')

/-- The punctuation of ASCII. -/
def punctuation : CharSet := marks "!\"#%&'()*,-./:;?@[\\]_\x7b\x7d"

/-- The symbols of ASCII. -/
def symbols : CharSet := marks "$+<=>^\x60|~"

/-- The class of a name between brackets and colons. -/
def ofName? : String → Option CharSet
  | "alnum" => some (union letters digits)
  | "alpha" => some letters
  | "ascii" => some (range '\x00' '\x7f')
  | "blank" => some (union (single ' ') (single '\t'))
  | "cntrl" => some controls
  | "digit" => some digits
  | "graph" => some (range '!' '~')
  | "lower" => some (range 'a' 'z')
  | "print" => some (range ' ' '~')
  | "punct" => some (union punctuation symbols)
  | "space" => some blanks
  | "upper" => some (range 'A' 'Z')
  | "word" => some word
  | "xdigit" => some (union digits (union (range 'a' 'f') (range 'A' 'F')))
  | _ => none

/-- The general category of a letter. -/
def ofCategory? : Char → Option CharSet
  | 'C' => some controls
  | 'L' => some letters
  | 'M' => some empty
  | 'N' => some digits
  | 'P' => some punctuation
  | 'S' => some symbols
  | 'Z' => some (single ' ')
  | _ => none

end CharSet

end ServiceHost.Text
