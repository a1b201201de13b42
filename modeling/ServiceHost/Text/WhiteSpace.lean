/-!
# White space and trimming

White space is the Unicode property `White_Space`: the blanks and line ends of ASCII, the
no-break and typographic spaces, and the line and paragraph separators.
-/

namespace ServiceHost.Text

/-- Whether a character has the property `White_Space`. -/
def isWhiteSpace (c : Char) : Bool :=
  let n := c.toNat
  (9 ≤ n && n ≤ 13) || n == 0x20 || n == 0x85 || n == 0xA0 || n == 0x1680
    || (0x2000 ≤ n && n ≤ 0x200A) || n == 0x2028 || n == 0x2029 || n == 0x202F
    || n == 0x205F || n == 0x3000

/-- Removes the elements in `p` from both ends of a list. -/
def trimBoth {α : Type} (p : α → Bool) (l : List α) : List α :=
  ((l.dropWhile p).reverse.dropWhile p).reverse

/-- Removes white space from both ends of a text. -/
def trim (s : String) : String := String.ofList (trimBoth isWhiteSpace s.toList)

end ServiceHost.Text
