import ServiceHost.Toml.Value

/-!
# Blanks, comments and strings

A basic string stands in double quotes and has escapes, a literal string stands in single
quotes and has none. With three quotes on each side a string may run over lines: a line end
right after the opening quotes is dropped, and in a basic string a backslash at the end of a
line skips to the next visible character. Controls other than the tab stand nowhere.
-/

namespace ServiceHost.Toml

/-- A blank within a line. -/
def isBlank (c : Char) : Bool := c == ' ' || c == '\t'

/-- Whether a character is a control that may stand neither in strings nor in comments. -/
def isForbidden (c : Char) : Bool := (c.toNat < 0x20 && c != '\t') || c.toNat == 0x7F

/-- What follows the blanks. -/
def skipBlanks (cs : List Char) : List Char := cs.dropWhile isBlank

/-- What follows a line end, if there is one here. -/
def newline? : List Char → Option (List Char)
  | '\n' :: rest => some rest
  | '\r' :: '\n' :: rest => some rest
  | _ => none

/-- What follows a comment, if there is one here. -/
def skipComment : List Char → List Char
  | '#' :: rest => rest.dropWhile (!isForbidden ·)
  | cs => cs

/-- What follows the rest of a line that holds at most a comment. -/
def endOfLine (cs : List Char) : Except SyntaxError (List Char) :=
  match skipComment (skipBlanks cs) with
  | [] => .ok []
  | c :: rest =>
    match newline? (c :: rest) with
    | some rest => .ok rest
    | none => unexpected (c :: rest)

/-- What follows blanks and line ends. -/
def skipLines : List Char → List Char
  | '\n' :: rest => skipLines rest
  | '\r' :: '\n' :: rest => skipLines rest
  | ' ' :: rest => skipLines rest
  | '\t' :: rest => skipLines rest
  | cs => cs

/-- Skipping blanks and line ends adds nothing. -/
theorem skipLines_length_le (cs : List Char) : (skipLines cs).length ≤ cs.length := by
  fun_induction skipLines cs <;> simp_all <;> omega

/-- Skipping blanks adds nothing. -/
theorem skipBlanks_length_le (cs : List Char) : (skipBlanks cs).length ≤ cs.length :=
  (List.dropWhile_suffix _).length_le

/-- A line end takes a character. -/
theorem newline?_length_lt {cs rest : List Char} (h : newline? cs = some rest) :
    rest.length < cs.length := by
  unfold newline? at h
  split at h <;> grind

/-! ### Escapes -/

/-- The value of a hexadecimal digit. -/
def hexDigit? (c : Char) : Option Nat :=
  if c.isDigit then some (c.toNat - '0'.toNat)
  else if 'a' ≤ c ∧ c ≤ 'f' then some (c.toNat - 'a'.toNat + 10)
  else if 'A' ≤ c ∧ c ≤ 'F' then some (c.toNat - 'A'.toNat + 10)
  else none

/-- The number that digits in a base stand for. -/
def ofDigits (base : Nat) (digits : List Nat) : Nat := digits.foldl (base * · + ·) 0

/-- Reads a code point of `count` hexadecimal digits. Surrogates are none. -/
def codePoint? (count : Nat) (cs : List Char) : Option (Char × List Char) := do
  let digits ← (cs.take count).mapM hexDigit?
  let n := ofDigits 16 digits
  if digits.length = count ∧ n.isValidChar then some (Char.ofNat n, cs.drop count) else none

/-- Reads an escape after its backslash. -/
def escape? : List Char → Option (Char × List Char)
  | [] => none
  | c :: rest =>
    match c with
    | 'b' => some ('\x08', rest)
    | 't' => some ('\t', rest)
    | 'n' => some ('\n', rest)
    | 'f' => some ('\x0c', rest)
    | 'r' => some ('\r', rest)
    | '"' => some ('"', rest)
    | '\\' => some ('\\', rest)
    | 'u' => codePoint? 4 rest
    | 'U' => codePoint? 8 rest
    | _ => none

/-- Reading a code point adds nothing. -/
theorem codePoint?_length_le {count : Nat} {cs rest : List Char} {c : Char}
    (h : codePoint? count cs = some (c, rest)) : rest.length ≤ cs.length := by
  simp only [codePoint?, Option.bind_eq_bind, Option.bind_eq_some_iff] at h
  obtain ⟨_, _, h⟩ := h
  split at h <;> simp at h
  simp [← h.2]

/-- An escape takes a character, so strings are read by recursion on the length. -/
theorem escape?_length_lt {cs rest : List Char} {c : Char}
    (h : escape? cs = some (c, rest)) : rest.length < cs.length := by
  unfold escape? at h
  split at h
  · simp at h
  · have := @codePoint?_length_le
    split at h <;> grind

/-! ### Strings -/

/-- The number of times a character stands at the front. -/
def runLength (c : Char) (cs : List Char) : Nat := (cs.takeWhile (· == c)).length

/-- Reads a basic string of one line after its opening quote, onto the reverse of what is
read. -/
def basicOnto (read : List Char) : Read String
  | [] => .error .unclosedString
  | c :: rest =>
    if c = '"' then .ok (String.ofList read.reverse, rest)
    else if c = '\\' then
      match _escape : escape? rest with
      | some (e, rest') => basicOnto (e :: read) rest'
      | none => .error .badEscape
    else if isForbidden c then .error (.controlCharacter c)
    else basicOnto (c :: read) rest
termination_by cs => cs.length
decreasing_by
  · have := escape?_length_lt _escape
    simp only [List.length_cons]
    omega
  · simp

/-- Reads a basic string over lines after its opening quotes, onto the reverse of what is
read. One or two quotes may stand before the closing ones. -/
def basicLinesOnto (read : List Char) : Read String
  | [] => .error .unclosedString
  | c :: rest =>
    if c = '"' then
      let quotes := runLength '"' (c :: rest)
      if quotes ≥ 6 then unexpected (c :: rest)
      else if quotes ≥ 3 then
        .ok (String.ofList (List.replicate (quotes - 3) '"' ++ read).reverse,
          (c :: rest).drop quotes)
      else basicLinesOnto (c :: read) rest
    else if c = '\\' then
      match _line : newline? (skipBlanks rest) with
      | some rest' => basicLinesOnto read (skipLines rest')
      | none =>
        match _escape : escape? rest with
        | some (e, rest') => basicLinesOnto (e :: read) rest'
        | none => .error .badEscape
    else
      match _line : newline? (c :: rest) with
      | some rest' => basicLinesOnto ('\n' :: read) rest'
      | none =>
        if isForbidden c then .error (.controlCharacter c) else basicLinesOnto (c :: read) rest
termination_by cs => cs.length
decreasing_by
  · simp
  · have := newline?_length_lt _line
    have := skipBlanks_length_le rest
    have := skipLines_length_le rest'
    simp only [List.length_cons]
    omega
  · have := escape?_length_lt _escape
    simp only [List.length_cons]
    omega
  · have := newline?_length_lt _line
    simpa using this
  · simp

/-- Reads a literal string of one line after its opening quote. -/
def literal (cs : List Char) : Except SyntaxError (String × List Char) :=
  let content := cs.takeWhile fun c => c != '\'' && !isForbidden c
  match cs.drop content.length with
  | '\'' :: rest => .ok (String.ofList content, rest)
  | [] => .error .unclosedString
  | c :: _ => .error (.controlCharacter c)

/-- Reads a literal string over lines after its opening quotes, onto the reverse of what is
read. -/
def literalLinesOnto (read : List Char) : Read String
  | [] => .error .unclosedString
  | c :: rest =>
    if c = '\'' then
      let quotes := runLength '\'' (c :: rest)
      if quotes ≥ 6 then unexpected (c :: rest)
      else if quotes ≥ 3 then
        .ok (String.ofList (List.replicate (quotes - 3) '\'' ++ read).reverse,
          (c :: rest).drop quotes)
      else literalLinesOnto (c :: read) rest
    else
      match _line : newline? (c :: rest) with
      | some rest' => literalLinesOnto ('\n' :: read) rest'
      | none =>
        if isForbidden c then .error (.controlCharacter c) else literalLinesOnto (c :: read) rest
termination_by cs => cs.length
decreasing_by
  · simp
  · have := newline?_length_lt _line
    simpa using this
  · simp

/-- What follows the line end right after the opening quotes. -/
def dropFirstNewline (cs : List Char) : List Char := (newline? cs).getD cs

/-- Reads a string of any kind. -/
def string : Read String
  | '"' :: '"' :: '"' :: rest => basicLinesOnto [] (dropFirstNewline rest)
  | '\'' :: '\'' :: '\'' :: rest => literalLinesOnto [] (dropFirstNewline rest)
  | '"' :: rest => basicOnto [] rest
  | '\'' :: rest => literal rest
  | cs => unexpected cs

end ServiceHost.Toml
