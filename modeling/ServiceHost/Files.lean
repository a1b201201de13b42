import ServiceHost.Text.Utf8

/-!
# Files

A file tree is what a program finds under the directory that it runs in: files with their
bytes and directories, by their paths. A path is walked along part by part between slashes:
empty parts and single dots stay in the directory, and two dots lead to the one above. Neither
the name of an entry nor a path as a whole may be longer than the system allows.
-/

namespace ServiceHost

/-- An entry of a file tree. -/
inductive FileEntry where
  | file (bytes : List UInt8)
  | directory
  deriving DecidableEq

/-- A file tree: entries by path. -/
structure FileTree where
  entries : List (String × FileEntry) := []

/-- Why a file cannot be read. -/
inductive ReadError where
  | notFound
  | isDirectory
  | notADirectory
  | nameTooLong
  | nulByte
  | notUtf8
  deriving DecidableEq, Repr

/-- The text of a read error. -/
def ReadError.message : ReadError → String
  | .notFound => "No such file or directory (os error 2)"
  | .isDirectory => "Is a directory (os error 21)"
  | .notADirectory => "Not a directory (os error 20)"
  | .nameTooLong => "File name too long (os error 36)"
  | .nulByte => "file name contained an unexpected NUL byte"
  | .notUtf8 => "stream did not contain valid UTF-8"

namespace FileTree

/-- The part that stands for the root in front of the parts of an absolute path. -/
def rootPart : List Char := ['/']

/-- The part that leads to the directory above. -/
def upPart : List Char := ['.', '.']

/-- Where a path starts from: the root, or the directory that the program runs in. -/
def origin (path : String) : List (List Char) :=
  if path.toList.head? = some '/' then [rootPart] else []

/-- Whether a part of a path stays where it is. -/
def staysPut (part : List Char) : Bool := part == [] || part == ['.']

/-- The parts that lead to an entry. -/
def parts (path : String) : List (List Char) :=
  origin path ++ (path.toList.splitOn '/').filter (!staysPut ·)

/-- The entry whose path has the given parts. -/
def entryAt (t : FileTree) (names : List (List Char)) : Option FileEntry :=
  (t.entries.find? fun (path, _) => parts path == names).map (·.2)

/-- Whether an entry lies below the given parts. -/
def hasBelow (t : FileTree) (names : List (List Char)) : Bool :=
  t.entries.any fun (path, _) => names.isPrefixOf (parts path)

/-- The directory above. What lies above the directory of the program is out of sight. -/
def above (names : List (List Char)) : List (List Char) :=
  match names.getLast? with
  | none => [upPart]
  | some last =>
    if last = rootPart then names
    else if last = upPart then names ++ [upPart]
    else names.dropLast

/-- Where a walk along a path stands. -/
inductive Position where
  | directory (names : List (List Char))
  | file (bytes : List UInt8)
  deriving DecidableEq

/-- The greatest number of bytes in the name of an entry. -/
def maxNameBytes : Nat := 255

/-- The greatest number of bytes in a path. -/
def maxPathBytes : Nat := 4095

/-- Takes one part of a path. Nothing lies below a file, not even itself. -/
def enter (t : FileTree) : Position → List Char → Except ReadError Position
  | .file _, _ => .error .notADirectory
  | .directory names, part =>
    if staysPut part then .ok (.directory names)
    else if part = upPart then .ok (.directory (above names))
    else if maxNameBytes < (String.ofList part).utf8ByteSize then .error .nameTooLong
    else
      let names := names ++ [part]
      match t.entryAt names with
      | some (.file bytes) => .ok (.file bytes)
      | some .directory => .ok (.directory names)
      | none => if t.hasBelow names then .ok (.directory names) else .error .notFound

/-- Reads a file. -/
def read (t : FileTree) (path : String) : Except ReadError (List UInt8) := do
  if path.toList.contains '\x00' then throw .nulByte
  if path = "" then throw .notFound
  if maxPathBytes < path.utf8ByteSize then throw .nameTooLong
  match ← (path.toList.splitOn '/').foldlM t.enter (.directory (origin path)) with
  | .file bytes => return bytes
  | .directory _ => throw .isDirectory

/-- Reads a file that holds text. -/
def readText (t : FileTree) (path : String) : Except ReadError String := do
  match Text.Utf8.decode? (← t.read path) with
  | some text => .ok text
  | none => .error .notUtf8

end FileTree

end ServiceHost
