/-!
# Request methods

A method is a non-empty token of printable ASCII without separators. Case matters, and any
token is a method, known or not. Methods are ordered by their text.
-/

namespace ServiceHost

/-- Whether a character may stand in a token. -/
def isTokenChar (c : Char) : Bool :=
  c.isAlphanum || "!#$%&'*+-.^_\x60|~".toList.contains c

/-- A request method: a non-empty token. -/
structure Method where
  text : String
  isToken : text.toList ≠ [] ∧ text.toList.all isTokenChar = true

namespace Method

/-- A method is its text. -/
theorem ext_text {a b : Method} (h : a.text = b.text) : a = b := by
  cases a; cases b; simp_all

instance : DecidableEq Method := fun a b =>
  if h : a.text = b.text then .isTrue (ext_text h) else .isFalse fun e => h (e ▸ rfl)

instance : LE Method := ⟨fun a b => a.text ≤ b.text⟩

instance : LT Method := ⟨fun a b => a.text < b.text⟩

instance (a b : Method) : Decidable (a < b) := inferInstanceAs (Decidable (a.text < b.text))

instance : Std.IsLinearOrder Method where
  le_refl a := Std.le_refl a.text
  le_trans _ _ _ := Std.le_trans (α := String)
  le_antisymm _ _ h k := ext_text (Std.le_antisymm h k)
  le_total a b := Std.le_total (a := a.text) (b := b.text)

instance : Std.LawfulOrderLT Method where
  lt_iff a b := Std.LawfulOrderLT.lt_iff a.text b.text

/-- Reads a method. -/
def ofText? (text : String) : Option Method :=
  if h : text.toList ≠ [] ∧ text.toList.all isTokenChar = true then some ⟨text, h⟩ else none

/-- The method that reads. -/
def get : Method := ⟨"GET", by decide⟩

/-- The method that submits. -/
def post : Method := ⟨"POST", by decide⟩

end Method

end ServiceHost
