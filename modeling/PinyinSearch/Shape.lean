import PinyinSearch.InputError

/-!
# Word shapes

The shape of a word of four characters says which of its characters are equal.  The shapes overlap,
and a word has the first one that it fits.
-/

namespace PinyinSearch

/-- The shapes, each named for the pattern of equal characters that it asks for. -/
inductive Shape where
  | aabb
  | abab
  | abac
  | abcc
  | aabc
  | abcb
deriving DecidableEq, Repr, Inhabited

namespace Shape

/-- The shapes in order of preference. -/
def all : List Shape := [aabb, abab, abac, abcc, aabc, abcb]

/-- Whether four characters fit a shape. -/
def fits : Shape → Char → Char → Char → Char → Bool
  | aabb, a, b, c, d => a == b && c == d
  | abab, a, b, c, d => a == c && b == d
  | abac, a, _, c, _ => a == c
  | abcc, _, _, c, d => c == d
  | aabc, a, b, _, _ => a == b
  | abcb, _, b, _, d => b == d

/-- The shapes that a word fits; none unless it has four characters. -/
def fitting : Text → List Shape
  | [a, b, c, d] => all.filter (·.fits a b c d)
  | _ => []

/-- The shape of a word: the first one that it fits. -/
def ofText? (s : Text) : Option Shape := (fitting s).head?

/-- The name of a shape. -/
def label : Shape → Text
  | aabb => "AABB".toList
  | abab => "ABAB".toList
  | abac => "ABAC".toList
  | abcc => "ABCC".toList
  | aabc => "AABC".toList
  | abcb => "ABCB".toList

/-- Reads a label, without regard to surrounding white space and to the case of ASCII letters. -/
def parse (s : Text) : Except InputError Shape :=
  match all.find? fun shape => s.trim.lowerAscii = shape.label.lowerAscii with
  | some shape => .ok shape
  | none => .error (.unknownShape s)

theorem mem_all (shape : Shape) : shape ∈ all := by cases shape <;> decide

end Shape

end PinyinSearch
