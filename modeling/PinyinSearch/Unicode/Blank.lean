/-!
# White space

The characters with the property `White_Space`, at which texts are trimmed and split into words.
-/

namespace PinyinSearch.Unicode

/-- The code points with the property `White_Space`. -/
def isBlankCode (n : Nat) : Bool :=
  (9 ≤ n && n ≤ 13) || n == 32 || n == 0x85 || n == 0xA0 || n == 0x1680 ||
  (0x2000 ≤ n && n ≤ 0x200A) || n == 0x2028 || n == 0x2029 || n == 0x202F || n == 0x205F ||
  n == 0x3000

/-- Whether a character is white space. -/
def isBlank (c : Char) : Bool := isBlankCode c.toNat

end PinyinSearch.Unicode
