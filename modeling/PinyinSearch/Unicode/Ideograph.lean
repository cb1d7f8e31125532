/-!
# Ideographs

The blocks of unified and compatibility ideographs whose characters count as the written form of
a syllable.
-/

namespace PinyinSearch.Unicode

/-- The blocks of ideographs, each by its first and last code point. -/
def ideographBlocks : List (Nat × Nat) := [
  (0x4E00, 0x9FFF), (0x3400, 0x4DBF), (0x20000, 0x2A6DF), (0x2A700, 0x2B73F),
  (0x2B740, 0x2B81F), (0x2B820, 0x2CEAF), (0x2CEB0, 0x2EBEF), (0xF900, 0xFAFF),
  (0x2F800, 0x2FA1F)]

/-- Whether a character is a unified or a compatibility ideograph. -/
def isIdeograph (c : Char) : Bool :=
  ideographBlocks.any fun (first, last) => first ≤ c.toNat && c.toNat ≤ last

end PinyinSearch.Unicode
