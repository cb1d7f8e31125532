import PinyinSearch.Text
import PinyinSearch.Unicode.Lowercase

/-!
# Readings

A reading is one pronunciation of a character: its spelling with tone marks, its plain spelling and
its tone.  The plain spelling and the tone are computed from the marked spelling.
-/

namespace PinyinSearch

/-- The tones 1 to 4, and the neutral tone. -/
abbrev Tone := Fin 5

namespace Tone

/-- The tone of a syllable without a mark. -/
def neutral : Tone := 0

/-- The digit of a tone. -/
def digit (t : Tone) : Char := Nat.digitChar t.val

end Tone

/-- The letter under a tone mark together with the tone; `ü` is written `v` and marks no tone. -/
def toneMark? : Char → Option (Char × Tone)
  | 'ā' => some ('a', 1) | 'á' => some ('a', 2) | 'ǎ' => some ('a', 3) | 'à' => some ('a', 4)
  | 'ē' => some ('e', 1) | 'é' => some ('e', 2) | 'ě' => some ('e', 3) | 'è' => some ('e', 4)
  | 'ī' => some ('i', 1) | 'í' => some ('i', 2) | 'ǐ' => some ('i', 3) | 'ì' => some ('i', 4)
  | 'ō' => some ('o', 1) | 'ó' => some ('o', 2) | 'ǒ' => some ('o', 3) | 'ò' => some ('o', 4)
  | 'ū' => some ('u', 1) | 'ú' => some ('u', 2) | 'ǔ' => some ('u', 3) | 'ù' => some ('u', 4)
  | 'ǖ' => some ('v', 1) | 'ǘ' => some ('v', 2) | 'ǚ' => some ('v', 3) | 'ǜ' => some ('v', 4)
  | 'ü' => some ('v', 0)
  | 'ń' => some ('n', 2) | 'ň' => some ('n', 3) | 'ǹ' => some ('n', 4)
  | 'ḿ' => some ('m', 2)
  | _ => none

/-- One pronunciation of one character. -/
structure Reading where
  /-- The spelling with tone marks. -/
  toned : Text
  /-- The spelling without tone marks, with `v` for `ü`. -/
  plain : Text
  /-- The tone of the first mark, neutral if there is none. -/
  tone : Tone
deriving DecidableEq, Repr, Inhabited

namespace Reading

/-- A letter without its tone mark. -/
def bareLetter (c : Char) : Char := ((toneMark? c).map (·.1)).getD c

/-- The tone that a letter marks. -/
def letterTone (c : Char) : Tone := ((toneMark? c).map (·.2)).getD .neutral

/-- The reading with a marked spelling, which is trimmed and put in lower case. -/
def ofToned (spelling : Text) : Reading :=
  let toned := Unicode.lowercase spelling.trim
  { toned
    plain := toned.map bareLetter
    tone := ((toned.map letterTone).find? (· ≠ .neutral)).getD .neutral }

/-- A plain spelling has as many letters as the marked one. -/
theorem length_plain_ofToned (s : Text) : (ofToned s).plain.length = (ofToned s).toned.length := by
  simp [ofToned]

end Reading

/-- The tones of a marked spelling of several syllables, as digits between commas. -/
def tonesOfSpelling (spelling : Text) : Text :=
  Text.join [','] (spelling.words.map fun syllable => [(Reading.ofToned syllable).tone.digit])

end PinyinSearch
