import PinyinSearch.Text

/-!
# Syllables

A plain syllable is an initial consonant followed by a final.  Two inventories of initials are in
use: `Syllable.split` counts `y` and `w` among them, while `Syllable.strictFinal` reads them as
spellings of a medial vowel and writes abbreviated finals in full.
-/

namespace PinyinSearch.Syllable

/-- The initials that are not spelling conventions, digraphs first. -/
def strictInitials : List Text :=
  ["zh", "ch", "sh", "b", "p", "m", "f", "d", "t", "n", "l", "g", "k", "h", "j", "q", "x", "r",
    "z", "c", "s"].map String.toList

/-- All initials of the spelling, digraphs first. -/
def initials : List Text := strictInitials ++ [['y'], ['w']]

/-- The finals that a wildcard for a final ranges over. -/
def finals : List Text :=
  ["a", "ai", "an", "ang", "ao", "e", "ei", "en", "eng", "er", "i", "ia", "ian", "iang", "iao",
    "ie", "in", "ing", "iong", "iu", "o", "ong", "ou", "u", "ua", "uai", "uan", "uang", "ui",
    "un", "uo", "v", "ve", "van", "vn"].map String.toList

/-- The first initial of an inventory that begins the syllable, and what follows it.  A syllable
that none begins has an empty initial. -/
def splitWith (inventory : List Text) (syllable : Text) : Text × Text :=
  match inventory.find? (·.isPrefixOf syllable) with
  | some initial => (initial, syllable.drop initial.length)
  | none => ([], syllable)

/-- Splits a syllable into its initial and its final. -/
def split (syllable : Text) : Text × Text := splitWith initials syllable

/-- Writes an abbreviated final in full. -/
def fullFinal : Text → Text
  | ['i', 'u'] => ['i', 'o', 'u']
  | ['u', 'i'] => ['u', 'e', 'i']
  | ['u', 'n'] => ['u', 'e', 'n']
  | final => final

/-- Writes `v` for the `u` that follows `j`, `q` or `x`. -/
def restoreUmlaut (initial final : Text) : Text :=
  match final with
  | 'u' :: rest => if initial ∈ [['j'], ['q'], ['x']] then 'v' :: rest else final
  | _ => final

/-- The strict final of a plain syllable: what follows the initial, with `y` and `w` read as the
medial vowels that they spell and abbreviated finals written in full. -/
def strictFinal (plain : Text) : Text :=
  match plain.trim.lowerAscii with
  | 'y' :: 'u' :: rest => 'v' :: rest
  | 'y' :: 'i' :: rest => 'i' :: rest
  | 'y' :: rest => 'i' :: rest
  | ['w', 'u'] => ['u']
  | 'w' :: rest => 'u' :: rest
  | s =>
    let (initial, final) := splitWith strictInitials s
    fullFinal (restoreUmlaut initial final)

/-- The two parts of a split make up the syllable. -/
theorem splitWith_append (inventory : List Text) (s : Text) :
    (splitWith inventory s).1 ++ (splitWith inventory s).2 = s := by
  rw [splitWith]
  split
  · next initial h =>
    obtain ⟨t, rfl⟩ : initial <+: s := by simpa using List.find?_some h
    simp
  · rfl

/-- Every way to put a final for the only `@` of a pattern; a pattern with no `@` or with several
stands alone. -/
def openFinal (pattern : Text) : List Text :=
  match pattern.splitOn '@' with
  | [left, right] => finals.map fun final => left ++ final ++ right
  | _ => [pattern]

end PinyinSearch.Syllable
