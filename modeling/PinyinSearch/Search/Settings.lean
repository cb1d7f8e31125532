import PinyinSearch.Similarity

/-!
# Settings

What can be chosen about the sounds of a corpus and about its search, with the usual choices as
defaults.
-/

namespace PinyinSearch

/-- What can be chosen about sounds. -/
structure SoundSettings where
  /-- Rules for confusable initials. -/
  initialRules : List Text := Similarity.defaultInitialRules
  /-- Rules for confusable finals. -/
  finalRules : List Text := Similarity.defaultFinalRules
  /-- The longest syllable that typed letters are split into. -/
  maxSyllableLength : Nat := 6
deriving DecidableEq, Repr, Inhabited

namespace SoundSettings

/-- The confusions that the rules describe. -/
def similarity (s : SoundSettings) : Similarity := .ofRules s.initialRules s.finalRules

end SoundSettings

/-- What can be chosen about a search. -/
structure SearchSettings extends SoundSettings where
  /-- The size of a page where none is asked for. -/
  defaultPageSize : Nat := 20
  /-- The longest string of initials for which confusable variants are searched. -/
  maxInitialsLength : Nat := 20
  /-- The regular expression for any one syllable. -/
  placeholder : Text := "\\w+".toList
deriving DecidableEq, Repr, Inhabited

end PinyinSearch
