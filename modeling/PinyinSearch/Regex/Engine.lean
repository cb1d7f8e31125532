import PinyinSearch.Regex.Matcher
import PinyinSearch.Regex.Parser

/-!
# Engines

A search leaves it to an engine what a regular expression means.  All it relies on is that the
engine turns the notation, under some flags, into a predicate on texts or refuses it.
-/

namespace PinyinSearch

/-- What reads regular expressions and matches texts with them. -/
structure RegexEngine where
  /-- The predicate that a notation stands for, `none` if it is refused. -/
  compile? : Flags → Text → Option (Text → Bool)

namespace RegexEngine

/-- The engine that takes the expressions within some limits and looks for a part of the text that
they match. -/
def within (limits : Regex.Limits) : RegexEngine :=
  ⟨fun f s => (Regex.compile? limits f s).map Regex.isMatch⟩

/-- The engine with the limits that are usually kept.  The sizes that it compares with them are
estimates; to judge expressions otherwise is to search with another engine, such as `within` other
limits. -/
def standard : RegexEngine := within .standard

/-- The engine that takes every well-formed expression. -/
def unlimited : RegexEngine := within .unlimited

theorem compile?_unlimited (f : Flags) (s : Text) :
    unlimited.compile? f s = (Regex.parse? f s).map Regex.isMatch := by
  simp [unlimited, within]

end RegexEngine

end PinyinSearch
