import PinyinSearch.Text

/-!
# Errors of a search

Why a search is refused: the page asked for cannot be, or the pattern is malformed.
-/

namespace PinyinSearch

/-- A search that is refused. -/
inductive SearchError where
  /-- Pages are counted from 1. -/
  | invalidPage (page : Int)
  /-- A page has no negative size. -/
  | invalidPageSize (size : Int)
  /-- The pattern is malformed; `transcribed` is what it stands for on plain pronunciations, if
  these were asked for. -/
  | invalidPattern (pattern : Text) (transcribed : Option Text)
deriving DecidableEq, Repr

namespace SearchError

/-- The message of an error. -/
def message : SearchError → Text
  | invalidPage page => "page must be at least 1, got ".toList ++ Text.signedDecimal page
  | invalidPageSize size => "page size must not be negative, got ".toList ++ Text.signedDecimal size
  | invalidPattern pattern _ => "invalid pattern ".toList ++ pattern

end SearchError

end PinyinSearch
