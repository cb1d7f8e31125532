import PinyinSearch.Pattern.Token

/-!
# The text side of a pattern

The regular expression that a pattern stands for on the texts of entries: the pattern itself, with
braces that belong to no quantifier made literal and with missing minimums written out.
-/

namespace PinyinSearch

/-- A token as the regular expression for texts writes it. -/
def Token.textForm : Token → Text
  | .count q interior => q.canonical interior
  | .brace c => ['\\', c]
  | token => token.written

/-- The regular expression that a pattern stands for on texts. -/
def textPattern (pattern : Text) : Text := (tokens false pattern).flatMap Token.textForm

end PinyinSearch
