import PinyinSearch.Text

/-!
# Errors in entries and labels

What can be wrong with the text of an entry, the label of a category or the label of a word shape.
-/

namespace PinyinSearch

/-- A text or a label that is refused. -/
inductive InputError where
  /-- The text of an entry holds nothing but white space. -/
  | emptyText
  /-- No category has this label. -/
  | unknownCategory (label : Text)
  /-- No word shape has this label. -/
  | unknownShape (label : Text)
deriving DecidableEq, Repr

namespace InputError

/-- The message of an error. -/
def message : InputError → Text
  | emptyText => "entry text is empty".toList
  | unknownCategory label => "unknown category: ".toList ++ label
  | unknownShape label => "unknown structure template: ".toList ++ label

end InputError

end PinyinSearch
