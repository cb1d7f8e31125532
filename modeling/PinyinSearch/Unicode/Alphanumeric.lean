import PinyinSearch.Unicode.GeneralCategory
import PinyinSearch.Unicode.Property

/-!
# Letters and numbers

The alphabetic and the numeric characters of version 17 of Unicode, one version ahead of the tables
of properties; what that version added is listed here.
-/

namespace PinyinSearch.Unicode

/-- The alphabetic characters up to version 16. -/
def alphabeticRanges : Ranges := .ofGaps Property.alphabetic

/-- The characters that are alphabetic since version 17. -/
def addedAlphabeticRanges : Ranges := .ofGaps "
  88f 1 3cc 1 7f 1 9af1 2 2 1 1 1 1c 1 614e 1a 56b 3 32 2 c64 8 248 2c 50c4 19 2 19 11e 5 1801 8
  509 16 61 73 58cd 1f 1 16 8 2 d03a 6 1762 c 5502 10ca"

/-- The numeric characters up to version 16: digits, letters and others. -/
def numericRanges : List Ranges :=
  [GeneralCategory.decimalNumber, GeneralCategory.letterNumber,
    GeneralCategory.otherNumber].map .ofGaps

/-- The characters that are numeric since version 17. -/
def addedNumericRanges : Ranges := .ofGaps "11de0 a 520a 3"

/-- Whether a character is alphabetic. -/
def isAlphabetic (c : Char) : Bool :=
  alphabeticRanges.contains c || addedAlphabeticRanges.contains c

/-- Whether a character stands for a number. -/
def isNumeric (c : Char) : Bool :=
  numericRanges.any (·.contains c) || addedNumericRanges.contains c

end PinyinSearch.Unicode
