import PinyinSearch.Table

/-!
# Character frequencies

How often each character occurs in a list of characters, and the characters in order of frequency.
-/

namespace PinyinSearch

/-- Each character with the number of its occurrences. -/
abbrev Frequency := Table Char Nat

namespace Frequency

/-- Counts one more occurrence. -/
def add (t : Frequency) (c : Char) : Frequency := t.alter c fun n => n.getD 0 + 1

/-- The frequencies in a list of characters. -/
def ofChars (cs : List Char) : Frequency := cs.foldl add []

/-- The number of occurrences of a character. -/
def count (t : Frequency) (c : Char) : Nat := (t.get? c).getD 0

/-- Whether a row comes before another in order of frequency: the higher count first, of equal
counts the smaller code point. -/
def precedes (a b : Char × Nat) : Bool := b.2 < a.2 || (a.2 == b.2 && a.1 ≤ b.1)

/-- The characters by falling frequency, at most `limit` of them; a limit of 0 means all. -/
def mostCommon (t : Frequency) (limit : Nat) : List (Char × Nat) :=
  let sorted := List.mergeSort t precedes
  if limit = 0 then sorted else sorted.take limit

@[simp] theorem count_nil (c : Char) : count [] c = 0 := rfl

theorem count_add (t : Frequency) (c d : Char) :
    (t.add c).count d = t.count d + if c = d then 1 else 0 := by
  by_cases h : c = d
  · subst h; simp [add, count]
  · simp [add, count, Table.get?_alter_of_ne _ _ h, h]

end Frequency

end PinyinSearch
