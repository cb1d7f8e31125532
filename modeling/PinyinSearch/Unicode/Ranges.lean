/-!
# Sets of code points as ranges

A table of code points is written as text, alternating the length of a gap and the length of the
run that follows it, in hexadecimal.  `Ranges.ofGaps` reads such a table into ascending, disjoint
ranges and `Ranges.contains` searches them by bisection.
-/

namespace PinyinSearch.Unicode

/-- The value of a lower-case hexadecimal digit, `none` for any other character. -/
def hexDigit? (c : Char) : Option Nat :=
  if '0' ≤ c ∧ c ≤ '9' then some (c.toNat - 48)
  else if 'a' ≤ c ∧ c ≤ 'f' then some (c.toNat - 87)
  else none

/-- The hexadecimal numbers of a text, split at every character that is no digit; `openNumber` is
the number being read. -/
def hexNumbers (openNumber : Option Nat) : List Char → List Nat
  | [] => openNumber.toList
  | c :: rest =>
    match hexDigit? c with
    | some d => hexNumbers (some (openNumber.getD 0 * 16 + d)) rest
    | none => openNumber.toList ++ hexNumbers none rest

/-- The numbers of a table. -/
def tableNumbers (table : String) : List Nat := hexNumbers none table.toList

/-- Ascending, disjoint ranges of code points, each given by its first and its last member. -/
structure Ranges where
  bounds : Array (Nat × Nat)
deriving DecidableEq, Repr, Inhabited

namespace Ranges

/-- The ranges of a list that alternates gaps and lengths, counted from `start`. -/
def spread (start : Nat) : List Nat → List (Nat × Nat)
  | gap :: count :: rest =>
    (start + gap, start + gap + count - 1) :: spread (start + gap + count) rest
  | _ => []

/-- Reads a table of gaps and lengths. -/
def ofGaps (table : String) : Ranges := ⟨(spread 0 (tableNumbers table)).toArray⟩

/-- Whether one of the ranges numbered from `lo` to `hi` (exclusive) holds `n`. -/
def search (bounds : Array (Nat × Nat)) (n lo hi : Nat) : Bool :=
  if lo < hi then
    let mid := (lo + hi) / 2
    match bounds[mid]? with
    | none => false
    | some (first, last) =>
      if n < first then search bounds n lo mid
      else if last < n then search bounds n (mid + 1) hi
      else true
  else false
termination_by hi - lo
decreasing_by all_goals grind

/-- Whether the code point of `c` lies in one of the ranges. -/
def contains (r : Ranges) (c : Char) : Bool := search r.bounds c.toNat 0 r.bounds.size

end Ranges

end PinyinSearch.Unicode
