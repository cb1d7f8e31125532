import PinyinSearch.Unicode.Ranges

/-!
# Shifted runs

Case mappings move long runs of code points by one distance.  A table of runs is written as text
with four numbers a run: the first code point, how many there are, the step between them and the
distance, whose sign is written before it.
-/

namespace PinyinSearch.Unicode

/-- The code points `first`, `first + step`, …, `count` of them, each moved by the same distance. -/
structure Shift where
  first : Nat
  count : Nat
  step : Nat
  distance : Int
deriving DecidableEq, Repr, Inhabited

namespace Shift

/-- Whether the run holds the code point `n`. -/
def holds (s : Shift) (n : Nat) : Bool :=
  s.first ≤ n && (n - s.first) % s.step == 0 && (n - s.first) / s.step < s.count

/-- The code point that `n` is moved to. -/
def image (s : Shift) (n : Nat) : Nat := ((n : Int) + s.distance).toNat

/-- The code point of the run that is moved to `n`, if there is one. -/
def preimage? (s : Shift) (n : Nat) : Option Nat :=
  let m := ((n : Int) - s.distance).toNat
  if s.holds m && s.image m == n then some m else none

/-- Reads one number of a table of runs. -/
def number (word : List Char) : Int :=
  match word with
  | '-' :: digits => -((hexNumbers none digits).headD 0 : Nat)
  | digits => ((hexNumbers none digits).headD 0 : Nat)

/-- Groups the numbers of a table into runs. -/
def group : List Int → List Shift
  | first :: count :: step :: distance :: rest =>
    ⟨first.toNat, count.toNat, step.toNat, distance⟩ :: group rest
  | _ => []

/-- Reads a table of runs. -/
def ofTable (table : String) : List Shift :=
  group (((table.toList.splitOnP fun c => c == ' ' || c == '\n').filter (! ·.isEmpty)).map number)

/-- Where the first run that holds `c` moves it, `none` if no run does. -/
def move? (runs : List Shift) (c : Char) : Option Char :=
  (runs.find? (·.holds c.toNat)).map fun s => Char.ofNat (s.image c.toNat)

end Shift

end PinyinSearch.Unicode
