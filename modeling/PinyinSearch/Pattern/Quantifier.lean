import PinyinSearch.Text
import PinyinSearch.Unicode.Word

/-!
# Quantifiers

The counts in braces that a pattern may hold: one number, two numbers, or a number on one side of a
comma.  Braces around anything else are no quantifier.

What stands between braces passes two filters.  The first judges the form alone, by the decimal
digits of every script; the second reads the numbers, from ASCII digits that may follow a plus sign.
-/

namespace PinyinSearch

/-- A count in braces. -/
inductive Quantifier where
  /-- `n` times. -/
  | exactly (n : Nat)
  /-- At least `m` and at most `n` times. -/
  | between (m n : Nat)
  /-- At least `m` times. -/
  | atLeast (m : Nat)
  /-- At most `n` times. -/
  | upTo (n : Nat)
deriving DecidableEq, Repr

namespace Quantifier

/-! ## Form -/

/-- Whether a text is made of decimal digits, one or more, of whatever script. -/
def areDigits (s : Text) : Bool := s ≠ [] && s.all Unicode.isDecimalDigit

/-- Whether a text has the form of what stands between the braces of a quantifier, which is that of
the expression `^(?:\d+|\d+,\d+|\d+,|,\d+)$`. -/
def hasForm (interior : Text) : Bool :=
  match interior.cutAt ',' with
  | none => areDigits interior
  | some ([], maximum) => areDigits maximum
  | some (minimum, []) => areDigits minimum
  | some (minimum, maximum) => areDigits minimum && areDigits maximum

/-! ## Numbers -/

/-- Counts are smaller than this number; digits that write a larger one form no quantifier. -/
def bound : Nat := 0x10000000000000000

/-- A number with one more ASCII digit behind it, unless it gets too large. -/
def pushDigit? (n : Nat) (c : Char) : Option Nat :=
  if c.isDigit then
    let m := 10 * n + (c.toNat - '0'.toNat)
    if m < bound then some m else none
  else none

/-- A text without a plus sign in front. -/
def dropPlus : Text → Text
  | '+' :: rest => rest
  | s => s

/-- The number that ASCII digits write, perhaps behind a plus sign, if it is small enough. -/
def number? (s : Text) : Option Nat :=
  match dropPlus s with
  | [] => none
  | digits => digits.foldlM pushDigit? 0

/-! ## Reading -/

/-- Reads what stands between the braces. -/
def ofInterior? (interior : Text) : Option Quantifier :=
  if hasForm interior then
    match interior.cutAt ',' with
    | none => (number? interior).map exactly
    | some ([], maximum) => (number? maximum).map upTo
    | some (minimum, []) => (number? minimum).map atLeast
    | some (minimum, maximum) => (number? minimum).bind fun m => (number? maximum).map (between m)
  else none

/-- Reads a quantifier from the text behind an opening brace: the quantifier, its digits as they
are written, and the text behind the first closing brace. -/
def read? (s : Text) : Option (Quantifier × Text × Text) :=
  (s.cutAt '}').bind fun (interior, rest) => (ofInterior? interior).map fun q => (q, interior, rest)

/-- Some text between braces. -/
def braced (interior : Text) : Text := '{' :: interior ++ ['}']

/-- The quantifier as a regular expression writes it: as it was written, but for a missing minimum,
which is written as 0. -/
def canonical (q : Quantifier) (interior : Text) : Text :=
  match q with
  | upTo n => braced ('0' :: ',' :: Text.decimal n)
  | _ => braced interior

/-- A quantifier, its closing brace and the rest make up the text. -/
theorem eq_of_read? {s interior rest : Text} {q : Quantifier}
    (h : read? s = some (q, interior, rest)) : s = interior ++ '}' :: rest := by
  obtain ⟨⟨i, r⟩, hc, he⟩ := Option.bind_eq_some_iff.1 h
  obtain ⟨q', _, he⟩ := Option.map_eq_some_iff.1 he
  simp only [Prod.mk.injEq] at he
  obtain ⟨_, rfl, rfl⟩ := he
  exact Text.eq_of_cutAt hc

end Quantifier

end PinyinSearch
