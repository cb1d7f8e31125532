import PinyinSearch.Unicode.Blank

/-!
# Texts

A text is the list of its characters.  This module holds the few operations on texts that every
part of the library shares: trimming, splitting into words, cutting at a separator, joining,
ASCII lower case and decimal numbers.
-/

namespace PinyinSearch

/-- A text is the list of its characters, one for each code point. -/
abbrev Text := List Char

namespace Text

/-- The text without the white space at its start and at its end. -/
def trim (s : Text) : Text :=
  ((s.dropWhile Unicode.isBlank).reverse.dropWhile Unicode.isBlank).reverse

/-- The maximal runs of characters other than white space. -/
def words (s : Text) : List Text := (s.splitOnP Unicode.isBlank).filter (! ·.isEmpty)

/-- The letters of ASCII in lower case, every other character as it stands. -/
def lowerAscii (s : Text) : Text := s.map Char.toLower

/-- What stands before and after the first `sep`, `none` if there is no `sep`. -/
def cutAt (sep : Char) : Text → Option (Text × Text)
  | [] => none
  | c :: rest =>
    if c = sep then some ([], rest)
    else (cutAt sep rest).map fun (before, after) => (c :: before, after)

/-- The texts in order with `sep` between neighbours. -/
def join (sep : Text) (parts : List Text) : Text := sep.intercalate parts

/-- The decimal digits of a number. -/
def decimal (n : Nat) : Text := Nat.toDigits 10 n

/-- The decimal digits of a number, after a minus sign when it is negative. -/
def signedDecimal : Int → Text
  | .ofNat n => decimal n
  | .negSucc n => '-' :: decimal (n + 1)

/-- The number that a text of ASCII digits writes; `none` for the empty text and for a text that
holds anything else. -/
def natural? (s : Text) : Option Nat :=
  if s ≠ [] ∧ s.all Char.isDigit then
    some (s.foldl (fun n c => 10 * n + (c.toNat - '0'.toNat)) 0)
  else none

/-- The one-letter text of a character. -/
def ofChar (c : Char) : Text := [c]

@[simp] theorem lowerAscii_append (s t : Text) :
    lowerAscii (s ++ t) = lowerAscii s ++ lowerAscii t := List.map_append

@[simp] theorem length_lowerAscii (s : Text) : (lowerAscii s).length = s.length :=
  List.length_map ..

/-- A cut puts the separator back between its two parts. -/
theorem eq_of_cutAt {sep : Char} {s before after : Text} (h : cutAt sep s = some (before, after)) :
    s = before ++ sep :: after := by
  induction s generalizing before with
  | nil => simp [cutAt] at h
  | cons c rest ih =>
    rw [cutAt] at h
    split at h
    · next hc => simp only [Option.some.injEq, Prod.mk.injEq] at h; simp [← h.1, ← h.2, hc]
    · next =>
      obtain ⟨⟨b, a⟩, hr, he⟩ := Option.map_eq_some_iff.1 h
      simp only [Prod.mk.injEq] at he
      obtain ⟨rfl, rfl⟩ := he
      simp [ih hr]

/-- Decimal digits write their number. -/
theorem natural?_decimal (n : Nat) : natural? (decimal n) = some n := by
  have hdigits : (decimal n).all Char.isDigit = true :=
    List.all_eq_true.2 fun _ hc => Nat.isDigit_of_mem_toDigits (by decide) (by decide) hc
  rw [natural?, if_pos ⟨Nat.toDigits_ne_nil, hdigits⟩]
  exact congrArg some Nat.ofDigitChars_ten_toDigits

end Text

end PinyinSearch
