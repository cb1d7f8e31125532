import PinyinSearch.Toml.Quoted
import PinyinSearch.Toml.Value

/-!
# TOML numbers, dates and times

Integers have 64 bits, floats are those of 64 bits.  Digits may be grouped by single underscores.
-/

namespace PinyinSearch.Toml

open Reader

/-- Digits with single underscores between them, which are left out. -/
def digits (isDigit : Char → Bool) : Reader Text := do
  let first ← charIf isDigit
  let others ← many (optional (char '_') *> charIf isDigit)
  pure (first :: others)

/-- The number that digits write in a base. -/
def numeral (base : Nat) (ds : Text) : Nat := ds.foldl (fun n c => base * n + hexValue c) 0

/-- Whether a sign, which may be missing, is a minus. -/
def sign : Reader Bool :=
  ((fun _ => true) <$> char '-') <|> ((fun _ => false) <$> char '+') <|> pure false

/-- The digits before a point, without leading zeros. -/
def wholePart : Reader Text := (Text.ofChar <$> char '0') <|> digits Char.isDigit

/-! ## Integers -/

/-- An integer of 64 bits. -/
def word64 (n : Int) : Reader Value :=
  if -0x8000000000000000 ≤ n ∧ n ≤ 0x7FFFFFFFFFFFFFFF then pure (.integer n) else failure

/-- A number with a sign. -/
def signed (isNegative : Bool) (n : Nat) : Int := if isNegative then -n else n

/-- An integer in decimal notation. -/
def decimalInteger : Reader Value := do
  let isNegative ← sign
  word64 (signed isNegative (numeral 10 (← wholePart)))

/-- An integer in the notation of another base, after a zero and the letter of the base. -/
def basedInteger (letter : Char) (base : Nat) (isDigit : Char → Bool) : Reader Value := do
  word ['0', letter]
  word64 (numeral base (← digits isDigit))

/-- An integer. -/
def integer : Reader Value :=
  basedInteger 'x' 16 isHexDigit <|>
  basedInteger 'o' 8 (fun c => '0' ≤ c && c ≤ '7') <|>
  basedInteger 'b' 2 (fun c => c = '0' || c = '1') <|>
  decimalInteger

/-! ## Floats -/

/-- Whether `digits · 10 ^ exponent` is rounded to infinity: whether it is at least halfway between
the greatest float and the next power of two.  Only near that size is it worth computing. -/
def isInfinite (digits : Nat) (exponent : Int) : Bool :=
  let size := (Nat.toDigits 10 digits).length + exponent
  let bound := (1 <<< 1024) - (1 <<< 970)
  if digits = 0 ∨ size < 300 then false
  else if 320 < size then true
  else bound * Nat.pow 10 (-exponent).toNat ≤ digits * Nat.pow 10 exponent.toNat

/-- The digits behind a point. -/
def fraction : Reader Text := char '.' *> digits Char.isDigit

/-- An exponent with its sign. -/
def exponent : Reader Int := do
  let _ ← char 'e' <|> char 'E'
  let isNegative ← sign
  pure (signed isNegative (numeral 10 (← digits Char.isDigit)))

/-- A fraction with an exponent or without, or an exponent alone. -/
def fractionAndExponent : Reader (Text × Int) :=
  (do let f ← fraction; pure (f, (← optional exponent).getD 0)) <|>
    ((fun e => ([], e)) <$> exponent)

/-- A float in decimal notation.  One that is too great is refused. -/
def decimalFloat : Reader Unit := do
  let isNegative ← sign
  let whole ← wholePart
  let (fraction, exponent) ← fractionAndExponent
  if !isNegative && isInfinite (numeral 10 (whole ++ fraction)) (exponent - fraction.length) then
    failure

/-- Infinity or no number, with a sign or without. -/
def specialFloat : Reader Unit := sign *> (word "inf".toList <|> word "nan".toList)

/-- A float. -/
def float : Reader Value := .float <$> spelling (decimalFloat <|> specialFloat)

/-! ## Dates and times -/

/-- A number of exactly `n` decimal digits. -/
def fixedNumber (n : Nat) : Reader Nat := fun s =>
  let ds := s.take n
  if ds.length = n ∧ ds.all Char.isDigit then some (numeral 10 ds, s.drop n) else none

/-- A number of two digits between two bounds. -/
def twoDigits (low high : Nat) : Reader Nat := do
  let n ← fixedNumber 2
  if low ≤ n ∧ n ≤ high then pure n else failure

/-- The number of days of a month. -/
def daysOfMonth (year month : Nat) : Nat :=
  if month = 2 then
    if year % 4 = 0 ∧ (year % 100 ≠ 0 ∨ year % 400 = 0) then 29 else 28
  else if month ∈ [4, 6, 9, 11] then 30
  else 31

/-- A date. -/
def date : Reader Unit := do
  let year ← fixedNumber 4
  let _ ← char '-'
  let month ← twoDigits 1 12
  let _ ← char '-'
  let _ ← twoDigits 1 (daysOfMonth year month)

/-- Hours and minutes. -/
def hoursAndMinutes : Reader Unit := do
  let _ ← twoDigits 0 23
  let _ ← char ':'
  let _ ← twoDigits 0 59

/-- A time of the day. -/
def time : Reader Unit := do
  hoursAndMinutes
  let _ ← char ':'
  let _ ← twoDigits 0 60
  let _ ← optional (char '.' *> charIf Char.isDigit *> run Char.isDigit)

/-- The distance of a time from universal time. -/
def offset : Reader Unit :=
  ((fun _ => ()) <$> charIf fun c => c = 'Z' || c = 'z') <|>
  (charIf (fun c => c = '+' || c = '-') *> hoursAndMinutes)

/-- A date, a time or both. -/
def moment : Reader Value :=
  .moment <$> spelling
    ((do
      date
      let _ ← optional (charIf (fun c => c = 'T' || c = 't' || c = ' ') *> time *> optional offset))
      <|> time)

end PinyinSearch.Toml
