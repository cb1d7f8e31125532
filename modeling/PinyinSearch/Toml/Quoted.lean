import PinyinSearch.Toml.Reader

/-!
# Quoted TOML strings

Strings in double quotes, in which a backslash begins an escape sequence, and strings in single
quotes, in which every character stands for itself.  In three quotes a string may go over several
lines.
-/

namespace PinyinSearch.Toml

open Reader

/-- Whether a character may stand within a line: a tab or anything but a control character of
ASCII. -/
def isInline (c : Char) : Bool := c = '\t' || (' ' ≤ c && c ≠ '\x7f')

/-- Whether a character separates words within a line. -/
def isSpace (c : Char) : Bool := c = ' ' || c = '\t'

/-- A line break, which stands for a line feed. -/
def lineBreak : Reader Char := char '\n' <|> (char '\r' *> char '\n')

/-- Spaces and tabs. -/
def spaces : Reader Text := run isSpace

/-! ## Escape sequences -/

/-- The value of a hexadecimal digit. -/
def hexValue (c : Char) : Nat :=
  if c.isDigit then c.toNat - '0'.toNat else c.toLower.toNat - 'a'.toNat + 10

/-- Whether a character is a hexadecimal digit. -/
def isHexDigit (c : Char) : Bool := c.isDigit || ('a' ≤ c.toLower && c.toLower ≤ 'f')

/-- A number of exactly `n` hexadecimal digits. -/
def hexNumber (n : Nat) : Reader Nat := fun s =>
  let digits := s.take n
  if digits.length = n ∧ digits.all isHexDigit then
    some (digits.foldl (fun m c => 16 * m + hexValue c) 0, s.drop n)
  else none

/-- A character by its code point, of exactly `n` hexadecimal digits. -/
def codePoint (n : Nat) : Reader Char := do
  let code ← hexNumber n
  if h : code.isValidChar then pure (Char.ofNatAux code h) else failure

/-- What follows the backslash of an escape sequence. -/
def escaped : Reader Char := do
  match ← charIf fun _ => true with
  | 'b' => pure '\x08'
  | 't' => pure '\t'
  | 'n' => pure '\n'
  | 'f' => pure '\x0c'
  | 'r' => pure '\r'
  | '"' => pure '"'
  | '\\' => pure '\\'
  | 'u' => codePoint 4
  | 'U' => codePoint 8
  | _ => failure

/-! ## Strings on one line -/

/-- A character, or an escape sequence, between double quotes. -/
def basicChar : Reader Char :=
  charIf (fun c => isInline c && c ≠ '"' && c ≠ '\\') <|> (char '\\' *> escaped)

/-- A string in double quotes. -/
def basicString : Reader Text := char '"' *> many basicChar <* char '"'

/-- A string in single quotes. -/
def literalString : Reader Text :=
  char '\'' *> run (fun c => isInline c && c ≠ '\'') <* char '\''

/-! ## Strings over several lines -/

/-- One or two quotes that do not close a string in three quotes. -/
def innerQuotes (quote : Char) : Reader Text := fun s =>
  let quotes := s.takeWhile (· = quote)
  if quotes.length = 1 ∨ quotes.length = 2 then some (quotes, s.dropWhile (· = quote)) else none

/-- The three quotes that close a string, after at most two that belong to it. -/
def closingQuotes (quote : Char) : Reader Text := fun s =>
  let count := (s.takeWhile (· = quote)).length
  let inner := min (count - 3) 2
  if count < 3 then none else some (List.replicate inner quote, s.drop (inner + 3))

/-- A string in three quotes, made of pieces.  A line break right behind the opening is left out. -/
def multilineString (quote : Char) (piece : Reader Text) : Reader Text := do
  word [quote, quote, quote]
  let _ ← optional lineBreak
  let pieces ← many (innerQuotes quote <|> ((fun _ => ['\n']) <$> lineBreak) <|> piece)
  let rest ← closingQuotes quote
  pure (pieces.flatten ++ rest)

/-- A backslash at the end of a line, which hides all white space up to the next character. -/
def hiddenBreak : Reader Text := do
  let _ ← char '\\'
  let _ ← spaces
  let _ ← lineBreak
  let _ ← many (lineBreak <|> charIf isSpace)
  pure []

/-- A string in three double quotes. -/
def multilineBasicString : Reader Text :=
  multilineString '"' (hiddenBreak <|> (Text.ofChar <$> basicChar))

/-- A string in three single quotes. -/
def multilineLiteralString : Reader Text :=
  multilineString '\'' (Text.ofChar <$> charIf fun c => isInline c && c ≠ '\'')

/-- A string in any quotes. -/
def string : Reader Text :=
  multilineBasicString <|> basicString <|> multilineLiteralString <|> literalString

end PinyinSearch.Toml
