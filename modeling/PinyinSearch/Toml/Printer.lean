import PinyinSearch.Text

/-!
# Printing TOML

Writes strings, arrays of strings and natural numbers.  A string is written in the plainest form
that shows it without escape sequences, if there is one.
-/

namespace PinyinSearch.Toml

/-! ## Strings -/

/-- Whether a character can only be written as an escape sequence, in whatever quotes: a control
character other than a tab and a line feed. -/
def needsEscape (c : Char) : Bool := (c < ' ' && c ≠ '\t' && c ≠ '\n') || c = '\x7f'

/-- The length of the longest run of a character. -/
def longestRun (c : Char) (s : Text) : Nat :=
  (s.foldl (fun (best, here) d =>
    let here := if d = c then here + 1 else 0
    (max best here, here)) (0, 0)).1

/-- A way to quote a string. -/
structure Quotes where
  /-- Whether escape sequences are understood. -/
  escapes : Bool
  /-- Whether there are three quotes on each side. -/
  triple : Bool
deriving DecidableEq, Repr

/-- The plainest way to quote a string: in double quotes if nothing is in the way, then in single
quotes, each first on one line; escape sequences come last. -/
def Quotes.ofText (s : Text) : Quotes :=
  let controls := s.any needsEscape
  let backslashes := s.contains '\\'
  let breaks := s.contains '\n'
  let singles := longestRun '\'' s
  let doubles := longestRun '"' s
  if !controls && !backslashes && doubles = 0 && !breaks then ⟨true, false⟩
  else if !controls && singles = 0 && !breaks then ⟨false, false⟩
  else if !controls && !backslashes && doubles ≤ 2 then ⟨true, true⟩
  else if !controls && singles ≤ 2 then ⟨false, true⟩
  else ⟨true, breaks⟩

/-- The quotes on one side. -/
def Quotes.delimiter (q : Quotes) : Text :=
  List.replicate (if q.triple then 3 else 1) (if q.escapes then '"' else '\'')

/-- A code point in four hexadecimal digits. -/
def hexCode (n : Nat) : Text :=
  let digits := (Nat.toDigits 16 n).map Char.toUpper
  List.replicate (4 - digits.length) '0' ++ digits

/-- The text between double quotes.  Of the double quotes in it, at most `room` in a row are written
as they are; `left` of these may come next.  In three quotes a line feed is written as it is. -/
def escape (triple : Bool) (room : Nat) : (left : Nat) → Text → Text
  | _, [] => []
  | left, '"' :: rest =>
    match left with
    | 0 => '\\' :: '"' :: escape triple room room rest
    | left + 1 => '"' :: escape triple room left rest
  | _, c :: rest =>
    let written : Text :=
      if c = '\x08' then ['\\', 'b']
      else if c = '\t' then ['\\', 't']
      else if c = '\n' ∧ ¬triple then ['\\', 'n']
      else if c = '\x0c' then ['\\', 'f']
      else if c = '\r' then ['\\', 'r']
      else if c = '\\' then ['\\', '\\']
      else if needsEscape c then ['\\', 'u'] ++ hexCode c.toNat
      else [c]
    written ++ escape triple room room rest

/-- A string in quotes.  In three quotes, a text of several lines begins on a line of its own. -/
def quoted (s : Text) : Text :=
  let q := Quotes.ofText s
  let opening := if q.triple ∧ '\n' ∈ s then q.delimiter ++ ['\n'] else q.delimiter
  let room := if q.triple then 2 else 0
  opening ++ (if q.escapes then escape q.triple room room s else s) ++ q.delimiter

/-! ## Documents -/

/-- An array of strings.  Two strings or more are written on lines of their own. -/
def strings : List Text → Text
  | [] => ['[', ']']
  | [s] => '[' :: quoted s ++ [']']
  | ss => ['[', '\n'] ++ (ss.flatMap fun s => "    ".toList ++ quoted s ++ [',', '\n']) ++ [']']

/-- A line that gives a key its value. -/
def row (key : String) (value : Text) : Text := key.toList ++ " = ".toList ++ value ++ ['\n']

end PinyinSearch.Toml
