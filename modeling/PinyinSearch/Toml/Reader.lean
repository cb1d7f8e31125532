import PinyinSearch.Text

/-!
# Readers

A reader takes a value from the front of a text, or fails.  Of two readers joined by `<|>` the
second starts where the first one did.
-/

namespace PinyinSearch

/-- Takes a value from the front of a text and leaves the rest, or fails. -/
abbrev Reader := StateT Text Option

namespace Reader

variable {α β : Type}

/-- The next character, which has to satisfy a condition. -/
def charIf (p : Char → Bool) : Reader Char
  | [] => none
  | c :: rest => if p c then some (c, rest) else none

/-- The next character, which has to be the given one. -/
def char (c : Char) : Reader Char := charIf (· = c)

/-- The given text. -/
def word : Text → Reader Unit
  | [] => pure ()
  | c :: rest => do
    let _ ← char c
    word rest

/-- The longest run, perhaps empty, of characters that satisfy a condition. -/
def run (p : Char → Bool) : Reader Text := fun s => some (s.takeWhile p, s.dropWhile p)

/-- What a reader takes, as it is spelled. -/
def spelling (r : Reader α) : Reader Text := fun s =>
  (r s).map fun (_, rest) => (s.take (s.length - rest.length), rest)

/-- As many values as a reader takes one after the other, at most `n`. -/
def upTo (r : Reader α) : Nat → Reader (List α)
  | 0 => pure []
  | n + 1 => (do let a ← r; let as ← upTo r n; pure (a :: as)) <|> pure []

/-- As many values as a reader takes one after the other.  There are no more of them than characters
if the reader takes one at least. -/
def many (r : Reader α) : Reader (List α) := fun s => upTo r s.length s

/-- One value or more with separators between them. -/
def separated (r : Reader α) (separator : Reader β) : Reader (List α) := do
  let first ← r
  let others ← many (separator *> r)
  pure (first :: others)

/-- The value of a whole text. -/
def readAll? (r : Reader α) (s : Text) : Option α :=
  match r s with
  | some (a, []) => some a
  | _ => none

end Reader

end PinyinSearch
