import PinyinSearch.Pattern.Quantifier
import PinyinSearch.Pattern.Span

/-!
# Tokens of a pattern

A pattern is cut into bracket classes, escapes, quantifiers, braces that belong to none, group
openers and single characters.  The tokens, as they are written, make up the pattern again
(`written_tokens`).
-/

namespace PinyinSearch

/-- A token of a pattern. -/
inductive Token where
  /-- A bracket class as it is written. -/
  | bracket (written : Text)
  /-- An escape as it is written. -/
  | escape (written : Text)
  /-- A quantifier and what is written between its braces. -/
  | count (q : Quantifier) (interior : Text)
  /-- A brace that belongs to no quantifier. -/
  | brace (c : Char)
  /-- An opening parenthesis with the options that belong to it. -/
  | opener (written : Text)
  /-- Any other character. -/
  | char (c : Char)
deriving DecidableEq, Repr

namespace Token

/-- The part of the pattern that a token was read from. -/
def written : Token → Text
  | bracket s => s
  | escape s => s
  | count _ interior => Quantifier.braced interior
  | brace c => [c]
  | opener s => s
  | char c => [c]

/-- Reads the token that begins with `c`, and the text behind it.  With `options` the options of a
group belong to its parenthesis. -/
def read (options : Bool) (c : Char) (rest : Text) : Token × Text :=
  match c with
  | '[' => (.bracket ('[' :: (Span.bracket rest).1), (Span.bracket rest).2)
  | '\\' => (.escape ('\\' :: (Span.escape rest).1), (Span.escape rest).2)
  | '{' =>
    match Quantifier.read? rest with
    | some (q, interior, after) => (.count q interior, after)
    | none => (.brace '{', rest)
  | '}' => (.brace '}', rest)
  | '(' =>
    if options then (.opener ('(' :: (Span.groupOpener rest).1), (Span.groupOpener rest).2)
    else (.opener ['('], rest)
  | c => (.char c, rest)

/-- The token read and the text behind it make up the text. -/
theorem written_read (options : Bool) (c : Char) (rest : Text) :
    (read options c rest).1.written ++ (read options c rest).2 = c :: rest := by
  rw [read.eq_def]
  split
  · simp [written, Span.bracket_append]
  · simp [written, Span.escape_append]
  · split
    · next h => simp [written, Quantifier.braced, Quantifier.eq_of_read? h]
    · simp [written]
  · simp [written]
  · split <;> simp [written, Span.groupOpener_append]
  · simp [written]

/-- No token is empty. -/
theorem written_ne_nil (options : Bool) (c : Char) (rest : Text) :
    (read options c rest).1.written ≠ [] := by
  rw [read.eq_def]
  split
  case h_3 => split <;> simp [written, Quantifier.braced]
  case h_5 => split <;> simp [written]
  all_goals simp [written]

/-- What is left behind a token is no longer than what followed its first character. -/
theorem length_read_le (options : Bool) (c : Char) (rest : Text) :
    (read options c rest).2.length ≤ rest.length := by
  have h := congrArg List.length (written_read options c rest)
  have hn := List.length_pos_iff.2 (written_ne_nil options c rest)
  simp only [List.length_append, List.length_cons] at h
  omega

end Token

/-- The tokens of a pattern.  With `options` the options of a group belong to its parenthesis. -/
def tokens (options : Bool) (s : Text) : List Token :=
  match s with
  | [] => []
  | c :: rest => (Token.read options c rest).1 :: tokens options (Token.read options c rest).2
termination_by s.length
decreasing_by
  have := Token.length_read_le options c rest
  simp only [List.length_cons]; omega

/-- The tokens, as they are written, make up the pattern. -/
theorem written_tokens (options : Bool) (s : Text) :
    (tokens options s).flatMap Token.written = s := by
  fun_induction tokens options s with
  | case1 => rfl
  | case2 c rest ih => rw [List.flatMap_cons, ih, Token.written_read]

end PinyinSearch
