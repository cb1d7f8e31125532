import PinyinSearch.Text

/-!
# Flags

The flags that are in force at a place of a regular expression, and the notation that changes them:
letters that switch flags on, then a minus sign and letters that switch flags off.  With the flag
`verbose`, white space and comments between the parts of an expression are skipped.
-/

namespace PinyinSearch

/-- The flags in force at a place of a regular expression. -/
structure Flags where
  /-- Letters match their case variants. -/
  ignoreCase : Bool := false
  /-- `^` and `$` match at lines. -/
  multiLine : Bool := false
  /-- `.` matches the end of a line. -/
  dotAll : Bool := false
  /-- A carriage return ends lines. -/
  crlf : Bool := false
  /-- Classes hold the characters of every script, not of ASCII alone. -/
  unicode : Bool := true
  /-- White space and comments are skipped. -/
  verbose : Bool := false
deriving DecidableEq, Repr, Inhabited

namespace Flags

/-- Switches the flag of a letter; `none` if the letter stands for no flag.  The letter `U` changes
which match is preferred and so has no effect here. -/
def switch? (f : Flags) (on : Bool) (letter : Char) : Option Flags :=
  match letter with
  | 'i' => some { f with ignoreCase := on }
  | 'm' => some { f with multiLine := on }
  | 's' => some { f with dotAll := on }
  | 'R' => some { f with crlf := on }
  | 'u' => some { f with unicode := on }
  | 'x' => some { f with verbose := on }
  | 'U' => some f
  | _ => none

/-- Reads the changes of flags up to a `:` or a `)`: the flags after them, the letters read, the
character that ends them and the text behind it.  No letter may come twice, the minus sign neither,
and something has to follow it. -/
def read? (f : Flags) (seen : List Char) : Text → Option (Flags × List Char × Char × Text)
  | [] => none
  | c :: rest =>
    if c = ':' ∨ c = ')' then if seen.head? = some '-' then none else some (f, seen, c, rest)
    else if c ∈ seen then none
    else if c = '-' then read? f (c :: seen) rest
    else (f.switch? (! seen.contains '-') c).bind fun f => read? f (c :: seen) rest

theorem length_le_of_read? {f f' : Flags} {seen seen' : List Char} {c : Char} {s rest : Text}
    (h : read? f seen s = some (f', seen', c, rest)) : rest.length ≤ s.length := by
  induction s generalizing f seen with
  | nil => simp [read?] at h
  | cons d s ih =>
    rw [read?] at h
    simp only [List.length_cons]
    split at h
    · split at h
      · cases h
      · simp only [Option.some.injEq, Prod.mk.injEq] at h; simp [← h.2.2.2]
    · split at h
      · cases h
      · split at h
        · exact Nat.le_succ_of_le (ih h)
        · obtain ⟨g, _, hg⟩ := Option.bind_eq_some_iff.1 h
          exact Nat.le_succ_of_le (ih hg)

/-! ## Skipping -/

/-- The text behind leading white space and comments; a comment reaches from `#` to the end of its
line. -/
def skipBlank (inComment : Bool) : Text → Text
  | [] => []
  | c :: rest =>
    if inComment then skipBlank (c != '\n') rest
    else if Unicode.isBlank c then skipBlank false rest
    else if c = '#' then skipBlank true rest
    else c :: rest

/-- The text behind what may be skipped. -/
def skip (f : Flags) (s : Text) : Text := if f.verbose then skipBlank false s else s

theorem length_skipBlank_le (inComment : Bool) (s : Text) :
    (skipBlank inComment s).length ≤ s.length := by
  induction s generalizing inComment with
  | nil => simp [skipBlank]
  | cons c rest ih =>
    rw [skipBlank]
    have h₁ := ih (c != '\n')
    have h₂ := ih false
    have h₃ := ih true
    simp only [List.length_cons]
    split
    · omega
    · split
      · omega
      · split
        · omega
        · simp

theorem length_skip_le (f : Flags) (s : Text) : (f.skip s).length ≤ s.length := by
  rw [skip]
  split
  · exact length_skipBlank_le false s
  · exact Nat.le_refl _

theorem length_lt_of_skip {f : Flags} {s rest : Text} {c : Char} (h : f.skip s = c :: rest) :
    rest.length < s.length := by
  have := length_skip_le f s
  rw [h, List.length_cons] at this
  exact this

theorem skip_of_not_verbose {f : Flags} (h : f.verbose = false) (s : Text) : f.skip s = s := by
  simp [skip, h]

end Flags

end PinyinSearch
