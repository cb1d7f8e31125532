import PinyinSearch.Regex.Bracket
import PinyinSearch.Regex.Limits
import PinyinSearch.Unicode.Alphanumeric

/-!
# Reading regular expressions

Reads a regular expression from its notation, from left to right.  `Regex.State` holds what was
read: the parts of the current branch, the finished branches of the innermost open group, and the
same for every group around it.  Each step reads one part; the expression is malformed if a step
fails or a group stays open.
-/

namespace PinyinSearch.Regex

/-- An expression with what it measures. -/
structure Part where
  regex : Regex
  extent : Extent
deriving DecidableEq, Repr

/-- A part that is a set. -/
def Part.ofSet (s : CharSet) (depth : Nat) : Part := ⟨.set s, { depth, size := s.size }⟩

/-- A part that is a condition. -/
def Part.ofAssertion (a : Assertion) : Part := ⟨.assert a, { size := Extent.state }⟩

/-- A part of a branch. -/
inductive Item where
  /-- A change of flags, which matches nothing and cannot be repeated. -/
  | flags
  | expr (p : Part)
deriving DecidableEq, Repr

namespace Item

/-- The expression of a part, if it is one. -/
def regex? : Item → Option Regex
  | flags => none
  | expr p => some p.regex

/-- What a part measures. -/
def extent : Item → Extent
  | flags => {}
  | expr p => p.extent

end Item

/-- What was read of a group that is still open. -/
structure Level where
  /-- The flags in force. -/
  flags : Flags
  /-- Whether it is noted where the group begins and ends. -/
  captures : Bool := false
  /-- The finished branches, latest first. -/
  branches : List Part := []
  /-- The parts of the current branch, latest first. -/
  items : List Item := []
deriving DecidableEq, Repr

namespace Level

/-- The current branch. -/
def branch (l : Level) : Part :=
  ⟨seqs (l.items.reverse.filterMap Item.regex?), .ofSequence (l.items.map Item.extent)⟩

/-- What the group holds if it is closed here. -/
def content (l : Level) : Part :=
  ⟨l.branches.foldl (fun later b => alt b.regex later) l.branch.regex,
    .ofAlternatives ((l.branch :: l.branches).map Part.extent)⟩

/-- The group if it is closed here. -/
def group (l : Level) : Part := ⟨l.content.regex, .ofGroup l.captures l.content.extent⟩

/-- Adds a part to the current branch. -/
def push (l : Level) (p : Part) : Level := { l with items := .expr p :: l.items }

end Level

/-- What was read of an expression. -/
structure State where
  /-- The innermost open group. -/
  level : Level
  /-- The groups around it, innermost first. -/
  outer : List Level := []
  /-- The names of the groups. -/
  names : List Text := []
deriving DecidableEq, Repr

namespace State

/-- The flags in force. -/
def flags (st : State) : Flags := st.level.flags

/-- Adds a part to the current branch. -/
def push (st : State) (p : Part) : State := { st with level := st.level.push p }

/-- Begins another branch. -/
def nextBranch (st : State) : State :=
  let level := { st.level with branches := st.level.branch :: st.level.branches, items := [] }
  { st with level }

/-- Opens a group. -/
def openGroup (st : State) (f : Flags) (captures : Bool) : State :=
  { st with level := { flags := f, captures }, outer := st.level :: st.outer }

/-- Closes the innermost group; the flags before it are in force again. -/
def closeGroup? (st : State) : Option State :=
  match st.outer with
  | [] => none
  | l :: outer => some { st with level := l.push st.level.group, outer }

/-- Changes the flags for the rest of the group. -/
def changeFlags (st : State) (f : Flags) : State :=
  { st with level := { st.level with flags := f, items := .flags :: st.level.items } }

/-- Repeats the last part; there has to be one, and not a change of flags. -/
def repeatLast? (st : State) (least : Nat) (most : Option Nat) : Option State :=
  match st.level.items with
  | .expr p :: items =>
    let repeated : Part := ⟨.times p.regex least most, .ofTimes p.regex least most p.extent⟩
    some { st with level := { st.level with items := .expr repeated :: items } }
  | _ => none

end State

/-! ## Groups -/

/-- Whether a character may stand in the name of a group. -/
def isNameChar (isFirst : Bool) (c : Char) : Bool :=
  if c = '_' then true
  else if isFirst then Unicode.isAlphabetic c
  else c == '.' || c == '[' || c == ']' || Unicode.isAlphabetic c || Unicode.isNumeric c

/-- Whether a text may name a group. -/
def isName : Text → Bool
  | [] => false
  | c :: rest => isNameChar true c && rest.all (isNameChar false)

/-- Reads the name of a group up to its angle bracket and opens the group.  No two groups have the
same name. -/
def readNamedGroup? (st : State) (s : Text) : Option (State × Text) :=
  (Text.cutAt '>' s).bind fun (name, rest) =>
    if isName name && !st.names.contains name then
      some ({ st with names := name :: st.names }.openGroup st.flags true, rest)
    else none

/-- Reads what belongs to the opening of a group from behind its parenthesis.  Conditions on the
text around the group are refused. -/
def readGroup? (st : State) (s : Text) : Option (State × Text) :=
  match st.flags.skip s with
  | '?' :: '=' :: _ | '?' :: '!' :: _ | '?' :: '<' :: '=' :: _ | '?' :: '<' :: '!' :: _ => none
  | '?' :: 'P' :: '<' :: rest => readNamedGroup? st rest
  | '?' :: '<' :: rest => readNamedGroup? st rest
  | '?' :: rest =>
    (st.flags.read? [] rest).bind fun (f, letters, last, rest) =>
      if last = ':' then some (st.openGroup f false, rest)
      else if letters = [] then none
      else some (st.changeFlags f, rest)
  | rest => some (st.openGroup st.flags true, rest)

/-! ## Repetitions -/

/-- The text behind the question mark that makes a repetition reluctant, if there is one. -/
def skipReluctance : Text → Text
  | '?' :: rest => rest
  | s => s

/-- Reads digits; between them may stand what may be skipped. -/
def readDigits (f : Flags) (s : Text) : Text × Text :=
  match s with
  | [] => ([], [])
  | c :: rest =>
    if c.isDigit then
      let (digits, rest) := readDigits f (f.skip rest)
      (c :: digits, rest)
    else ([], c :: rest)
termination_by s.length
decreasing_by
  have := Flags.length_skip_le f rest
  simp only [List.length_cons]; omega

/-- Reads a count with white space around it. -/
def readCount (f : Flags) (s : Text) : Option Nat × Text :=
  let (digits, rest) := readDigits f (s.dropWhile Unicode.isBlank)
  (digits.natural?, rest.dropWhile Unicode.isBlank)

/-- Reads the bounds of a repetition from behind the opening brace. -/
def readBounds? (f : Flags) (s : Text) : Option ((Nat × Option Nat) × Text) :=
  match readCount f (f.skip s) with
  | (some least, '}' :: rest) => some ((least, some least), rest)
  | (some least, ',' :: rest) =>
    match f.skip rest with
    | '}' :: rest => some ((least, none), rest)
    | rest =>
      match readCount f rest with
      | (some most, '}' :: rest) => if least ≤ most then some ((least, some most), rest) else none
      | _ => none
  | _ => none

/-! ## Steps -/

/-- The set that a character of the notation stands for. -/
def charSet? (f : Flags) (c : Char) (isByte : Bool) : Option CharSet :=
  if f.unicode then some (Escape.foldSet f (.single c))
  else if isByte ∧ 128 ≤ c.toNat then none
  else some (Escape.foldSet f (.single c))

/-- The set that the dot stands for; it has no meaning where classes are of ASCII alone. -/
def dotSet? (f : Flags) : Option CharSet :=
  if !f.unicode then none
  else if f.dotAll then some .all
  else if f.crlf then some (.compl (.ofChars ['\r', '\n']))
  else some (.compl (.single '\n'))

/-- The part that an escape stands for. -/
def ofEscape? (f : Flags) : Escape → Option Part
  | .char c isByte => (charSet? f c isByte).map (.ofSet · 0)
  | .set s => some (.ofSet s 0)
  | .assert a => some (.ofAssertion a)

/-- Reads the part that begins with `c`. -/
def step? (st : State) (c : Char) (rest : Text) : Option (State × Text) :=
  match c with
  | '(' => readGroup? st rest
  | ')' => st.closeGroup?.map fun st => (st, rest)
  | '|' => some (st.nextBranch, rest)
  | '[' => (Bracket.read? st.flags rest).map fun (k, rest) => (st.push (.ofSet k.set k.depth), rest)
  | '?' => (st.repeatLast? 0 (some 1)).map fun st => (st, skipReluctance rest)
  | '*' => (st.repeatLast? 0 none).map fun st => (st, skipReluctance rest)
  | '+' => (st.repeatLast? 1 none).map fun st => (st, skipReluctance rest)
  | '{' =>
    (readBounds? st.flags rest).bind fun ((least, most), rest) =>
      (st.repeatLast? least most).map fun st => (st, skipReluctance (st.flags.skip rest))
  | '\\' =>
    (Escape.read? st.flags rest).bind fun (e, rest) =>
      (ofEscape? st.flags e).map fun p => (st.push p, rest)
  | '.' => (dotSet? st.flags).map fun s => (st.push (.ofSet s 0), rest)
  | '^' =>
    let start := if st.flags.multiLine then .lineStart st.flags.crlf else .textStart
    some (st.push (.ofAssertion start), rest)
  | '$' =>
    let stop := if st.flags.multiLine then .lineEnd st.flags.crlf else .textEnd
    some (st.push (.ofAssertion stop), rest)
  | c => (charSet? st.flags c false).map fun s => (st.push (.ofSet s 0), rest)

/-! ## What is left -/

theorem length_le_of_readNamedGroup? {st st' : State} {s rest : Text}
    (h : readNamedGroup? st s = some (st', rest)) : rest.length ≤ s.length := by
  obtain ⟨⟨name, r⟩, hc, h⟩ := Option.bind_eq_some_iff.1 h
  simp only at h
  split at h
  · cases h
    have := congrArg List.length (Text.eq_of_cutAt hc)
    simp only [List.length_append, List.length_cons] at this
    omega
  · cases h

theorem length_le_of_readGroup? {st st' : State} {s rest : Text}
    (h : readGroup? st s = some (st', rest)) : rest.length ≤ s.length := by
  have hs := Flags.length_skip_le st.flags s
  rw [readGroup?] at h
  split at h
  case h_1 | h_2 | h_3 | h_4 => cases h
  case h_5 heq | h_6 heq =>
    have := length_le_of_readNamedGroup? h
    rw [heq] at hs
    simp only [List.length_cons] at hs
    omega
  case h_7 heq =>
    rw [heq] at hs
    obtain ⟨⟨f, letters, last, r⟩, hf, h⟩ := Option.bind_eq_some_iff.1 h
    have := Flags.length_le_of_read? hf
    simp only [List.length_cons] at hs
    simp only at h
    split at h
    · cases h; omega
    · split at h
      · cases h
      · cases h; omega
  case h_8 => cases h; exact hs

theorem length_skipReluctance_le (s : Text) : (skipReluctance s).length ≤ s.length := by
  rw [skipReluctance.eq_def]
  split <;> simp

theorem length_readDigits_le (f : Flags) (s : Text) : (readDigits f s).2.length ≤ s.length := by
  fun_induction readDigits f s with
  | case1 => simp
  | case2 c rest hc digits after hd ih =>
    have := Flags.length_skip_le f rest
    simp only [hd] at ih
    simp only [List.length_cons]
    omega
  | case3 => simp

theorem length_dropWhile_le (p : Char → Bool) (s : Text) : (s.dropWhile p).length ≤ s.length :=
  (List.dropWhile_sublist p).length_le

theorem length_readCount_le (f : Flags) (s : Text) : (readCount f s).2.length ≤ s.length := by
  have h₁ := length_dropWhile_le Unicode.isBlank s
  have h₂ := length_readDigits_le f (s.dropWhile Unicode.isBlank)
  have h₃ := length_dropWhile_le Unicode.isBlank (readDigits f (s.dropWhile Unicode.isBlank)).2
  simp only [readCount]
  omega

theorem length_le_of_readBounds? {f : Flags} {s rest : Text} {b : Nat × Option Nat}
    (h : readBounds? f s = some (b, rest)) : rest.length ≤ s.length := by
  have h₁ := Flags.length_skip_le f s
  have h₂ := length_readCount_le f (f.skip s)
  rw [readBounds?] at h
  split at h
  · next heq =>
    cases h
    rw [heq] at h₂
    simp only [List.length_cons] at h₂
    omega
  · next after heq =>
    rw [heq] at h₂
    simp only [List.length_cons] at h₂
    have h₃ := Flags.length_skip_le f after
    split at h
    · next heq' =>
      cases h
      rw [heq'] at h₃
      simp only [List.length_cons] at h₃
      omega
    · have h₄ := length_readCount_le f (f.skip after)
      split at h
      · next heq' =>
        rw [heq'] at h₄
        simp only [List.length_cons] at h₄
        split at h
        · cases h; omega
        · cases h
      · cases h
  · cases h

/-- A step leaves no more than the text behind the character it begins with. -/
theorem length_le_of_step? {st st' : State} {c : Char} {s rest : Text}
    (h : step? st c s = some (st', rest)) : rest.length ≤ s.length := by
  rw [step?.eq_def] at h
  split at h
  case h_1 => exact length_le_of_readGroup? h
  case h_3 | h_11 | h_12 => cases h; exact Nat.le_refl _
  case h_2 | h_10 | h_13 =>
    obtain ⟨_, _, he⟩ := Option.map_eq_some_iff.1 h
    cases he
    exact Nat.le_refl _
  case h_4 =>
    obtain ⟨⟨_, _⟩, hb, he⟩ := Option.map_eq_some_iff.1 h
    cases he
    exact Bracket.length_le_of_read? hb
  case h_5 | h_6 | h_7 =>
    obtain ⟨_, _, he⟩ := Option.map_eq_some_iff.1 h
    cases he
    exact length_skipReluctance_le s
  case h_8 =>
    obtain ⟨⟨⟨_, _⟩, r⟩, hb, h⟩ := Option.bind_eq_some_iff.1 h
    obtain ⟨st₁, _, he⟩ := Option.map_eq_some_iff.1 h
    cases he
    have := length_le_of_readBounds? hb
    have := length_skipReluctance_le (st'.flags.skip r)
    have := Flags.length_skip_le st'.flags r
    omega
  case h_9 =>
    obtain ⟨⟨_, _⟩, hr, h⟩ := Option.bind_eq_some_iff.1 h
    obtain ⟨_, _, he⟩ := Option.map_eq_some_iff.1 h
    cases he
    exact Nat.le_of_lt (Escape.length_lt_of_read? hr)

/-! ## Whole expressions -/

/-- Reads the parts of a text one after the other. -/
def run? (st : State) (s : Text) : Option State :=
  match _h : st.flags.skip s with
  | [] => some st
  | c :: rest =>
    match _h' : step? st c rest with
    | none => none
    | some (st, rest) => run? st rest
termination_by s.length
decreasing_by
  have := length_le_of_step? _h'
  have := Flags.length_lt_of_skip _h
  omega

/-- The expression of a text in which every group is closed. -/
def State.finish? (st : State) : Option Part :=
  match st.outer with
  | [] => some st.level.content
  | _ :: _ => none

/-- Reads a regular expression and measures it; `none` if it is malformed. -/
def measure? (f : Flags) (s : Text) : Option Part :=
  (run? { level := { flags := f } } s).bind State.finish?

/-- Reads a regular expression; `none` if it is malformed. -/
def parse? (f : Flags) (s : Text) : Option Regex := (measure? f s).map Part.regex

/-- Reads a regular expression; `none` if it is malformed or goes beyond the limits. -/
def compile? (limits : Limits) (f : Flags) (s : Text) : Option Regex :=
  (measure? f s).bind fun p => if limits.allow p.extent then some p.regex else none

/-- Without limits, every well-formed expression is taken. -/
@[simp] theorem compile?_unlimited (f : Flags) (s : Text) :
    compile? .unlimited f s = parse? f s := by
  unfold compile? parse?
  cases measure? f s <;> simp

end PinyinSearch.Regex
