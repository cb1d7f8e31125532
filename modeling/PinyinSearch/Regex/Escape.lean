import PinyinSearch.Regex.Basic
import PinyinSearch.Regex.Flags

/-!
# Escapes

What a backslash and the characters behind it stand for: a character, a class or a condition.  Each
reader takes the text behind what announces its object and gives the object with the text behind
it, or `none` if the text is malformed; none of them gives back more than it took.
-/

namespace PinyinSearch

/-- What an escape stands for. -/
inductive Escape where
  /-- A character.  One that is given by two hexadecimal digits is a byte. -/
  | char (c : Char) (isByte : Bool)
  /-- A class, as the flags in force make it. -/
  | set (s : CharSet)
  /-- A condition. -/
  | assert (a : Assertion)
deriving DecidableEq, Repr

namespace Escape

/-! ## Hexadecimal numbers -/

/-- The value of a hexadecimal digit of either case. -/
def hexValue? (c : Char) : Option Nat := Unicode.hexDigit? c.toLower

/-- The character with a code point, if there is one. -/
def charOfCode? (n : Nat) : Option Char :=
  if h : n.isValidChar then some (Char.ofNatAux n h) else none

/-- Reads a given number of digits, continuing the number `value`. -/
def fixedHex? (f : Flags) : Nat → Nat → Text → Option (Nat × Text)
  | 0, value, s => some (value, s)
  | n + 1, value, s =>
    match f.skip s with
    | [] => none
    | c :: rest => (hexValue? c).bind fun d => fixedHex? f n (16 * value + d) rest

/-- Reads digits up to a closing brace, continuing the number `value`, which is `none` before the
first digit. -/
def bracedHex? (f : Flags) (value : Option Nat) (s : Text) : Option (Nat × Text) :=
  match _h : f.skip s with
  | [] => none
  | c :: rest =>
    if c = '}' then value.map fun n => (n, rest)
    else
      match hexValue? c with
      | none => none
      | some d => bracedHex? f (some (16 * value.getD 0 + d)) rest
termination_by s.length
decreasing_by exact Flags.length_lt_of_skip ‹_›

/-- Reads a character given by its code point: two, four or eight digits by kind, or any number of
digits in braces. -/
def hexChar? (f : Flags) (kind : Char) (s : Text) : Option (Escape × Text) :=
  match f.skip s with
  | [] => none
  | c :: rest =>
    if c = '{' then
      (bracedHex? f none rest).bind fun (n, rest) =>
        (charOfCode? n).map fun c => (char c false, rest)
    else
      let digits := if kind = 'x' then 2 else if kind = 'u' then 4 else 8
      (fixedHex? f digits 0 (c :: rest)).bind fun (n, rest) =>
        (charOfCode? n).map fun c => (char c (kind == 'x'), rest)

/-! ## Classes -/

/-- The set with its case variants, if case is ignored. -/
def foldSet (f : Flags) (s : CharSet) : CharSet :=
  if f.ignoreCase then s.fold (!f.unicode) else s

/-- The set or its complement.  A complement holds characters beyond ASCII, so there is none where
classes are of ASCII alone. -/
def negateSet? (f : Flags) (negated : Bool) (s : CharSet) : Option CharSet :=
  if negated then if f.unicode then some (.compl s) else none else some s

/-- The class of digits, of white space or of word characters; its complement under a capital. -/
def perlClass? (f : Flags) (kind : Char) : Option CharSet :=
  let base :=
    match kind.toLower with
    | 'd' => if f.unicode then CharSet.digit else .asciiDigit
    | 's' => if f.unicode then CharSet.blank else .asciiBlank
    | _ => if f.unicode then CharSet.word else .asciiWord
  negateSet? f kind.isUpper base

/-- Reads a name up to its closing brace. -/
def bracedName? (f : Flags) (s : Text) : Option (Text × Text) :=
  match _h : f.skip s with
  | [] => none
  | c :: rest =>
    if c = '}' then some ([], rest)
    else (bracedName? f rest).map fun (name, rest) => (c :: name, rest)
termination_by s.length
decreasing_by exact Flags.length_lt_of_skip ‹_›

/-- Cuts a text at the first `!=`. -/
def cutAtUnequal : Text → Option (Text × Text)
  | '!' :: '=' :: rest => some ([], rest)
  | c :: rest => (cutAtUnequal rest).map fun (before, after) => (c :: before, after)
  | [] => none

/-- The class with a name, which may be a property and its value with `!=`, `:` or `=` between, and
whether the name asks for the complement of the class, as `!=` does. -/
def classOfName? (name : Text) : Option (Unicode.NamedClass × Bool) :=
  match cutAtUnequal name with
  | some (property, value) => (Unicode.classWithValue? property value).map (·, true)
  | none =>
    match (name.cutAt ':').orElse fun _ => name.cutAt '=' with
    | some (property, value) => (Unicode.classWithValue? property value).map (·, false)
    | none => (Unicode.classNamed? name).map (·, false)

/-- The class of a name as the flags in force make it.  Two complements cancel out. -/
def namedClass? (f : Flags) (negated : Bool) (name : Text) : Option CharSet :=
  if f.unicode then
    (classOfName? name).bind fun (k, unequal) =>
      negateSet? f (negated != unequal) (foldSet f (.named k))
  else none

/-- Reads a named class: one letter, or a name in braces. -/
def readNamed? (f : Flags) (negated : Bool) (s : Text) : Option (Escape × Text) :=
  match f.skip s with
  | [] => none
  | c :: rest =>
    if c = '{' then
      (bracedName? f rest).bind fun (name, rest) =>
        (namedClass? f negated name).map fun k => (set k, rest)
    else if c = '\\' then none
    else (namedClass? f negated [c]).map fun k => (set k, rest)

/-! ## Conditions -/

/-- Whether a character may stand in the name of a boundary. -/
def isBoundaryLetter (c : Char) : Bool := c.isAlpha || c == '-'

/-- Reads the letters of the name of a boundary. -/
def boundaryName (f : Flags) (s : Text) : Text × Text :=
  match s with
  | [] => ([], [])
  | c :: rest =>
    if isBoundaryLetter c then
      let (name, rest) := boundaryName f (f.skip rest)
      (c :: name, rest)
    else ([], c :: rest)
termination_by s.length
decreasing_by
  have := Flags.length_skip_le f rest
  simp only [List.length_cons]; omega

/-- The boundary with a name. -/
def boundaryNamed? (name : Text) : Option Boundary :=
  match String.ofList name with
  | "start" => some .start
  | "end" => some .stop
  | "start-half" => some .startHalf
  | "end-half" => some .stopHalf
  | _ => none

/-- Reads the name in braces that may follow a word boundary.  Braces that hold no letter first
belong to a repetition and are left. -/
def boundary? (f : Flags) (s : Text) : Option (Boundary × Text) :=
  match s with
  | '{' :: rest =>
    match f.skip rest with
    | [] => none
    | c :: rest' =>
      if isBoundaryLetter c then
        match boundaryName f (c :: rest') with
        | (name, '}' :: after) => (boundaryNamed? name).map fun b => (b, after)
        | _ => none
      else some (.either, s)
  | s => some (.either, s)

/-- The character or the condition that a letter behind a backslash stands for. -/
def ofLetter? (f : Flags) (c : Char) : Option Escape :=
  match c with
  | 'a' => some (char '\x07' false)
  | 'f' => some (char '\x0C' false)
  | 't' => some (char '\t' false)
  | 'n' => some (char '\n' false)
  | 'r' => some (char '\r' false)
  | 'v' => some (char '\x0B' false)
  | 'A' => some (assert .textStart)
  | 'z' => some (assert .textEnd)
  | 'B' => some (assert (.boundary .neither (!f.unicode)))
  | '<' => some (assert (.boundary .start (!f.unicode)))
  | '>' => some (assert (.boundary .stop (!f.unicode)))
  | c => if c.toNat < 128 ∧ ¬c.isAlphanum then some (char c false) else none

/-- Reads an escape from behind its backslash. -/
def read? (f : Flags) (s : Text) : Option (Escape × Text) :=
  match s with
  | [] => none
  | c :: rest =>
    match c with
    | 'x' | 'u' | 'U' => hexChar? f c rest
    | 'p' => readNamed? f false rest
    | 'P' => readNamed? f true rest
    | 'd' | 's' | 'w' | 'D' | 'S' | 'W' => (perlClass? f c).map fun k => (set k, rest)
    | 'b' => (boundary? f rest).map fun (b, rest) => (assert (.boundary b (!f.unicode)), rest)
    | c => (ofLetter? f c).map fun e => (e, rest)

/-! ## What is left -/

theorem length_le_of_fixedHex? {f : Flags} {n value m : Nat} {s rest : Text}
    (h : fixedHex? f n value s = some (m, rest)) : rest.length ≤ s.length := by
  induction n generalizing value s with
  | zero => simp only [fixedHex?, Option.some.injEq, Prod.mk.injEq] at h; simp [h.2]
  | succ n ih =>
    rw [fixedHex?] at h
    split at h
    · cases h
    · next hs =>
      obtain ⟨d, _, hd⟩ := Option.bind_eq_some_iff.1 h
      exact Nat.le_trans (ih hd) (Nat.le_of_lt (Flags.length_lt_of_skip hs))

theorem length_lt_of_bracedHex? {f : Flags} {value : Option Nat} {m : Nat} {s rest : Text}
    (h : bracedHex? f value s = some (m, rest)) : rest.length < s.length := by
  fun_induction bracedHex? f value s with
  | case1 => cases h
  | case2 value s after hs =>
    obtain ⟨n, _, hn⟩ := Option.map_eq_some_iff.1 h
    cases hn
    exact Flags.length_lt_of_skip hs
  | case3 => cases h
  | case4 value s c after hs hc d hd ih =>
    exact Nat.lt_trans (ih h) (Flags.length_lt_of_skip hs)

theorem length_le_of_hexChar? {f : Flags} {kind : Char} {s rest : Text} {e : Escape}
    (h : hexChar? f kind s = some (e, rest)) : rest.length ≤ s.length := by
  rw [hexChar?] at h
  split at h
  · cases h
  · next c after hs =>
    have hl := Flags.length_lt_of_skip hs
    split at h
    · obtain ⟨⟨n, r⟩, hn, hm⟩ := Option.bind_eq_some_iff.1 h
      obtain ⟨d, _, hd⟩ := Option.map_eq_some_iff.1 hm
      cases hd
      have := length_lt_of_bracedHex? hn
      omega
    · obtain ⟨⟨n, r⟩, hn, hm⟩ := Option.bind_eq_some_iff.1 h
      obtain ⟨d, _, hd⟩ := Option.map_eq_some_iff.1 hm
      cases hd
      have := length_le_of_fixedHex? hn
      simp only [List.length_cons] at this
      omega

theorem length_lt_of_bracedName? {f : Flags} {name s rest : Text}
    (h : bracedName? f s = some (name, rest)) : rest.length < s.length := by
  fun_induction bracedName? f s generalizing name with
  | case1 => cases h
  | case2 s after hs =>
    cases h
    exact Flags.length_lt_of_skip hs
  | case3 s c after hs hc ih =>
    obtain ⟨⟨n, r⟩, hn, he⟩ := Option.map_eq_some_iff.1 h
    cases he
    exact Nat.lt_trans (ih hn) (Flags.length_lt_of_skip hs)

theorem length_le_of_readNamed? {f : Flags} {negated : Bool} {s rest : Text} {e : Escape}
    (h : readNamed? f negated s = some (e, rest)) : rest.length ≤ s.length := by
  rw [readNamed?] at h
  split at h
  · cases h
  · next c after hs =>
    have hl := Flags.length_lt_of_skip hs
    split at h
    · obtain ⟨⟨n, r⟩, hn, hm⟩ := Option.bind_eq_some_iff.1 h
      obtain ⟨d, _, hd⟩ := Option.map_eq_some_iff.1 hm
      cases hd
      have := length_lt_of_bracedName? hn
      omega
    · split at h
      · cases h
      · obtain ⟨d, _, hd⟩ := Option.map_eq_some_iff.1 h
        cases hd
        omega

theorem length_boundaryName_le (f : Flags) (s : Text) : (boundaryName f s).2.length ≤ s.length := by
  fun_induction boundaryName f s with
  | case1 => simp
  | case2 c rest hc name after hn ih =>
    have := Flags.length_skip_le f rest
    simp only [hn] at ih
    simp only [List.length_cons]
    omega
  | case3 => simp

theorem length_le_of_boundary? {f : Flags} {s rest : Text} {b : Boundary}
    (h : boundary? f s = some (b, rest)) : rest.length ≤ s.length := by
  rw [boundary?.eq_def] at h
  split at h
  · next after =>
    split at h
    · cases h
    · next c after' hs =>
      have hl := Flags.length_lt_of_skip hs
      split at h
      · split at h
        · next name after'' hb =>
          obtain ⟨d, _, hd⟩ := Option.map_eq_some_iff.1 h
          cases hd
          have := length_boundaryName_le f (c :: after')
          simp only [hb, List.length_cons] at this ⊢
          omega
        · cases h
      · cases h; exact Nat.le_refl _
  · cases h; exact Nat.le_refl _

/-- An escape takes at least the character behind the backslash. -/
theorem length_lt_of_read? {f : Flags} {s rest : Text} {e : Escape}
    (h : read? f s = some (e, rest)) : rest.length < s.length := by
  rw [read?.eq_def] at h
  split at h
  · cases h
  · next c after =>
    simp only [List.length_cons, Nat.lt_succ_iff]
    split at h
    case h_4 | h_5 => exact length_le_of_readNamed? h
    case h_1 | h_2 | h_3 => exact length_le_of_hexChar? h
    case h_12 =>
      obtain ⟨⟨b, r⟩, hb, he⟩ := Option.map_eq_some_iff.1 h
      cases he
      exact length_le_of_boundary? hb
    all_goals
      obtain ⟨d, _, hd⟩ := Option.map_eq_some_iff.1 h
      cases hd
      exact Nat.le_refl _

end Escape

end PinyinSearch
