import PinyinSearch.Regex.Escape

/-!
# Bracket classes

Reads a class in brackets into the set that it stands for.  Classes nest; `&&`, `--` and `~~`
combine all that stands before them in a class with what stands behind, from left to right.  Case
is ignored, if at all, before a class is complemented.
-/

namespace PinyinSearch

/-- The operations between the members of a class. -/
inductive SetOperation where
  | inter
  | diff
  | symDiff
deriving DecidableEq, Repr

namespace SetOperation

/-- Applies an operation. -/
def apply : SetOperation → CharSet → CharSet → CharSet
  | inter => .inter
  | diff => .diff
  | symDiff => .symDiff

end SetOperation

/-- A class, or a part of one. -/
structure BracketClass where
  set : CharSet
  /-- The number of levels of its notation. -/
  depth : Nat := 0
deriving DecidableEq, Repr

/-- A class whose closing bracket is still to come. -/
structure OpenClass where
  /-- Whether the class holds the characters that it does not name. -/
  negated : Bool
  /-- What was named since the last operation. -/
  members : CharSet := .none
  /-- In how many parts that was named. -/
  count : Nat := 0
  /-- The levels of the deepest of these parts. -/
  depth : Nat := 0
  /-- The last operation with what stands before it. -/
  pending : Option (SetOperation × BracketClass) := none
deriving DecidableEq, Repr

namespace OpenClass

/-- Adds a part. -/
def add (k : OpenClass) (part : BracketClass) : OpenClass :=
  { k with
    members := .union k.members part.set, count := k.count + 1, depth := max k.depth part.depth }

/-- What was named since the last operation.  Several parts together are one level more. -/
def named (k : OpenClass) : BracketClass :=
  ⟨k.members, if k.count ≤ 1 then k.depth else k.depth + 1⟩

/-- The members with the operation before them applied. -/
def settled (f : Flags) (k : OpenClass) : BracketClass :=
  match k.pending with
  | none => k.named
  | some (operation, left) =>
    ⟨operation.apply (Escape.foldSet f left.set) (Escape.foldSet f k.members),
      max left.depth k.named.depth + 1⟩

/-- Puts an operation behind the members. -/
def operate (f : Flags) (k : OpenClass) (operation : SetOperation) : OpenClass :=
  { negated := k.negated, pending := some (operation, k.settled f) }

/-- What the class stands for when it is closed. -/
def close? (f : Flags) (k : OpenClass) : Option BracketClass :=
  (Escape.negateSet? f k.negated (Escape.foldSet f (k.settled f).set)).map fun set =>
    ⟨set, (k.settled f).depth + 1⟩

end OpenClass

namespace Bracket

/-! ## Members -/

/-- Reads a character or an escape. -/
def readOne? (f : Flags) : Text → Option (Escape × Text)
  | [] => none
  | '\\' :: rest => Escape.read? f rest
  | c :: rest => some (.char c false, rest)

/-- A character that may be named in a class: any one, but where classes are of ASCII alone one of
ASCII. -/
def member? (f : Flags) (c : Char) : Option Char :=
  if f.unicode ∨ c.toNat < 128 then some c else none

/-- The set of what was read; a condition is no member of a class. -/
def setOf? (f : Flags) : Escape → Option CharSet
  | .char c _ => (member? f c).map .single
  | .set s => some s
  | .assert _ => none

/-- The set of the characters from one to another. -/
def rangeOf? (f : Flags) : Escape → Escape → Option CharSet
  | .char a _, .char b _ =>
    (member? f a).bind fun a =>
      (member? f b).bind fun b => if a ≤ b then some (.range a b) else none
  | _, _ => none

/-- The character behind a minus sign that decides whether it makes a range: the next one, or where
white space is skipped the next that is not white space.  A number sign begins a comment there, but
what it says is looked at all the same. -/
def deciding (f : Flags) (s : Text) : Option Char :=
  if f.verbose then
    let ahead :=
      match s.dropWhile Unicode.isBlank with
      | '#' :: comment => comment.dropWhile Unicode.isBlank
      | s => s
    ahead.head?.orElse fun _ => s.head?
  else s.head?

/-- Reads a character, a class or a range.  A minus sign makes a range unless it stands before a
closing bracket or another minus sign. -/
def readMember? (f : Flags) (s : Text) : Option (CharSet × Text) :=
  (readOne? f s).bind fun (first, rest) =>
    match f.skip rest with
    | '-' :: after =>
      if deciding f after = some ']' ∨ deciding f after = some '-' then
        (setOf? f first).map fun k => (k, '-' :: after)
      else
        (readOne? f (f.skip after)).bind fun (last, rest) =>
          (rangeOf? f first last).map fun k => (k, rest)
    | rest => (setOf? f first).map fun k => (k, rest)

/-- Reads the name of a class of ASCII between `[:` and `:]`, from behind the bracket.  A caret
before the name asks for the complement. -/
def readAscii? (f : Flags) : Text → Option (Option CharSet × Text)
  | ':' :: rest =>
    let negated := rest.head? == some '^'
    match Text.cutAt ':' (if negated then rest.drop 1 else rest) with
    | some (name, ']' :: after) =>
      (CharSet.asciiClass? (String.ofList name)).map fun k =>
        (Escape.negateSet? f negated (Escape.foldSet f k), after)
    | _ => none
  | _ => none

/-! ## Classes -/

/-- Adds leading minus signs to a class. -/
def addDashes (f : Flags) (k : OpenClass) (s : Text) : OpenClass × Text :=
  match s with
  | '-' :: rest => addDashes f (k.add ⟨.single '-', 0⟩) (f.skip rest)
  | s => (k, s)
termination_by s.length
decreasing_by
  have := Flags.length_skip_le f rest
  simp only [List.length_cons]; omega

/-- Opens a class from behind its bracket.  A caret may come first; leading minus signs are members,
and so is a closing bracket if it comes before all members. -/
def enter (f : Flags) (s : Text) : OpenClass × Text :=
  let s := f.skip s
  let negated := s.head? == some '^'
  let s := if negated then f.skip (s.drop 1) else s
  match s with
  | ']' :: rest => (OpenClass.add { negated } ⟨.single ']', 0⟩, rest)
  | s => addDashes f { negated } s

theorem length_lt_of_readOne? {f : Flags} {s rest : Text} {e : Escape}
    (h : readOne? f s = some (e, rest)) : rest.length < s.length := by
  rw [readOne?.eq_def] at h
  split at h
  · cases h
  · have := Escape.length_lt_of_read? h
    simp only [List.length_cons]; omega
  · cases h; simp

theorem length_lt_of_readMember? {f : Flags} {s rest : Text} {k : CharSet}
    (h : readMember? f s = some (k, rest)) : rest.length < s.length := by
  obtain ⟨⟨first, r⟩, h₁, h⟩ := Option.bind_eq_some_iff.1 h
  have hr := length_lt_of_readOne? h₁
  have hs := Flags.length_skip_le f r
  simp only at h
  split at h
  · next after ha =>
    have hl := Flags.length_lt_of_skip ha
    have hm : ∀ {k' : CharSet} {e : Escape}, ((setOf? f e).map fun k => (k, '-' :: after)) =
        some (k', rest) → rest.length < s.length := by
      intro k' e he
      obtain ⟨_, _, he⟩ := Option.map_eq_some_iff.1 he
      cases he
      simp only [List.length_cons]; omega
    split at h
    · exact hm h
    · obtain ⟨⟨last, r'⟩, h₂, h⟩ := Option.bind_eq_some_iff.1 h
      obtain ⟨_, _, he⟩ := Option.map_eq_some_iff.1 h
      simp only [Prod.mk.injEq] at he
      obtain ⟨_, rfl⟩ := he
      have := length_lt_of_readOne? h₂
      have := Flags.length_skip_le f after
      omega
  · obtain ⟨_, _, he⟩ := Option.map_eq_some_iff.1 h
    cases he
    omega

theorem length_le_of_readAscii? {f : Flags} {s rest : Text} {k : Option CharSet}
    (h : readAscii? f s = some (k, rest)) : rest.length ≤ s.length := by
  rw [readAscii?.eq_def] at h
  split at h
  · next s =>
    simp only at h
    split at h
    · next name after hc =>
      obtain ⟨_, _, he⟩ := Option.map_eq_some_iff.1 h
      cases he
      have := congrArg List.length (Text.eq_of_cutAt hc)
      simp only [List.length_append, List.length_cons] at this
      split at this <;> simp only [List.length_drop, List.length_cons] at * <;> omega
    · cases h
  · cases h

theorem length_addDashes_le (f : Flags) (k : OpenClass) (s : Text) :
    (addDashes f k s).2.length ≤ s.length := by
  fun_induction addDashes f k s with
  | case1 k rest ih =>
    have := Flags.length_skip_le f rest
    simp only [List.length_cons]; omega
  | case2 => exact Nat.le_refl _

theorem length_enter_le (f : Flags) (s : Text) : (enter f s).2.length ≤ s.length := by
  have h₁ := Flags.length_skip_le f s
  have h₂ : ∀ b : Bool, (if b then f.skip ((f.skip s).drop 1) else f.skip s).length ≤ s.length := by
    intro b
    have := Flags.length_skip_le f ((f.skip s).drop 1)
    simp only [List.length_drop] at this
    split <;> omega
  simp only [enter]
  generalize ((f.skip s).head? == some '^') = b
  have hb := h₂ b
  split
  · next heq => rw [heq] at hb; simp only [List.length_cons] at hb; exact Nat.le_of_succ_le hb
  · exact Nat.le_trans (length_addDashes_le f _ _) hb

/-- Reads on in the class `k`, which is nested in the classes `outer`, and closes them all. -/
def readRest? (f : Flags) (k : OpenClass) (outer : List OpenClass) (s : Text) :
    Option (BracketClass × Text) :=
  match _h : f.skip s with
  | [] => none
  | '[' :: rest =>
    match _h' : readAscii? f rest with
    | some (set, after) =>
      match set with
      | none => none
      | some set => readRest? f (k.add ⟨set, 0⟩) outer after
    | none => readRest? f (enter f rest).1 (k :: outer) (enter f rest).2
  | ']' :: rest =>
    match k.close? f with
    | none => none
    | some closed =>
      match outer with
      | [] => some (closed, rest)
      | parent :: outer => readRest? f (parent.add closed) outer rest
  | '&' :: '&' :: rest => readRest? f (k.operate f .inter) outer rest
  | '-' :: '-' :: rest => readRest? f (k.operate f .diff) outer rest
  | '~' :: '~' :: rest => readRest? f (k.operate f .symDiff) outer rest
  | c :: rest =>
    match _h' : readMember? f (c :: rest) with
    | none => none
    | some (set, after) => readRest? f (k.add ⟨set, 0⟩) outer after
termination_by s.length
decreasing_by
  · have := length_le_of_readAscii? _h'
    have := Flags.length_lt_of_skip _h
    omega
  · have := length_enter_le f rest
    have := Flags.length_lt_of_skip _h
    omega
  · exact Flags.length_lt_of_skip _h
  all_goals
    have := Flags.length_skip_le f s
    rw [_h] at this
    simp only [List.length_cons] at this
  · omega
  · omega
  · omega
  · have := length_lt_of_readMember? _h'
    simp only [List.length_cons] at this
    omega

/-- Reads a class from behind its opening bracket. -/
def read? (f : Flags) (s : Text) : Option (BracketClass × Text) :=
  readRest? f (enter f s).1 [] (enter f s).2

theorem length_le_of_readRest? {f : Flags} {k : OpenClass} {outer : List OpenClass} {s rest : Text}
    {closed : BracketClass} (h : readRest? f k outer s = some (closed, rest)) :
    rest.length ≤ s.length := by
  fun_induction readRest? f k outer s with
  | case1 | case2 | case5 => cases h
  | case3 _ _ _ _ hs _ _ _ ha ih =>
    have := ih h
    have := length_le_of_readAscii? ha
    have := Flags.length_lt_of_skip hs
    omega
  | case4 _ _ _ after hs _ ih =>
    have := ih h
    have := length_enter_le f after
    have := Flags.length_lt_of_skip hs
    omega
  | case6 _ _ _ hs _ _ => cases h; exact Nat.le_of_lt (Flags.length_lt_of_skip hs)
  | case7 _ _ _ hs _ _ _ _ ih =>
    have := ih h
    have := Flags.length_lt_of_skip hs
    omega
  | case8 _ _ _ _ hs ih | case9 _ _ _ _ hs ih | case10 _ _ _ _ hs ih =>
    have := ih h
    have := Flags.length_lt_of_skip hs
    simp only [List.length_cons] at this
    omega
  | case11 => cases h
  | case12 _ _ s _ _ _ _ _ _ _ hs _ _ hm ih =>
    have := ih h
    have := length_lt_of_readMember? hm
    have := Flags.length_skip_le f s
    rw [hs] at this
    omega

/-- A class leaves less of the text than it was given. -/
theorem length_le_of_read? {f : Flags} {s rest : Text} {closed : BracketClass}
    (h : read? f s = some (closed, rest)) : rest.length ≤ s.length :=
  Nat.le_trans (length_le_of_readRest? h) (length_enter_le f s)

end Bracket

end PinyinSearch
