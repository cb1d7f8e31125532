import Mathlib.Tactic.Common
import PinyinSearch.Regex.Parser

/-!
# The cases of the readers

Each reader of regular expressions first skips what is to be skipped and then goes by the character
that comes next.  Here its equation is cut into cases, one lemma for each, so that a proof about a
reader need not unfold it.
-/

namespace PinyinSearch

variable {f : Flags} {c : Char} {s rest : Text}

/-! ## Skipping -/

lemma skip_cons_of_not_isBlank (hblank : Unicode.isBlank c = false) (hsign : c ≠ '#') :
    f.skip (c :: rest) = c :: rest := by
  rw [Flags.skip]
  split
  · simp [Flags.skipBlank, hblank, hsign]
  · rfl

lemma skip_backslash : f.skip ('\\' :: rest) = '\\' :: rest :=
  skip_cons_of_not_isBlank (by decide) (by decide)

lemma skip_skip (f : Flags) (s : Text) : f.skip (f.skip s) = f.skip s := by
  have hblank : ∀ inComment, Flags.skipBlank false (Flags.skipBlank inComment s) =
      Flags.skipBlank inComment s := by
    induction s with
    | nil => exact fun _ => rfl
    | cons c s ih =>
      intro inComment
      rw [Flags.skipBlank]
      split
      · exact ih _
      · split
        · exact ih _
        · split
          · exact ih _
          · next hc hsign => simp [Flags.skipBlank, hc, hsign]
  rw [Flags.skip]
  split
  · rw [Flags.skip, if_pos ‹_›]
    exact hblank false
  · rw [Flags.skip, if_neg ‹_›]

/-! ## Escapes -/

namespace Escape

lemma bracedHex?_of_skip {value : Option Nat}
    (h : f.skip s = c :: rest) :
    bracedHex? f value s =
      if c = '}' then value.map fun n => (n, rest)
      else (hexValue? c).bind fun d => bracedHex? f (some (16 * value.getD 0 + d)) rest := by
  rw [bracedHex?]
  split
  · next hnil =>
    rw [h] at hnil
    cases hnil
  · next hcons =>
    rw [h] at hcons
    obtain ⟨rfl, rfl⟩ := List.cons.inj hcons
    split
    · rfl
    · split <;> simp_all

lemma bracedName?_of_skip (h : f.skip s = c :: rest) :
    bracedName? f s =
      if c = '}' then some ([], rest)
      else (bracedName? f rest).map fun (name, rest) => (c :: name, rest) := by
  rw [bracedName?]
  split
  · next hnil =>
    rw [h] at hnil
    cases hnil
  · next hcons =>
    rw [h] at hcons
    obtain ⟨rfl, rfl⟩ := List.cons.inj hcons
    rfl

/-- A word boundary of no particular kind. -/
lemma boundary?_of_head?_ne (h : s.head? ≠ some '{') : boundary? f s = some (.either, s) := by
  rw [boundary?.eq_def]
  split
  · exact absurd rfl h
  · rfl

lemma read?_boundary (h : s.head? ≠ some '{') :
    read? f ('b' :: s) = some (.assert (.boundary .either (!f.unicode)), s) := by
  simp [read?, boundary?_of_head?_ne h]

end Escape

/-! ## Bracket classes -/

namespace Bracket

/-! ### Members -/

/-- A condition is no member of a class. -/
lemma readMember?_assert {condition : Assertion}
    (h : readOne? f s = some (.assert condition, rest)) : readMember? f s = none := by
  rw [readMember?, h, Option.bind_some]
  dsimp only
  split
  · split
    · rfl
    · cases readOne? f (f.skip _) with
      | none => rfl
      | some last => rfl
  · rfl

lemma readMember?_of_head?_ne {e : Escape} (hone : readOne? f s = some (e, rest))
    (hdash : (f.skip rest).head? ≠ some '-') :
    readMember? f s = (setOf? f e).map fun k => (k, f.skip rest) := by
  rw [readMember?, hone, Option.bind_some]
  dsimp only
  split
  · next heq =>
    rw [heq] at hdash
    exact absurd rfl hdash
  · rfl

lemma readMember?_dash {e : Escape} {after : Text} (hone : readOne? f s = some (e, rest))
    (hskip : f.skip rest = '-' :: after) :
    readMember? f s =
      if deciding f after = some ']' ∨ deciding f after = some '-' then
        (setOf? f e).map fun k => (k, '-' :: after)
      else
        (readOne? f (f.skip after)).bind fun (last, rest) =>
          (rangeOf? f e last).map fun k => (k, rest) := by
  simp only [readMember?, hone, Option.bind_some, hskip]

/-! ### Names of classes -/

lemma readAscii?_colon (f : Flags) (s : Text) :
    readAscii? f (':' :: s) =
      (Text.cutAt ':' (if s.head? == some '^' then s.drop 1 else s)).bind fun (name, rest) =>
        if rest.head? = some ']' then
          (CharSet.asciiClass? (String.ofList name)).map fun k =>
            (Escape.negateSet? f (s.head? == some '^') (Escape.foldSet f k), rest.drop 1)
        else none := by
  rw [readAscii?]
  generalize Text.cutAt ':' _ = parts
  split
  · rfl
  · next hne =>
    obtain _ | ⟨name, rest⟩ := parts
    · rfl
    · have hclose : rest.head? ≠ some ']' := by
        intro hhead
        obtain ⟨after, rfl⟩ := List.head?_eq_some_iff.1 hhead
        exact hne name after rfl
      simp only [Option.bind_some, if_neg hclose]

lemma readAscii?_of_head?_ne (h : s.head? ≠ some ':') : readAscii? f s = none := by
  rw [readAscii?.eq_def]
  split
  · exact absurd rfl h
  · rfl

/-! ### What a class begins with -/

/-- What stands in a class behind a caret, if there is one. -/
def bodyOf (f : Flags) (s : Text) : Text :=
  if (f.skip s).head? == some '^' then f.skip ((f.skip s).drop 1) else f.skip s

lemma enter_eq (f : Flags) (s : Text) :
    enter f s =
      if (bodyOf f s).head? = some ']' then
        (OpenClass.add { negated := (f.skip s).head? == some '^' } ⟨.single ']', 0⟩,
          (bodyOf f s).drop 1)
      else addDashes f { negated := (f.skip s).head? == some '^' } (bodyOf f s) := by
  rw [enter, ← bodyOf]
  split
  · next heq => simp [heq]
  · next hne =>
    rw [if_neg]
    intro hhead
    obtain ⟨rest, hrest⟩ := List.head?_eq_some_iff.1 hhead
    exact hne rest hrest

/-! ### What a class goes on with -/

variable {k : OpenClass} {outer : List OpenClass}

/-- The operation that a character stands for where it is doubled. -/
def operation? : Char → Option SetOperation
  | '&' => some .inter
  | '-' => some .diff
  | '~' => some .symDiff
  | _ => none

lemma readRest?_nil (h : f.skip s = []) : readRest? f k outer s = none := by
  rw [readRest?]
  split <;> simp_all

lemma readRest?_open (h : f.skip s = '[' :: rest) :
    readRest? f k outer s =
      match readAscii? f rest with
      | some (some set, after) => readRest? f (k.add ⟨set, 0⟩) outer after
      | some (none, _) => none
      | none => readRest? f (enter f rest).1 (k :: outer) (enter f rest).2 := by
  rw [readRest?]
  split <;> simp_all
  split
  · split <;> simp_all
  · simp_all

lemma readRest?_close (h : f.skip s = ']' :: rest) :
    readRest? f k outer s =
      (k.close? f).bind fun closed =>
        match outer with
        | [] => some (closed, rest)
        | parent :: outer => readRest? f (parent.add closed) outer rest := by
  rw [readRest?]
  split <;> simp_all
  split
  · simp_all
  · split <;> simp_all

lemma readRest?_operate {op : SetOperation} (hop : operation? c = some op)
    (h : f.skip s = c :: c :: rest) :
    readRest? f k outer s = readRest? f (k.operate f op) outer rest := by
  rw [operation?.eq_def] at hop
  rw [readRest?]
  split at hop <;> cases hop <;> split <;> simp_all

lemma readRest?_member (hopen : c ≠ '[') (hclose : c ≠ ']')
    (hop : operation? c = none ∨ rest.head? ≠ some c) (h : f.skip s = c :: rest) :
    readRest? f k outer s =
      (readMember? f (c :: rest)).bind fun (set, after) =>
        readRest? f (k.add ⟨set, 0⟩) outer after := by
  rw [readRest?]
  split
  case h_1 heq => simp [h] at heq
  case h_2 | h_3 =>
    next heq =>
    obtain ⟨rfl, rfl⟩ := List.cons.inj (h.symm.trans heq)
    contradiction
  case h_4 | h_5 | h_6 =>
    next heq =>
    obtain ⟨rfl, rfl⟩ := List.cons.inj (h.symm.trans heq)
    simp [operation?] at hop
  case h_7 heq =>
    obtain ⟨rfl, rfl⟩ := List.cons.inj (h.symm.trans heq)
    split <;> simp_all

end Bracket

/-! ## Steps -/

namespace Regex

variable {st : State} {e : Escape}

lemma skipReluctance_of_head?_ne (h : s.head? ≠ some '?') : skipReluctance s = s := by
  rw [skipReluctance.eq_def]
  split
  · exact absurd rfl h
  · rfl

lemma step?_escape (h : Escape.read? st.flags s = some (e, rest)) :
    step? st '\\' s = (ofEscape? st.flags e).map fun p => (st.push p, rest) := by
  simp only [step?, h, Option.bind_some]

lemma step?_boundary (h : s.head? ≠ some '{') :
    step? st '\\' ('b' :: s) =
      some (st.push (.ofAssertion (.boundary .either (!st.flags.unicode))), s) :=
  step?_escape (Escape.read?_boundary h)

/-- Behind what is skipped, each character begins a part. -/
lemma run?_eq (st : State) (s : Text) :
    run? st s =
      match st.flags.skip s with
      | [] => some st
      | c :: rest => (step? st c rest).bind fun (st', rest') => run? st' rest' := by
  rw [run?]
  split
  · next h => rw [h]
  · next h =>
    rw [h]
    split
    · next hstep => simp only [hstep, Option.bind_none]
    · next hstep => simp only [hstep, Option.bind_some]

lemma run?_of_skip (h : st.flags.skip s = c :: rest) :
    run? st s = (step? st c rest).bind fun (st', rest') => run? st' rest' := by
  rw [run?_eq, h]

/-- What is skipped anyway makes no difference. -/
lemma run?_congr {t : Text} (h : st.flags.skip s = st.flags.skip t) : run? st s = run? st t := by
  rw [run?_eq, h, ← run?_eq]

end Regex

end PinyinSearch
