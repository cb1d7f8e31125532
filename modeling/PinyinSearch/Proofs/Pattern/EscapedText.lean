import Mathlib.Data.List.Forall2
import PinyinSearch.Pattern.PlainSide
import PinyinSearch.Proofs.Regex.Notation

/-!
# Escaped texts

A text whose operators were escaped is read as the sets of its characters, one after the other,
under all flags; where white space is skipped, the set of white space is missing.  A group of such
texts is read as the alternatives of these sequences.
-/

namespace PinyinSearch

open Regex

variable {f : Flags} {c : Char} {s rest : Text}

lemma escapeMeta_cons :
    escapeMeta (c :: s) = (if isMeta c then ['\\', c] else [c]) ++ escapeMeta s := rfl

/-- An escaped character stands for itself. -/
lemma Escape.read?_of_isMeta (hc : isMeta c = true) :
    Escape.read? f (c :: rest) = some (.char c false, rest) := by
  have hascii : c.toNat < 128 ∧ ¬ c.isAlphanum := by
    have hall : ("\\.+*?()|[]^$#&-~{}".toList.all fun d =>
        decide (d.toNat < 128 ∧ ¬ d.isAlphanum)) = true := by decide
    exact of_decide_eq_true
      (List.all_eq_true.1 hall c (by simpa [isMeta, or_assoc] using hc))
  rw [Escape.read?.eq_def]
  dsimp only
  split
  case h_13 =>
    rw [Escape.ofLetter?.eq_def]
    split
    case h_12 => rw [if_pos hascii, Option.map_some]
    all_goals exact absurd hc (by decide)
  all_goals exact absurd hc (by decide)

/-- What is no operator after escaping begins no part of its own. -/
lemma not_mem_operators (hc : isMeta c = false) : c ∉ operators := by
  have hall : operators.all isMeta = true := by decide
  intro hmem
  rw [List.all_eq_true.1 hall c hmem] at hc
  cases hc

/-! ## Skipping -/

/-- Whether a character of an escaped text is skipped. -/
def isSkipped (f : Flags) (c : Char) : Bool := f.verbose && !isMeta c && Unicode.isBlank c

lemma skip_cons_of_isSkipped (h : isSkipped f c = true) : f.skip (c :: rest) = f.skip rest := by
  simp only [isSkipped, Bool.and_eq_true] at h
  simp [Flags.skip, h.1.1, Flags.skipBlank, h.2]

lemma skip_cons_of_not_isSkipped (hc : isMeta c = false) (h : isSkipped f c = false) :
    f.skip (c :: rest) = c :: rest := by
  have hsign : c ≠ '#' := by
    rintro rfl
    exact absurd hc (by decide)
  simp only [isSkipped, hc, Bool.not_false, Bool.and_true, Bool.and_eq_false_iff] at h
  obtain hv | hblank := h
  · exact Flags.skip_of_not_verbose hv _
  · exact skip_cons_of_not_isBlank hblank hsign

namespace Regex

variable {st : State}

/-! ## Characters -/

/-- The parts that an escaped text is read as. -/
def literals (f : Flags) (s : Text) : List Part :=
  (s.filter (! isSkipped f ·)).map fun c => .ofSet (Escape.foldSet f (.single c)) 0

lemma literals_cons_of_isSkipped (h : isSkipped f c = true) :
    literals f (c :: s) = literals f s := by
  rw [literals, List.filter_cons_of_neg (by simp [h]), literals]

lemma literals_cons_of_not_isSkipped (h : isSkipped f c = false) :
    literals f (c :: s) = .ofSet (Escape.foldSet f (.single c)) 0 :: literals f s := by
  rw [literals, List.filter_cons_of_pos (by simp [h]), List.map_cons, literals]

lemma charSet?_eq_some : charSet? f c false = some (Escape.foldSet f (.single c)) := by
  simp [charSet?]

/-- An escaped text is read character by character. -/
theorem run?_escapeMeta (st : State) (s rest : Text) :
    run? st (escapeMeta s ++ rest) = run? (st.pushAll (literals st.flags s)) rest := by
  induction s generalizing st with
  | nil => rfl
  | cons c s ih =>
    rw [escapeMeta_cons, List.append_assoc]
    by_cases hskip : isSkipped st.flags c = true
    · have hc : isMeta c = false := by
        simp only [isSkipped, Bool.and_eq_true, Bool.not_eq_true'] at hskip
        exact hskip.1.2
      rw [hc, if_neg Bool.false_ne_true, List.singleton_append,
        run?_congr (skip_cons_of_isSkipped hskip), ih, literals_cons_of_isSkipped hskip]
    · have hkept := Bool.eq_false_iff.2 hskip
      rw [literals_cons_of_not_isSkipped hkept, State.pushAll, List.foldl_cons, ← State.pushAll]
      cases hc : isMeta c with
      | true =>
        rw [if_pos rfl, List.cons_append, List.singleton_append, run?_of_skip skip_backslash,
          step?_escape (Escape.read?_of_isMeta hc)]
        simp only [ofEscape?, charSet?_eq_some, Option.map_some, Option.bind_some, ih, flags_push]
      | false =>
        rw [if_neg Bool.false_ne_true, List.singleton_append,
          run?_of_skip (skip_cons_of_not_isSkipped hc hkept), step?_literal (not_mem_operators hc)]
        simp only [charSet?_eq_some, Option.map_some, Option.bind_some, ih, flags_push]

/-! ## Groups -/

/-- The expression that an escaped text is read as. -/
def literalRegex (f : Flags) (s : Text) : Regex := seqs ((literals f s).map Part.regex)

/-- An escaped text begins with nothing that would change the part before. -/
lemma follows_escapeMeta (s : Text) : Follows (escapeMeta s) := by
  cases s with
  | nil => exact ⟨by decide, by decide⟩
  | cons c s =>
    rw [escapeMeta_cons]
    cases hc : isMeta c with
    | true => exact ⟨by simp, by simp⟩
    | false =>
      constructor
      all_goals
        rintro ⟨⟩
        exact absurd hc (by decide)

lemma reads_escapeMeta (f : Flags) (s : Text) :
    Reads f (escapeMeta s) ((literals f s).map Part.regex) := by
  refine ⟨follows_escapeMeta s, fun {st} rest hst _ => ⟨literals f s, rfl, ?_⟩⟩
  rw [run?_escapeMeta, hst]

/-- A group of escaped texts is read as their alternatives. -/
theorem readsUnit_escapedGroup (f : Flags) {ss : List Text} (hss : ss ≠ []) :
    ReadsUnit f (grouped (Text.join ['|'] (ss.map escapeMeta)))
      (alts (ss.map (literalRegex f))) := by
  have hreads : List.Forall₂ (Reads f) (ss.map escapeMeta)
      (ss.map fun s => (literals f s).map Part.regex) := by
    rw [List.forall₂_map_left_iff, List.forall₂_map_right_iff, List.forall₂_same]
    exact fun s _ => reads_escapeMeta f s
  have hgroup := readsUnit_group hreads (by simpa using hss)
  rw [List.map_map] at hgroup
  exact hgroup

end Regex

end PinyinSearch
