import Mathlib.Data.List.Forall2
import PinyinSearch.Proofs.Pattern.Cutting

/-!
# Parallel transcriptions

A pattern may be cut into segments twice, with other confusions or for another corpus.  If the same
letters are syllables both times, the segments stand in parallel, and differ only in what is written
for a syllable (`Parallel.segments`).
-/

namespace PinyinSearch

namespace Transcriber

/-- Two transcribers, each with confusions or without, make related segments of every syllable and
the same of all else. -/
structure Parallel (R : Segment → Segment → Prop) (t u : Transcriber) (fuzzy fuzzy' : Bool) :
    Prop where
  refl : ∀ segment, R segment segment
  syllable : ∀ s, R (.syllable (t.syllable fuzzy s)) (.syllable (u.syllable fuzzy' s))
  split : ∀ run, u.corpus.split u.maxSyllableLength run = t.corpus.split t.maxSyllableLength run
  romanizer : u.romanizer = t.romanizer
  placeholder : u.placeholder = t.placeholder

namespace Parallel

variable {R : Segment → Segment → Prop} {t u : Transcriber} {fuzzy fuzzy' : Bool}

lemma same (h : Parallel R t u fuzzy fuzzy') (segments : List Segment) :
    List.Forall₂ R segments segments :=
  List.forall₂_same.2 fun segment _ => h.refl segment

lemma piecesAfter (h : Parallel R t u fuzzy fuzzy') (fragment : Text) (pieces : List Piece) :
    List.Forall₂ R (t.piecesAfter fuzzy fragment pieces)
      (u.piecesAfter fuzzy' fragment pieces) := by
  induction pieces generalizing fragment with
  | nil => exact h.same _
  | cons piece pieces ih =>
    cases piece with
    | fragment s => exact ih (fragment ++ s)
    | syllable s => exact List.rel_append (h.same _) (.cons (h.syllable s) (ih []))

lemma letters (h : Parallel R t u fuzzy fuzzy') (run : Text) :
    List.Forall₂ R (t.letters fuzzy run) (u.letters fuzzy' run) := by
  rw [Transcriber.letters, Transcriber.letters, h.split]
  exact h.piecesAfter [] _

lemma ideograph (h : Parallel R t u fuzzy fuzzy') (c : Char) :
    R (t.ideograph fuzzy c) (u.ideograph fuzzy' c) := by
  simp only [Transcriber.ideograph, h.romanizer]
  split
  · exact h.refl _
  · exact h.refl _
  · exact h.syllable _

lemma symbol (h : Parallel R t u fuzzy fuzzy') (c : Char) :
    List.Forall₂ R (t.symbol fuzzy c) (u.symbol fuzzy' c) := by
  simp only [Transcriber.symbol]
  split
  case h_9 =>
    split
    · exact h.same _
    · exact .cons (h.ideograph c) .nil
  all_goals exact h.same _

lemma counted (h : Parallel R t u fuzzy fuzzy') (q : Quantifier) (interior : Text) :
    u.counted q interior = t.counted q interior := by
  simp only [Transcriber.counted, Transcriber.placeholders, Transcriber.further, h.placeholder]

lemma segmentsAfter (h : Parallel R t u fuzzy fuzzy') (run : Text) (tokens : List Token) :
    List.Forall₂ R (t.segmentsAfter fuzzy run tokens) (u.segmentsAfter fuzzy' run tokens) := by
  have hbehind : ∀ {run segs segs'}, List.Forall₂ R segs segs' →
      List.Forall₂ R (t.letters fuzzy run ++ segs) (u.letters fuzzy' run ++ segs') :=
    fun hsegs => List.rel_append (h.letters _) hsegs
  fun_induction Transcriber.segmentsAfter t fuzzy run tokens with
  | case1 => exact h.letters _
  | case2 run q interior rest ih =>
    rw [Transcriber.segmentsAfter, h.counted, List.append_assoc, List.append_assoc]
    exact hbehind (List.rel_append (h.same _) ih)
  | case3 run rest hcount dot ih =>
    -- whether the dot is repeated is the same on both sides
    rw [segmentsAfter_dot hcount, h.placeholder]
    exact hbehind (.cons (h.refl _) ih)
  | case4 run c rest hcount hdot halpha ih =>
    rw [Transcriber.segmentsAfter, if_pos halpha]
    · exact ih
    · exact hcount
    · exact hdot
  | case5 run c rest hcount hdot halpha ih =>
    rw [Transcriber.segmentsAfter, if_neg halpha, List.append_assoc, List.append_assoc]
    · exact hbehind (List.rel_append (h.symbol c) ih)
    · exact hcount
    · exact hdot
  | case6 | case7 | case8 | case9 | case10 =>
    rw [Transcriber.segmentsAfter]
    exact hbehind (.cons (h.refl _) ‹_›)

/-- A pattern is cut into segments that stand in parallel. -/
theorem segments (h : Parallel R t u fuzzy fuzzy') (pattern : Text) :
    List.Forall₂ R (t.segments fuzzy pattern) (u.segments fuzzy' pattern) :=
  h.segmentsAfter [] _

end Parallel

end Transcriber

end PinyinSearch
