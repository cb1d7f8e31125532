import Mathlib.Data.List.Forall2
import Mathlib.Tactic.Common
import PinyinSearch.Regex.Matcher
import PinyinSearch.Text

/-!
# The language of regular expressions

`Regex.Matches r before mid after` says that `r` matches the text `mid` where it stands between
`before` and `after`; the surroundings count for conditions such as word boundaries only.  This is
the meaning of regular expressions that the positions of `Regex.reach` are measured by.
-/

namespace PinyinSearch.Regex

/-- What is matched: a text, between the text before it and the text after it. -/
abbrev Matching := Text → Text → Text → Prop

/-- A number of matches, one after the other. -/
def Repeats (M : Matching) : Nat → Matching
  | 0, _, mid, _ => mid = []
  | n + 1, before, mid, after =>
    ∃ first rest, mid = first ++ rest ∧ M before first (rest ++ after) ∧
      Repeats M n (before ++ first) rest after

/-- An expression matches a text between two others.  An upper bound below the least number of
repetitions does not count. -/
def Matches : Regex → Matching
  | empty, _, mid, _ => mid = []
  | set s, _, mid, _ => ∃ c, mid = [c] ∧ s.contains c = true
  | assert a, before, mid, after => mid = [] ∧ a.holds before.getLast? after.head? = true
  | seq r s, before, mid, after =>
    ∃ first rest, mid = first ++ rest ∧ r.Matches before first (rest ++ after) ∧
      s.Matches (before ++ first) rest after
  | alt r s, before, mid, after => r.Matches before mid after ∨ s.Matches before mid after
  | times r least most, before, mid, after =>
    ∃ n, least ≤ n ∧ (∀ k ∈ most, n ≤ max least k) ∧ Repeats r.Matches n before mid after

variable {before mid after : Text}

lemma matches_assert {a : Assertion} :
    (assert a).Matches before mid after ↔
      mid = [] ∧ a.holds before.getLast? after.head? = true := Iff.rfl

lemma matches_alt {r s : Regex} :
    (alt r s).Matches before mid after ↔
      r.Matches before mid after ∨ s.Matches before mid after := Iff.rfl

lemma matches_times {r : Regex} {least : Nat} {most : Option Nat} :
    (times r least most).Matches before mid after ↔
      ∃ n, least ≤ n ∧ (∀ k ∈ most, n ≤ max least k) ∧ Repeats r.Matches n before mid after :=
  Iff.rfl

lemma repeats_zero {M : Matching} : Repeats M 0 before mid after ↔ mid = [] := Iff.rfl

lemma repeats_succ {M : Matching} {n : Nat} :
    Repeats M (n + 1) before mid after ↔
      ∃ first rest, mid = first ++ rest ∧ M before first (rest ++ after) ∧
        Repeats M n (before ++ first) rest after := Iff.rfl

/-- What is optional matches nothing, or what it makes optional matches. -/
lemma matches_optional {r : Regex} :
    (times r 0 (some 1)).Matches before mid after ↔ mid = [] ∨ r.Matches before mid after := by
  rw [matches_times]
  constructor
  · rintro ⟨n, _, hn, h⟩
    rcases Nat.le_one_iff_eq_zero_or_eq_one.1 (hn 1 rfl) with rfl | rfl
    · exact .inl h
    · obtain ⟨first, rest, rfl, hfirst, hrest⟩ := h
      obtain rfl : rest = [] := hrest
      exact .inr (by simpa using hfirst)
  · rintro (rfl | h)
    · exact ⟨0, Nat.le_refl 0, fun _ _ => Nat.zero_le _, rfl⟩
    · refine ⟨1, Nat.zero_le 1, fun k hk => ?_, mid, [], by simp, by simpa using h, rfl⟩
      exact Nat.le_trans (Nat.le_of_eq (Option.mem_some_iff.1 hk)) (Nat.le_max_right 0 k)

/-- To repeat something once makes no difference. -/
lemma matches_once {r : Regex} :
    (times r 1 (some 1)).Matches before mid after ↔ r.Matches before mid after := by
  rw [matches_times]
  constructor
  · rintro ⟨n, hleast, hmost, h⟩
    obtain rfl : n = 1 := Nat.le_antisymm (hmost 1 rfl) hleast
    obtain ⟨first, rest, rfl, hfirst, hrest⟩ := h
    obtain rfl : rest = [] := hrest
    simpa using hfirst
  · intro h
    refine ⟨1, Nat.le_refl 1, fun k hk => ?_, mid, [], by simp, by simpa using h, rfl⟩
    exact Nat.le_max_left 1 k

lemma matches_seqs_nil : (seqs []).Matches before mid after ↔ mid = [] := Iff.rfl

/-- Two sequences are matched one after the other. -/
lemma matches_seqs_append {rs ss : List Regex} :
    (seqs (rs ++ ss)).Matches before mid after ↔
      ∃ first rest, mid = first ++ rest ∧ (seqs rs).Matches before first (rest ++ after) ∧
        (seqs ss).Matches (before ++ first) rest after := by
  induction rs generalizing before mid with
  | nil =>
    constructor
    · exact fun h => ⟨[], mid, rfl, rfl, by simpa using h⟩
    · rintro ⟨first, rest, rfl, hfirst, hrest⟩
      obtain rfl : first = [] := hfirst
      simpa using hrest
  | cons r rs ih =>
    constructor
    · rintro ⟨first, rest, rfl, hr, hrest⟩
      obtain ⟨first', rest', rfl, hrs, hss⟩ := ih.1 hrest
      refine ⟨first ++ first', rest', (List.append_assoc ..).symm, ?_, ?_⟩
      · exact ⟨first, first', rfl, by simpa using hr, hrs⟩
      · simpa using hss
    · rintro ⟨_, rest', rfl, ⟨first, first', rfl, hr, hrs⟩, hss⟩
      refine ⟨first, first' ++ rest', List.append_assoc .., by simpa using hr, ih.2 ?_⟩
      exact ⟨first', rest', rfl, hrs, by simpa using hss⟩

/-- A sequence of one expression is this expression. -/
lemma matches_seqs_singleton {r : Regex} :
    (seqs [r]).Matches before mid after ↔ r.Matches before mid after := by
  constructor
  · rintro ⟨first, rest, rfl, hr, hrest⟩
    obtain rfl : rest = [] := hrest
    simpa using hr
  · exact fun h => ⟨mid, [], by simp, by simpa using h, rfl⟩

/-- Sets one after the other match a text character by character. -/
lemma matches_seqs_sets {g : Char → CharSet} {s : Text} :
    (seqs (s.map fun c => set (g c))).Matches before mid after ↔
      List.Forall₂ (fun c d => (g d).contains c = true) mid s := by
  induction s generalizing before mid with
  | nil => exact List.forall₂_nil_right_iff.symm
  | cons d s ih =>
    constructor
    · rintro ⟨_, rest, rfl, ⟨c, rfl, hc⟩, hrest⟩
      exact .cons hc (ih.1 hrest)
    · rintro (_ | ⟨hc, hrest⟩)
      exact ⟨[_], _, rfl, ⟨_, rfl, hc⟩, ih.2 hrest⟩

end PinyinSearch.Regex
