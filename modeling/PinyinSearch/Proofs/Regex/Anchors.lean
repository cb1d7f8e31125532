import PinyinSearch.Proofs.Regex.Matcher
import PinyinSearch.Proofs.Regex.Notation

/-!
# Anchors

What a regular expression between a caret and a dollar sign is read as, and what it matches.  Each
of the anchors may be missing.
-/

namespace PinyinSearch.Regex

variable {rs : List Regex} {f : Flags} {s : Text}

/-! ## Reading -/

/-- A text between the anchors of a regular expression, which may be there or not. -/
def framed (start stop : Bool) (s : Text) : Text :=
  (if start then ['^'] else []) ++ s ++ if stop then ['$'] else []

/-- Expressions that have to begin with the text, end with it, or both. -/
def anchored (start stop : Bool) (rs : List Regex) : List Regex :=
  (if start then [.assert .textStart] else []) ++ rs ++
    if stop then [.assert .textEnd] else []

/-- What stands between anchors is read between anchors. -/
lemma Reads.framed (h : Reads f s rs) (hv : f.verbose = false) (hm : f.multiLine = false)
    (start stop : Bool) : Reads f (framed start stop s) (anchored start stop rs) := by
  have hstart : Reads f (if start then ['^'] else [])
      (if start then [.assert .textStart] else []) := by
    cases start with
    | false => exact .nil
    | true => exact reads_start hv hm
  have hstop : Reads f (if stop then ['$'] else []) (if stop then [.assert .textEnd] else []) := by
    cases stop with
    | false => exact .nil
    | true => exact reads_stop hv hm
  exact (hstart.append h).append hstop

/-! ## Matching -/

/-- Anchors keep the matches at the ends of the text. -/
lemma matches_anchored {start stop : Bool} {before mid after : Text} :
    (seqs (anchored start stop rs)).Matches before mid after ↔
      (seqs rs).Matches before mid after ∧ (start = true → before = []) ∧
        (stop = true → after = []) := by
  have hstart : ∀ {before mid after : Text},
      (seqs (if start then [.assert .textStart] else [])).Matches before mid after ↔
        mid = [] ∧ (start = true → before = []) := by
    intro before mid after
    cases start
    · simp [matches_seqs_nil]
    · simp [matches_seqs_singleton, matches_assert, Assertion.holds]
  have hstop : ∀ {before mid after : Text},
      (seqs (if stop then [.assert .textEnd] else [])).Matches before mid after ↔
        mid = [] ∧ (stop = true → after = []) := by
    intro before mid after
    cases stop
    · simp [matches_seqs_nil]
    · simp [matches_seqs_singleton, matches_assert, Assertion.holds]
  simp only [anchored, matches_seqs_append, hstart, hstop]
  constructor
  · rintro ⟨_, _, rfl, ⟨_, mid, rfl, ⟨rfl, hbefore⟩, hmid⟩, rfl, hafter⟩
    exact ⟨by simpa using hmid, hbefore, hafter⟩
  · rintro ⟨hmid, hbefore, hafter⟩
    exact ⟨mid, [], by simp, ⟨[], mid, rfl, ⟨rfl, hbefore⟩, by simpa using hmid⟩, rfl, hafter⟩

/-- An expression between both anchors matches whole texts. -/
lemma isMatch_anchored {text : Text} :
    (seqs (anchored true true rs)).isMatch text = true ↔ (seqs rs).Matches [] text [] := by
  rw [isMatch_iff]
  constructor
  · rintro ⟨before, mid, after, rfl, hmatch⟩
    obtain ⟨hmid, hstart, hstop⟩ := matches_anchored.1 hmatch
    obtain rfl := hstart rfl
    obtain rfl := hstop rfl
    simpa using hmid
  · intro hmatch
    exact ⟨[], text, [], by simp, matches_anchored.2 ⟨hmatch, fun _ => rfl, fun _ => rfl⟩⟩

lemma isMatch_anchored_nil {text : Text} :
    (seqs (anchored true true [])).isMatch text = true ↔ text = [] :=
  isMatch_anchored.trans matches_seqs_nil

end PinyinSearch.Regex
