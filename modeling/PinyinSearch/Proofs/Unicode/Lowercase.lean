import PinyinSearch.Proofs.Unicode.Case
import PinyinSearch.Unicode.Lowercase

/-!
# Lower case of lower case

A text in lower case stays as it is when it is put in lower case again (`lowercase_lowercase`).  For
that no run of the table may move a character that another run leads to, which is settled run by run
(`areFinal_lowercaseRuns`), together with the characters that have a rule of their own.
-/

namespace PinyinSearch.Unicode

namespace Shift

/-- The code point behind those that a run reaches over. -/
def stop (s : Shift) : Nat := s.first + s.count * s.step

/-- Whether the run `t` holds none of the code points that the run `s` leads to.  These are looked
at one by one only if the bounds of the runs do not keep them apart. -/
def isFinalFor (s t : Shift) : Bool :=
  t.stop.blt (s.image s.first) || (s.image s.first + s.count * s.step).blt t.first ||
    (List.range s.count).all fun i => !t.holds (s.image (s.first + i * s.step))

variable {s t : Shift} {n : Nat}

lemma exists_of_holds (h : s.holds n = true) : ∃ i < s.count, n = s.first + i * s.step := by
  have hfirst := le_of_holds h
  simp only [holds, Bool.and_eq_true, decide_eq_true_eq, beq_iff_eq] at h
  have hdiv := Nat.div_add_mod (n - s.first) s.step
  rw [h.1.2, Nat.add_zero, Nat.mul_comm] at hdiv
  exact ⟨_, h.2, by omega⟩

lemma le_stop_of_holds (h : s.holds n = true) : n ≤ s.stop := by
  obtain ⟨i, hi, rfl⟩ := exists_of_holds h
  exact Nat.add_le_add_left (Nat.mul_le_mul_right s.step (Nat.le_of_lt hi)) s.first

lemma not_holds_image (h : s.isFinalFor t = true) (hn : s.holds n = true) :
    t.holds (s.image n) = false := by
  obtain ⟨i, hi, rfl⟩ := exists_of_holds hn
  have hreach := Nat.mul_le_mul_right s.step (Nat.le_of_lt hi)
  have himage : s.image s.first ≤ s.image (s.first + i * s.step) ∧
      s.image (s.first + i * s.step) ≤ s.image s.first + i * s.step := by
    simp only [image]
    omega
  simp only [isFinalFor, Bool.or_eq_true, Nat.blt_eq, List.all_eq_true, List.mem_range,
    Bool.not_eq_true'] at h
  rcases h with (hstop | hfirst) | heach
  · rw [Bool.eq_false_iff]
    intro hholds
    have := le_stop_of_holds hholds
    omega
  · rw [Bool.eq_false_iff]
    intro hholds
    have := le_of_holds hholds
    omega
  · exact heach i hi

end Shift

/-- The runs that move characters, with those that stand for the capital letters of ASCII, for the
dotted capital I and for the capital sigma. -/
def movingRuns : List Shift :=
  ⟨0x41, 26, 1, 0x20⟩ :: ⟨0x130, 1, 1, 0⟩ :: ⟨0x3A3, 1, 1, 0x20⟩ :: lowercaseRuns

/-- The runs that lead to lower case, with those that stand for the dot above and for the two small
sigmas. -/
def leadingRuns : List Shift := ⟨0x307, 1, 1, 0⟩ :: ⟨0x3C2, 2, 1, 0⟩ :: lowercaseRuns

set_option maxRecDepth 100000 in
lemma areFinal_lowercaseRuns :
    (leadingRuns.all fun s => movingRuns.all fun t => s.isFinalFor t) = true := by
  have htable : lowercaseTable.toList = _ := String.toList_ofList
  unfold leadingRuns movingRuns lowercaseRuns Shift.ofTable
  rw [htable]
  decide +kernel

/-- A character is left as it is. -/
def IsLowered (c : Char) : Prop := c ≠ 'Σ' ∧ lowerChar c = [c]

variable {c d : Char} {s before : List Char}

lemma isLowered_of_ascii (hc : c.toNat < 128) (hupper : c.isUpper = false) : IsLowered c := by
  constructor
  · rintro rfl
    exact absurd hc (by decide)
  · rw [lowerChar, if_pos hc, toLower_of_not_isUpper hupper]

lemma isLowered_of_not_holds (h : ∀ t ∈ movingRuns, t.holds c.toNat = false) : IsLowered c := by
  simp only [movingRuns, List.forall_mem_cons] at h
  obtain ⟨hcapital, hdotted, hsigma, hruns⟩ := h
  have hupper : c.isUpper = false := by
    rw [Bool.eq_false_iff, Ne, isUpper_iff]
    intro hc
    simp [Shift.holds] at hcapital
    omega
  rcases Nat.lt_or_ge c.toNat 128 with hc | hc
  · exact isLowered_of_ascii hc hupper
  · have hnone : lowercaseRuns.find? (·.holds c.toNat) = none := by
      rw [List.find?_eq_none]
      intro t ht
      rw [hruns t ht]
      exact Bool.false_ne_true
    constructor
    · rintro rfl
      exact absurd hsigma (by decide)
    · have hne : (c == 'İ') = false := by
        rw [beq_eq_false_iff_ne]
        rintro rfl
        exact absurd hdotted (by decide)
      rw [lowerChar, if_neg (Nat.not_lt.2 hc), hne, Shift.move?, hnone]
      rfl

/-- What a run leads to is in lower case. -/
lemma isLowered_ofNat_image {t : Shift} (ht : t ∈ leadingRuns) {n : Nat} (hn : t.holds n = true) :
    IsLowered (Char.ofNat (t.image n)) := by
  rcases toNat_ofNat (t.image n) with himage | hzero
  · apply isLowered_of_not_holds
    intro u hu
    rw [himage]
    exact Shift.not_holds_image
      (List.all_eq_true.1 (List.all_eq_true.1 areFinal_lowercaseRuns t ht) u hu) hn
  · rw [Char.toNat_inj.1 (hzero.trans (show 0 = (Char.ofNat 0).toNat from rfl))]
    exact isLowered_of_ascii (by decide) (by decide)

lemma isLowered_sigmas : IsLowered 'σ' ∧ IsLowered 'ς' := by
  have hsigmas : ⟨0x3C2, 2, 1, 0⟩ ∈ leadingRuns := List.mem_cons_of_mem _ List.mem_cons_self
  exact ⟨isLowered_ofNat_image hsigmas (n := 0x3C3) (by decide),
    isLowered_ofNat_image hsigmas (n := 0x3C2) (by decide)⟩

lemma isLowered_of_mem_lowerChar (hc : c ≠ 'Σ') (hd : d ∈ lowerChar c) : IsLowered d := by
  rw [lowerChar] at hd
  split at hd
  · next hascii =>
    obtain rfl := List.mem_singleton.1 hd
    cases hupper : c.isUpper with
    | true =>
      have hlower := isLower_toLower hupper
      have hrange := isLower_iff.1 hlower
      exact isLowered_of_ascii (by omega) (not_isUpper_of_isLower hlower)
    | false =>
      rw [toLower_of_not_isUpper hupper]
      exact isLowered_of_ascii hascii hupper
  · next hascii =>
    split at hd
    · rcases List.mem_cons.1 hd with rfl | hd
      · exact isLowered_of_ascii (by decide) (by decide)
      · obtain rfl := List.mem_singleton.1 hd
        have hdot : ⟨0x307, 1, 1, 0⟩ ∈ leadingRuns := List.mem_cons_self
        exact isLowered_ofNat_image hdot (n := 0x307) (by decide)
    · next hdotted =>
      rw [List.mem_singleton, Shift.move?] at hd
      cases hfind : lowercaseRuns.find? (·.holds c.toNat) with
      | none =>
        rw [hfind, Option.map_none, Option.getD_none] at hd
        rw [hd]
        refine ⟨hc, ?_⟩
        rw [lowerChar, if_neg hascii, if_neg hdotted, Shift.move?, hfind, Option.map_none,
          Option.getD_none]
      | some t =>
        rw [hfind, Option.map_some, Option.getD_some] at hd
        rw [hd]
        have ht : t ∈ leadingRuns :=
          List.mem_cons_of_mem _ (List.mem_cons_of_mem _ (List.mem_of_find?_eq_some hfind))
        exact isLowered_ofNat_image ht (by simpa using List.find?_some hfind)

lemma isLowered_of_mem_lowerAfter (hd : d ∈ lowerAfter before s) : IsLowered d := by
  induction s generalizing before with
  | nil => cases hd
  | cons c s ih =>
    rw [lowerAfter, List.mem_append] at hd
    rcases hd with hd | hd
    · split at hd
      · split at hd
        · obtain rfl := List.mem_singleton.1 hd
          exact isLowered_sigmas.2
        · obtain rfl := List.mem_singleton.1 hd
          exact isLowered_sigmas.1
      · next hc => exact isLowered_of_mem_lowerChar (by simpa using hc) hd
    · exact ih hd

lemma lowerAfter_of_isLowered (hs : ∀ c ∈ s, IsLowered c) : lowerAfter before s = s := by
  induction s generalizing before with
  | nil => rfl
  | cons c s ih =>
    rw [List.forall_mem_cons] at hs
    rw [lowerAfter, if_neg (by simpa using hs.1.1), hs.1.2, ih hs.2]
    rfl

/-- Lower case is left as it is. -/
theorem lowercase_lowercase (s : List Char) : lowercase (lowercase s) = lowercase s :=
  lowerAfter_of_isLowered fun _ hc => isLowered_of_mem_lowerAfter hc

end PinyinSearch.Unicode
