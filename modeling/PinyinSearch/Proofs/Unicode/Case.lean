import Mathlib.Tactic.Common
import PinyinSearch.Regex.CharSet

/-!
# Case variants of letters

Where case is ignored, a letter of ASCII is matched by its case variants, two of which lie beyond
ASCII: the long s and the Kelvin sign.  All of them are word characters, and among lower-case
letters each is a variant of itself alone; the characters of ASCII that are no letters have no
variants.
-/

namespace PinyinSearch.Unicode

/-- A run of case folding that leads to characters beyond ASCII, unless it is that of the capital
letters or of a far variant. -/
def isFarRun (s : Shift) : Bool :=
  s = ⟨0x41, 26, 1, 0x20⟩ || 128 ≤ s.first && (128 ≤ (s.first : Int) + s.distance ||
    s.count = 1 && (s.first = 0x17F && s.distance = -0x10C ||
      s.first = 0x212A && s.distance = -0x20BF))

set_option maxRecDepth 100000 in
/-- The runs of the table are such runs. -/
lemma isFarRun_of_mem : ∀ s ∈ foldRuns, isFarRun s = true := by
  have htable : foldTable.toList = _ := String.toList_ofList
  rw [← List.all_eq_true]
  unfold foldRuns Shift.ofTable
  rw [htable]
  decide +kernel

set_option maxRecDepth 100000 in
/-- The far variants are word characters. -/
lemma isWord_far : isWord '\u017F' = true ∧ isWord '\u212A' = true := by
  have htable : wordTable.toList = _ := String.toList_ofList
  unfold isWord wordRanges Ranges.ofGaps tableNumbers
  rw [htable]
  decide +kernel

lemma le_of_holds {s : Shift} {n : Nat} (h : s.holds n = true) : s.first ≤ n := by
  simp only [Shift.holds, Bool.and_eq_true, decide_eq_true_eq] at h
  exact h.1.1

/-- Of ASCII, the runs move capital letters only. -/
lemma not_holds_of_isFarRun {s : Shift} (hs : isFarRun s = true) {n : Nat}
    (hn : n < 0x41 ∨ 0x5A < n ∧ n < 128) : s.holds n = false := by
  rw [Bool.eq_false_iff]
  intro h
  have hfirst := le_of_holds h
  simp only [isFarRun, Bool.or_eq_true, Bool.and_eq_true, decide_eq_true_eq] at hs
  rcases hs with rfl | ⟨hfar, _⟩
  · simp only [Shift.holds, Bool.and_eq_true, decide_eq_true_eq, Nat.div_one] at h
    omega
  · omega

/-- What a run moves into ASCII from beyond is a far variant. -/
lemma far_of_image {s : Shift} (hs : isFarRun s = true) {n : Nat} (h : s.holds n = true)
    (hn : 128 ≤ n) (himage : s.image n < 128) :
    n = 0x17F ∧ s.image n = 0x73 ∨ n = 0x212A ∧ s.image n = 0x6B := by
  have hfirst := le_of_holds h
  simp only [Shift.image] at himage ⊢
  simp only [Shift.holds, Bool.and_eq_true, decide_eq_true_eq, beq_iff_eq] at h
  simp only [isFarRun, Bool.or_eq_true, Bool.and_eq_true, decide_eq_true_eq] at hs
  rcases hs with rfl | ⟨_, hdistance | ⟨hcount, hfar⟩⟩
  · simp only [Nat.div_one] at h
    omega
  · omega
  · -- the run is a single code point
    have hdiv := Nat.div_add_mod (n - s.first) s.step
    have hquot : (n - s.first) / s.step = 0 := Nat.lt_one_iff.1 (hcount ▸ h.2)
    rw [h.1.2, hquot, Nat.mul_zero] at hdiv
    omega

lemma isLower_iff {c : Char} : c.isLower = true ↔ 0x61 ≤ c.toNat ∧ c.toNat ≤ 0x7A := by
  have hdef : c.isLower = (decide ('a'.val ≤ c.val) && decide (c.val ≤ 'z'.val)) := rfl
  simp [hdef, UInt32.le_iff_toNat_le, ← Char.toNat_val]

lemma isUpper_iff {c : Char} : c.isUpper = true ↔ 0x41 ≤ c.toNat ∧ c.toNat ≤ 0x5A := by
  have hdef : c.isUpper = decide ('A'.val ≤ c.val ∧ c.val ≤ 'Z'.val) := rfl
  simp [hdef, UInt32.le_iff_toNat_le, ← Char.toNat_val]

/-- No letter of ASCII is both in lower and in upper case. -/
lemma not_isUpper_of_isLower {c : Char} (hc : c.isLower = true) : c.isUpper = false := by
  have hlower := isLower_iff.1 hc
  rw [Bool.eq_false_iff]
  intro hupper
  have := isUpper_iff.1 hupper
  omega

/-- Lower case changes nothing but the upper-case letters of ASCII. -/
lemma toLower_of_not_isUpper {c : Char} (hc : c.isUpper = false) : c.toLower = c :=
  dif_neg fun h => Bool.eq_false_iff.1 hc (decide_eq_true h)

/-- An upper-case letter of ASCII becomes a lower-case letter. -/
lemma isLower_toLower {c : Char} (hc : c.isUpper = true) : c.toLower.isLower = true := by
  have hascii : ∀ n < 128, (Char.ofNat n).isUpper = true →
      (Char.ofNat n).toLower.isLower = true := by decide
  have hupper := isUpper_iff.1 hc
  have h := hascii c.toNat (by omega)
  rw [Char.ofNat_toNat] at h
  exact h hc

/-- Beyond ASCII there are no letters of ASCII. -/
lemma isAlpha_of_le {c : Char} (hc : 128 ≤ c.toNat) : c.isAlpha = false := by
  have hlower : ¬c.isLower = true := fun h => by
    have := isLower_iff.1 h
    omega
  have hupper : ¬c.isUpper = true := fun h => by
    have hle : c.toNat ≤ 0x5A := UInt32.le_iff_toNat_le.1 (of_decide_eq_true h).2
    omega
  exact Bool.or_eq_false_iff.2 ⟨Bool.eq_false_iff.2 hupper, Bool.eq_false_iff.2 hlower⟩

/-- A letter of ASCII is no white space. -/
lemma not_isBlank_of_isAlpha {c : Char} (hc : c.isAlpha = true) : isBlank c = false := by
  have hascii : ∀ n < 128, (Char.ofNat n).isAlpha = true → isBlank (Char.ofNat n) = false := by
    decide
  by_cases hle : 128 ≤ c.toNat
  · rw [isAlpha_of_le hle] at hc
    cases hc
  · have h := hascii c.toNat (Nat.lt_of_not_le hle)
    rw [Char.ofNat_toNat] at h
    exact h hc

/-- The variants of characters of ASCII, as far as they are letters in lower case or no letters of
ASCII. -/
lemma of_mem_caseVariants_ascii : ∀ n < 128, ∀ d ∈ caseVariants (Char.ofNat n),
    (d.toNat < 128 ∧ d.isAlpha = false → Char.ofNat n = d) ∧
      (d.isLower = true → isWord (Char.ofNat n) = true ∧
        ((Char.ofNat n).isLower = true → Char.ofNat n = d)) := by
  have hall : (List.range 128).all (fun n => (caseVariants (Char.ofNat n)).all fun d =>
      decide ((d.toNat < 128 ∧ d.isAlpha = false → Char.ofNat n = d) ∧
        (d.isLower = true → isWord (Char.ofNat n) = true ∧
          ((Char.ofNat n).isLower = true → Char.ofNat n = d)))) = true := by
    decide +kernel
  intro n hn d hd
  have hvariants := List.all_eq_true.1 hall n (List.mem_range.2 hn)
  exact of_decide_eq_true (List.all_eq_true.1 hvariants d hd)

/-- A character of ASCII is a variant of its own. -/
lemma mem_caseVariants_self {c : Char} (hc : c.toNat < 128) : c ∈ caseVariants c := by
  have hascii : ∀ n < 128, Char.ofNat n ∈ caseVariants (Char.ofNat n) := by decide +kernel
  have hself := hascii c.toNat hc
  rwa [Char.ofNat_toNat] at hself

/-- A number that is no code point stands for the character zero. -/
lemma toNat_ofNat (n : Nat) : (Char.ofNat n).toNat = n ∨ (Char.ofNat n).toNat = 0 := by
  by_cases h : n.isValidChar
  · exact .inl (congrArg Char.toNat (dif_pos h))
  · exact .inr (congrArg Char.toNat (dif_neg h))

/-- A character beyond ASCII with a variant in ASCII that is no capital letter is a far variant. -/
lemma far_of_mem_caseVariants {c d : Char} (hc : 128 ≤ c.toNat)
    (hd : 0 < d.toNat ∧ d.toNat < 0x41 ∨ 0x5A < d.toNat ∧ d.toNat < 128)
    (h : d ∈ caseVariants c) :
    c = '\u017F' ∧ d = 's' ∨ c = '\u212A' ∧ d = 'k' := by
  rw [caseVariants, if_neg (Nat.not_lt.2 hc)] at h
  rcases List.mem_cons.1 h with htarget | hpreimage
  · rw [foldChar, Shift.move?] at htarget
    cases hfind : foldRuns.find? (·.holds c.toNat) with
    | none =>
      rw [hfind, Option.map_none, Option.getD_none] at htarget
      rw [htarget] at hd
      omega
    | some s =>
      rw [hfind, Option.map_some, Option.getD_some] at htarget
      have hs := isFarRun_of_mem s (List.mem_of_find?_eq_some hfind)
      have hholds : s.holds c.toNat = true := by simpa using List.find?_some hfind
      have himage := toNat_ofNat (s.image c.toNat)
      rw [← htarget] at himage
      rcases far_of_image hs hholds hc (by omega) with ⟨hfar, hlow⟩ | ⟨hfar, hlow⟩
      · exact .inl ⟨Char.toNat_inj.1 hfar, htarget.trans (congrArg Char.ofNat hlow)⟩
      · exact .inr ⟨Char.toNat_inj.1 hfar, htarget.trans (congrArg Char.ofNat hlow)⟩
  · -- of ASCII, the runs hold capital letters only
    obtain ⟨s, hs, hm⟩ := List.mem_filterMap.1 hpreimage
    obtain ⟨m, hpre, hdm⟩ := Option.map_eq_some_iff.1 hm
    simp only [Shift.preimage?] at hpre
    split at hpre
    · next hholds =>
      rw [Bool.and_eq_true, Option.some.inj hpre] at hholds
      have hmd := toNat_ofNat m
      rw [hdm] at hmd
      have hnot := not_holds_of_isFarRun (isFarRun_of_mem s hs) (show m < 0x41 ∨ _ by omega)
      exact absurd hholds.1 (Bool.eq_false_iff.1 hnot)
    · cases hpre

/-- Every case variant of a lower-case letter is a word character. -/
lemma isWord_of_mem_caseVariants {c d : Char} (hd : d.isLower = true) (h : d ∈ caseVariants c) :
    isWord c = true := by
  have hlower := isLower_iff.1 hd
  rcases Nat.lt_or_ge c.toNat 128 with hc | hc
  · have hlow := of_mem_caseVariants_ascii c.toNat hc d
    rw [Char.ofNat_toNat] at hlow
    exact ((hlow h).2 hd).1
  · rcases far_of_mem_caseVariants hc (by omega) h with ⟨rfl, _⟩ | ⟨rfl, _⟩
    · exact isWord_far.1
    · exact isWord_far.2

/-- A character of ASCII that is no letter has no other case variants. -/
lemma mem_caseVariants_of_not_isAlpha {c d : Char} (hnull : 0 < d.toNat) (hd : d.toNat < 128)
    (hletter : d.isAlpha = false) : d ∈ caseVariants c ↔ c = d := by
  constructor
  · intro h
    rcases Nat.lt_or_ge c.toNat 128 with hc | hc
    · have hlow := of_mem_caseVariants_ascii c.toNat hc d
      rw [Char.ofNat_toNat] at hlow
      exact (hlow h).1 ⟨hd, hletter⟩
    · have hupper : ¬(0x41 ≤ d.toNat ∧ d.toNat ≤ 0x5A) := fun hrange =>
        Bool.eq_false_iff.1 hletter (Bool.or_eq_true_iff.2 (.inl (isUpper_iff.2 hrange)))
      rcases far_of_mem_caseVariants hc (by omega) h with ⟨_, rfl⟩ | ⟨_, rfl⟩ <;> cases hletter
  · rintro rfl
    exact mem_caseVariants_self hd

/-- Only the space is a case variant of the space. -/
lemma mem_caseVariants_space {c : Char} : ' ' ∈ caseVariants c ↔ c = ' ' :=
  mem_caseVariants_of_not_isAlpha (by decide) (by decide) (by decide)

/-- Among lower-case letters each is a case variant of itself alone. -/
lemma mem_caseVariants_lower {c d : Char} (hc : c.isLower = true) (hd : d.isLower = true) :
    d ∈ caseVariants c ↔ c = d := by
  have hlower := isLower_iff.1 hc
  refine ⟨fun h => ?_, ?_⟩
  · have hlow := of_mem_caseVariants_ascii c.toNat (by omega) d
    rw [Char.ofNat_toNat] at hlow
    exact ((hlow h).2 hd).2 hc
  · rintro rfl
    exact mem_caseVariants_self (by omega)

end PinyinSearch.Unicode
