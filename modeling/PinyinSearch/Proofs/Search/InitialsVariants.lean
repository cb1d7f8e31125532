import PinyinSearch.Proofs.Combinations
import PinyinSearch.Proofs.Corpus.Syllabification
import PinyinSearch.Proofs.Search.ConfusedInitials

/-!
# The strings that a string of initials stands for

With homophones, and unless it is too long, a string of initials stands for all choices of a variant
for each of its letters.  The wildcard for a final stands for all finals: what is spelled with one
of them is reduced to its initials, and each of these strings for others in turn
(`initialsVariants_product`).
-/

namespace PinyinSearch

open Text

/-- All choices of a variant for each letter of a text, in lexicographic order of the variants. -/
structure IsProduct (variants : Char → List Char) (s : Text) (found : List Text) : Prop where
  nodup : found.Nodup
  first : found.head? = some s
  mem : ∀ v, v ∈ found ↔ List.Forall₂ (fun c d => d ∈ variants c) s v
  ordered : found.Pairwise fun v w =>
    List.Lex (· < ·) (ranks (s.map variants) v) (ranks (s.map variants) w)

lemma isProduct_combinations {variants : Char → List Char} {s : Text}
    (hnodup : ∀ c, (variants c).Nodup) (hfirst : ∀ c, (variants c).head? = some c) :
    IsProduct variants s (combinations (s.map variants)) := by
  have hlists : ∀ choices ∈ s.map variants, choices.Nodup := by
    intro choices hchoices
    obtain ⟨c, -, rfl⟩ := List.mem_map.1 hchoices
    exact hnodup c
  constructor
  case nodup => exact nodup_combinations hlists
  case first => exact head?_combinations hfirst
  case mem =>
    intro v
    rw [mem_combinations, List.forall₂_map_left_iff]
  case ordered => exact pairwise_combinations hlists

namespace Searcher

variable {s : Searcher} {homophone : Bool} {left right spelled initials : Text}

/-- What is spelled, reduced to initials: a known syllable leaves its first letter, and a fragment
all of its letters. -/
def reduction (s : Searcher) (spelled : Text) : Text :=
  (s.split spelled).flatMap fun piece =>
    if piece.isKnown then piece.letters.take 1 else piece.letters

/-- The initials of what is spelled with the finals one after the other. -/
def reductions (s : Searcher) (left right : Text) : List Text :=
  Syllable.finals.map fun final => s.reduction (left ++ final ++ right)

/-! ## Without a wildcard -/

lemma isProduct_widen (hlength : initials.length ≤ s.settings.maxInitialsLength) :
    IsProduct s.similarity.letterVariants initials (s.widen true initials) := by
  rw [widen, if_pos ⟨rfl, hlength⟩]
  exact isProduct_combinations (fun c => FirstSeen.nodup_ofList _) (fun c => rfl)

lemma nodup_widen : (s.widen homophone initials).Nodup := by
  by_cases h : homophone = true ∧ initials.length ≤ s.settings.maxInitialsLength
  · obtain ⟨rfl, hlength⟩ := h
    exact (isProduct_widen hlength).nodup
  · rw [widen, if_neg h]
    exact List.nodup_singleton _

lemma initialsVariants_of_not_mem (h : '@' ∉ initials) :
    s.initialsVariants initials homophone = s.widen homophone initials := by
  rw [initialsVariants, initialsBases, if_neg h, List.flatMap_singleton,
    FirstSeen.ofList_of_nodup nodup_widen]

/-! ## With a wildcard -/

lemma not_mem_lowerAscii {t : Text} (h : '@' ∉ t) : '@' ∉ t.lowerAscii := by
  intro hmem
  obtain ⟨c, hc, hlower⟩ := List.mem_map.1 hmem
  cases hupper : c.isUpper with
  | true =>
    have hletter := Unicode.isLower_toLower hupper
    rw [hlower] at hletter
    revert hletter
    decide
  | false =>
    rw [Unicode.toLower_of_not_isUpper hupper] at hlower
    exact h (hlower ▸ hc)

lemma reduction_subset : s.reduction spelled ⊆ spelled.trim.lowerAscii := by
  intro c hc
  obtain ⟨piece, hpiece, hc⟩ := List.mem_flatMap.1 hc
  rw [← Corpus.letters_split s.corpus s.settings.maxSyllableLength, List.mem_flatMap]
  refine ⟨piece, hpiece, ?_⟩
  split at hc
  · exact List.mem_of_mem_take hc
  · exact hc

lemma not_mem_reduction (h : '@' ∉ spelled) : '@' ∉ s.reduction spelled := by
  intro hmem
  refine not_mem_lowerAscii ?_ (reduction_subset hmem)
  exact fun htrim => h (mem_of_mem_trim htrim)

lemma not_mem_reductions (hleft : '@' ∉ left) (hright : '@' ∉ right) :
    ∀ base ∈ s.reductions left right, '@' ∉ base := by
  intro base hbase
  obtain ⟨final, hfinal, rfl⟩ := List.mem_map.1 hbase
  have hfinals : ∀ final ∈ Syllable.finals, '@' ∉ final := by decide
  apply not_mem_reduction
  rw [List.mem_append, List.mem_append]
  rintro ((h | h) | h)
  · exact hleft h
  · exact hfinals final hfinal h
  · exact hright h

lemma initialsBases_wildcard (hleft : '@' ∉ left) (hright : '@' ∉ right) :
    s.initialsBases (left ++ '@' :: right) = s.reductions left right := by
  have hsplit : (left ++ '@' :: right).splitOn '@' = [left, right] := by
    rw [List.splitOn_append_cons_self_of_not_mem hleft, List.splitOn_eq_singleton hright]
  have hinitials : ∀ piece : Piece,
      piece.initials = if piece.isKnown then piece.letters.take 1 else piece.letters := by
    intro piece
    cases piece <;> rfl
  rw [initialsBases, if_pos (List.mem_append_right _ List.mem_cons_self), Syllable.openFinal,
    hsplit, List.map_map]
  apply List.map_congr_left
  intro final _
  exact List.flatMap_congr fun piece _ => hinitials piece

/-- A string of initials without a wildcard stands for itself alone if homophones are off or if it
is too long, and otherwise for all choices of a variant for each letter.  A string with one wildcard
stands for what its reductions stand for, one for each of the 35 finals. -/
theorem initialsVariants_product (s : Searcher) (initials : Text) (homophone : Bool) :
    ('@' ∉ initials →
      (homophone = false ∨ s.settings.maxInitialsLength < initials.length →
        s.initialsVariants initials homophone = [initials]) ∧
      (homophone = true → initials.length ≤ s.settings.maxInitialsLength →
        IsProduct s.similarity.letterVariants initials
          (s.initialsVariants initials homophone))) ∧
    ∀ left right, initials = left ++ '@' :: right → '@' ∉ left → '@' ∉ right →
      (s.initialsVariants initials homophone).Nodup ∧
      s.initialsVariants initials homophone = FirstSeen.ofList
        ((s.reductions left right).flatMap fun base => s.initialsVariants base homophone) ∧
      (s.reductions left right).length = 35 ∧ ∀ base ∈ s.reductions left right, '@' ∉ base := by
  constructor
  · intro hat
    rw [initialsVariants_of_not_mem hat]
    constructor
    · intro h
      rw [widen, if_neg]
      rintro ⟨hon, hshort⟩
      rcases h with hoff | hlong
      · rw [hoff] at hon
        cases hon
      · exact Nat.not_lt_of_le hshort hlong
    · intro hon hlength
      rw [hon]
      exact isProduct_widen hlength
  · intro left right hinitials hleft hright
    have hbases := not_mem_reductions (s := s) hleft hright
    refine ⟨FirstSeen.nodup_ofList _, ?_, rfl, hbases⟩
    rw [initialsVariants, hinitials, initialsBases_wildcard hleft hright]
    congr 1
    apply List.flatMap_congr
    intro base hbase
    exact (initialsVariants_of_not_mem (hbases base hbase)).symm

/-- Two letters with two variants each, and a wildcard behind one of them. -/
theorem initialsVariants_product_sample :
    ('@' ∉ "nan".toList ∧
      shifting.initialsVariants "nan".toList true =
        ["nan", "nal", "lan", "lal"].map String.toList ∧
      IsProduct shifting.similarity.letterVariants "nan".toList
        (shifting.initialsVariants "nan".toList true)) ∧
    '@' ∉ "n".toList ∧ '@' ∉ "an".toList ∧
      shifting.initialsVariants "n@an".toList true = FirstSeen.ofList
        ((shifting.reductions "n".toList "an".toList).flatMap fun base =>
          shifting.initialsVariants base true) := by
  have hat : '@' ∉ "nan".toList := by decide
  have hleft : '@' ∉ "n".toList := by decide
  have hright : '@' ∉ "an".toList := by decide
  have hproduct := ((initialsVariants_product shifting "nan".toList true).1 hat).2 rfl (by decide)
  have hwildcard := (initialsVariants_product shifting "n@an".toList true).2 "n".toList "an".toList
    rfl hleft hright
  exact ⟨⟨hat, by decide +kernel, hproduct⟩, hleft, hright, hwildcard.2.1⟩

end Searcher

end PinyinSearch
