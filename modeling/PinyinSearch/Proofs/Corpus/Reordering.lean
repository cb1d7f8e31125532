import Mathlib.Data.List.Nodup
import Mathlib.Order.Basic
import PinyinSearch.Proofs.Corpus.Syllables
import PinyinSearch.Proofs.SyllableTrie
import PinyinSearch.Proofs.Table

/-!
# The order of rows

The rows of the maps of a corpus stand in no order that matters: maps that hold the same rows in
another order give a corpus with the same answers, the trie of syllables included
(`Reorders.sameAnswers`).  What is needed is that each map has one row for a key, which holds of the
maps that are built from entries (`hasSingleRows_build`).
-/

namespace PinyinSearch

namespace Frequency

variable {t u : Frequency}

lemma precedes_iff {a b : Char × Nat} :
    precedes a b = true ↔ b.2 < a.2 ∨ a.2 = b.2 ∧ a.1 ≤ b.1 := by
  simp [precedes]

lemma precedes_trans {a b c : Char × Nat} (hab : precedes a b = true) (hbc : precedes b c = true) :
    precedes a c = true := by
  rw [precedes_iff] at *
  rcases hab with hab | ⟨hab, hle⟩ <;> rcases hbc with hbc | ⟨hbc, hle'⟩
  · exact .inl (Nat.lt_trans hbc hab)
  · exact .inl (hbc ▸ hab)
  · exact .inl (hab ▸ hbc)
  · exact .inr ⟨hab.trans hbc, Char.le_trans hle hle'⟩

lemma precedes_total (a b : Char × Nat) : (precedes a b || precedes b a) = true := by
  rw [Bool.or_eq_true, precedes_iff, precedes_iff]
  rcases Nat.lt_trichotomy a.2 b.2 with h | h | h
  · exact .inr (.inl h)
  · exact (Char.le_total a.1 b.1).imp (fun hle => .inr ⟨h, hle⟩) fun hle => .inr ⟨h.symm, hle⟩
  · exact .inl (.inl h)

lemma precedes_antisymm {a b : Char × Nat} (hab : precedes a b = true)
    (hba : precedes b a = true) : a = b := by
  rw [precedes_iff] at hab hba
  have hcount : a.2 = b.2 := by omega
  have hchar : a.1 = b.1 := by
    refine Char.le_antisymm ?_ ?_
    · exact (hab.resolve_left (by omega)).2
    · exact (hba.resolve_left (by omega)).2
  exact Prod.ext hchar hcount

lemma pairwise_mergeSort : ∀ t : Frequency,
    (List.mergeSort t precedes).Pairwise (precedes · · = true) :=
  List.pairwise_mergeSort (fun _ _ _ => precedes_trans) precedes_total

/-- The order of frequency leaves no choice, so it does not depend on the order of the rows. -/
theorem mostCommon_of_perm (h : t.Perm u) (limit : Nat) :
    t.mostCommon limit = u.mostCommon limit := by
  have hperm : (List.mergeSort t precedes).Perm (List.mergeSort u precedes) :=
    ((List.mergeSort_perm t _).trans h).trans (List.mergeSort_perm u _).symm
  have heq : List.mergeSort t precedes = List.mergeSort u precedes :=
    hperm.eq_of_pairwise (fun _ _ _ _ => precedes_antisymm) (pairwise_mergeSort t)
      (pairwise_mergeSort u)
  rw [mostCommon, mostCommon, heq]

lemma nodup_keys_ofChars (cs : List Char) : (ofChars cs).keys.Nodup :=
  List.foldlRecOn (motive := fun t : Frequency => t.keys.Nodup) cs add List.nodup_nil
    fun _ h _ _ => Table.nodup_keys_alter _ _ h

end Frequency

lemma Postings.nodup_keys_build {κ α : Type} [DecidableEq κ] (keysOf : α → List κ)
    (items : List α) : (Postings.build keysOf items).keys.Nodup := by
  refine List.foldlRecOn (motive := fun t : Postings κ => t.keys.Nodup) items.zipIdx _
    List.nodup_nil fun t h item _ => ?_
  exact List.foldlRecOn (motive := fun t : Postings κ => t.keys.Nodup) (keysOf item.1) _ h
    fun _ h _ _ => Table.nodup_keys_alter _ _ h

/-- Only known syllables have confusable ones, one row each. -/
lemma nodup_keys_similarBySyllable (similarity : Similarity) {syllables : List Text}
    (h : syllables.Nodup) : (similarBySyllable similarity syllables).keys.Nodup := by
  refine List.Nodup.sublist (?_ : List.Sublist _ syllables) h
  induction syllables with
  | nil => exact .slnil
  | cons s syllables ih =>
    have hrest := ih (List.nodup_cons.1 h).2
    cases hs : similarity.similarSyllables s with
    | nil =>
      simp only [similarBySyllable, List.filterMap_cons, hs] at hrest ⊢
      exact hrest.cons _
    | cons _ _ =>
      simp only [similarBySyllable, List.filterMap_cons, hs, Table.keys, List.map_cons] at hrest ⊢
      exact hrest.cons_cons _

namespace CorpusTables

/-- No map has two rows for a key. -/
structure HasSingleRows (t : CorpusTables) : Prop where
  byFirst : t.byFirst.keys.Nodup
  byLast : t.byLast.keys.Nodup
  byChar : t.byChar.keys.Nodup
  byInitials : t.byInitials.keys.Nodup
  byPlain : t.byPlain.keys.Nodup
  byRhyme : t.byRhyme.keys.Nodup
  byTones : t.byTones.keys.Nodup
  byLength : t.byLength.keys.Nodup
  byCategory : t.byCategory.keys.Nodup
  byShape : t.byShape.keys.Nodup
  charsBySyllable : t.charsBySyllable.keys.Nodup
  similarBySyllable : t.similarBySyllable.keys.Nodup
  firstFrequency : t.firstFrequency.keys.Nodup
  lastFrequency : t.lastFrequency.keys.Nodup
  charFrequency : t.charFrequency.keys.Nodup

/-- Two corpora have the same entries, and their maps the same rows, perhaps in another order. -/
structure Reorders (t u : CorpusTables) : Prop where
  entries : t.entries = u.entries
  byFirst : t.byFirst.Perm u.byFirst
  byLast : t.byLast.Perm u.byLast
  byChar : t.byChar.Perm u.byChar
  byInitials : t.byInitials.Perm u.byInitials
  byPlain : t.byPlain.Perm u.byPlain
  byRhyme : t.byRhyme.Perm u.byRhyme
  byTones : t.byTones.Perm u.byTones
  byLength : t.byLength.Perm u.byLength
  byCategory : t.byCategory.Perm u.byCategory
  byShape : t.byShape.Perm u.byShape
  charsBySyllable : t.charsBySyllable.Perm u.charsBySyllable
  similarBySyllable : t.similarBySyllable.Perm u.similarBySyllable
  firstFrequency : t.firstFrequency.Perm u.firstFrequency
  lastFrequency : t.lastFrequency.Perm u.lastFrequency
  charFrequency : t.charFrequency.Perm u.charFrequency

/-- The maps that are built from entries have one row for each key. -/
theorem hasSingleRows_build (similarity : Similarity) (entries : List Entry) :
    (build similarity entries).HasSingleRows where
  byFirst := Postings.nodup_keys_build (fun e : Entry => e.first?.toList) entries
  byLast := Postings.nodup_keys_build (fun e : Entry => e.last?.toList) entries
  byChar := Postings.nodup_keys_build Entry.text entries
  byInitials := Postings.nodup_keys_build (fun e : Entry => [e.initials]) entries
  byPlain := Postings.nodup_keys_build (fun e : Entry => [e.plain]) entries
  byRhyme := Postings.nodup_keys_build (fun e : Entry => [e.rhyme]) entries
  byTones := Postings.nodup_keys_build (fun e : Entry => [e.tones]) entries
  byLength := Postings.nodup_keys_build (fun e : Entry => [e.length]) entries
  byCategory := Postings.nodup_keys_build (fun e : Entry => [e.category]) entries
  byShape := Postings.nodup_keys_build (fun e : Entry => e.shape?.toList) entries
  charsBySyllable := (gathers_charsBySyllable _).nodup
  similarBySyllable := nodup_keys_similarBySyllable _ (gathers_charsBySyllable _).nodup
  firstFrequency := Frequency.nodup_keys_ofChars _
  lastFrequency := Frequency.nodup_keys_ofChars _
  charFrequency := Frequency.nodup_keys_ofChars _

@[refl] lemma Reorders.refl (t : CorpusTables) : t.Reorders t := by
  constructor <;> rfl

end CorpusTables

namespace Corpus

/-- Two corpora answer every look-up alike. -/
structure SameAnswers (c d : Corpus) : Prop where
  size : c.size = d.size
  entry? : ∀ p, c.entry? p = d.entry? p
  byFirst : ∀ k, c.byFirst.positions k = d.byFirst.positions k
  byLast : ∀ k, c.byLast.positions k = d.byLast.positions k
  byChar : ∀ k, c.byChar.positions k = d.byChar.positions k
  byInitials : ∀ k, c.byInitials.positions k = d.byInitials.positions k
  byPlain : ∀ k, c.byPlain.positions k = d.byPlain.positions k
  byRhyme : ∀ k, c.byRhyme.positions k = d.byRhyme.positions k
  byTones : ∀ k, c.byTones.positions k = d.byTones.positions k
  byLength : ∀ k, c.byLength.positions k = d.byLength.positions k
  byCategory : ∀ k, c.byCategory.positions k = d.byCategory.positions k
  byShape : ∀ k, c.byShape.positions k = d.byShape.positions k
  charsFor? : ∀ s, c.charsFor? s = d.charsFor? s
  similarTo? : ∀ s, c.similarTo? s = d.similarTo? s
  knows : ∀ s, c.knows s = d.knows s
  knowsFrom : ∀ letters, c.knowsFrom letters = d.knowsFrom letters
  longestAt? : ∀ s start maxLength,
    c.trie.longestAt? s start maxLength = d.trie.longestAt? s start maxLength
  syllableCount : c.syllableCount = d.syllableCount
  count : ∀ place k, (c.frequency place).count k = (d.frequency place).count k
  countedChars : ∀ place, (c.frequency place).length = (d.frequency place).length
  mostCommon : ∀ place limit,
    (c.frequency place).mostCommon limit = (d.frequency place).mostCommon limit
  categoryCounts : c.categoryCounts = d.categoryCounts

end Corpus

lemma Postings.positions_of_perm {κ : Type} [DecidableEq κ] {t u : Postings κ} (h : t.Perm u)
    (hu : u.keys.Nodup) (k : κ) : t.positions k = u.positions k := by
  rw [positions, positions, Table.get?_of_perm h hu]

namespace CorpusTables

variable {t u : CorpusTables}

lemma Reorders.frequency (h : t.Reorders u) (place : Place) :
    ((Corpus.ofTables t).frequency place).Perm ((Corpus.ofTables u).frequency place) := by
  cases place with
  | first => exact h.firstFrequency
  | last => exact h.lastFrequency
  | anywhere => exact h.charFrequency

lemma HasSingleRows.frequency (h : u.HasSingleRows) (place : Place) :
    ((Corpus.ofTables u).frequency place).keys.Nodup := by
  cases place with
  | first => exact h.firstFrequency
  | last => exact h.lastFrequency
  | anywhere => exact h.charFrequency

/-- Maps with the same rows give the same answers. -/
theorem Reorders.sameAnswers (h : t.Reorders u) (rows : u.HasSingleRows) :
    (Corpus.ofTables t).SameAnswers (Corpus.ofTables u) := by
  have hsyllable : ∀ s, t.charsBySyllable.get? s = u.charsBySyllable.get? s :=
    Table.get?_of_perm h.charsBySyllable rows.charsBySyllable
  have hwords : ∀ s, s ∈ t.charsBySyllable.keys ↔ s ∈ u.charsBySyllable.keys := fun s =>
    (h.charsBySyllable.map Prod.fst).mem_iff
  have hcategory : ∀ k, t.byCategory.positions k = u.byCategory.positions k :=
    Postings.positions_of_perm h.byCategory rows.byCategory
  exact {
    size := congrArg List.length h.entries
    entry? := fun p => congrArg (·[p]?) h.entries
    byFirst := Postings.positions_of_perm h.byFirst rows.byFirst
    byLast := Postings.positions_of_perm h.byLast rows.byLast
    byChar := Postings.positions_of_perm h.byChar rows.byChar
    byInitials := Postings.positions_of_perm h.byInitials rows.byInitials
    byPlain := Postings.positions_of_perm h.byPlain rows.byPlain
    byRhyme := Postings.positions_of_perm h.byRhyme rows.byRhyme
    byTones := Postings.positions_of_perm h.byTones rows.byTones
    byLength := Postings.positions_of_perm h.byLength rows.byLength
    byCategory := hcategory
    byShape := Postings.positions_of_perm h.byShape rows.byShape
    charsFor? := hsyllable
    similarTo? := Table.get?_of_perm h.similarBySyllable rows.similarBySyllable
    knows := fun s => congrArg Option.isSome (hsyllable s)
    knowsFrom := SyllableTrie.hasWordFrom_ofWords_congr hwords
    longestAt? := SyllableTrie.longestAt?_congr (SyllableTrie.contains_ofWords_congr hwords)
    syllableCount := h.charsBySyllable.length_eq
    count := fun place k => by
      rw [Frequency.count, Table.get?_of_perm (h.frequency place) (rows.frequency place),
        Frequency.count]
    countedChars := fun place => (h.frequency place).length_eq
    mostCommon := fun place => Frequency.mostCommon_of_perm (h.frequency place)
    categoryCounts := by
      have hrow : ∀ k, (k, (t.byCategory.positions k).length) =
          (k, (u.byCategory.positions k).length) := fun k => by rw [hcategory]
      exact congrArg (List.filter _) (List.map_congr_left fun k _ => hrow k) }

end CorpusTables

end PinyinSearch
