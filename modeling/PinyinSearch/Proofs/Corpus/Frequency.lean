import Mathlib.Algebra.GroupWithZero.Nat
import PinyinSearch.Proofs.Corpus.Postings
import PinyinSearch.Proofs.Corpus.Reordering
import PinyinSearch.Proofs.Spelling

/-!
# Counts of characters

The counts of a corpus are those of its entries: of the characters that entries begin with, of those
that they end with, and of all characters as often as they occur.  One more character raises its own
count by one (`Frequency.count_add`) and the sum of all counts by one (`Frequency.total_add`), and
no count is ever 0; so a table of counts has one row for each character that occurs
(`Frequency.mem_ofChars`).  In order of frequency these rows are a strict ranking
(`Frequency.isRanking_mostCommon`).
-/

namespace PinyinSearch

namespace Frequency

variable {t : Frequency} {cs : List Char}

/-! ## Counting -/

lemma count_foldl_add (t : Frequency) (cs : List Char) (c : Char) :
    (cs.foldl add t).count c = t.count c + cs.count c := by
  induction cs generalizing t with
  | nil => rfl
  | cons d cs ih =>
    rw [List.foldl_cons, ih, count_add, List.count_cons]
    simp only [beq_iff_eq]
    omega

/-- The count of a character is the number of its occurrences. -/
theorem count_ofChars (cs : List Char) (c : Char) : (ofChars cs).count c = cs.count c := by
  rw [ofChars, count_foldl_add, count_nil, Nat.zero_add]

/-- The sum of all counts. -/
def total (t : List (Char × Nat)) : Nat := (t.map Prod.snd).sum

lemma total_cons {c : Char} {n : Nat} : total ((c, n) :: t) = n + total t := by
  rw [total, List.map_cons, List.sum_cons, total]

lemma total_add (t : Frequency) (c : Char) : total (t.add c) = total t + 1 := by
  induction t with
  | nil => rfl
  | cons row t ih =>
    obtain ⟨d, n⟩ := row
    rw [add] at ih ⊢
    by_cases h : d = c
    · rw [Table.alter, if_pos h, total_cons, total_cons, Option.getD_some, Nat.add_right_comm]
    · rw [Table.alter, if_neg h, total_cons, ih, total_cons, Nat.add_assoc]

/-- Every occurrence is counted once. -/
theorem total_ofChars (cs : List Char) : total (ofChars cs) = cs.length := by
  suffices h : ∀ t : Frequency, total (cs.foldl add t) = total t + cs.length by
    rw [ofChars, h, total, List.map_nil, List.sum_nil, Nat.zero_add]
  induction cs with
  | nil => exact fun t => rfl
  | cons c cs ih =>
    intro t
    rw [List.foldl_cons, ih, total_add, List.length_cons, Nat.add_assoc, Nat.add_comm 1]

lemma get?_add_ne (h : ∀ c, t.get? c ≠ some 0) (d c : Char) : (t.add d).get? c ≠ some 0 := by
  by_cases hd : d = c
  · rw [add, hd, Table.get?_alter_self]
    exact fun hzero => Nat.succ_ne_zero _ (Option.some.inj hzero)
  · rw [add, Table.get?_alter_of_ne _ _ hd]
    exact h c

/-- A character that has a row occurs. -/
lemma get?_ofChars_ne (cs : List Char) : ∀ c, (ofChars cs).get? c ≠ some 0 :=
  List.foldlRecOn (motive := fun t : Frequency => ∀ c, t.get? c ≠ some 0) cs add (by simp)
    fun _ h d _ => get?_add_ne h d

/-- The rows are the characters that occur, each with its count. -/
theorem mem_ofChars {c : Char} {n : Nat} :
    (c, n) ∈ ofChars cs ↔ n = (ofChars cs).count c ∧ 0 < n := by
  rw [← Table.get?_eq_some_iff (nodup_keys_ofChars cs), count]
  have hpos := get?_ofChars_ne cs c
  cases hget : (ofChars cs).get? c with
  | none => simp +contextual
  | some m =>
    rw [hget] at hpos
    rw [Option.getD_some, Option.some_inj]
    constructor
    · rintro rfl
      exact ⟨rfl, Nat.pos_of_ne_zero fun hzero => hpos (congrArg some hzero)⟩
    · exact fun h => h.1.symm

/-! ## Order of frequency -/

/-- A row comes strictly before another: its count is higher, or of equal counts its code point is
smaller. -/
def Outranks (a b : Char × Nat) : Prop := b.2 < a.2 ∨ a.2 = b.2 ∧ a.1 < b.1

/-- A list of rows ranks the characters that a function counts: each of them once with its count, in
strict order. -/
structure IsRanking (ranking : List (Char × Nat)) (count : Char → Nat) : Prop where
  mem_iff : ∀ c n, (c, n) ∈ ranking ↔ n = count c ∧ 0 < n
  nodup : (ranking.map Prod.fst).Nodup
  pairwise : ranking.Pairwise Outranks

lemma mostCommon_zero_perm (t : Frequency) : (t.mostCommon 0).Perm t :=
  List.mergeSort_perm t precedes

lemma mostCommon_of_pos {k : Nat} (hk : 0 < k) : t.mostCommon k = (t.mostCommon 0).take k := by
  rw [mostCommon, mostCommon, if_neg (Nat.ne_of_gt hk), if_pos rfl]

/-- In order of frequency, counts are a ranking. -/
theorem isRanking_mostCommon (cs : List Char) :
    IsRanking ((ofChars cs).mostCommon 0) (ofChars cs).count where
  mem_iff c n := (mostCommon_zero_perm _).mem_iff.trans mem_ofChars
  nodup := ((mostCommon_zero_perm _).map _).nodup_iff.2 (nodup_keys_ofChars cs)
  pairwise := by
    have hnodup : (((ofChars cs).mostCommon 0).map Prod.fst).Nodup :=
      ((mostCommon_zero_perm _).map _).nodup_iff.2 (nodup_keys_ofChars cs)
    have hsorted : (List.mergeSort (ofChars cs) precedes).Pairwise (precedes · · = true) :=
      pairwise_mergeSort _
    -- rows in order are strictly so, as no two of them are about one character
    refine hsorted.imp₂ (fun a b hab hne => ?_) (List.pairwise_map.1 hnodup)
    refine (precedes_iff.1 hab).imp_right fun h => ⟨h.1, Char.not_le.1 fun hle => ?_⟩
    exact hne (Char.le_antisymm h.2 hle)

end Frequency

namespace Postings

variable {κ α : Type} [DecidableEq κ] {keysOf : α → List κ} {key : κ}

lemma length_holders (start : Position) (items : List α) :
    (holders keysOf key start items).length = items.countP (key ∈ keysOf ·) := by
  induction items generalizing start with
  | nil => rfl
  | cons item rest ih =>
    rw [holders, List.length_append, ih, List.countP_cons, Nat.add_comm]
    by_cases h : key ∈ keysOf item <;> simp [h]

/-- As many positions are listed under a key as items have it. -/
lemma length_positions_build (items : List α) :
    ((build keysOf items).positions key).length = items.countP (key ∈ keysOf ·) := by
  rw [positions_build, length_holders]

end Postings

namespace Corpus

/-- The counts of a corpus are those of its entries, and nothing is counted twice or lost. -/
structure CountsOccurrences (corpus : Corpus) (entries : List Entry) : Prop where
  first : ∀ c, (corpus.frequency .first).count c = entries.countP (·.first? = some c)
  last : ∀ c, (corpus.frequency .last).count c = entries.countP (·.last? = some c)
  anywhere : ∀ c, (corpus.frequency .anywhere).count c = (entries.map (·.text.count c)).sum
  /-- Going through characters and syllables side by side, all characters are counted. -/
  aligned : corpus.frequency .anywhere =
    .ofChars (entries.flatMap fun e => (e.text.zip e.syllables).map Prod.fst)
  isRanking : ∀ place, Frequency.IsRanking ((corpus.frequency place).mostCommon 0)
    (corpus.frequency place).count
  mostCommon : ∀ place k, 0 < k →
    (corpus.frequency place).mostCommon k = ((corpus.frequency place).mostCommon 0).take k
  total_first : (((corpus.frequency .first).mostCommon 0).map Prod.snd).sum = entries.length
  total_last : (((corpus.frequency .last).mostCommon 0).map Prod.snd).sum = entries.length
  total_anywhere : (((corpus.frequency .anywhere).mostCommon 0).map Prod.snd).sum =
    (entries.map Entry.length).sum
  total_categories : (corpus.categoryCounts.map Prod.snd).sum = entries.length

variable {similarity : Similarity} {entries : List Entry}

/-- The characters that are counted at a place. -/
def countedChars (entries : List Entry) : Place → List Char
  | .first => entries.filterMap (·.first?)
  | .last => entries.filterMap (·.last?)
  | .anywhere => entries.flatMap (·.text)

lemma frequency_build (place : Place) :
    (build similarity entries).frequency place = .ofChars (countedChars entries place) := by
  cases place <;> rfl

lemma total_mostCommon (place : Place) :
    ((((build similarity entries).frequency place).mostCommon 0).map Prod.snd).sum =
      (countedChars entries place).length := by
  rw [((Frequency.mostCommon_zero_perm _).map Prod.snd).sum_nat, frequency_build]
  exact Frequency.total_ofChars _

/-- Every entry is of one category. -/
lemma sum_countP_category (entries : List Entry) :
    (Category.all.map fun k => entries.countP (·.category = k)).sum = entries.length := by
  induction entries with
  | nil => rfl
  | cons e entries ih =>
    simp only [Category.all, List.map_cons, List.map_nil, List.sum_cons, List.sum_nil,
      List.countP_cons, List.length_cons] at ih ⊢
    cases e.category <;> simp <;> omega

lemma sum_filter_pos {α : Type} (rows : List (α × Nat)) :
    ((rows.filter fun row => 0 < row.2).map Prod.snd).sum = (rows.map Prod.snd).sum := by
  induction rows with
  | nil => rfl
  | cons row rows ih =>
    by_cases h : 0 < row.2
    · rw [List.filter_cons_of_pos (by simpa using h), List.map_cons, List.sum_cons, ih,
        List.map_cons, List.sum_cons]
    · rw [List.filter_cons_of_neg (by simpa using h), ih, List.map_cons, List.sum_cons,
        Nat.eq_zero_of_not_pos h, Nat.zero_add]

lemma total_categoryCounts :
    ((build similarity entries).categoryCounts.map Prod.snd).sum = entries.length := by
  rw [categoryCounts, sum_filter_pos, List.map_map, ← sum_countP_category entries]
  congr 1
  refine List.map_congr_left fun k _ => ?_
  change ((Postings.build (fun e : Entry => [e.category]) entries).positions k).length = _
  rw [Postings.length_positions_build]
  simp only [List.mem_singleton, eq_comm]

/-- No character of an entry is left out for want of a syllable. -/
lemma map_fst_zip_syllables (e : Entry) : (e.text.zip e.syllables).map Prod.fst = e.text :=
  List.map_fst_zip (Nat.le_of_eq e.length_syllables.symm)

/-- In a corpus of entries that are made, every occurrence is counted once. -/
theorem countsOccurrences_build (similarity : Similarity)
    (hmade : ∀ e ∈ entries, ∃ r k raw, Entry.make r k raw = .ok e) :
    (build similarity entries).CountsOccurrences entries where
  first c := by
    rw [frequency_build, Frequency.count_ofChars, countedChars, List.count_filterMap]
    exact List.countP_congr fun _ _ => by simp
  last c := by
    rw [frequency_build, Frequency.count_ofChars, countedChars, List.count_filterMap]
    exact List.countP_congr fun _ _ => by simp
  anywhere c := by
    rw [frequency_build, Frequency.count_ofChars, countedChars, List.count_flatMap]
    rfl
  aligned := by
    simp only [map_fst_zip_syllables]
    rfl
  isRanking place := by
    rw [frequency_build]
    exact Frequency.isRanking_mostCommon _
  mostCommon _ _ hk := Frequency.mostCommon_of_pos hk
  total_first := by
    rw [total_mostCommon, countedChars, List.filterMap_length_eq_length]
    intro e he
    obtain ⟨r, k, raw, hmake⟩ := hmade e he
    exact List.isSome_head?.2 (Entry.text_ne_nil_of_make hmake)
  total_last := by
    rw [total_mostCommon, countedChars, List.filterMap_length_eq_length]
    intro e he
    obtain ⟨r, k, raw, hmake⟩ := hmade e he
    exact List.getLast?_isSome.2 (Entry.text_ne_nil_of_make hmake)
  total_anywhere := by
    rw [total_mostCommon, countedChars, List.length_flatMap]
    rfl
  total_categories := total_categoryCounts

/-- A character that an entry repeats, and characters with equal counts. -/
theorem countsOccurrences_build_sample :
    let entries : List Entry := [.ofText .sample .idiom ['b', 'a', 'b'],
      .ofText .sample .word ['a', 'c'], .ofText .sample .idiom ['b']]
    let corpus := build .default entries
    (∀ e ∈ entries, ∃ r k raw, Entry.make r k raw = .ok e) ∧
      ('b', 3) ∈ (corpus.frequency .anywhere).mostCommon 0 ∧
      ((corpus.frequency .anywhere).mostCommon 0).Pairwise Frequency.Outranks ∧
      (((corpus.frequency .last).mostCommon 0).map Prod.snd).sum = 3 ∧
      corpus.categoryCounts = [(.idiom, 2), (.word, 1)] := by
  intro entries corpus
  have hmade : ∀ e ∈ entries, ∃ r k raw, Entry.make r k raw = .ok e := by
    simp only [entries, List.forall_mem_cons]
    exact ⟨⟨.sample, .idiom, ['b', 'a', 'b', ' '], rfl⟩, ⟨.sample, .word, ['a', 'c'], rfl⟩,
      ⟨.sample, .idiom, ['b'], rfl⟩, by simp⟩
  have hcounts := countsOccurrences_build .default hmade
  have hranking := hcounts.isRanking .anywhere
  refine ⟨hmade, (hranking.mem_iff 'b' 3).2 ?_, hranking.pairwise, hcounts.total_last, by decide⟩
  rw [hcounts.anywhere]
  decide

end Corpus

end PinyinSearch
