import PinyinSearch.Proofs.Combinations
import PinyinSearch.Proofs.Romanizer.Alignment
import PinyinSearch.Proofs.Search.OwnAttributes

/-!
# Confusions in strings of initials

One switch has sounds taken for those they are confused with, in patterns and in strings of
initials.  A pattern knows the syllables, of which a string of initials has kept one letter each; so
where an initial is one letter, or where the first letter stays the same, the string of initials of
an entry finds what its syllables may be confused with (`mem_matchingPositions_confused`).  It does
not know about initials of two letters, nor about syllables without an initial.
-/

namespace PinyinSearch

open Text

/-- A syllable is another one, or one that this may be confused with. -/
def Corpus.Confuses (c : Corpus) (r r' : Text) : Prop :=
  r' = r ∨ ∃ similar ∈ c.similarTo? r, r' ∈ similar

/-- The first letter of a syllable is its initial. -/
def Syllable.HasLetterInitial (r : Text) : Prop :=
  ∃ c ∈ r.head?, (split r.trim.lowerAscii).1 = [c]

instance (c : Corpus) (r r' : Text) : Decidable (c.Confuses r r') :=
  inferInstanceAs (Decidable (_ ∨ _))

instance (r : Text) : Decidable (Syllable.HasLetterInitial r) :=
  decidable_of_iff (r.head?.any fun c => decide ((Syllable.split r.trim.lowerAscii).1 = [c])) <| by
    simp only [Option.any_eq_true, decide_eq_true_eq]
    rfl

/-! ## Rules -/

namespace Confusions

variable {rules : List Text} {rule sound x : Text}

lemma ne_nil_of_sides? {cut : Option (Text × Text)} {sides : Text × Text}
    (h : sides ∈ sides? cut) : sides.1 ≠ [] ∧ sides.2 ≠ [] := by
  obtain ⟨⟨a, b⟩, -, hsides⟩ := Option.bind_eq_some_iff.1 h
  obtain ⟨hne, hsides⟩ := Option.ite_none_right_eq_some.1 hsides
  obtain rfl := Option.some.inj hsides
  exact hne

/-- A rule is about sounds that are not empty. -/
lemma Leads.ne_nil (h : Leads rule sound x) : sound ≠ [] ∧ x ≠ [] := by
  obtain ⟨sides, hsides, h⟩ := h
  have hne : sides.1 ≠ [] ∧ sides.2 ≠ [] := by
    rw [ruleSides?] at hsides
    split at hsides
    · exact ne_nil_of_sides? hsides
    · exact ne_nil_of_sides? hsides
  have hlower : ∀ {s : Text}, s ≠ [] → s.lowerAscii ≠ [] := fun hs h => hs (List.map_eq_nil_iff.1 h)
  rcases h with ⟨rfl, rfl⟩ | ⟨-, rfl, rfl⟩
  · exact ⟨hlower hne.1, hlower hne.2⟩
  · exact ⟨hlower hne.2, hlower hne.1⟩

lemma ne_nil_of_mem_alternatives (h : x ∈ (ofRules rules).alternatives sound) :
    sound ≠ [] ∧ x ≠ [] := by
  obtain ⟨rule, -, hleads⟩ := mem_alternatives_ofRules.1 h
  exact hleads.ne_nil

end Confusions

/-! ## Letters -/

namespace SoundSettings

variable {settings : SoundSettings} {r r' : Text}

/-- What replaces an initial of one letter begins as the letter may be confused. -/
lemma exists_letterVariants_of_similar (hr : Syllable.HasLetterInitial r)
    (h : r' ∈ settings.similarity.similarSyllables r) :
    ∃ c ∈ r.head?, ∃ d ∈ r'.head?, d ∈ settings.similarity.letterVariants c := by
  obtain ⟨c, hc, hinitial⟩ := hr
  have hreplaced : ∀ f, ∀ i ∈ settings.similarity.initials.alternatives [c],
      ∃ d ∈ (i ++ f).head?, d ∈ settings.similarity.letterVariants c := by
    intro f i hi
    have hne := (Confusions.ne_nil_of_mem_alternatives hi).2
    obtain ⟨d, i, rfl⟩ := List.exists_cons_of_ne_nil hne
    refine ⟨d, rfl, ?_⟩
    rw [Similarity.letterVariants, FirstSeen.mem_ofList, List.mem_cons, List.mem_filterMap]
    exact .inr ⟨d :: i, hi, rfl⟩
  have hkept : c ∈ settings.similarity.letterVariants c := by
    rw [Similarity.letterVariants, FirstSeen.mem_ofList]
    exact List.mem_cons_self
  have hsplit : Syllable.split r.trim.lowerAscii =
      ([c], (Syllable.split r.trim.lowerAscii).2) := by rw [← hinitial]
  refine ⟨c, hc, ?_⟩
  rcases ((Similarity.mem_similarSyllables hsplit).1 h).2 with
    ⟨i, hi, rfl⟩ | ⟨f, -, rfl | ⟨i, hi, rfl⟩⟩
  · exact hreplaced _ i hi
  · exact ⟨c, rfl, hkept⟩
  · exact hreplaced _ i hi

end SoundSettings

/-! ## Strings of initials -/

namespace Searcher

variable {entries : List Entry} {romanizer : Romanizer} {settings : SearchSettings} {a b : Entry}
  {i : Position}

/-- The letters that a syllable and one that it may be confused with leave in strings of
initials. -/
lemma forall₂_letterVariants {r r' : Text}
    (hconfuses : (Corpus.build settings.similarity entries).Confuses r r')
    (hletter : Syllable.HasLetterInitial r ∨ r'.head? = r.head?) :
    List.Forall₂ (fun c d => d ∈ settings.similarity.letterVariants c) (r.take 1) (r'.take 1) := by
  have hsame : r'.head? = r.head? → List.Forall₂
      (fun c d => d ∈ settings.similarity.letterVariants c) (r.take 1) (r'.take 1) := by
    intro heq
    rw [List.take_one, List.take_one, heq, List.forall₂_same]
    intro c _
    rw [Similarity.letterVariants, FirstSeen.mem_ofList]
    exact List.mem_cons_self
  rcases hletter with hletter | heq
  · rcases hconfuses with rfl | ⟨similar, hsimilar, hmem⟩
    · exact hsame rfl
    · obtain ⟨c, hc, d, hd, hvariant⟩ := SoundSettings.exists_letterVariants_of_similar hletter
        (Corpus.mem_similarSyllables hsimilar hmem)
      rw [List.take_one, List.take_one, hc, hd]
      exact .cons hvariant .nil
  · exact hsame heq

/-- The string of initials of an entry stands for those of all entries that it may be confused
with. -/
lemma initials_mem_widen (hlength : a.length ≤ settings.maxInitialsLength)
    (hconfuses : List.Forall₂ (Corpus.build settings.similarity entries).Confuses
      a.syllables b.syllables)
    (hletters : List.Forall₂ (fun r r' => Syllable.HasLetterInitial r ∨ r'.head? = r.head?)
      a.syllables b.syllables) :
    b.initials ∈ (build entries romanizer settings).widen true a.initials := by
  have hvariants : List.Forall₂ (fun c d => d ∈ settings.similarity.letterVariants c)
      a.initials b.initials := by
    rw [Entry.initials_eq_flatMap, Entry.initials_eq_flatMap]
    generalize a.syllables = rs, b.syllables = rs' at hconfuses hletters
    induction hconfuses with
    | nil => exact .nil
    | cons hconfuses _ ih =>
      obtain ⟨hletter, hletters⟩ := List.forall₂_cons.1 hletters
      exact List.rel_append (forall₂_letterVariants hconfuses hletter) (ih hletters)
  have hshort : a.initials.length ≤ settings.maxInitialsLength :=
    Nat.le_trans a.length_initials_le hlength
  rw [widen, if_pos ⟨rfl, hshort⟩, mem_combinations, List.forall₂_map_left_iff]
  exact hvariants

/-- A search for the initials of an entry, with homophones, succeeds and finds every entry whose
syllables are those of the first or may be confused with them, as long as a syllable with another
first letter takes the place only of one with an initial of one letter. -/
theorem mem_matchingPositions_confused (hb : entries[i]? = some b)
    (hlength : a.length ≤ settings.maxInitialsLength)
    (hconfuses : List.Forall₂ (Corpus.build settings.similarity entries).Confuses
      a.syllables b.syllables)
    (hletters : List.Forall₂ (fun r r' => Syllable.HasLetterInitial r ∨ r'.head? = r.head?)
      a.syllables b.syllables)
    (hasked : a.initials.IsAskedAsIs) :
    ∃ found, (build entries romanizer settings).matchingPositions
      (.withInitials { homophone := true } a.initials) = .ok found ∧ i ∈ found := by
  have hvariant : b.initials ∈
      (build entries romanizer settings).initialsVariants a.initials true := by
    rw [initialsVariants, initialsBases, if_neg hasked.noWildcard, FirstSeen.mem_ofList,
      List.flatMap_singleton]
    exact initials_mem_widen hlength hconfuses hletters
  have hattr : (build entries romanizer settings).HasAttributes
      (.withInitials { homophone := true } a.initials) b := by
    constructor
    case initials =>
      intro t ht
      obtain rfl := Option.some.inj ht
      rw [trim_of_ends hasked.first hasked.last, lowerAscii_of_noUpper hasked.noUpper]
      exact hvariant
    all_goals simp [Query.withInitials]
  obtain ⟨found, hfound⟩ : ∃ found, (build entries romanizer settings).matchingPositions
      (.withInitials { homophone := true } a.initials) = .ok found :=
    exists_matchingPositions_of_pattern_eq_none rfl
  exact ⟨found, hfound, (mem_matchingPositions rfl hfound).2
    ⟨b, hb, { hattr with pattern := fun t ht => absurd ht (Option.not_mem_none t) }⟩⟩

/-! ## A sample -/

/-- The sounds of characters whose first letters shift with their confusions, and of some whose
sounds begin with what a query does not ask for as it stands. -/
def shiftingRomanizer : Romanizer where
  readings
    | '安' => [⟨"an".toList, "an".toList, .neutral⟩]
    | '恩' => [⟨"en".toList, "en".toList, .neutral⟩]
    | '这' => [⟨"zhe".toList, "zhe".toList, .neutral⟩]
    | '热' => [⟨"re".toList, "re".toList, .neutral⟩]
    | '中' => [⟨"@a".toList, "@a".toList, .neutral⟩]
    | '大' => [⟨"Da".toList, "Da".toList, .neutral⟩]
    | '空' => [⟨" k".toList, " k".toList, .neutral⟩]
    | '年' => [⟨"nian".toList, "nian".toList, .neutral⟩]
    | '连' => [⟨"lian".toList, "lian".toList, .neutral⟩]
    | _ => []

/-- A word of such characters. -/
def shiftingWord (s : String) : Entry := .ofText shiftingRomanizer .word s.toList

/-- A searcher for such words. -/
def shifting : Searcher :=
  build (["安", "恩", "这", "热", "中", "大", "空", "年安", "连安"].map shiftingWord) shiftingRomanizer
    { initialRules := ["zh>r", "n>l"].map String.toList, finalRules := ["an>en".toList] }

theorem mem_matchingPositions_confused_sample :
    ∃ found, shifting.matchingPositions
      (.withInitials { homophone := true } (shiftingWord "年安").initials) = .ok found ∧
        8 ∈ found :=
  mem_matchingPositions_confused (b := shiftingWord "连安") rfl (by decide) (by decide +kernel)
    (by decide) (by decide)

/-- A pattern finds what a word of ideographs may be confused with, and the initials of the word do
not: where there is no initial, where it has two letters, and where the first letter is the
wildcard, a capital letter or white space. -/
theorem not_mem_matchingPositions_confused :
    ([("安", "恩"), ("这", "热"), ("中", "中"), ("大", "大"), ("空", "空")].all fun (a, b) =>
      (a ++ b).toList.all Unicode.isIdeograph &&
        decide (List.Forall₂ shifting.corpus.Confuses
          (shiftingWord a).syllables (shiftingWord b).syllables)) = true ∧
    (["安", "这", "中", "大", "空"].map fun a =>
      shifting.matchingPositions (.bySound ('^' :: a.toList ++ ['$']) true)) =
        [.ok [0, 1], .ok [2, 3], .ok [4], .ok [5], .ok [6]] ∧
    (["安", "这", "中", "大", "空"].map fun a =>
      shifting.matchingPositions
        (.withInitials { homophone := true } (shiftingWord a).initials)) =
        [.ok [0], .ok [2], .ok [0, 1], .ok [], .ok []] := by
  decide +kernel

end Searcher

end PinyinSearch
