import PinyinSearch.Corpus.Syllabification
import PinyinSearch.Proofs.Corpus.Reordering

/-!
# The order of a build

A build goes through the known syllables twice, to look for their confusions and to fill the trie,
and nothing says in which orders.  `Corpus.buildIn` has the two orders as a parameter; whatever they
are, the corpus answers as that of `Corpus.build` does (`sameAnswers_buildIn`).

What the search makes of letters and patterns depends on less than all answers: on the syllables and
their confusions, `Corpus.SameSyllables`.  Corpora of the same entries in another order agree about
these (`sameSyllables_of_perm`), although their positions differ.
-/

namespace PinyinSearch

/-- The plain syllables of the ideographs of some entries, in the order of their first
appearance. -/
def knownSyllables (entries : List Entry) : List Text :=
  (charsBySyllable (entries.flatMap (·.sound.glyphs))).keys

/-- The orders in which a build goes through the known syllables. -/
structure BuildOrder (entries : List Entry) where
  /-- The order in which their confusions are looked for. -/
  confusing : List Text
  /-- The order in which they go into the trie. -/
  inserting : List Text
  perm_confusing : confusing.Perm (knownSyllables entries)
  perm_inserting : inserting.Perm (knownSyllables entries)

/-- Both times in the order of first appearance. -/
def BuildOrder.firstSeen (entries : List Entry) : BuildOrder entries :=
  ⟨knownSyllables entries, knownSyllables entries, .refl _, .refl _⟩

/-- The other way round for the trie. -/
def BuildOrder.lastSeen (entries : List Entry) : BuildOrder entries :=
  ⟨knownSyllables entries, (knownSyllables entries).reverse, .refl _, List.reverse_perm _⟩

namespace Corpus

/-- The corpus of a list of entries that is built in some order. -/
def buildIn (similarity : Similarity) {entries : List Entry} (order : BuildOrder entries) :
    Corpus :=
  { CorpusTables.build similarity entries with
    similarBySyllable := similarBySyllable similarity order.confusing
    trie := .ofWords order.inserting }

variable {similarity : Similarity} {entries others : List Entry}

/-- The usual build keeps to the order of first appearance. -/
lemma buildIn_firstSeen : buildIn similarity (.firstSeen entries) = build similarity entries := rfl

/-- The order of a build makes no difference to any answer. -/
theorem sameAnswers_buildIn (order : BuildOrder entries) :
    (buildIn similarity order).SameAnswers (build similarity entries) := by
  have hrows : CorpusTables.Reorders
      { CorpusTables.build similarity entries with
        similarBySyllable := similarBySyllable similarity order.confusing }
      (.build similarity entries) :=
    { CorpusTables.Reorders.refl _ with
      similarBySyllable := order.perm_confusing.filterMap _ }
  have hwords : ∀ word, word ∈ order.inserting ↔ word ∈ knownSyllables entries :=
    fun _ => order.perm_inserting.mem_iff
  exact {
    hrows.sameAnswers (CorpusTables.hasSingleRows_build similarity entries) with
    knowsFrom := SyllableTrie.hasWordFrom_ofWords_congr hwords
    longestAt? := SyllableTrie.longestAt?_congr (SyllableTrie.contains_ofWords_congr hwords) }

/-! ## Syllables -/

/-- Two corpora agree about what is a syllable and what it is confused with. -/
structure SameSyllables (c d : Corpus) : Prop where
  knows : ∀ s, c.knows s = d.knows s
  knowsFrom : ∀ letters, c.knowsFrom letters = d.knowsFrom letters
  longestAt? : ∀ s start maxLength,
    c.trie.longestAt? s start maxLength = d.trie.longestAt? s start maxLength
  similarTo? : ∀ s, c.similarTo? s = d.similarTo? s

variable {c d e : Corpus}

lemma SameSyllables.symm (h : c.SameSyllables d) : d.SameSyllables c where
  knows s := (h.knows s).symm
  knowsFrom letters := (h.knowsFrom letters).symm
  longestAt? s start maxLength := (h.longestAt? s start maxLength).symm
  similarTo? s := (h.similarTo? s).symm

lemma SameSyllables.trans (h : c.SameSyllables d) (h' : d.SameSyllables e) :
    c.SameSyllables e where
  knows s := (h.knows s).trans (h'.knows s)
  knowsFrom letters := (h.knowsFrom letters).trans (h'.knowsFrom letters)
  longestAt? s start maxLength :=
    (h.longestAt? s start maxLength).trans (h'.longestAt? s start maxLength)
  similarTo? s := (h.similarTo? s).trans (h'.similarTo? s)

lemma SameAnswers.sameSyllables (h : c.SameAnswers d) : c.SameSyllables d where
  knows := h.knows
  knowsFrom := h.knowsFrom
  longestAt? := h.longestAt?
  similarTo? := h.similarTo?

lemma mem_knownSyllables {s : Text} : s ∈ knownSyllables entries ↔
    ∃ e ∈ entries, ∃ g ∈ e.sound.glyphs, Unicode.isIdeograph g.char = true ∧ g.plain = s := by
  rw [knownSyllables, ← Table.contains_iff, Table.contains, Option.isSome_iff_exists]
  have hgathers := gathers_charsBySyllable (entries.flatMap (·.sound.glyphs))
  constructor
  · rintro ⟨cs, hcs⟩
    -- a row is never empty
    obtain ⟨c, hc⟩ := List.exists_mem_of_ne_nil cs fun hnil => hgathers.ne_nil (hnil ▸ hcs)
    obtain ⟨g, hg, hplain, -⟩ := hgathers.mem_iff.1 ⟨cs, hcs, hc⟩
    obtain ⟨hg, hideograph⟩ := List.mem_filter.1 hg
    obtain ⟨e, he, hg⟩ := List.mem_flatMap.1 hg
    exact ⟨e, he, g, hg, hideograph, hplain⟩
  · rintro ⟨e, he, g, hg, hideograph, hplain⟩
    obtain ⟨cs, hcs, -⟩ := hgathers.mem_iff.2
      ⟨g, List.mem_filter.2 ⟨List.mem_flatMap.2 ⟨e, he, hg⟩, hideograph⟩, hplain, rfl⟩
    exact ⟨cs, hcs⟩

lemma knownSyllables_perm (h : entries.Perm others) :
    (knownSyllables entries).Perm (knownSyllables others) := by
  refine (List.perm_ext_iff_of_nodup (gathers_charsBySyllable _).nodup
    (gathers_charsBySyllable _).nodup).2 fun s => ?_
  rw [← knownSyllables, ← knownSyllables, mem_knownSyllables, mem_knownSyllables]
  exact exists_congr fun e => and_congr_left' h.mem_iff

/-- Entries in another order have the same syllables, with the same confusions. -/
theorem sameSyllables_of_perm (h : entries.Perm others) :
    (build similarity entries).SameSyllables (build similarity others) := by
  have hperm := knownSyllables_perm h
  have hwords : ∀ word, word ∈ knownSyllables entries ↔ word ∈ knownSyllables others :=
    fun _ => hperm.mem_iff
  constructor
  case knows =>
    intro s
    rw [Bool.eq_iff_iff]
    exact Table.contains_iff.trans ((hwords s).trans Table.contains_iff.symm)
  case knowsFrom => exact SyllableTrie.hasWordFrom_ofWords_congr hwords
  case longestAt? =>
    exact SyllableTrie.longestAt?_congr (SyllableTrie.contains_ofWords_congr hwords)
  case similarTo? =>
    exact Table.get?_of_perm (hperm.filterMap _)
      (nodup_keys_similarBySyllable _ (gathers_charsBySyllable _).nodup)

namespace SameSyllables

lemma isUnfinished (h : c.SameSyllables d) (letters : Text) :
    c.isUnfinished letters = d.isUnfinished letters := by
  rw [Corpus.isUnfinished, h.knows, h.knowsFrom, Corpus.isUnfinished]

lemma splitGreedy (h : c.SameSyllables d) (maxLength : Nat) (s : Text) :
    c.splitGreedy maxLength s = d.splitGreedy maxLength s := by
  fun_induction Corpus.splitGreedy c maxLength s with
  | case1 => rw [Corpus.splitGreedy]
  | case2 a rest hunfinished =>
    rw [h.isUnfinished] at hunfinished
    rw [Corpus.splitGreedy, if_pos hunfinished]
  | case3 a rest hfinished stop word hlongest ih =>
    rw [h.isUnfinished] at hfinished
    rw [h.longestAt?] at hlongest
    rw [ih, Corpus.splitGreedy, if_neg hfinished]
    split
    · next hlongest' =>
      obtain ⟨rfl, rfl⟩ := Prod.mk.inj (Option.some.inj (hlongest.symm.trans hlongest'))
      rfl
    · next hlongest' => exact absurd (hlongest.symm.trans hlongest') (Option.some_ne_none _)
  | case4 a rest hfinished hlongest ih =>
    rw [h.isUnfinished] at hfinished
    rw [h.longestAt?] at hlongest
    rw [ih, Corpus.splitGreedy, if_neg hfinished]
    split
    · next hlongest' => exact absurd (hlongest'.symm.trans hlongest) (Option.some_ne_none _)
    · rfl

/-- Letters are split alike. -/
theorem split (h : c.SameSyllables d) (maxLength : Nat) (run : Text) :
    c.split maxLength run = d.split maxLength run := by
  rw [Corpus.split, Corpus.split]
  split
  · rfl
  · rw [h.knows, h.splitGreedy]

end SameSyllables

end Corpus

end PinyinSearch
