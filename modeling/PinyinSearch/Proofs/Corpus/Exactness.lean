import Mathlib.Data.Finset.Card
import Mathlib.Data.List.Sort
import PinyinSearch.Proofs.Corpus.Postings
import PinyinSearch.Proofs.Corpus.Syllables

/-!
# Exactness of the maps of a corpus

The inverted maps of a corpus say about its entries what looking at every entry would say:
`Corpus.IsExact` writes this down map by map, and `isExact_build` says that it holds of every corpus
that is built.  The postings are exact by the laws of one pass over the items; the table of
syllables is exact because a glyph holds both a character and its syllable.
-/

namespace PinyinSearch

/-- At some place of an entry stand an ideograph and, among the syllables, its plain syllable. -/
def Entry.Pronounces (e : Entry) (c : Char) (syllable : Text) : Prop :=
  ∃ i : Nat, e.text[i]? = some c ∧ e.syllables[i]? = some syllable ∧ Unicode.isIdeograph c = true

/-- The syllable of a glyph stands where its character does. -/
lemma Entry.pronounces_iff {e : Entry} {c : Char} {syllable : Text} :
    e.Pronounces c syllable ↔
      ∃ g ∈ e.sound.glyphs,
        Unicode.isIdeograph g.char = true ∧ g.plain = syllable ∧ g.char = c := by
  simp only [Pronounces, text, syllables, Romanization.text, Romanization.syllables,
    List.getElem?_map, Option.map_eq_some_iff]
  constructor
  · rintro ⟨i, ⟨g, hg, rfl⟩, ⟨g', hg', rfl⟩, hideograph⟩
    obtain rfl : g = g' := Option.some.inj (hg.symm.trans hg')
    exact ⟨g, List.mem_of_getElem? hg, hideograph, rfl, rfl⟩
  · rintro ⟨g, hmem, hideograph, rfl, rfl⟩
    obtain ⟨i, hg⟩ := List.mem_iff_getElem?.1 hmem
    exact ⟨i, ⟨g, hg, rfl⟩, ⟨g, hg, rfl⟩, hideograph⟩

/-- A list is the ascending list of the positions of all entries with a property. -/
def Locates (entries : List Entry) (P : Entry → Prop) (l : List Position) : Prop :=
  l.Pairwise (· < ·) ∧ ∀ p, p ∈ l ↔ ∃ e, entries[p]? = some e ∧ P e

/-- The postings of entries locate those that have a key. -/
lemma locates_positions {κ : Type} [DecidableEq κ] {entries : List Entry} {keysOf : Entry → List κ}
    {key : κ} {P : Entry → Prop} (h : ∀ e, key ∈ keysOf e ↔ P e) :
    Locates entries P ((Postings.build keysOf entries).positions key) := by
  refine ⟨Postings.pairwise_positions_build _ _ _, fun p => ?_⟩
  rw [Postings.mem_positions_build]
  exact exists_congr fun e => and_congr_right fun _ => h e

/-- Looking at every entry locates those with a property. -/
lemma locates_filter_range (entries : List Entry) (P : Entry → Bool) :
    Locates entries (P · = true)
      ((List.range entries.length).filter fun p => entries[p]?.any P) := by
  refine ⟨List.pairwise_lt_range.filter _, fun p => ?_⟩
  rw [List.mem_filter, List.mem_range, Option.any_eq_true]
  constructor
  · intro ⟨_, hentry⟩
    exact hentry
  · intro ⟨e, he, hP⟩
    exact ⟨(List.getElem?_eq_some_iff.1 he).1, e, he, hP⟩

namespace Corpus

/-- The maps of a corpus say about some entries what looking at every entry would say. -/
structure IsExact (corpus : Corpus) (entries : List Entry) : Prop where
  complete : corpus.entries = entries
  byFirst : ∀ c, Locates entries (·.first? = some c) (corpus.byFirst.positions c)
  byLast : ∀ c, Locates entries (·.last? = some c) (corpus.byLast.positions c)
  byChar : ∀ c, Locates entries (c ∈ ·.text) (corpus.byChar.positions c)
  byInitials : ∀ t, Locates entries (·.initials = t) (corpus.byInitials.positions t)
  byPlain : ∀ t, Locates entries (·.plain = t) (corpus.byPlain.positions t)
  byRhyme : ∀ t, Locates entries (·.rhyme = t) (corpus.byRhyme.positions t)
  byTones : ∀ t, Locates entries (·.tones = t) (corpus.byTones.positions t)
  byLength : ∀ n, Locates entries (·.length = n) (corpus.byLength.positions n)
  byCategory : ∀ k, Locates entries (·.category = k) (corpus.byCategory.positions k)
  byShape : ∀ k, Locates entries (·.shape? = some k) (corpus.byShape.positions k)
  /-- A syllable has characters if some ideograph is pronounced so, and these are all of them. -/
  charsFor : ∀ s cs, corpus.charsFor? s = some cs ↔
    (∃ c, ∃ e ∈ entries, e.Pronounces c s) ∧ cs.Pairwise (· < ·) ∧
      ∀ c, c ∈ cs ↔ ∃ e ∈ entries, e.Pronounces c s
  knows : ∀ s, corpus.knows s = true ↔ ∃ cs, corpus.charsFor? s = some cs
  syllableCount : ∃ known : Finset Text,
    (∀ s, s ∈ known ↔ corpus.knows s = true) ∧ corpus.syllableCount = known.card

variable {entries : List Entry} {similarity : Similarity}

lemma exists_glyph_iff {c : Char} {s : Text} :
    (∃ g ∈ (entries.flatMap (·.sound.glyphs)).filter (Unicode.isIdeograph ·.char),
      g.plain = s ∧ g.char = c) ↔ ∃ e ∈ entries, e.Pronounces c s := by
  simp only [Entry.pronounces_iff, List.mem_filter, List.mem_flatMap]
  constructor
  · rintro ⟨g, ⟨⟨e, he, hg⟩, hideograph⟩, hplain⟩
    exact ⟨e, he, g, hg, hideograph, hplain⟩
  · rintro ⟨e, he, g, hg, hideograph, hplain⟩
    exact ⟨g, ⟨⟨e, he, hg⟩, hideograph⟩, hplain⟩

/-- The characters found for a syllable are all ideographs with this syllable, if there are any. -/
lemma charsFor?_build_iff {s : Text} {cs : List Char} :
    (build similarity entries).charsFor? s = some cs ↔
      (∃ c, ∃ e ∈ entries, e.Pronounces c s) ∧ cs.Pairwise (· < ·) ∧
        ∀ c, c ∈ cs ↔ ∃ e ∈ entries, e.Pronounces c s := by
  have hgathers := gathers_charsBySyllable (entries.flatMap (·.sound.glyphs))
  have hmem : ∀ c, (∃ cs, (build similarity entries).charsFor? s = some cs ∧ c ∈ cs) ↔
      ∃ e ∈ entries, e.Pronounces c s := fun c => hgathers.mem_iff.trans exists_glyph_iff
  constructor
  · intro hget
    have hall : ∀ c, c ∈ cs ↔ ∃ e ∈ entries, e.Pronounces c s := by
      intro c
      rw [← hmem, hget]
      simp
    obtain ⟨c, hc⟩ := List.exists_mem_of_ne_nil cs fun hnil => hgathers.ne_nil (hnil ▸ hget)
    exact ⟨⟨c, (hall c).1 hc⟩, hgathers.pairwise hget, hall⟩
  · rintro ⟨⟨c, hc⟩, hasc, hall⟩
    obtain ⟨found, hget, -⟩ := (hmem c).2 hc
    -- both lists ascend and have the same members
    have hsame : ∀ d, d ∈ found ↔ d ∈ cs := by
      intro d
      rw [hall, ← hmem, hget]
      simp
    rw [hget, (hgathers.pairwise hget).eq_of_mem_iff hasc hsame]

/-- The maps of every corpus that is built are exact. -/
theorem isExact_build (similarity : Similarity) (entries : List Entry) :
    (build similarity entries).IsExact entries where
  complete := rfl
  byFirst _ := locates_positions fun _ => Option.mem_toList
  byLast _ := locates_positions fun _ => Option.mem_toList
  byChar _ := locates_positions fun _ => Iff.rfl
  byInitials _ := locates_positions fun _ => List.mem_singleton.trans eq_comm
  byPlain _ := locates_positions fun _ => List.mem_singleton.trans eq_comm
  byRhyme _ := locates_positions fun _ => List.mem_singleton.trans eq_comm
  byTones _ := locates_positions fun _ => List.mem_singleton.trans eq_comm
  byLength _ := locates_positions fun _ => List.mem_singleton.trans eq_comm
  byCategory _ := locates_positions fun _ => List.mem_singleton.trans eq_comm
  byShape _ := locates_positions fun _ => Option.mem_toList
  charsFor _ _ := charsFor?_build_iff
  knows _ := Option.isSome_iff_exists
  syllableCount := by
    have hgathers := gathers_charsBySyllable (entries.flatMap (·.sound.glyphs))
    refine ⟨(build similarity entries).charsBySyllable.keys.toFinset, fun s => ?_, ?_⟩
    · exact List.mem_toFinset.trans Table.contains_iff.symm
    · -- every known syllable has one row
      exact (List.length_map ..).symm.trans (List.toFinset_card_of_nodup hgathers.nodup).symm

end Corpus

end PinyinSearch
