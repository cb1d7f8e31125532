import PinyinSearch.Proofs.Pattern.Wildcards
import PinyinSearch.Proofs.Search.Phonetic

/-!
# Lengths

A search by sound for a counted wildcard finds the entries whose length the quantifier allows.  The
text side of the pattern finds all of them, as it counts characters.  The plain side counts words,
which are fewer than the characters wherever an entry is not made of ideographs alone, but what it
matches is made of as many words as the text has characters.
-/

namespace PinyinSearch

open Text Regex

/-- A reading is spelled, and without white space. -/
def Reading.IsUnbroken (r : Reading) : Prop :=
  r.plain ≠ [] ∧ ∀ c ∈ r.plain, Unicode.isBlank c = false

instance (r : Reading) : Decidable r.IsUnbroken :=
  decidable_of_iff (r.plain ≠ [] ∧ r.plain.all (!Unicode.isBlank ·) = true) <|
    and_congr_right' (by simp)

/-- The readings of an entry are spelled without white space. -/
def Entry.HasUnbrokenReadings (e : Entry) : Prop :=
  ∀ g ∈ e.sound.glyphs, ∀ r ∈ g.reading, r.IsUnbroken

instance (e : Entry) : Decidable e.HasUnbrokenReadings :=
  inferInstanceAs (Decidable (∀ g ∈ e.sound.glyphs, ∀ r ∈ g.reading, r.IsUnbroken))

/-- The syllables of an entry are pieces of its plain pronunciation: a character without a reading
stands for itself, even if it is a space. -/
lemma Entry.HasUnbrokenReadings.isPiece {e : Entry} (h : e.HasUnbrokenReadings) :
    ∀ s ∈ e.syllables, IsPiece s := by
  intro s hs
  obtain ⟨g, hg, rfl⟩ := List.mem_map.1 hs
  rw [Glyph.plain]
  cases hr : g.reading with
  | none =>
    refine ⟨List.cons_ne_nil _ _, fun hspace => ?_⟩
    rw [Option.elim_none, ← List.mem_singleton.1 hspace]
  | some r =>
    obtain ⟨hne, hblank⟩ := h g hg r hr
    refine ⟨hne, fun hspace => ?_⟩
    exact absurd (hblank ' ' hspace) (by decide)

namespace Searcher

variable {s : Searcher} {similarity : Similarity} {entries : List Entry}

/-- A search by sound for a counted wildcard succeeds and finds exactly the entries whose length the
quantifier allows. -/
theorem matchingPositions_counted {q : Quantifier} {interior : Text} {homophone : Bool}
    (hcorpus : s.corpus = .build similarity entries) (hengine : s.engine = .unlimited)
    (hplaceholder : s.settings.placeholder = ['\\', 'w', '+'])
    (hlines : ∀ e ∈ entries, '\n' ∉ e.text) (hreadings : ∀ e ∈ entries, e.HasUnbrokenReadings)
    (hq : Quantifier.ofInterior? interior = some q) (hordered : q.IsOrdered) :
    ∃ found, s.matchingPositions
        (.bySound ('^' :: '.' :: Quantifier.braced interior ++ ['$']) homophone) = .ok found ∧
      found.Pairwise (· < ·) ∧
      ∀ p, p ∈ found ↔ ∃ e, entries[p]? = some e ∧ q.Allows e.length := by
  obtain ⟨plain, hplain, hsound⟩ :
      ∃ r, parse? plainFlags (s.transcriber.transcribe homophone
          (framed true true ('.' :: Quantifier.braced interior))) = some r ∧
        ∀ ss : List Text, (∀ s ∈ ss, IsPiece s) → r.isMatch (join [' '] ss) = true →
          q.Allows ss.length :=
    Transcriber.exists_parse?_counted hplaceholder hq hordered
  obtain ⟨text, htext, hcount⟩ := exists_parse?_textPattern_counted hq hordered
  obtain ⟨found, hfound, hasc, hmem⟩ :=
    exists_matchingPositions_bySound hcorpus hengine hplain htext
  refine ⟨found, hfound, hasc, fun p => (hmem p).trans ?_⟩
  refine exists_congr fun e => and_congr_right fun he => ?_
  have hentry : e ∈ entries := List.mem_of_getElem? he
  constructor
  · rintro (hmatch | hmatch)
    · -- an entry has as many syllables as characters
      rw [← e.length_syllables]
      exact hsound e.syllables (hreadings e hentry).isPiece hmatch
    · exact ((hcount e.text).1 hmatch).1
  -- the text side alone finds them all
  · exact fun hallows => .inr ((hcount e.text).2 ⟨hallows, hlines e hentry⟩)

theorem matchingPositions_counted_sample :
    ∃ found, sample.matchingPositions (.bySound "^.{2,}$".toList false) = .ok found ∧
      0 ∈ found ∧ 1 ∉ found := by
  have hlines : ∀ e ∈ Entry.samples, '\n' ∉ e.text := by decide
  have hreadings : ∀ e ∈ Entry.samples, e.HasUnbrokenReadings := by decide
  have hq : Quantifier.ofInterior? "2,".toList = some (.atLeast 2) := by decide
  obtain ⟨found, hfound, _, hmem⟩ :=
    matchingPositions_counted (s := sample) rfl rfl rfl hlines hreadings hq trivial
  refine ⟨found, hfound, (hmem 0).2 ⟨_, rfl, by decide⟩, fun hone => ?_⟩
  obtain ⟨e, he, hallows⟩ := (hmem 1).1 hone
  cases he
  exact absurd hallows (by decide)

end Searcher

end PinyinSearch
