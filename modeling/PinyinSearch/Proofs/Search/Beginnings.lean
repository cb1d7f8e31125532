import PinyinSearch.Proofs.Corpus.Syllabification
import PinyinSearch.Proofs.Pattern.Writings
import PinyinSearch.Proofs.Search.Phonetic

/-!
# Beginnings of syllables

Letters that begin a known syllable, but are none, are not split: they are transcribed as they stand
behind a word boundary, with none after them.  So they are found where a syllable begins with them,
case ignored, and nowhere else in a plain pronunciation; and with a caret before them, where the
first syllable does (`matchingPositions_beginning`).
-/

namespace PinyinSearch

open Text Regex

/-- A text begins with letters if case is ignored. -/
def Text.BeginsLike (s p : Text) : Prop := ∃ u v, s = u ++ v ∧ FoldsTo u p

/-- Among lower-case letters of ASCII, these are the letters that a text begins with. -/
lemma Text.beginsLike_iff_isPrefix {s p : Text} (hs : ∀ c ∈ s, c.isLower = true)
    (hp : ∀ c ∈ p, c.isLower = true) : s.BeginsLike p ↔ p <+: s := by
  constructor
  · rintro ⟨u, v, rfl, hfold⟩
    rw [List.forall_mem_append] at hs
    rw [(foldsTo_iff_eq hs.1 hp).1 hfold]
    exact List.prefix_append p v
  · rintro ⟨v, rfl⟩
    exact ⟨p, v, rfl, (foldsTo_iff_eq hp hp).2 rfl⟩

/-- The readings of an entry are spelled in lower-case letters of ASCII. -/
def Entry.HasSpelledReadings (e : Entry) : Prop :=
  ∀ g ∈ e.sound.glyphs, ∀ r ∈ g.reading, IsSpelling r.plain

instance (e : Entry) : Decidable e.HasSpelledReadings :=
  inferInstanceAs (Decidable (∀ g ∈ e.sound.glyphs, ∀ r ∈ g.reading, IsSpelling r.plain))

/-- A syllable is a word or a character without a reading. -/
lemma Entry.HasSpelledReadings.isWord_or {e : Entry} (h : e.HasSpelledReadings) :
    ∀ s ∈ e.syllables, IsWord s ∨ s.length = 1 := by
  intro s hs
  obtain ⟨g, hg, rfl⟩ := List.mem_map.1 hs
  rw [Glyph.plain]
  cases hr : g.reading with
  | none => exact .inr rfl
  | some r => exact .inl (h g hg r hr).isWord

namespace Transcriber

variable {t : Transcriber} {fuzzy start : Bool} {p : Text}

/-! ## Transcribing -/

/-- Letters that begin a known syllable and are none are left whole. -/
lemma letters_of_isUnfinished (hp : IsSpelling p) (h : t.corpus.isUnfinished p = true) :
    t.letters fuzzy p = [.fragment (escapeMeta p)] := by
  have hsplit : t.corpus.split t.maxSyllableLength p = [.fragment p] := by
    have hunknown : t.corpus.knows p = false := by
      rw [Corpus.isUnfinished, Bool.and_eq_true, Bool.not_eq_true'] at h
      exact h.1
    have hsolid : ∀ c ∈ p, Unicode.isBlank c = false := fun c hc =>
      Unicode.not_isBlank_of_isAlpha (Bool.or_eq_true_iff.2 (.inr (hp.2 c hc)))
    rw [Corpus.split, trim_of_noBlank hsolid, lowerAscii_of_lower hp.2]
    obtain ⟨c, p, rfl⟩ := List.exists_cons_of_ne_nil hp.1
    have hgreedy : t.corpus.splitGreedy (max t.maxSyllableLength 1) (c :: p) =
        [.fragment (c :: p)] := by rw [Corpus.splitGreedy, if_pos h]
    exact (if_neg (Bool.eq_false_iff.1 hunknown)).trans hgreedy
  rw [letters, hsplit]
  exact if_neg hp.1

/-- They are transcribed behind a word boundary, which the caret may stand before. -/
lemma transcribe_beginning (hp : IsSpelling p) (h : t.corpus.isUnfinished p = true) :
    t.transcribe fuzzy (framed start false p) = framed start false (boundary ++ escapeMeta p) := by
  have halpha : ∀ c ∈ p, c.isAlpha = true := fun c hc =>
    Bool.or_eq_true_iff.2 (.inr (hp.2 c hc))
  have hat : '@' ∉ framed start false p := by
    have hnot : '@' ∉ p := fun hmem => absurd (hp.2 _ hmem) (by decide)
    cases start <;> simp [framed, hnot]
  have hsegments : t.segments fuzzy p = [.fragment (escapeMeta p)] := by
    have hcut : t.segments fuzzy (p ++ []) = t.letters fuzzy p ++ t.segments fuzzy [] :=
      segments_letters halpha (by simp)
    rwa [List.append_nil, segments_nil, List.append_nil, letters_of_isUnfinished hp h] at hcut
  have hwrite : t.write false [.fragment (escapeMeta p)] = boundary ++ escapeMeta p :=
    List.append_nil _
  rw [transcribe_of_noVariants hat, transcribeOne]
  cases start with
  | false =>
    simp only [framed, Bool.false_eq_true, if_false, List.nil_append, List.append_nil, hsegments,
      hwrite]
  | true =>
    simp only [framed, Bool.false_eq_true, if_true, if_false, List.append_nil,
      List.singleton_append]
    rw [segments_symbol (c := '^') (by decide) (by decide) (by decide), hsegments, ← hwrite]
    rfl

/-! ## Matching -/

/-- A word boundary and letters match what folds to the letters with no word character before. -/
lemma matches_beginning (hp : IsSpelling p) {before mid after : Text} :
    (seqs ([Regex.boundary] ++ lettersRegex p)).Matches before mid after ↔
      NoWordBefore before ∧ FoldsTo mid p := by
  rw [matches_seqs_append]
  simp only [matches_seqs_singleton, matches_lettersRegex]
  constructor
  · rintro ⟨_, mid, rfl, ⟨rfl, hboundary⟩, hfold⟩
    obtain ⟨c, s, rfl⟩ := List.exists_cons_of_ne_nil (hfold.isWord hp).1
    have hc := (hfold.isWord hp).2 c List.mem_cons_self
    exact ⟨(matches_boundary_before hc).1 ⟨rfl, hboundary⟩, hfold⟩
  · rintro ⟨hbefore, hfold⟩
    obtain ⟨c, s, rfl⟩ := List.exists_cons_of_ne_nil (hfold.isWord hp).1
    have hc := (hfold.isWord hp).2 c List.mem_cons_self
    exact ⟨[], c :: s, rfl, (matches_boundary_before hc).2 hbefore, hfold⟩

/-- Among syllables, letters are found where one begins with them; behind a caret, where the first
does. -/
lemma exists_parse?_beginning (hp : IsSpelling p) (h : t.corpus.isUnfinished p = true)
    (start : Bool) :
    ∃ r, Regex.parse? Searcher.plainFlags (t.transcribe fuzzy (framed start false p)) = some r ∧
      ∀ ws : List Text, (∀ w ∈ ws, IsWord w ∨ w.length = 1) →
        (r.isMatch (join [' '] ws) = true ↔
          ∃ a w c, ws = a ++ w :: c ∧ w.BeginsLike p ∧ (start = true → a = [])) := by
  have hreads : Reads Searcher.plainFlags (boundary ++ escapeMeta p)
      ([Regex.boundary] ++ lettersRegex p) := (reads_boundary rfl rfl).append (reads_spelling hp)
  refine ⟨_, transcribe_beginning hp h ▸ (hreads.framed rfl rfl start false).parse? rfl,
    fun ws hws => ?_⟩
  simp only [isMatch_iff, matches_anchored, matches_beginning hp]
  constructor
  · rintro ⟨before, mid, after, htext, ⟨hbefore, hfold⟩, hstart, -⟩
    obtain ⟨a, w, c, rfl, rfl, v, rfl⟩ :=
      exists_prefix_of_join_eq hws (hfold.isWord hp) hbefore htext.symm
    exact ⟨a, mid ++ v, c, rfl, ⟨mid, v, rfl, hfold⟩, fun hs => leading_eq_nil_iff.1 (hstart hs)⟩
  · rintro ⟨a, _, c, rfl, ⟨u, v, rfl, hfold⟩, hstart⟩
    refine ⟨leading a, u, v ++ spaced c, ?_, ⟨?_, hfold⟩, fun hs => ?_,
      fun hs => absurd hs Bool.false_ne_true⟩
    · rw [leading_append_join (List.cons_ne_nil _ c), join_cons]
      simp only [List.append_assoc]
    · simpa using noWordBefore_leading a noWordBefore_nil
    · exact leading_eq_nil_iff.2 (hstart hs)

end Transcriber

/-! ## Searching -/

namespace Searcher

variable {s : Searcher} {similarity : Similarity} {entries : List Entry} {p : Text}

/-- A lower-case letter has no meaning of its own in a pattern. -/
lemma not_special_of_isSpelling (hp : IsSpelling p) :
    ∀ c ∈ p, c ∉ Transcriber.markers ∧ c ∉ operators := fun c hc =>
  ⟨Transcriber.not_marker_of_isAlpha (Bool.or_eq_true_iff.2 (.inr (hp.2 c hc))),
    (Transcriber.not_special_of_isLower (hp.2 c hc)).2⟩

/-- A search by sound for letters that begin a known syllable and are none finds the entries that
have a syllable that begins with them, or hold them; behind a caret, the syllable is the first, and
the text begins with them. -/
lemma exists_matchingPositions_beginning {homophone : Bool}
    (hcorpus : s.corpus = .build similarity entries) (hengine : s.engine = .unlimited)
    (hreadings : ∀ e ∈ entries, e.HasSpelledReadings) (hp : IsSpelling p)
    (hunknown : s.corpus.knows p = false) (hbegins : s.corpus.HasBeginning p) (start : Bool) :
    ∃ found, s.matchingPositions (.bySound (framed start false p) homophone) = .ok found ∧
      found.Pairwise (· < ·) ∧ ∀ i, i ∈ found ↔ ∃ e, entries[i]? = some e ∧
        ((∃ a w c, e.syllables = a ++ w :: c ∧ w.BeginsLike p ∧ (start = true → a = [])) ∨
          ∃ before after, e.text = before ++ p ++ after ∧ (start = true → before = [])) := by
  have hunfinished : s.transcriber.corpus.isUnfinished p = true := by
    have hcorpus' : s.transcriber.corpus = .build similarity entries := hcorpus
    rw [hcorpus] at hunknown hbegins
    rw [hcorpus']
    exact (Corpus.isUnfinished_ofTables hp.1).2 ⟨hunknown, hbegins⟩
  obtain ⟨plain, hplain, hsyllable⟩ :=
    @Transcriber.exists_parse?_beginning _ homophone _ hp hunfinished start
  obtain ⟨text, htext, hliteral⟩ :=
    exists_parse?_textPattern_framed (not_special_of_isSpelling hp) start false
  obtain ⟨found, hfound, hasc, hmem⟩ :=
    exists_matchingPositions_bySound hcorpus hengine hplain htext
  refine ⟨found, hfound, hasc, fun i => (hmem i).trans ?_⟩
  refine exists_congr fun e => and_congr_right fun he => or_congr ?_ ?_
  · exact hsyllable e.syllables (hreadings e (List.mem_of_getElem? he)).isWord_or
  · simp [hliteral]

/-- A search by sound for letters that begin a known syllable and are none succeeds and finds
exactly the entries that have a syllable that begins with them, case ignored, or hold them in their
text.  Behind a caret it finds those whose first syllable or whose text begins with them. -/
theorem matchingPositions_beginning {homophone : Bool}
    (hcorpus : s.corpus = .build similarity entries) (hengine : s.engine = .unlimited)
    (hreadings : ∀ e ∈ entries, e.HasSpelledReadings) (hp : IsSpelling p)
    (hunknown : s.corpus.knows p = false) (hbegins : s.corpus.HasBeginning p) :
    (∃ found, s.matchingPositions (.bySound p homophone) = .ok found ∧
      found.Pairwise (· < ·) ∧ ∀ i, i ∈ found ↔ ∃ e, entries[i]? = some e ∧
        ((∃ w ∈ e.syllables, w.BeginsLike p) ∨ p <:+: e.text)) ∧
    ∃ found, s.matchingPositions (.bySound ('^' :: p) homophone) = .ok found ∧
      found.Pairwise (· < ·) ∧ ∀ i, i ∈ found ↔ ∃ e, entries[i]? = some e ∧
        ((∃ w ∈ e.syllables.head?, w.BeginsLike p) ∨ p <+: e.text) := by
  have hframe := @exists_matchingPositions_beginning _ _ _ _ homophone hcorpus hengine hreadings hp
    hunknown hbegins
  have hanywhere := hframe false
  have hfirst := hframe true
  have hframed : framed false false p = p ∧ framed true false p = '^' :: p := by simp [framed]
  rw [hframed.1] at hanywhere
  rw [hframed.2] at hfirst
  obtain ⟨found, hfound, hasc, hmem⟩ := hanywhere
  obtain ⟨found', hfound', hasc', hmem'⟩ := hfirst
  refine ⟨⟨found, hfound, hasc, fun i => (hmem i).trans ?_⟩,
    found', hfound', hasc', fun i => (hmem' i).trans ?_⟩
  · refine exists_congr fun e => and_congr_right fun _ => or_congr ?_ ?_
    · constructor
      · rintro ⟨a, w, c, hsyllables, hw, -⟩
        exact ⟨w, by simp [hsyllables], hw⟩
      · rintro ⟨w, hmem, hw⟩
        obtain ⟨a, c, hsyllables⟩ := List.append_of_mem hmem
        exact ⟨a, w, c, hsyllables, hw, fun h => absurd h Bool.false_ne_true⟩
    · constructor
      · rintro ⟨before, after, htext, -⟩
        exact ⟨before, after, htext.symm⟩
      · rintro ⟨before, after, htext⟩
        exact ⟨before, after, htext.symm, fun h => absurd h Bool.false_ne_true⟩
  · refine exists_congr fun e => and_congr_right fun _ => or_congr ?_ ?_
    · constructor
      · rintro ⟨a, w, c, hsyllables, hw, ha⟩
        rw [ha rfl] at hsyllables
        exact ⟨w, by simp [hsyllables], hw⟩
      · rintro ⟨w, hmem, hw⟩
        obtain ⟨c, hsyllables⟩ := List.head?_eq_some_iff.1 hmem
        exact ⟨[], w, c, hsyllables, hw, fun _ => rfl⟩
    · constructor
      · rintro ⟨before, after, htext, hbefore⟩
        exact ⟨after, by simp [htext, hbefore rfl]⟩
      · rintro ⟨after, htext⟩
        exact ⟨[], after, htext.symm, fun _ => rfl⟩

/-- Some syllable of two entries begins with the letter, but the first syllable of one alone. -/
theorem matchingPositions_beginning_sample :
    (∃ found, sample.matchingPositions (.bySound ['g'] false) = .ok found ∧
      0 ∈ found ∧ 1 ∈ found) ∧
    ∃ found, sample.matchingPositions (.bySound ['^', 'g'] false) = .ok found ∧
      0 ∉ found ∧ 1 ∈ found := by
  have hreadings : ∀ e ∈ Entry.samples, e.HasSpelledReadings := by decide +kernel
  have hbegins : sample.corpus.HasBeginning ['g'] :=
    ⟨"guo".toList, by decide +kernel, by decide, by decide⟩
  obtain ⟨⟨found, hfound, -, hmem⟩, found', hfound', -, hmem'⟩ :=
    @matchingPositions_beginning sample _ _ _ false rfl rfl hreadings (by decide)
      (by decide +kernel) hbegins
  have hspelled : IsSpelling ['g'] ∧ IsSpelling "guo".toList ∧ IsSpelling "zhong".toList := by
    decide
  have hguo : Text.BeginsLike "guo".toList ['g'] :=
    (beginsLike_iff_isPrefix hspelled.2.1.2 hspelled.1.2).2 (by decide)
  refine ⟨⟨found, hfound, (hmem 0).2 ⟨_, rfl, .inl ?_⟩, (hmem 1).2 ⟨_, rfl, .inl ?_⟩⟩,
    found', hfound', fun h => ?_, (hmem' 1).2 ⟨_, rfl, .inl ?_⟩⟩
  · exact ⟨"guo".toList, by decide, hguo⟩
  · exact ⟨"guo".toList, by decide, hguo⟩
  · obtain ⟨_, ⟨⟩, ⟨_, ⟨⟩, hzhong⟩ | htext⟩ := (hmem' 0).1 h
    · exact absurd ((beginsLike_iff_isPrefix hspelled.2.2.2 hspelled.1.2).1 hzhong) (by decide)
    · exact absurd htext (by decide)
  · exact ⟨"guo".toList, by decide, hguo⟩

end Searcher

end PinyinSearch
