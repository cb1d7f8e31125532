import PinyinSearch.Proofs.Pattern.Ideographs
import PinyinSearch.Proofs.Pattern.TextSide
import PinyinSearch.Proofs.Search.Phonetic

/-!
# Homophones

A search by sound for a word of ideographs finds its homophones: the entries whose plain
pronunciation is, up to case, that of the word, or one that it may be confused with syllable by
syllable.  The text side of the pattern adds nothing to them, as an entry that is the word itself is
pronounced like the word.
-/

namespace PinyinSearch

open Text Regex

/-! ## Words as patterns -/

namespace Transcriber

variable {t : Transcriber} {fuzzy : Bool}

/-- An ideograph is no marker of a pattern and no operator of a regular expression. -/
lemma IsIdeograph.not_mem {c : Char} (hc : t.IsIdeograph c) : c ∉ markers ∧ c ∉ operators := by
  have hascii : (markers ++ operators).all (fun d => decide (d.toNat < 128)) = true := by decide
  have hnot : c ∉ markers ++ operators := fun h =>
    Nat.not_lt.2 hc.1 (of_decide_eq_true (List.all_eq_true.1 hascii c h))
  rwa [List.mem_append, not_or] at hnot

/-- A word of ideographs is pronounced in joined sounds of its characters. -/
lemma foldsTo_plain {cs : Text} (hcs : ∀ c ∈ cs, t.IsIdeograph c) :
    FoldsTo (t.romanizer.romanize cs).plain (t.romanizer.romanize cs).plain :=
  foldsTo_join.2 ⟨_, List.forall₂_same.2 fun r hr =>
    (isSpelling_of_mem_syllables hcs r hr).foldsTo_self, rfl⟩

end Transcriber

namespace Searcher

variable {s : Searcher} {initialRules finalRules : List Text} {entries : List Entry}

/-- A search by sound for a word of ideographs succeeds and finds exactly the entries whose plain
pronunciation folds to sounds of its characters; without confusions these are the entries that are
pronounced like the word, up to case. -/
theorem matchingPositions_word {cs : Text} {homophone : Bool}
    (hrules : ∀ rule ∈ initialRules ++ finalRules, Confusions.IsLettered rule)
    (hcorpus : s.corpus = .build (.ofRules initialRules finalRules) entries)
    (hentries : ∀ e ∈ entries, e.sound = s.romanizer.romanize e.text)
    (hengine : s.engine = .unlimited) (hcs : ∀ c ∈ cs, s.transcriber.IsIdeograph c) :
    ∃ found, s.matchingPositions (.bySound ('^' :: cs ++ ['$']) homophone) = .ok found ∧
      found.Pairwise (· < ·) ∧
      (∀ p, p ∈ found ↔ ∃ e, entries[p]? = some e ∧ ∃ rs,
        List.Forall₂ (fun c r => r ∈ s.transcriber.sounds homophone c) cs rs ∧
          FoldsTo e.plain (join [' '] rs)) ∧
      (homophone = false → ∀ p, p ∈ found ↔ ∃ e, entries[p]? = some e ∧
        FoldsTo e.plain (s.romanizer.romanize cs).plain) := by
  have hspelled : s.transcriber.Spelled := Transcriber.spelled_of_rules hrules hcorpus
  obtain ⟨plain, hplain, hmatch⟩ :
      ∃ r, parse? plainFlags (s.transcriber.transcribe homophone (framed true true cs)) = some r ∧
        ∀ text, r.isMatch text = true ↔
          ∃ ws ∈ s.transcriber.soundsOf homophone cs, text = join [' '] ws :=
    Transcriber.exists_parse?_ideographs hspelled hcs
  obtain ⟨text, htext, hliteral⟩ :=
    exists_parse?_textPattern_literals fun c hc => (hcs c hc).not_mem
  obtain ⟨found, hfound, hasc, hmem⟩ :=
    exists_matchingPositions_bySound hcorpus hengine hplain htext
  have hclass : ∀ e ∈ entries, (plain.isMatch e.plain = true ∨ text.isMatch e.text = true) ↔
      ∃ rs, List.Forall₂ (fun c r => r ∈ s.transcriber.sounds homophone c) cs rs ∧
        FoldsTo e.plain (join [' '] rs) := by
    intro e he
    rw [hmatch, Transcriber.exists_mem_soundsOf, hliteral]
    refine or_iff_left_of_imp fun hword => ?_
    -- an entry that is the word itself is pronounced like it
    have hsound : e.sound = s.romanizer.romanize cs := by rw [hentries e he, hword]
    refine ⟨_, Transcriber.forall₂_sounds_syllables hcs, ?_⟩
    rw [Entry.plain, hsound]
    exact Transcriber.foldsTo_plain hcs
  have hfound_iff : ∀ p, p ∈ found ↔ ∃ e, entries[p]? = some e ∧ ∃ rs,
      List.Forall₂ (fun c r => r ∈ s.transcriber.sounds homophone c) cs rs ∧
        FoldsTo e.plain (join [' '] rs) := fun p => (hmem p).trans <|
    exists_congr fun e => and_congr_right fun he => hclass e (List.mem_of_getElem? he)
  refine ⟨found, hfound, hasc, hfound_iff, ?_⟩
  rintro rfl p
  refine (hfound_iff p).trans (exists_congr fun e => and_congr_right' ?_)
  constructor
  · rintro ⟨rs, hrs, hfold⟩
    rw [Transcriber.eq_syllables_of_forall₂ hcs hrs] at hfold
    exact hfold
  · exact fun hfold => ⟨_, Transcriber.forall₂_sounds_syllables hcs, hfold⟩

theorem matchingPositions_word_sample :
    ∃ found, sample.matchingPositions (.bySound "^中国$".toList true) = .ok found ∧
      (∃ e, Entry.samples[2]? = some e ∧ e.text = "宗国".toList) ∧ 2 ∈ found := by
  have hentries : ∀ e ∈ Entry.samples, e.sound = sample.romanizer.romanize e.text := by
    decide +kernel
  have hcs : ∀ c ∈ "中国".toList, sample.transcriber.IsIdeograph c := by
    rintro c (_ | ⟨_, _ | ⟨_, ⟨⟩⟩⟩)
    · exact ⟨by decide, "zhong".toList, rfl, by decide⟩
    · exact ⟨by decide, "guo".toList, rfl, by decide⟩
  have hrules : ∀ rule ∈ Similarity.defaultInitialRules ++ Similarity.defaultFinalRules,
      Confusions.IsLettered rule := by
    decide +kernel
  obtain ⟨found, hfound, _, hmem, _⟩ :=
    matchingPositions_word (s := sample) hrules rfl hentries rfl hcs
  have hzong : "zong".toList ∈ sample.transcriber.sounds true '中' := by decide +kernel
  have hguo : "guo".toList ∈ sample.transcriber.sounds true '国' := by decide +kernel
  have hplain : "zong guo".toList = join [' '] ["zong".toList, "guo".toList] := by decide
  refine ⟨found, hfound, ⟨_, rfl, by decide⟩, (hmem 2).2 ?_⟩
  refine ⟨_, rfl, ["zong".toList, "guo".toList], ?_⟩
  refine ⟨.cons hzong (.cons hguo .nil), foldsTo_join.2 ⟨["zong".toList, "guo".toList], ?_, hplain⟩⟩
  have hself : ∀ w ∈ ["zong".toList, "guo".toList], FoldsTo w w := by
    have hspelled : ∀ w ∈ ["zong".toList, "guo".toList], IsSpelling w := by decide
    exact fun w hw => (hspelled w hw).foldsTo_self
  exact List.forall₂_same.2 hself

end Searcher

end PinyinSearch
