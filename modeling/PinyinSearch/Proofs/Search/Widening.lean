import PinyinSearch.Proofs.Combinations
import PinyinSearch.Proofs.Pattern.Confusions
import PinyinSearch.Proofs.Search.Phonetic
import PinyinSearch.Proofs.Search.Refusals

/-!
# Searches that find more

To take sounds for those they are confused with asks for less: an entry that answers a query answers
it with homophones, too (`matchingPositions_homophone`).  What the pattern repeats has to be the
same with and without confusable syllables.  A malformed pattern may come to light only with
homophones, because it is read only if some entry has all other attributes.

A pattern that may also match plain pronunciations asks for less, too, if the engine takes its
transcription; otherwise the search fails (`matchingPositions_phonetic`).
-/

namespace PinyinSearch

/-- A query in which sounds are taken for those they are confused with. -/
def Query.withHomophones (q : Query) : Query := { q with homophone := true }

/-- A query whose pattern may also match the plain pronunciation. -/
def Query.withPhonetic (q : Query) : Query := { q with phonetic := true }

namespace Searcher

variable {s : Searcher} {similarity : Similarity} {entries : List Entry} {q : Query}

/-! ## Homophones in initials -/

lemma mem_combinations_letterVariants (t : Similarity) (base : Text) :
    base ∈ combinations (base.map t.letterVariants) := by
  rw [mem_combinations, List.forall₂_map_left_iff, List.forall₂_same]
  intro c _
  exact List.mem_cons_self

/-- Among the strings that a string of initials is widened to is itself. -/
lemma mem_widen (homophone : Bool) (base : Text) : base ∈ s.widen homophone base := by
  rw [widen]
  split
  · exact mem_combinations_letterVariants _ _
  · exact List.mem_singleton.2 rfl

lemma mem_initialsVariants_true {initials v : Text} (h : v ∈ s.initialsVariants initials false) :
    v ∈ s.initialsVariants initials true := by
  simp only [initialsVariants, FirstSeen.mem_ofList, List.mem_flatMap] at h ⊢
  obtain ⟨base, hbase, hv⟩ := h
  obtain rfl := List.mem_singleton.1 hv
  exact ⟨v, hbase, mem_widen true v⟩

lemma HasAttributes.withHomophones {e : Entry} (hoff : q.homophone = false)
    (h : s.HasAttributes q e) : s.HasAttributes q.withHomophones e :=
  { h with initials := fun t ht => mem_initialsVariants_true (hoff ▸ h.initials t ht) }

/-! ## Homophones in patterns -/

/-- With homophones, the predicate that decides about a pattern holds wherever it does without. -/
lemma deciding?_true {pattern : Text} {phonetic : Bool} {m : Text → Bool}
    (hengine : s.engine = .unlimited) (hsounds : s.corpus.SoundsOnOneLine)
    (hrepeats : phonetic = true → s.transcriber.RepeatsAlike pattern)
    (h : s.deciding? pattern phonetic false = some m) :
    ∃ m', s.deciding? pattern phonetic true = some m' ∧ ∀ text, m text = true → m' text = true := by
  cases phonetic with
  | false => exact ⟨m, h, fun _ => id⟩
  | true =>
    rw [deciding?, if_pos rfl, hengine, RegexEngine.compile?_unlimited] at h ⊢
    obtain ⟨r, hparse, rfl⟩ := Option.map_eq_some_iff.1 h
    have htwins := Transcriber.transcribe_twins (t := s.transcriber) hsounds (hrepeats rfl)
    obtain ⟨r', hparse', hwidens⟩ := Regex.parse?_twins htwins hparse
    exact ⟨_, by rw [hparse', Option.map_some], fun _ => hwidens.isMatch⟩

lemma Accepts.withHomophones {pattern : Text} {phonetic : Bool} {e : Entry}
    (hengine : s.engine = .unlimited) (hsounds : s.corpus.SoundsOnOneLine)
    (hrepeats : phonetic = true → s.transcriber.RepeatsAlike pattern)
    (h : s.Accepts pattern phonetic false e) : s.Accepts pattern phonetic true e := by
  refine h.imp_left ?_
  rintro ⟨rfl, m, hm, haccept⟩
  have hdeciding : ∀ homophone, s.deciding? pattern true homophone =
      s.engine.compile? plainFlags (s.transcriber.transcribe homophone pattern) :=
    fun _ => if_pos rfl
  obtain ⟨m', hm', hwidens⟩ :=
    deciding?_true hengine hsounds hrepeats ((hdeciding false).trans hm)
  exact ⟨rfl, m', (hdeciding true).symm.trans hm', hwidens _ haccept⟩

/-! ## Homophones in queries -/

/-- With homophones a search finds what it finds without, and perhaps more.  It fails instead where
without homophones no entry had the attributes asked for, so that a malformed pattern was not
read. -/
theorem matchingPositions_homophone {found : List Position}
    (hcorpus : s.corpus = .build similarity entries) (hengine : s.engine = .unlimited)
    (hoff : q.homophone = false) (hsounds : s.corpus.SoundsOnOneLine)
    (hrepeats : q.phonetic = true → ∀ pattern ∈ q.pattern, s.transcriber.RepeatsAlike pattern)
    (h : s.matchingPositions q = .ok found) :
    (∃ wider, s.matchingPositions q.withHomophones = .ok wider ∧ found ⊆ wider) ∨
      found = [] ∧ (∀ e ∈ entries, ¬ s.HasAttributes q e) ∧
        ∃ pattern ∈ q.pattern, s.deciding? pattern q.phonetic false = none ∧
          s.matchingPositions q.withHomophones = .error
            (.invalidPattern pattern (s.shown? pattern q.phonetic true)) := by
  cases hwider : s.matchingPositions q.withHomophones with
  | ok wider =>
    refine .inl ⟨wider, rfl, fun p hp => ?_⟩
    obtain ⟨e, he, hanswers⟩ := (mem_matchingPositions hcorpus h).1 hp
    refine (mem_matchingPositions hcorpus hwider).2 ⟨e, he, ?_⟩
    exact {
      toHasAttributes := hanswers.toHasAttributes.withHomophones hoff
      pattern := fun t ht => .withHomophones hengine hsounds (fun hp => hrepeats hp t ht)
        (hoff ▸ hanswers.pattern t ht) }
  | error err =>
    obtain ⟨pattern, hpattern, -, hmatcher⟩ := matchingPositions_eq_error_iff.1 hwider
    obtain ⟨hrefuses, rfl⟩ := matcher_eq_error_iff.1 hmatcher
    have hrefuses' : s.deciding? pattern q.phonetic false = none := by
      rw [Option.eq_none_iff_forall_ne_some]
      intro m hm
      obtain ⟨m', hm', -⟩ :=
        deciding?_true hengine hsounds (fun hp => hrepeats hp pattern hpattern) hm
      exact Option.some_ne_none _ (hm'.symm.trans hrefuses)
    -- without homophones the pattern was refused, too, if it was read
    have hnone : candidates (s.lookups q) = some [] := by
      by_contra hsome
      have herror : s.matchingPositions q = .error _ := matchingPositions_eq_error_iff.2
        ⟨pattern, hpattern, hsome, matcher_eq_error_iff.2 ⟨hoff ▸ hrefuses', rfl⟩⟩
      rw [h] at herror
      cases herror
    have hattributes : ¬ (q.AsksNothing ∨ ∃ e ∈ entries, s.HasAttributes q e) := fun hlive =>
      (candidates_ne_some_nil_iff hcorpus).2 hlive hnone
    refine .inr ⟨?_, fun e he hattr => hattributes (.inr ⟨e, he, hattr⟩), pattern, hpattern,
      hrefuses', rfl⟩
    rw [matchingPositions, hnone] at h
    exact (Except.ok.inj h).symm

theorem matchingPositions_homophone_sample :
    ∃ wider,
      sample.matchingPositions (.withHomophones (.bySound "^zhong".toList false)) = .ok wider ∧
        [0] ⊆ wider := by
  have hfound : sample.matchingPositions (.bySound "^zhong".toList false) = .ok [0] := by
    decide +kernel
  have hrepeats : ∀ pattern ∈ (Query.bySound "^zhong".toList false).pattern,
      sample.transcriber.RepeatsAlike pattern := by decide +kernel
  have hsounds : sample.corpus.SoundsOnOneLine := by decide +kernel
  obtain hwider | ⟨⟨⟩, -⟩ :=
    matchingPositions_homophone rfl rfl rfl hsounds (fun _ => hrepeats) hfound
  exact hwider

example : sample.transcriber.RepeatsAlike "^zhong{1}?$".toList := by decide +kernel

/-! ### What is lost -/

/-- The readings of some characters for searches that find less with homophones. -/
def losingRomanizer : Romanizer where
  readings
    | '安' => [⟨"an".toList, "an".toList, .neutral⟩]
    | '啊' => [⟨"a".toList, "a".toList, .neutral⟩]
    | '林' => [⟨"lin".toList, "lin".toList, .neutral⟩]
    | _ => []

/-- A searcher for these characters, one of which may be confused with a sound on two lines. -/
def losing : Searcher where
  __ := build (["安", "啊", "林"].map fun s => .ofText losingRomanizer .word s.toList)
    losingRomanizer
    { initialRules := ["n>l".toList]
      finalRules := ["an>ang", "in>i\nn"].map String.toList }
  engine := .unlimited

/-- A query for initials that no entry has unless they are confused, with a malformed pattern. -/
def unreadQuery : Query where
  initials := some "n".toList
  pattern := some "(".toList

/-- A comment in a bracket class that reaches over a syllable up to the end of the line. -/
def commentPattern : Text := "(?x)[a#]林\n[n#[\n]]".toList

/-- With homophones, a malformed pattern is read that was not read without; a question mark takes a
whole group in place of the last letter of a syllable, so that an entry is lost; and a comment ends
in a syllable, so that a pattern is malformed. -/
theorem not_forall_widens :
    (losing.matchingPositions unreadQuery = .ok [] ∧
      losing.matchingPositions unreadQuery.withHomophones =
        .error (.invalidPattern "(".toList none)) ∧
    (losing.matchingPositions (.bySound "^an?$".toList false) = .ok [0, 1] ∧
      losing.matchingPositions (.bySound "^an?$".toList true) = .ok [0]) ∧
    losing.matchingPositions (.bySound commentPattern false) = .ok [0, 1, 2] ∧
      losing.matchingPositions (.bySound commentPattern true) = .error
        (.invalidPattern commentPattern (some "(?x)[a#]\\b(?:lin|li\nn)\\b\n[n#[\n]]".toList)) := by
  refine ⟨⟨?_, ?_⟩, ⟨?_, ?_⟩, ?_, ?_⟩
  all_goals decide +kernel

/-! ## Plain pronunciations -/

lemma Accepts.withPhonetic {pattern : Text} {homophone : Bool} {e : Entry}
    (h : s.Accepts pattern false homophone e) : s.Accepts pattern true homophone e :=
  .inr (h.resolve_left (Bool.false_ne_true ·.1))

lemma Answers.withPhonetic {e : Entry} (hoff : q.phonetic = false) (h : s.Answers q e) :
    s.Answers q.withPhonetic e :=
  { h with pattern := fun t ht => .withPhonetic (hoff ▸ h.pattern t ht) }

/-- Where a pattern may also match plain pronunciations, a search finds what it finds for texts
alone, and perhaps more, unless the engine refuses the transcription. -/
theorem matchingPositions_phonetic {found : List Position}
    (hcorpus : s.corpus = .build similarity entries) (hoff : q.phonetic = false)
    (h : s.matchingPositions q = .ok found) :
    (∃ wider, s.matchingPositions q.withPhonetic = .ok wider ∧ found ⊆ wider) ∨
      ∃ pattern ∈ q.pattern,
        s.engine.compile? plainFlags (s.transcriber.transcribe q.homophone pattern) = none ∧
          s.matchingPositions q.withPhonetic = .error
            (.invalidPattern pattern (some (s.transcriber.transcribe q.homophone pattern))) := by
  cases hwider : s.matchingPositions q.withPhonetic with
  | ok wider =>
    refine .inl ⟨wider, rfl, fun p hp => ?_⟩
    obtain ⟨e, he, hanswers⟩ := (mem_matchingPositions hcorpus h).1 hp
    exact (mem_matchingPositions hcorpus hwider).2 ⟨e, he, hanswers.withPhonetic hoff⟩
  | error err =>
    obtain ⟨pattern, hpattern, -, hmatcher⟩ := matchingPositions_eq_error_iff.1 hwider
    obtain ⟨hrefuses, rfl⟩ := matcher_eq_error_iff.1 hmatcher
    exact .inr ⟨pattern, hpattern, hrefuses, rfl⟩

/-- A query for a text. -/
def textQuery : Query where
  pattern := some "国".toList

theorem matchingPositions_phonetic_sample :
    ∃ wider, sample.matchingPositions textQuery.withPhonetic = .ok wider ∧ [0, 1, 2] ⊆ wider := by
  have hfound : sample.matchingPositions textQuery = .ok [0, 1, 2] := by decide +kernel
  obtain hwider | ⟨pattern, hpattern, hrefuses, -⟩ := matchingPositions_phonetic rfl rfl hfound
  · exact hwider
  · obtain rfl := Option.some.inj hpattern
    exact absurd hrefuses (by decide +kernel)

/-- A query for a text that an optional separator may stand before. -/
def optionalSeparatorQuery : Query where
  pattern := some "'?国".toList

/-- The transcription leaves the separator out, but not what makes it optional. -/
theorem not_matchingPositions_phonetic :
    sample.matchingPositions optionalSeparatorQuery = .ok [0, 1, 2] ∧
      sample.matchingPositions optionalSeparatorQuery.withPhonetic =
        .error (.invalidPattern "'?国".toList (some "?\\bguo\\b".toList)) := by
  constructor <;> decide +kernel

end Searcher

end PinyinSearch
