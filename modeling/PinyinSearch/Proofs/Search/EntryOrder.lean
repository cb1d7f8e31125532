import PinyinSearch.Proofs.Corpus.BuildOrder
import PinyinSearch.Proofs.Corpus.Exactness
import PinyinSearch.Proofs.Pattern.Parallel
import PinyinSearch.Proofs.Search.Pages
import PinyinSearch.Proofs.Search.Refusals

/-!
# Searches and order

What a search finds does not depend on the order of the entries, nor on the orders in which the
corpus was built (`search_order`).  Corpora that agree about syllables turn patterns and strings of
initials into the same regular expressions and strings (`transcribe_congr`,
`initialsVariants_congr`); so a query is answered by the same entries, and a search finds each of
them as often as it occurs (`searchAll_eq_filter`).
-/

namespace PinyinSearch

variable {d : Corpus}

/-! ## Patterns -/

namespace Transcriber

variable {t : Transcriber}

lemma syllable_congr (h : t.corpus.SameSyllables d) (fuzzy : Bool) (s : Text) :
    { t with corpus := d }.syllable fuzzy s = t.syllable fuzzy s := by
  rw [syllable, syllable, h.similarTo?]

lemma parallel_congr (h : t.corpus.SameSyllables d) (fuzzy : Bool) :
    Parallel Eq t { t with corpus := d } fuzzy fuzzy where
  refl _ := rfl
  syllable s := congrArg Segment.syllable (syllable_congr h fuzzy s).symm
  split run := (h.split t.maxSyllableLength run).symm
  romanizer := rfl
  placeholder := rfl

lemma segments_congr (h : t.corpus.SameSyllables d) (fuzzy : Bool) (pattern : Text) :
    { t with corpus := d }.segments fuzzy pattern = t.segments fuzzy pattern := by
  have hparallel := (parallel_congr h fuzzy).segments pattern
  rw [List.forall₂_eq_eq_eq] at hparallel
  exact hparallel.symm

lemma write_congr (afterSyllable : Bool) (segments : List Segment) :
    { t with corpus := d }.write afterSyllable segments = t.write afterSyllable segments := by
  induction segments generalizing afterSyllable with
  | nil => rfl
  | cons segment segments ih =>
    rw [write, write, ih]
    cases segment <;> rfl

/-- Corpora that agree about syllables give a pattern the same transcription. -/
theorem transcribe_congr (h : t.corpus.SameSyllables d) (fuzzy : Bool) (pattern : Text) :
    { t with corpus := d }.transcribe fuzzy pattern = t.transcribe fuzzy pattern := by
  simp only [transcribe, transcribeOne, segments_congr h, write_congr]

end Transcriber

namespace Searcher

variable {s : Searcher} {similarity : Similarity} {entries others : List Entry} {q : Query}

lemma matcher_congr (h : s.corpus.SameSyllables d) (pattern : Text) (phonetic homophone : Bool) :
    { s with corpus := d }.matcher pattern phonetic homophone =
      s.matcher pattern phonetic homophone := by
  have htranscribe : { s with corpus := d }.transcriber.transcribe homophone pattern =
      s.transcriber.transcribe homophone pattern :=
    Transcriber.transcribe_congr (t := s.transcriber) h homophone pattern
  rw [matcher, htranscribe, matcher]

/-! ## Initials -/

/-- Corpora that agree about syllables have a string of initials looked up as the same strings. -/
theorem initialsVariants_congr (h : s.corpus.SameSyllables d) (initials : Text)
    (homophone : Bool) :
    { s with corpus := d }.initialsVariants initials homophone =
      s.initialsVariants initials homophone := by
  have hsplit : ∀ run, { s with corpus := d }.split run = s.split run := fun run =>
    (h.split s.settings.maxSyllableLength run).symm
  have hbases : { s with corpus := d }.initialsBases initials = s.initialsBases initials := by
    simp only [initialsBases, hsplit]
  have hwiden : { s with corpus := d }.widen homophone = s.widen homophone := rfl
  rw [initialsVariants, hbases, hwiden, initialsVariants]

/-! ## The order of a build -/

lemma anyOf_congr {κ : Type} [DecidableEq κ] {postings others : Postings κ}
    (h : ∀ k, postings.positions k = others.positions k) (keys : List κ) :
    anyOf postings keys = anyOf others keys := by
  rw [anyOf, anyOf, funext h]

lemma lookups_congr (h : s.corpus.SameAnswers d) (q : Query) :
    { s with corpus := d }.lookups q = s.lookups q := by
  simp only [lookups, initialsVariants_congr h.sameSyllables, ← funext h.byCategory,
    ← funext h.byLength, ← funext h.byShape, ← funext h.byRhyme, ← funext h.byTones,
    ← funext h.byChar, ← anyOf_congr h.byInitials, ← funext (anyOf_congr h.byFirst),
    ← funext (anyOf_congr h.byLast)]

/-- Corpora that answer alike are searched alike. -/
theorem matchingPositions_congr (h : s.corpus.SameAnswers d) (q : Query) :
    { s with corpus := d }.matchingPositions q = s.matchingPositions q := by
  simp only [matchingPositions, lookups_congr h, matcher_congr h.sameSyllables, ← h.size,
    ← h.entry?]

theorem searchAll_congr (h : s.corpus.SameAnswers d) (q : Query) :
    { s with corpus := d }.searchAll q = s.searchAll q := by
  simp only [searchAll, searchPage, matchingPositions_congr h, ← funext h.entry?]

/-! ## The order of entries -/

lemma HasAttributes.congr {e : Entry} (h : s.corpus.SameSyllables d) :
    { s with corpus := d }.HasAttributes q e ↔ s.HasAttributes q e := by
  constructor
  · intro hattr
    exact { hattr with
      initials := fun t ht => initialsVariants_congr h t q.homophone ▸ hattr.initials t ht }
  · intro hattr
    exact { hattr with
      initials := fun t ht =>
        (initialsVariants_congr h t q.homophone).symm ▸ hattr.initials t ht }

lemma Answers.congr {e : Entry} (h : s.corpus.SameSyllables d) :
    { s with corpus := d }.Answers q e ↔ s.Answers q e := by
  have haccepts : ∀ pattern, { s with corpus := d }.Accepts pattern q.phonetic q.homophone e ↔
      s.Accepts pattern q.phonetic q.homophone e := by
    intro pattern
    have htranscribe := Transcriber.transcribe_congr (t := s.transcriber) h q.homophone pattern
    exact or_congr_left (and_congr_right' (by rw [← htranscribe]; rfl))
  constructor
  · intro ⟨hattr, hpattern⟩
    exact ⟨(HasAttributes.congr h).1 hattr, fun p hp => (haccepts p).1 (hpattern p hp)⟩
  · intro ⟨hattr, hpattern⟩
    exact ⟨(HasAttributes.congr h).2 hattr, fun p hp => (haccepts p).2 (hpattern p hp)⟩

open Classical in
/-- The positions of the entries with a property lead to these entries, in their order. -/
lemma filterMap_of_locates {P : Entry → Prop} {l : List Position} (h : Locates entries P l) :
    l.filterMap (fun p => entries[p]?) = entries.filter (P ·) := by
  have hscan := locates_filter_range entries (P ·)
  simp only [decide_eq_true_eq] at hscan
  have hl : l = (List.range entries.length).filter fun p => entries[p]?.any (P ·) :=
    h.1.eq_of_mem_iff hscan.1 fun p => (h.2 p).trans (hscan.2 p).symm
  have hall : (List.range entries.length).filterMap (fun p => entries[p]?) = entries :=
    filterMap_entries (List.ext_getElem (by simp) (by simp))
  conv_rhs => rw [← hall]
  rw [hl, List.filterMap_filter, List.filter_filterMap]
  refine List.filterMap_congr fun p _ => ?_
  cases entries[p]? <;> rfl

open Classical in
/-- A search that succeeds finds the entries that answer the query, in their order. -/
theorem searchAll_eq_filter {all : List Entry} (hs : s.corpus = .build similarity entries)
    (h : s.searchAll q = .ok all) : all = entries.filter (s.Answers q ·) := by
  rw [searchAll, searchPage] at h
  cases hfound : s.matchingPositions q with
  | error err => rw [hfound] at h; cases h
  | ok found =>
    rw [hfound] at h
    obtain rfl : found.filterMap s.corpus.entry? = all := Except.ok.inj h
    rw [hs]
    exact filterMap_of_locates ⟨(mem_getD_candidates hs q).1.sublist
      (matchingPositions_sublist hfound), fun _ => mem_matchingPositions hs hfound⟩

/-- A search that fails does so for its pattern, which is read because an entry has the attributes
or none is asked for. -/
lemma searchAll_eq_error_iff {err : SearchError} (hs : s.corpus = .build similarity entries) :
    s.searchAll q = .error err ↔ ∃ pattern, q.pattern = some pattern ∧
      (q.AsksNothing ∨ ∃ e ∈ entries, s.HasAttributes q e) ∧
        s.matcher pattern q.phonetic q.homophone = .error err := by
  have hpositions : s.searchAll q = .error err ↔ s.matchingPositions q = .error err := by
    rw [searchAll, ← searchPage_eq_error_iff (p := .everything)]
    cases s.searchPage q .everything <;> simp [Except.map]
  rw [hpositions, matchingPositions_eq_error_iff, candidates_ne_some_nil_iff hs]

/-- What becomes of a query is the same: it is refused with the same error for its pattern or
answered with the same entries, each as often. -/
inductive SameOutcome :
    Except SearchError (List Entry) → Except SearchError (List Entry) → Prop where
  | refused (pattern : Text) (transcribed : Option Text) :
    SameOutcome (.error (.invalidPattern pattern transcribed))
      (.error (.invalidPattern pattern transcribed))
  | found {found others : List Entry} :
    found.Perm others →
    SameOutcome (.ok found) (.ok others)

/-- Two searchers make the same of patterns, of strings of initials and of queries. -/
structure FindsAlike (s t : Searcher) : Prop where
  transcribe : ∀ fuzzy pattern,
    s.transcriber.transcribe fuzzy pattern = t.transcriber.transcribe fuzzy pattern
  initialsVariants : ∀ initials homophone,
    s.initialsVariants initials homophone = t.initialsVariants initials homophone
  searchAll : ∀ q, SameOutcome (s.searchAll q) (t.searchAll q)

open Classical in
/-- Searches of the same entries in another order come out the same. -/
lemma searchAll_of_perm (h : entries.Perm others) (hs : s.corpus = .build similarity entries) :
    SameOutcome (s.searchAll q) ({ s with corpus := .build similarity others }.searchAll q) := by
  have hsame : s.corpus.SameSyllables (.build similarity others) :=
    hs ▸ Corpus.sameSyllables_of_perm h
  have herror : ∀ err, { s with corpus := .build similarity others }.searchAll q = .error err ↔
      s.searchAll q = .error err := by
    intro err
    rw [searchAll_eq_error_iff rfl, searchAll_eq_error_iff hs]
    simp only [HasAttributes.congr hsame, matcher_congr hsame, h.mem_iff]
  cases hfound : s.searchAll q with
  | error err =>
    obtain ⟨pattern, -, -, hmatcher⟩ := (searchAll_eq_error_iff hs).1 hfound
    obtain ⟨-, rfl⟩ := matcher_eq_error_iff.1 hmatcher
    rw [(herror _).2 hfound]
    exact .refused pattern _
  | ok found =>
    cases hothers : { s with corpus := .build similarity others }.searchAll q with
    | error err => exact absurd (((herror err).1 hothers).symm.trans hfound) (by simp)
    | ok others' =>
      have hanswers : others.filter ({ s with corpus := .build similarity others }.Answers q ·) =
          others.filter (s.Answers q ·) :=
        List.filter_congr fun e _ => decide_eq_decide.2 (Answers.congr hsame)
      rw [searchAll_eq_filter hs hfound, searchAll_eq_filter rfl hothers, hanswers]
      exact .found (h.filter _)

/-- The searcher for a list of entries whose corpus is built in some order. -/
def buildIn (order : BuildOrder entries) (romanizer : Romanizer) (settings : SearchSettings)
    (engine : RegexEngine) : Searcher :=
  { ofCorpus (.buildIn settings.similarity order) romanizer settings with engine }

/-- Neither the order of the entries nor the order of a build makes a difference to what is
found. -/
theorem findsAlike_of_perm (h : entries.Perm others) (order : BuildOrder entries)
    (order' : BuildOrder others) (romanizer : Romanizer) (settings : SearchSettings)
    (engine : RegexEngine) :
    (buildIn order romanizer settings engine).FindsAlike
      (buildIn order' romanizer settings engine) := by
  have hsyllables : (Corpus.buildIn settings.similarity order).SameSyllables
      (Corpus.buildIn settings.similarity order') :=
    (Corpus.sameAnswers_buildIn order).sameSyllables.trans <|
      (Corpus.sameSyllables_of_perm h).trans (Corpus.sameAnswers_buildIn order').sameSyllables.symm
  constructor
  case transcribe =>
    intro fuzzy pattern
    exact (Transcriber.transcribe_congr (t := (buildIn order romanizer settings engine).transcriber)
      hsyllables fuzzy pattern).symm
  case initialsVariants =>
    intro initials homophone
    exact (initialsVariants_congr (s := buildIn order romanizer settings engine)
      hsyllables initials homophone).symm
  case searchAll =>
    intro q
    have husual := searchAll_congr (s := buildIn order romanizer settings engine)
      (Corpus.sameAnswers_buildIn order) q
    have husual' := searchAll_congr (s := buildIn order' romanizer settings engine)
      (Corpus.sameAnswers_buildIn order') q
    rw [← husual, ← husual']
    exact searchAll_of_perm h rfl

/-- The samples in both directions, with the trie of the second corpus filled backwards. -/
theorem findsAlike_of_perm_sample :
    Entry.samples.Perm Entry.samples.reverse ∧
      (buildIn (.firstSeen Entry.samples) .sample {} .standard).FindsAlike
        (buildIn (.lastSeen Entry.samples.reverse) .sample {} .standard) :=
  ⟨(List.reverse_perm _).symm, findsAlike_of_perm (List.reverse_perm _).symm _ _ _ _ _⟩

end Searcher

end PinyinSearch
