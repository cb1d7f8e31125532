import PinyinSearch.Proofs.Search.Scan

/-!
# Refusals

A request is refused for its page, for the size of its page or for its pattern, in this order.  The
rules of `Searcher.Refused` say when, without a word about how a search proceeds; the main
statement, `search_eq_error_iff`, says that a search fails by these rules and no others, and with
the error that they name.  Whether a malformed pattern is found out depends on the rest of the
query: it is looked at only if some entry has the attributes asked for, or if none is asked for.
-/

namespace PinyinSearch

/-- A query asks for no attribute, its pattern apart.  To contain each of no characters is no
attribute. -/
structure Query.AsksNothing (q : Query) : Prop where
  category : q.category = none
  length : q.length = none
  shape : q.shape = none
  rhyme : q.rhyme = none
  tones : q.tones = none
  initials : q.initials = none
  firstIn : q.firstIn = none
  lastIn : q.lastIn = none
  containing : q.containing.getD [] = []

namespace Searcher

variable {s : Searcher} {similarity : Similarity} {entries : List Entry} {q : Query}

/-- The predicate that decides about a pattern, `none` if its regular expression is refused: that
for plain pronunciations if the pattern is phonetic, whatever becomes of that for texts, and else
that for texts. -/
def deciding? (s : Searcher) (pattern : Text) (phonetic homophone : Bool) :
    Option (Text → Bool) :=
  if phonetic then s.engine.compile? plainFlags (s.transcriber.transcribe homophone pattern)
  else s.engine.compile? {} (textPattern pattern)

/-- What a phonetic pattern stands for on plain pronunciations. -/
def shown? (s : Searcher) (pattern : Text) (phonetic homophone : Bool) : Option Text :=
  if phonetic then some (s.transcriber.transcribe homophone pattern) else none

/-- The rules by which a request is refused. -/
inductive Refused (s : Searcher) (entries : List Entry) (q : Query) (page size : Int) :
    SearchError → Prop where
  | page :
    page < 1 →
    Refused s entries q page size (.invalidPage page)
  | size :
    1 ≤ page →
    size < 0 →
    Refused s entries q page size (.invalidPageSize size)
  | pattern {pattern} :
    1 ≤ page →
    0 ≤ size →
    q.pattern = some pattern →
    s.deciding? pattern q.phonetic q.homophone = none →
    q.AsksNothing ∨ (∃ e ∈ entries, s.HasAttributes q e) →
    Refused s entries q page size
      (.invalidPattern pattern (s.shown? pattern q.phonetic q.homophone))

lemma lookups_eq_nil_iff : s.lookups q = [] ↔ q.AsksNothing := by
  simp only [lookups, List.append_eq_nil_iff, Option.toList_eq_nil_iff, Option.map_eq_none_iff,
    List.map_eq_nil_iff]
  constructor
  · rintro ⟨⟨⟨⟨⟨⟨⟨⟨hcategory, hlength⟩, hshape⟩, hrhyme⟩, htones⟩, hinitials⟩, hfirst⟩, hlast⟩,
      hall⟩
    exact ⟨hcategory, hlength, hshape, hrhyme, htones, hinitials, hfirst, hlast, hall⟩
  · intro h
    exact ⟨⟨⟨⟨⟨⟨⟨⟨h.category, h.length⟩, h.shape⟩, h.rhyme⟩, h.tones⟩, h.initials⟩, h.firstIn⟩,
      h.lastIn⟩, h.containing⟩

/-- The look-ups leave something over if an entry has all attributes, or if there are none. -/
lemma candidates_ne_some_nil_iff (hs : s.corpus = .build similarity entries) :
    candidates (s.lookups q) ≠ some [] ↔
      q.AsksNothing ∨ ∃ e ∈ entries, s.HasAttributes q e := by
  obtain ⟨-, hlive⟩ := mem_getD_candidates hs q
  cases hl : s.lookups q with
  | nil => simp [candidates, lookups_eq_nil_iff.1 hl]
  | cons first rest =>
    have hasks : ¬ q.AsksNothing := fun h => by simp [lookups_eq_nil_iff.2 h] at hl
    rw [hl, candidates, Option.getD_some] at hlive
    rw [candidates, Ne, Option.some.injEq, or_iff_right hasks]
    constructor
    · intro hne
      obtain ⟨p, hp⟩ := List.exists_mem_of_ne_nil _ hne
      obtain ⟨e, he, hattr⟩ := (hlive p).1 hp
      exact ⟨e, List.mem_of_getElem? he, hattr⟩
    · rintro ⟨e, he, hattr⟩ hnil
      obtain ⟨p, hp⟩ := List.mem_iff_getElem?.1 he
      rw [hnil] at hlive
      exact absurd ((hlive p).2 ⟨e, hp, hattr⟩) List.not_mem_nil

lemma matcher_eq_error_iff {pattern : Text} {phonetic homophone : Bool} {err : SearchError} :
    s.matcher pattern phonetic homophone = .error err ↔
      s.deciding? pattern phonetic homophone = none ∧
        err = .invalidPattern pattern (s.shown? pattern phonetic homophone) := by
  cases phonetic with
  | false =>
    simp only [matcher, deciding?, shown?, Bool.false_eq_true, if_false]
    cases s.engine.compile? {} (textPattern pattern) <;> simp [eq_comm]
  | true =>
    simp only [matcher, deciding?, shown?, if_true]
    cases s.engine.compile? plainFlags (s.transcriber.transcribe homophone pattern) <;>
      simp [eq_comm]

/-- Looking for positions fails if there is something left to match with a pattern that is
refused. -/
lemma matchingPositions_eq_error_iff {err : SearchError} :
    s.matchingPositions q = .error err ↔ ∃ pattern, q.pattern = some pattern ∧
      candidates (s.lookups q) ≠ some [] ∧
        s.matcher pattern q.phonetic q.homophone = .error err := by
  rw [matchingPositions]
  split
  · next hnone => simp [hnone]
  · next hsome =>
    have hne : candidates (s.lookups q) ≠ some [] := hsome
    cases hp : q.pattern with
    | none => simp
    | some pattern =>
      cases hm : s.matcher pattern q.phonetic q.homophone <;> simp [Except.map, hne, hm]

/-- Without a pattern there is nothing to refuse. -/
lemma exists_matchingPositions_of_pattern_eq_none (h : q.pattern = none) :
    ∃ found, s.matchingPositions q = .ok found := by
  cases hfound : s.matchingPositions q with
  | ok found => exact ⟨found, rfl⟩
  | error err =>
    obtain ⟨pattern, hpattern, -⟩ := matchingPositions_eq_error_iff.1 hfound
    exact absurd (h.symm.trans hpattern) (Option.some_ne_none _).symm

/-- A search with a page that can be shown fails as looking for positions does. -/
lemma search_of_valid {page size : Int} (hpage : 1 ≤ page) (hsize : 0 ≤ size) :
    s.search q page size = s.searchPage q ⟨page.toNat, size.toNat⟩ := by
  rw [search, Pagination.make, if_neg (by omega), if_neg (by omega)]
  rfl

lemma searchPage_eq_error_iff {p : Pagination} {err : SearchError} :
    s.searchPage q p = .error err ↔ s.matchingPositions q = .error err := by
  rw [searchPage]
  cases s.matchingPositions q <;> simp [Except.map]

lemma search_of_page_lt {page : Int} (hpage : page < 1) (size : Int) :
    s.search q page size = .error (.invalidPage page) := by
  rw [search, Pagination.make, if_pos hpage]
  rfl

lemma search_of_size_lt {page size : Int} (hpage : 1 ≤ page) (hsize : size < 0) :
    s.search q page size = .error (.invalidPageSize size) := by
  rw [search, Pagination.make, if_neg (by omega), if_pos hsize]
  rfl

/-- A search is refused by the rules and with the error that they name; by no rule, it succeeds. -/
theorem search_eq_error_iff (hs : s.corpus = .build similarity entries) (page size : Int) :
    (∀ err, s.search q page size = .error err ↔ s.Refused entries q page size err) ∧
      ((∃ found, s.search q page size = .ok found) ↔
        ∀ err, ¬ s.Refused entries q page size err) := by
  have herror : ∀ err, s.search q page size = .error err ↔
      s.Refused entries q page size err := by
    intro err
    rcases Int.lt_or_le page 1 with hpage | hpage
    · rw [search_of_page_lt hpage, Except.error.injEq]
      constructor
      · rintro rfl
        exact .page hpage
      · intro h
        cases h with
        | page _ => rfl
        | size hge _ => omega
        | pattern hge _ _ _ _ => omega
    rcases Int.lt_or_le size 0 with hsize | hsize
    · rw [search_of_size_lt hpage hsize, Except.error.injEq]
      constructor
      · rintro rfl
        exact .size hpage hsize
      · intro h
        cases h with
        | page hlt => omega
        | size _ _ => rfl
        | pattern _ hge _ _ _ => omega
    · rw [search_of_valid hpage hsize, searchPage_eq_error_iff, matchingPositions_eq_error_iff]
      constructor
      · rintro ⟨pattern, hpattern, hlive, hmatcher⟩
        obtain ⟨hrefuses, rfl⟩ := matcher_eq_error_iff.1 hmatcher
        exact .pattern hpage hsize hpattern hrefuses ((candidates_ne_some_nil_iff hs).1 hlive)
      · intro h
        cases h with
        | page hlt => omega
        | size _ hlt => omega
        | pattern _ _ hpattern hrefuses hlive =>
          exact ⟨_, hpattern, (candidates_ne_some_nil_iff hs).2 hlive,
            matcher_eq_error_iff.2 ⟨hrefuses, rfl⟩⟩
  refine ⟨herror, ?_⟩
  constructor
  · rintro ⟨found, hfound⟩ err hrefused
    rw [(herror err).2 hrefused] at hfound
    cases hfound
  · intro hnone
    cases hsearch : s.search q page size with
    | ok found => exact ⟨found, rfl⟩
    | error err => exact absurd ((herror err).1 hsearch) (hnone err)

/-- A query for a character, with a phonetic pattern whose group is not closed. -/
def unclosedQuery (c : Char) : Query where
  pattern := some "(国".toList
  phonetic := true
  containing := some [c]

/-- The same malformed pattern is found out where an entry has the character, and is not read where
none has it. -/
theorem search_eq_error_iff_sample :
    (build Entry.samples .sample {}).search (unclosedQuery '国') 1 0 =
        .error (.invalidPattern "(国".toList (some "(\\bguo\\b".toList)) ∧
      ∃ found, (build Entry.samples .sample {}).search (unclosedQuery '人') 1 0 = .ok found := by
  constructor
  · have hrefuses : (build Entry.samples .sample {}).deciding? "(国".toList true false = none := by
      decide +kernel
    have hattr : (build Entry.samples .sample {}).HasAttributes (unclosedQuery '国')
        (.ofText .sample .idiom "国".toList) := by
      constructor <;> simp [unclosedQuery]
    have hshown : (build Entry.samples .sample {}).shown? "(国".toList true false =
        some "(\\bguo\\b".toList := by decide +kernel
    refine ((search_eq_error_iff rfl 1 0).1 _).2 ?_
    rw [← hshown]
    exact .pattern (by decide) (by decide) rfl hrefuses (.inr ⟨_, by simp [Entry.samples], hattr⟩)
  · refine (search_eq_error_iff rfl 1 0).2.2 ?_
    intro err h
    cases h with
    | page hlt => omega
    | size _ hlt => omega
    | pattern _ _ _ _ hlive =>
      rcases hlive with hasks | ⟨e, he, hattr⟩
      · exact absurd hasks.containing (by decide)
      · have hnone : ∀ e ∈ Entry.samples, '人' ∉ e.text := by decide
        exact hnone e he (hattr.containing _ rfl '人' (List.mem_singleton.2 rfl))

end Searcher

end PinyinSearch
