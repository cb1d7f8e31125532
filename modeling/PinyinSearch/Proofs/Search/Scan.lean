import Mathlib.Tactic.Common
import PinyinSearch.Proofs.Corpus.Postings
import PinyinSearch.Proofs.Spelling
import PinyinSearch.Search.Searcher

/-!
# Search as a scan of the corpus

What a query asks of an entry is written down attribute by attribute in `Searcher.HasAttributes`,
and with the pattern in `Searcher.Answers`.  The main statement, `matchingPositions_iff_answers`,
says that a search through the maps of the corpus finds what looking at every entry would find.

The lists that a query looks up are ascending and hold the positions of the entries with one
attribute each; intersecting ascending lists keeps what they share.
-/

namespace PinyinSearch.Searcher

/-- An entry has all the attributes that a query asks for, its pattern apart. -/
structure HasAttributes (s : Searcher) (q : Query) (e : Entry) : Prop where
  category : ∀ k ∈ q.category, e.category = k
  length : ∀ n ∈ q.length, e.length = n
  shape : ∀ k ∈ q.shape, e.shape? = some k
  rhyme : ∀ t ∈ q.rhyme, e.rhyme = t
  tones : ∀ t ∈ q.tones, e.tones = t
  initials : ∀ t ∈ q.initials, e.initials ∈ s.initialsVariants t q.homophone
  firstIn : ∀ cs ∈ q.firstIn, ∃ c ∈ cs, e.first? = some c
  lastIn : ∀ cs ∈ q.lastIn, ∃ c ∈ cs, e.last? = some c
  containing : ∀ cs ∈ q.containing, ∀ c ∈ cs, c ∈ e.text

/-- A pattern accepts an entry by its text or, if it is phonetic, by its plain pronunciation.  An
expression that the engine refuses accepts nothing. -/
def Accepts (s : Searcher) (pattern : Text) (phonetic homophone : Bool) (e : Entry) : Prop :=
  (phonetic = true ∧
    ∃ m ∈ s.engine.compile? plainFlags (s.transcriber.transcribe homophone pattern),
      m e.plain = true) ∨
  ∃ m ∈ s.engine.compile? {} (textPattern pattern), m e.text = true

/-- An entry answers a query if it has the attributes and is accepted by the pattern. -/
structure Answers (s : Searcher) (q : Query) (e : Entry) : Prop extends HasAttributes s q e where
  pattern : ∀ p ∈ q.pattern, s.Accepts p q.phonetic q.homophone e

/-! ## Intersections -/

/-- Ascending lists share the members that are kept. -/
lemma mem_intersect {a b : List Position} (ha : a.Pairwise (· < ·)) (hb : b.Pairwise (· < ·))
    {x : Position} : x ∈ intersect a b ↔ x ∈ a ∧ x ∈ b := by
  fun_induction intersect a b with
  | case1 => simp
  | case2 => simp
  | case3 p ps q qs hpq ih =>
    rw [ih ha.of_cons hb]
    constructor
    · exact fun ⟨hx, hq⟩ => ⟨List.mem_cons_of_mem p hx, hq⟩
    · rintro ⟨hx, hq⟩
      refine ⟨(List.mem_cons.1 hx).resolve_left ?_, hq⟩
      rintro rfl
      rcases List.mem_cons.1 hq with rfl | hq
      · exact Nat.lt_irrefl _ hpq
      · exact Nat.lt_asymm hpq (List.rel_of_pairwise_cons hb hq)
  | case4 p ps q qs _ hqp ih =>
    rw [ih ha hb.of_cons]
    constructor
    · exact fun ⟨hp, hx⟩ => ⟨hp, List.mem_cons_of_mem q hx⟩
    · rintro ⟨hp, hx⟩
      refine ⟨hp, (List.mem_cons.1 hx).resolve_left ?_⟩
      rintro rfl
      rcases List.mem_cons.1 hp with rfl | hp
      · exact Nat.lt_irrefl _ hqp
      · exact Nat.lt_asymm hqp (List.rel_of_pairwise_cons ha hp)
  | case5 p ps q qs hpq hqp ih =>
    obtain rfl : p = q := Nat.le_antisymm (Nat.le_of_not_lt hqp) (Nat.le_of_not_lt hpq)
    rw [List.mem_cons, ih ha.of_cons hb.of_cons, List.mem_cons, List.mem_cons, or_and_left]

/-- What is kept of an ascending list is a part of it in its order. -/
lemma intersect_sublist (a b : List Position) : (intersect a b).Sublist a := by
  fun_induction intersect a b with
  | case1 => exact .slnil
  | case2 => exact List.nil_sublist _
  | case3 p ps q qs _ ih => exact ih.cons p
  | case4 p ps q qs _ _ ih => exact ih
  | case5 p ps q qs _ _ ih => exact ih.cons_cons p

/-- Intersecting with one list after the other keeps what is in all of them. -/
lemma mem_foldl_intersect {first : List Position} {rest : List (List Position)}
    (hfirst : first.Pairwise (· < ·)) (hrest : ∀ l ∈ rest, l.Pairwise (· < ·)) :
    (rest.foldl intersect first).Pairwise (· < ·) ∧
      ∀ x, x ∈ rest.foldl intersect first ↔ x ∈ first ∧ ∀ l ∈ rest, x ∈ l := by
  induction rest generalizing first with
  | nil => simp [hfirst]
  | cons l rest ih =>
    have hl := hrest l List.mem_cons_self
    obtain ⟨hasc, hmem⟩ := ih (hfirst.sublist (intersect_sublist first l))
      fun k hk => hrest k (List.mem_cons_of_mem l hk)
    refine ⟨hasc, fun x => ?_⟩
    rw [List.foldl_cons, hmem, mem_intersect hfirst hl, List.forall_mem_cons, and_assoc]

/-- The candidates of some ascending lists ascend and are the positions in all of them. -/
lemma mem_candidates {lists : List (List Position)} {found : List Position}
    (h : candidates lists = some found) (hasc : ∀ l ∈ lists, l.Pairwise (· < ·)) :
    found.Pairwise (· < ·) ∧ ∀ x, x ∈ found ↔ ∀ l ∈ lists, x ∈ l := by
  cases lists with
  | nil => cases h
  | cons first rest =>
    cases h
    rw [List.forall_mem_cons] at hasc
    obtain ⟨hfound, hmem⟩ := mem_foldl_intersect hasc.1 hasc.2
    exact ⟨hfound, fun x => by rw [hmem, List.forall_mem_cons]⟩

/-! ## Look-ups -/

section

variable {s : Searcher} {similarity : Similarity} {entries : List Entry}

/-- The positions under some keys are those of the items that have one of the keys. -/
lemma mem_anyOf {κ α : Type} [DecidableEq κ] {keysOf : α → List κ} {items : List α}
    {keys : List κ} {p : Position} :
    p ∈ anyOf (.build keysOf items) keys ↔
      ∃ item, items[p]? = some item ∧ ∃ k ∈ keys, k ∈ keysOf item := by
  simp only [anyOf, Ascending.mem_ofList, List.mem_flatMap, Postings.mem_positions_build]
  constructor
  · rintro ⟨k, hk, item, hitem, hmem⟩
    exact ⟨item, hitem, k, hk, hmem⟩
  · rintro ⟨item, hitem, k, hk, hmem⟩
    exact ⟨k, hk, item, hitem, hmem⟩

/-- There is no look-up of an attribute that is not asked for. -/
lemma forall_mem_lookup {β : Type} (o : Option β) (f : β → List Position)
    (P : List Position → Prop) : (∀ l ∈ (o.map f).toList, P l) ↔ ∀ x ∈ o, P (f x) := by
  cases o <;> simp

/-- A list of positions of entries, in ascending order. -/
def IsListing (entries : List Entry) (l : List Position) : Prop :=
  l.Pairwise (· < ·) ∧ ∀ p ∈ l, ∃ e, entries[p]? = some e

lemma isListing_positions {κ : Type} [DecidableEq κ] {keysOf : Entry → List κ} {key : κ} :
    IsListing entries ((Postings.build keysOf entries).positions key) := by
  refine ⟨Postings.pairwise_positions_build _ _ _, fun p hp => ?_⟩
  obtain ⟨e, he, _⟩ := Postings.mem_positions_build.1 hp
  exact ⟨e, he⟩

lemma isListing_anyOf {κ : Type} [DecidableEq κ] {keysOf : Entry → List κ} {keys : List κ} :
    IsListing entries (anyOf (.build keysOf entries) keys) := by
  refine ⟨Ascending.pairwise_ofList _, fun p hp => ?_⟩
  obtain ⟨e, he, _⟩ := mem_anyOf.1 hp
  exact ⟨e, he⟩

/-- Every list that is looked up holds positions of entries, in ascending order. -/
lemma isListing_lookups (hs : s.corpus = .build similarity entries) (q : Query) :
    ∀ l ∈ s.lookups q, IsListing entries l := by
  simp only [lookups, hs, Corpus.toCorpusTables_build, CorpusTables.build, List.forall_mem_append,
    forall_mem_lookup, List.forall_mem_map, isListing_positions, isListing_anyOf, implies_true,
    and_self]

lemma exists_getElem?_and {p : Position} {e : Entry} (he : entries[p]? = some e)
    (P : Entry → Prop) : (∃ item, entries[p]? = some item ∧ P item) ↔ P e := by
  simp [he]

/-- A position is in all lists that are looked up exactly if its entry has the attributes. -/
lemma mem_lookups_iff (hs : s.corpus = .build similarity entries) (q : Query) {p : Position}
    {e : Entry} (he : entries[p]? = some e) :
    (∀ l ∈ s.lookups q, p ∈ l) ↔ s.HasAttributes q e := by
  simp only [lookups, hs, Corpus.toCorpusTables_build, CorpusTables.build, List.forall_mem_append,
    forall_mem_lookup, List.forall_mem_map, mem_anyOf, Postings.mem_positions_build,
    exists_getElem?_and he, List.mem_singleton]
  simp only [Option.mem_toList, Option.mem_def]
  constructor
  · rintro ⟨⟨⟨⟨⟨⟨⟨⟨hcategory, hlength⟩, hshape⟩, hrhyme⟩, htones⟩, hinitials⟩, hfirst⟩, hlast⟩,
      hall⟩
    exact {
      category := fun k hk => (hcategory k hk).symm
      length := fun n hn => (hlength n hn).symm
      shape := hshape
      rhyme := fun t ht => (hrhyme t ht).symm
      tones := fun t ht => (htones t ht).symm
      initials := fun t ht => by
        obtain ⟨v, hv, rfl⟩ := hinitials t ht
        exact hv
      firstIn := hfirst
      lastIn := hlast
      containing := fun cs hcs c hc => hall c (by rwa [Option.mem_def.1 hcs]) }
  · intro h
    refine ⟨⟨⟨⟨⟨⟨⟨⟨?_, ?_⟩, h.shape⟩, ?_⟩, ?_⟩, ?_⟩, h.firstIn⟩, h.lastIn⟩, ?_⟩
    · exact fun k hk => (h.category k hk).symm
    · exact fun n hn => (h.length n hn).symm
    · exact fun t ht => (h.rhyme t ht).symm
    · exact fun t ht => (h.tones t ht).symm
    · exact fun t ht => ⟨e.initials, h.initials t ht, rfl⟩
    · intro c hc
      cases hcs : q.containing with
      | none => simp [hcs] at hc
      | some cs => exact h.containing cs hcs c (by simpa [hcs] using hc)

/-- What is left after all look-ups ascends and holds the positions of the entries that have the
attributes. -/
lemma mem_getD_candidates (hs : s.corpus = .build similarity entries) (q : Query) :
    ((candidates (s.lookups q)).getD (List.range s.corpus.size)).Pairwise (· < ·) ∧
      ∀ p, p ∈ (candidates (s.lookups q)).getD (List.range s.corpus.size) ↔
        ∃ e, entries[p]? = some e ∧ s.HasAttributes q e := by
  have hsize : s.corpus.size = entries.length := by rw [hs]; rfl
  cases hc : candidates (s.lookups q) with
  | none =>
    have hnil : s.lookups q = [] := by
      cases hl : s.lookups q with
      | nil => rfl
      | cons l rest => simp [hl, candidates] at hc
    refine ⟨List.pairwise_lt_range, fun p => ?_⟩
    rw [Option.getD_none, List.mem_range, hsize]
    constructor
    · intro hp
      have he := List.getElem?_eq_getElem hp
      exact ⟨entries[p], he, (mem_lookups_iff hs q he).1 (by simp [hnil])⟩
    · rintro ⟨e, he, _⟩
      exact (List.getElem?_eq_some_iff.1 he).1
  | some found =>
    obtain ⟨hasc, hmem⟩ := mem_candidates hc fun l hl => (isListing_lookups hs q l hl).1
    refine ⟨hasc, fun p => ?_⟩
    rw [Option.getD_some, hmem]
    constructor
    · intro hp
      -- there is a look-up, so the position is that of an entry
      obtain ⟨l, hl⟩ : ∃ l, l ∈ s.lookups q := by
        cases hlist : s.lookups q with
        | nil => simp [hlist, candidates] at hc
        | cons l rest => exact ⟨l, List.mem_cons_self⟩
      obtain ⟨e, he⟩ := (isListing_lookups hs q l hl).2 p (hp l hl)
      exact ⟨e, he, (mem_lookups_iff hs q he).1 hp⟩
    · rintro ⟨e, he, hattr⟩
      exact (mem_lookups_iff hs q he).2 hattr

/-! ## Patterns -/

/-- What a pattern asks for accepts an entry exactly if the pattern does. -/
lemma accepts_of_matcher {pattern : Text} {phonetic homophone : Bool} {m : PatternMatcher}
    (h : s.matcher pattern phonetic homophone = .ok m) (e : Entry) :
    m.accepts e = true ↔ s.Accepts pattern phonetic homophone e := by
  rw [PatternMatcher.accepts, Bool.or_eq_true, Option.any_eq_true, Option.any_eq_true, Accepts]
  cases phonetic with
  | false =>
    simp only [matcher, Bool.false_eq_true, if_false] at h
    split at h
    · next text htext => cases h; simp [htext]
    · cases h
  | true =>
    simp only [matcher, if_true] at h
    split at h
    · next plain hplain => cases h; simp [hplain]
    · cases h

/-! ## Searches -/

/-- A search that succeeds keeps a part of what is left after all look-ups, in its order. -/
lemma matchingPositions_sublist {q : Query} {found : List Position}
    (h : s.matchingPositions q = .ok found) :
    found.Sublist ((candidates (s.lookups q)).getD (List.range s.corpus.size)) := by
  rw [matchingPositions] at h
  split at h
  · cases h
    exact List.nil_sublist _
  · split at h
    · cases h
      exact List.Sublist.refl _
    · next pattern _ =>
      cases hm : s.matcher pattern q.phonetic q.homophone with
      | error err => rw [hm] at h; cases h
      | ok m =>
        rw [hm] at h
        cases h
        exact List.filter_sublist

/-- A search that succeeds finds exactly the entries that answer the query. -/
lemma mem_matchingPositions {q : Query} {found : List Position} {p : Position}
    (hs : s.corpus = .build similarity entries) (h : s.matchingPositions q = .ok found) :
    p ∈ found ↔ ∃ e, entries[p]? = some e ∧ s.Answers q e := by
  have hlive := (mem_getD_candidates hs q).2 p
  rw [matchingPositions] at h
  split at h
  · next hnone =>
    -- the early exit: no entry has the attributes
    cases h
    rw [hnone, Option.getD_some] at hlive
    refine ⟨fun hp => absurd hp List.not_mem_nil, ?_⟩
    rintro ⟨e, he, hans⟩
    exact absurd (hlive.2 ⟨e, he, hans.toHasAttributes⟩) List.not_mem_nil
  · generalize (candidates (s.lookups q)).getD (List.range s.corpus.size) = live at h hlive
    split at h
    · next hpattern =>
      cases h
      refine hlive.trans ?_
      refine exists_congr fun e => and_congr_right fun _ => ⟨fun hattr => ?_, (·.toHasAttributes)⟩
      exact { hattr with pattern := fun t ht => by rw [hpattern] at ht; cases ht }
    · next pattern hpattern =>
      cases hm : s.matcher pattern q.phonetic q.homophone with
      | error err => rw [hm] at h; cases h
      | ok m =>
        rw [hm] at h
        cases h
        have hentry : s.corpus.entry? p = entries[p]? := by rw [hs]; rfl
        rw [List.mem_filter, hlive, hentry]
        constructor
        · rintro ⟨⟨e, he, hattr⟩, hacc⟩
          rw [he, Option.any_some, accepts_of_matcher hm] at hacc
          refine ⟨e, he, { hattr with pattern := fun t ht => ?_ }⟩
          obtain rfl : pattern = t := Option.some.inj (hpattern.symm.trans ht)
          exact hacc
        · rintro ⟨e, he, hans⟩
          refine ⟨⟨e, he, hans.toHasAttributes⟩, ?_⟩
          rw [he, Option.any_some, accepts_of_matcher hm]
          exact hans.pattern pattern hpattern

/-- The search with the maps of the corpus finds the entries that answer the query, and no others,
in ascending order. -/
theorem matchingPositions_iff_answers {q : Query} {found : List Position}
    (hs : s.corpus = .build similarity entries) (h : s.matchingPositions q = .ok found) :
    found.Pairwise (· < ·) ∧ ∀ p, p ∈ found ↔ ∃ e, entries[p]? = some e ∧ s.Answers q e :=
  ⟨(mem_getD_candidates hs q).1.sublist (matchingPositions_sublist h),
    fun _ => mem_matchingPositions hs h⟩

end

/-! ## A sample -/

/-- A query for several attributes and a pattern at once. -/
def sampleQuery : Query where
  category := some .word
  initials := some "zg".toList
  containing := some "国".toList
  pattern := some "^zhong".toList
  phonetic := true
  homophone := true

theorem matchingPositions_iff_answers_sample :
    (build Entry.samples Romanizer.sample {}).matchingPositions sampleQuery = .ok [0, 2] ∧
      [0, 2].Pairwise (· < ·) ∧
      ∀ p, p ∈ [0, 2] ↔ ∃ e, Entry.samples[p]? = some e ∧
        (build Entry.samples Romanizer.sample {}).Answers sampleQuery e :=
  have h : (build Entry.samples Romanizer.sample {}).matchingPositions sampleQuery =
      .ok [0, 2] := by decide +kernel
  ⟨h, matchingPositions_iff_answers rfl h⟩

end PinyinSearch.Searcher
