import Mathlib.Algebra.Order.Floor.Div
import Mathlib.Data.List.Perm.Subperm
import PinyinSearch.Proofs.Search.Scan

/-!
# Pages

The pages of one size cut the list of all answers into consecutive pieces.  `window_eq_extract` says
that a window is a range of indices that are computed without bounds, although it is found with
words of 64 bits; from it follow the pages of a search (`Searcher.paginates`).
-/

namespace PinyinSearch

namespace Pagination

/-! ## Windows -/

/-- A window holds the items whose indices lie in a range of unbounded numbers.  Beyond the greatest
word, where the computation stops, there are no items. -/
theorem window_eq_extract {α : Type} {items : List α} (hwords : items.length ≤ maxWord)
    {page size : Nat} (hpage : 1 ≤ page) (hsize : 1 ≤ size) :
    (⟨page, size⟩ : Pagination).window items = items.extract ((page - 1) * size) (page * size) := by
  have hstop : page * size = (page - 1) * size + size := by
    rw [← Nat.succ_mul, Nat.succ_eq_add_one, Nat.sub_add_cancel hpage]
  rw [window, if_neg (Nat.ne_of_gt hsize), List.extract_eq_take_drop, hstop,
    Nat.add_sub_cancel_left]
  simp only [start, stop]
  generalize (page - 1) * size = first
  rcases Nat.lt_or_ge maxWord first with hbeyond | hwithin
  · rw [Nat.min_eq_right (Nat.le_of_lt hbeyond), List.drop_eq_nil_of_le, List.drop_eq_nil_of_le,
      List.take_nil]
    · omega
    · rw [List.length_take]
      omega
  · rw [Nat.min_eq_left hwithin]
    rcases Nat.lt_or_ge maxWord (first + size) with hcut | hfits
    · rw [Nat.min_eq_right (Nat.le_of_lt hcut), List.take_of_length_le hwords,
        List.take_of_length_le]
      rw [List.length_drop]
      omega
    · rw [Nat.min_eq_left hfits, List.drop_take, Nat.add_sub_cancel_left]

/-! ## Words -/

/-- The product of two words, or the greatest word if the product is none. -/
def wordMul (a b : UInt64) : UInt64 :=
  if a.toNat * b.toNat ≤ maxWord then a * b else .ofNat maxWord

/-- The sum of two words, or the greatest word if the sum is none. -/
def wordAdd (a b : UInt64) : UInt64 :=
  if a.toNat + b.toNat ≤ maxWord then a + b else .ofNat maxWord

lemma lt_of_le_maxWord {n : Nat} (h : n ≤ maxWord) : n < 2 ^ 64 := by
  rw [maxWord] at h
  omega

lemma toNat_wordMul (a b : UInt64) : (wordMul a b).toNat = min (a.toNat * b.toNat) maxWord := by
  rw [wordMul]
  split
  · next h =>
    rw [UInt64.toNat_mul, Nat.min_eq_left h, Nat.mod_eq_of_lt (lt_of_le_maxWord h)]
  · next h =>
    rw [Nat.min_eq_right (Nat.le_of_not_le h)]
    rfl

lemma toNat_wordAdd (a b : UInt64) : (wordAdd a b).toNat = min (a.toNat + b.toNat) maxWord := by
  rw [wordAdd]
  split
  · next h =>
    rw [UInt64.toNat_add, Nat.min_eq_left h, Nat.mod_eq_of_lt (lt_of_le_maxWord h)]
  · next h =>
    rw [Nat.min_eq_right (Nat.le_of_not_le h)]
    rfl

/-- The position of the first item of a page, computed with words that wrap around. -/
def wordStart (page size : UInt64) : UInt64 := wordMul (page - 1) size

/-- The position behind the last item of a full page, computed with words that wrap around. -/
def wordStop (page size : UInt64) : UInt64 := wordAdd (wordStart page size) size

/-- No operation on words wraps around where a window is found. -/
lemma toNat_wordStart_wordStop {page size : UInt64} (hpage : 1 ≤ page.toNat) :
    (wordStart page size).toNat = (⟨page.toNat, size.toNat⟩ : Pagination).start ∧
      (wordStop page size).toNat = (⟨page.toNat, size.toNat⟩ : Pagination).stop := by
  have hsub : (page - 1).toNat = page.toNat - 1 := by
    rw [UInt64.toNat_sub_of_le]
    · rfl
    · exact UInt64.le_iff_toNat_le.2 hpage
  have hstart : (wordStart page size).toNat =
      (⟨page.toNat, size.toNat⟩ : Pagination).start := by
    rw [wordStart, toNat_wordMul, hsub, start]
  refine ⟨hstart, ?_⟩
  rw [wordStop, toNat_wordAdd, hstart, stop]

end Pagination

/-! ## Cutting a list -/

/-- Consecutive ranges of one width make up the list as far as they reach. -/
lemma flatMap_extract {α : Type} (items : List α) (size count : Nat) :
    (List.range count).flatMap (fun k => items.extract (k * size) ((k + 1) * size)) =
      items.take (count * size) := by
  induction count with
  | zero => simp
  | succ count ih =>
    rw [List.range_succ, List.flatMap_append, ih, List.flatMap_singleton,
      List.extract_eq_take_drop, Nat.succ_mul, Nat.add_sub_cancel_left, List.take_add]

namespace Searcher

variable {s : Searcher} {similarity : Similarity} {entries : List Entry} {q : Query}
  {found : List Position}

/-! ## Positions and entries -/

lemma exists_entries (hs : s.corpus = .build similarity entries)
    (h : s.matchingPositions q = .ok found) :
    ∃ all : List Entry, found.map s.corpus.entry? = all.map some := by
  have hlive := (mem_getD_candidates hs q).2
  have hentry : ∀ p ∈ found, ∃ e, s.corpus.entry? p = some e := by
    intro p hp
    obtain ⟨e, he, -⟩ := (hlive p).1 ((matchingPositions_sublist h).subset hp)
    exact ⟨e, by rw [hs]; exact he⟩
  clear h hlive
  induction found with
  | nil => exact ⟨[], rfl⟩
  | cons p found ih =>
    obtain ⟨e, he⟩ := hentry p List.mem_cons_self
    obtain ⟨all, hall⟩ := ih fun p hp => hentry p (List.mem_cons_of_mem _ hp)
    exact ⟨e :: all, by rw [List.map_cons, List.map_cons, he, hall]⟩

lemma length_found_le (hs : s.corpus = .build similarity entries)
    (h : s.matchingPositions q = .ok found) : found.length ≤ entries.length := by
  obtain ⟨hasc, hlive⟩ := mem_getD_candidates hs q
  have hsub := matchingPositions_sublist h
  have hnodup : found.Nodup := (hasc.sublist hsub).imp Nat.ne_of_lt
  have hrange : found ⊆ List.range entries.length := by
    intro p hp
    obtain ⟨e, he, -⟩ := (hlive p).1 (hsub.subset hp)
    exact List.mem_range.2 (List.getElem?_eq_some_iff.1 he).1
  simpa using (List.subperm_of_subset hnodup hrange).length_le

/-- Positions that all have entries lose none when they are turned into entries. -/
lemma filterMap_entries {f : Position → Option Entry} {positions : List Position}
    {all : List Entry} (h : positions.map f = all.map some) : positions.filterMap f = all := by
  have hid : positions.filterMap f = (positions.map f).filterMap id := by
    rw [List.filterMap_map]
    rfl
  rw [hid, h, List.filterMap_map]
  exact List.filterMap_some

/-! ## Pages -/

/-- The pages of a size cut a list of entries into consecutive pieces. -/
structure Paginates (s : Searcher) (q : Query) (all : List Entry) (size : Nat) : Prop where
  /-- A page shows the range of indices that its number and its size give. -/
  page : ∀ page : Nat, 1 ≤ page → s.search q page size =
    .ok ⟨all.extract ((page - 1) * size) (page * size), all.length, page, size⟩
  /-- The pages one behind the other show everything in order. -/
  whole : ∃ pages, (List.range (all.length ⌈/⌉ size)).mapM
      (fun k => s.search q (k + 1 : Nat) size) = .ok pages ∧ pages.flatMap (·.entries) = all
  /-- Every page but the last is full. -/
  full : ∀ page : Nat, 1 ≤ page → page < all.length ⌈/⌉ size →
    ∃ shown, s.search q page size = .ok shown ∧ shown.entries.length = size
  /-- Every later page is empty. -/
  beyond : ∀ page : Nat, all.length ⌈/⌉ size < page →
    ∃ shown, s.search q page size = .ok shown ∧ shown.entries = []

lemma search_eq_window (h : s.matchingPositions q = .ok found) {page : Nat} (hpage : 1 ≤ page)
    (size : Nat) : s.search q page size =
      .ok ⟨((⟨page, size⟩ : Pagination).window found).filterMap s.corpus.entry?, found.length,
        page, size⟩ := by
  have hnot : ¬ (page : Int) < 1 := by omega
  have hnonneg : ¬ (size : Int) < 0 := by omega
  rw [search, Pagination.make, if_neg hnot, if_neg hnonneg]
  simp only [Except.bind, searchPage, h, Except.map, Int.toNat_natCast]

/-- Pages that show ranges of indices cut the list. -/
lemma Paginates.of_page {all : List Entry} {size : Nat} (hsize : 1 ≤ size)
    (hpage : ∀ page : Nat, 1 ≤ page → s.search q page size =
      .ok ⟨all.extract ((page - 1) * size) (page * size), all.length, page, size⟩) :
    s.Paginates q all size where
  page := hpage
  whole := by
    have hpages : (fun k : Nat => s.search q (k + 1 : Nat) size) = fun k : Nat =>
        pure ⟨all.extract (k * size) ((k + 1) * size), all.length, k + 1, size⟩ := by
      funext k
      exact hpage (k + 1) (Nat.le_add_left 1 k)
    refine ⟨_, by rw [hpages, List.mapM_pure]; rfl, ?_⟩
    rw [List.flatMap_map]
    refine (flatMap_extract all size _).trans (List.take_of_length_le ?_)
    rw [Nat.mul_comm]
    exact (ceilDiv_le_iff_le_mul hsize).1 (Nat.le_refl _)
  full page hone hlast := by
    refine ⟨_, hpage page hone, ?_⟩
    -- the page ends before the list does
    have hend : page * size < all.length := by
      rw [Nat.mul_comm]
      exact lt_of_not_ge fun hle => absurd ((ceilDiv_le_iff_le_mul hsize).2 hle) (by omega)
    have hstep : page * size = (page - 1) * size + size := by
      rw [← Nat.succ_mul, Nat.succ_eq_add_one, Nat.sub_add_cancel hone]
    rw [List.extract_eq_take_drop, List.length_take, List.length_drop]
    omega
  beyond page hlater := by
    refine ⟨_, hpage page (by omega), ?_⟩
    -- the page begins where the list has ended
    have hbegin : all.length ≤ (page - 1) * size := by
      rw [Nat.mul_comm]
      exact (ceilDiv_le_iff_le_mul hsize).1 (by omega)
    rw [List.extract_eq_take_drop, List.drop_eq_nil_of_le hbegin, List.take_nil]

/-- If a query can be answered, its pages cut the answers into consecutive pieces, whatever the
size; with a size of 0 every page shows all of them.  A corpus has no more entries than a word can
count, and no operation on words wraps around on the way. -/
theorem paginates (hs : s.corpus = .build similarity entries)
    (hwords : entries.length ≤ Pagination.maxWord) (h : s.matchingPositions q = .ok found) :
    ∃ all, s.searchAll q = .ok all ∧ found.map s.corpus.entry? = all.map some ∧
      (∀ size, 1 ≤ size → s.Paginates q all size) ∧
      (∀ page : Nat, 1 ≤ page → s.search q page 0 = .ok ⟨all, all.length, page, 0⟩) ∧
      ∀ page size : UInt64, 1 ≤ page.toNat →
        (Pagination.wordStart page size).toNat =
            (⟨page.toNat, size.toNat⟩ : Pagination).start ∧
          (Pagination.wordStop page size).toNat =
            (⟨page.toNat, size.toNat⟩ : Pagination).stop := by
  obtain ⟨all, hall⟩ := exists_entries hs h
  have hlength : found.length = all.length := by simpa using congrArg List.length hall
  have hfound : found.length ≤ Pagination.maxWord := Nat.le_trans (length_found_le hs h) hwords
  refine ⟨all, ?_, hall, ?_, ?_, fun _ _ => Pagination.toNat_wordStart_wordStop⟩
  · rw [searchAll, searchPage, h]
    show Except.ok (found.filterMap s.corpus.entry?) = _
    rw [filterMap_entries hall]
  · intro size hsize
    refine .of_page hsize fun page hpage => ?_
    have hrange : (found.extract ((page - 1) * size) (page * size)).map s.corpus.entry? =
        (all.extract ((page - 1) * size) (page * size)).map some := by
      rw [List.extract_eq_take_drop, List.extract_eq_take_drop, List.map_take, List.map_drop, hall,
        List.map_take, List.map_drop]
    rw [search_eq_window h hpage, Pagination.window_eq_extract hfound hpage hsize, hlength,
      filterMap_entries hrange]
  · intro page hpage
    have hsearch := search_eq_window h hpage 0
    rw [Pagination.window, if_pos rfl, filterMap_entries hall, hlength] at hsearch
    exact hsearch

/-- A query that every sample answers. -/
def sharedQuery : Query where
  containing := some ['国']

theorem paginates_sample :
    (build Entry.samples .sample {}).matchingPositions sharedQuery = .ok [0, 1, 2] ∧
      Entry.samples.length ≤ Pagination.maxWord ∧
      ∃ all, all.length = 3 ∧ (build Entry.samples .sample {}).Paginates sharedQuery all 2 := by
  have hfound : (build Entry.samples .sample {}).matchingPositions sharedQuery =
      .ok [0, 1, 2] := by decide +kernel
  have hwords : Entry.samples.length ≤ Pagination.maxWord := by decide
  obtain ⟨all, -, hall, hpages, -⟩ := paginates rfl hwords hfound
  have hlength : all.length = 3 := by simpa using (congrArg List.length hall).symm
  exact ⟨hfound, hwords, all, hlength, hpages 2 (by decide)⟩

end Searcher

end PinyinSearch
