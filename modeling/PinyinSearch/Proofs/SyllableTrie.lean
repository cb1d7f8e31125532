import Mathlib.Data.List.Basic
import Mathlib.Tactic.Common
import PinyinSearch.SyllableTrie

/-!
# The trie as a set of words

A trie answers every question by the set of its words alone.  An insertion adds its word to the set
and its beginnings to the beginnings (`contains_insert`, `hasWordFrom_insert`), and so a trie of a
list of words holds these and no others, in whatever order and however often they come
(`contains_ofWords`, `hasWordFrom_ofWords`).

A walk tries the ways to cut a text and keeps those that cut off a word (`walkAt_eq`).  What it
gives back is the word kept at a node; that this is the word cut off is due to the insertions, which
keep every word where its own letters lead to (`TrieNode.IsExact`).  The last word of a walk within
a bound is the longest (`longestAt?_spec`).  All of it together is that a trie is the set of its
words (`isSetOf_ofWords`).
-/

namespace PinyinSearch

/-! ## Nodes -/

namespace TrieNode

variable {t : TrieNode} {v w : Text}

lemma descend?_nil : t.descend? [] = some t := by cases t; rfl

lemma descend?_cons {c : Char} : t.descend? (c :: w) = (t.child? c).bind (·.descend? w) := by
  cases t; rfl

lemma isSome_descend?_empty : (empty.descend? v).isSome = true ↔ v = [] := by
  cases v with
  | nil => simp [descend?_nil]
  | cons c v => simp [descend?_cons, child?, children, empty]

lemma isSome_descend?_getD_child? {c : Char} :
    (((t.child? c).getD empty).descend? v).isSome = true ↔
      v = [] ∨ (t.descend? (c :: v)).isSome = true := by
  rw [descend?_cons]
  cases t.child? c with
  | none => simpa using isSome_descend?_empty
  | some child =>
    rw [Option.getD_some, Option.bind_some]
    refine ⟨.inr, ?_⟩
    rintro (rfl | h)
    · rw [descend?_nil]
      rfl
    · exact h

/-- The letters on the way to a word that is kept lead somewhere. -/
lemma isSome_descend?_store {letters : Text} :
    ((t.store w letters).descend? v).isSome = true ↔
      v <+: letters ∨ (t.descend? v).isSome = true := by
  induction letters generalizing t v with
  | nil =>
    cases v with
    | nil => simp [descend?_nil]
    | cons d v =>
      rw [descend?_cons, descend?_cons]
      exact (or_iff_right (by simp)).symm
  | cons c letters ih =>
    cases v with
    | nil => simp [descend?_nil]
    | cons d v =>
      by_cases h : c = d
      · subst h
        rw [descend?_cons, child?_store_cons_self, Option.bind_some, ih,
          isSome_descend?_getD_child?, List.cons_prefix_cons]
        have hnil : v = [] → v <+: letters := fun h => h ▸ List.nil_prefix
        tauto
      · rw [descend?_cons, child?_store_cons_of_ne _ _ _ h, ← descend?_cons,
          List.cons_prefix_cons]
        simp [Ne.symm h]

end TrieNode

namespace SyllableTrie

variable {t u : SyllableTrie} {v w : Text}

/-! ## Words -/

/-- What is kept where the letters of a word lead to is this word. -/
lemma wordAt?_root (t : SyllableTrie) (w : Text) :
    t.root.wordAt? w = if t.contains w then some w else none := by
  rw [contains]
  cases h : t.root.wordAt? w with
  | none => rfl
  | some word => rw [t.isExact w word h]; rfl

lemma contains_empty : empty.contains v = false := by
  rw [contains, empty, TrieNode.wordAt?_empty]
  rfl

/-- An insertion adds its word and keeps the others. -/
theorem contains_insert : (t.insert w).contains v = true ↔ v = w ∨ t.contains v = true := by
  rw [contains, insert, TrieNode.wordAt?_store]
  split
  · next h => simp [h]
  · next h => simp [h, contains]

/-- A trie of words holds these and no others. -/
theorem contains_ofWords {words : List Text} : (ofWords words).contains w = true ↔ w ∈ words := by
  suffices h : ∀ t : SyllableTrie, (words.foldl insert t).contains w = true ↔
      w ∈ words ∨ t.contains w = true by
    rw [ofWords, h, contains_empty]
    simp
  induction words with
  | nil => simp
  | cons word words ih =>
    intro t
    rw [List.foldl_cons, ih, contains_insert, List.mem_cons]
    tauto

/-! ## Beginnings -/

lemma hasWordFrom_empty : empty.hasWordFrom v = true ↔ v = [] := TrieNode.isSome_descend?_empty

/-- An insertion adds the beginnings of its word and keeps the others. -/
theorem hasWordFrom_insert :
    (t.insert w).hasWordFrom v = true ↔ v <+: w ∨ t.hasWordFrom v = true :=
  TrieNode.isSome_descend?_store

/-- In a trie of words the beginnings are those of the words, and the empty text. -/
theorem hasWordFrom_ofWords {words : List Text} :
    (ofWords words).hasWordFrom v = true ↔ v = [] ∨ ∃ word ∈ words, v <+: word := by
  suffices h : ∀ t : SyllableTrie, (words.foldl insert t).hasWordFrom v = true ↔
      (∃ word ∈ words, v <+: word) ∨ t.hasWordFrom v = true by
    rw [ofWords, h, hasWordFrom_empty, or_comm]
  induction words with
  | nil => simp
  | cons word words ih =>
    intro t
    simp only [List.foldl_cons, ih, hasWordFrom_insert, List.mem_cons, exists_eq_or_imp]
    exact or_left_comm.trans or_assoc.symm

/-! ## Cuts -/

/-- The ways to cut a text behind one letter or more, shortest first. -/
def cuts : Text → List (Text × Text)
  | [] => []
  | c :: rest => ([c], rest) :: (cuts rest).map fun (word, after) => (c :: word, after)

/-- The cuts of a text are its divisions into one letter or more and the rest. -/
lemma mem_cuts {s word rest : Text} : (word, rest) ∈ cuts s ↔ word ≠ [] ∧ word ++ rest = s := by
  induction s generalizing word rest with
  | nil => simp +contextual [cuts]
  | cons c s ih =>
    simp only [cuts, List.mem_cons, List.mem_map, Prod.exists, Prod.mk.injEq, ih]
    constructor
    · rintro (⟨rfl, rfl⟩ | ⟨word, rest, ⟨_, rfl⟩, rfl, rfl⟩)
      · exact ⟨List.cons_ne_nil _ _, rfl⟩
      · exact ⟨List.cons_ne_nil _ _, rfl⟩
    · rintro ⟨hne, happend⟩
      obtain ⟨d, word, rfl⟩ := List.exists_cons_of_ne_nil hne
      obtain ⟨rfl, rfl⟩ := List.cons.inj happend
      cases word with
      | nil => exact .inl ⟨rfl, rfl⟩
      | cons e word => exact .inr ⟨e :: word, rest, ⟨List.cons_ne_nil _ _, rfl⟩, rfl, rfl⟩

/-- Each cut takes more than those before it. -/
lemma pairwise_cuts (s : Text) : (cuts s).Pairwise fun a b => a.1.length < b.1.length := by
  induction s with
  | nil => exact .nil
  | cons c s ih =>
    refine List.pairwise_cons.2 ⟨?_, ?_⟩
    · rintro ⟨word, rest⟩ hmem
      obtain ⟨⟨word, rest⟩, hcut, rfl, rfl⟩ := List.mem_map.1 hmem
      have hne := (mem_cuts.1 hcut).1
      simpa using List.length_pos_iff.2 hne
    · exact ih.map _ fun a b h => Nat.succ_lt_succ h

/-! ## Walks -/

variable {s : Text} {start stop n : Nat}

/-- A walk from a node passes the words that are kept where the front parts of the text lead to. -/
lemma walk_eq_filterMap (t : TrieNode) (position : Nat) (s : Text) :
    t.walk position s = (cuts s).filterMap fun (front, _) =>
      (t.wordAt? front).map (position + front.length, ·) := by
  induction s generalizing t position with
  | nil => rfl
  | cons c rest ih =>
    have hfront : ∀ front : Text, position + (c :: front).length = position + 1 + front.length := by
      intro front
      rw [List.length_cons]
      omega
    rw [TrieNode.walk, cuts, List.filterMap_cons, List.filterMap_map]
    simp only [Function.comp_def, TrieNode.wordAt?_cons, hfront]
    cases h : t.child? c with
    | none => simp
    | some child =>
      simp only [Option.bind_some, TrieNode.wordAt?_nil, ih]
      cases child.word? <;> rfl

/-- A walk keeps the cuts that cut off a word. -/
theorem walkAt_eq (t : SyllableTrie) (s : Text) (start : Nat) : t.walkAt s start =
    ((cuts (s.drop start)).filter fun (word, _) => t.contains word).map
      fun (word, _) => (start + word.length, word) := by
  rw [walkAt, walk_eq_filterMap, ← List.filterMap_eq_map, List.filterMap_filter]
  refine List.filterMap_congr fun (word, _) _ => ?_
  dsimp only
  rw [wordAt?_root]
  split <;> rfl

/-- A walk finds the words that begin where it does. -/
lemma mem_walkAt : (stop, w) ∈ t.walkAt s start ↔
    w ≠ [] ∧ start + w.length = stop ∧ w ++ s.drop stop = s.drop start ∧ t.contains w = true := by
  simp only [walkAt_eq, List.mem_map, List.mem_filter, Prod.exists, Prod.mk.injEq, mem_cuts]
  constructor
  · rintro ⟨w, rest, ⟨⟨hne, happend⟩, hw⟩, rfl, rfl⟩
    have hrest : s.drop (start + w.length) = rest := by
      rw [← List.drop_drop, ← happend, List.drop_left]
    exact ⟨hne, rfl, by rw [hrest, happend], hw⟩
  · rintro ⟨hne, hstop, happend, hw⟩
    exact ⟨w, s.drop stop, ⟨⟨hne, happend⟩, hw⟩, hstop, rfl⟩

/-- A walk finds longer and longer words. -/
lemma pairwise_walkAt (t : SyllableTrie) (s : Text) (start : Nat) :
    (t.walkAt s start).Pairwise fun a b => a.1 < b.1 := by
  rw [walkAt_eq]
  exact ((pairwise_cuts _).filter _).map _ fun _ _ h => Nat.add_lt_add_left h start

/-! ## Longest words -/

/-- The words that may be found from a position. -/
lemma mem_filter_walkAt :
    (stop, w) ∈ (t.walkAt s start).filter (fun (stop, _) => stop - start ≤ n) ↔
      (w ≠ [] ∧ start + w.length = stop ∧ w ++ s.drop stop = s.drop start ∧
        t.contains w = true) ∧ w.length ≤ n := by
  simp only [List.mem_filter, mem_walkAt, decide_eq_true_eq]
  refine and_congr_right fun h => ?_
  rw [← h.2.1, Nat.add_sub_cancel_left]

/-- The longest word is a word that begins where it was looked for, and no other within the bound is
longer. -/
theorem longestAt?_spec (h : t.longestAt? s start n = some (stop, w)) :
    ((w ≠ [] ∧ start + w.length = stop ∧ w ++ s.drop stop = s.drop start ∧ t.contains w = true) ∧
      w.length ≤ n) ∧
      ∀ v, v <+: s.drop start → t.contains v = true → v.length ≤ n → v.length ≤ w.length := by
  have hfound := mem_filter_walkAt.1 (List.mem_of_getLast? h)
  refine ⟨hfound, ?_⟩
  rintro v ⟨after, happend⟩ hv hlength
  rcases eq_or_ne v [] with rfl | hne
  · exact Nat.zero_le _
  have hafter : s.drop (start + v.length) = after := by
    rw [← List.drop_drop, ← happend, List.drop_left]
  have hmem := mem_filter_walkAt.2 ⟨⟨hne, rfl, by rw [hafter, happend], hv⟩, hlength⟩
  have hasc : ((t.walkAt s start).filter fun (stop, _) => stop - start ≤ n).Pairwise
      fun a b => a.1 < b.1 := (pairwise_walkAt t s start).filter _
  -- the word found is the last of the list, and the list ascends
  have hle : start + v.length ≤ stop := by
    obtain ⟨before, hbefore⟩ := List.getLast?_eq_some_iff.1 h
    rw [hbefore] at hmem hasc
    rcases List.mem_append.1 hmem with hmem | hmem
    · exact Nat.le_of_lt ((List.pairwise_append.1 hasc).2.2 _ hmem _ (List.mem_singleton.2 rfl))
    · exact Nat.le_of_eq (congrArg Prod.fst (List.mem_singleton.1 hmem))
  have hstop := hfound.1.2.1
  omega

/-- No word is found if all that begin there are too long. -/
theorem longestAt?_eq_none_iff : t.longestAt? s start n = none ↔
    ∀ v, v ≠ [] → v <+: s.drop start → t.contains v = true → n < v.length := by
  rw [longestAt?, List.getLast?_eq_none_iff, List.eq_nil_iff_forall_not_mem]
  constructor
  · rintro h v hne ⟨after, happend⟩ hv
    by_contra hlength
    have hafter : s.drop (start + v.length) = after := by
      rw [← List.drop_drop, ← happend, List.drop_left]
    exact h (start + v.length, v) (mem_filter_walkAt.2
      ⟨⟨hne, rfl, by rw [hafter, happend], hv⟩, Nat.le_of_not_lt hlength⟩)
  · rintro h ⟨stop, v⟩ hmem
    obtain ⟨⟨hne, -, happend, hv⟩, hlength⟩ := mem_filter_walkAt.1 hmem
    exact absurd (h v hne ⟨_, happend⟩ hv) (Nat.not_lt.2 hlength)

/-- Tries of the same words find the same longest words. -/
theorem longestAt?_congr (h : ∀ word, t.contains word = u.contains word) (s : Text)
    (start maxLength : Nat) : t.longestAt? s start maxLength = u.longestAt? s start maxLength := by
  simp only [longestAt?, walkAt_eq, h]

/-- The order in which words are inserted, and how often, makes no difference to what a trie
holds. -/
theorem contains_ofWords_congr {words others : List Text} (h : ∀ word, word ∈ words ↔ word ∈ others)
    (word : Text) : (ofWords words).contains word = (ofWords others).contains word := by
  rw [Bool.eq_iff_iff, contains_ofWords, contains_ofWords, h]

theorem hasWordFrom_ofWords_congr {words others : List Text}
    (h : ∀ word, word ∈ words ↔ word ∈ others) (v : Text) :
    (ofWords words).hasWordFrom v = (ofWords others).hasWordFrom v := by
  rw [Bool.eq_iff_iff, hasWordFrom_ofWords, hasWordFrom_ofWords]
  simp only [h]

/-! ## Positions -/

/-- A word of a list, not the empty one, stands in a text between two positions. -/
structure StandsAt (words : List Text) (s : Text) (start stop : Nat) (v : Text) : Prop where
  mem : v ∈ words
  ne_nil : v ≠ []
  stop_le : stop ≤ s.length
  extract : s.extract start stop = v

variable {words : List Text}

lemma StandsAt.start_lt (h : StandsAt words s start stop v) : start < stop := by
  have hlength := List.length_pos_iff.2 h.ne_nil
  rw [← h.extract, List.extract_eq_take_drop, List.length_take] at hlength
  omega

/-- What stands at a position is cut off there. -/
lemma standsAt_iff : StandsAt words s start stop v ↔
    v ∈ words ∧ v ≠ [] ∧ start + v.length = stop ∧ v ++ s.drop stop = s.drop start := by
  constructor
  · intro h
    have hlt := h.start_lt
    have hextract := h.extract
    rw [List.extract_eq_take_drop] at hextract
    have hlength : start + v.length = stop := by
      rw [← hextract, List.length_take, List.length_drop]
      have := h.stop_le
      omega
    refine ⟨h.mem, h.ne_nil, hlength, ?_⟩
    have hdrop : s.drop stop = (s.drop start).drop (stop - start) := by
      rw [List.drop_drop, Nat.add_sub_of_le (Nat.le_of_lt hlt)]
    rw [← hextract, hdrop, List.take_append_drop]
  · rintro ⟨hmem, hne, rfl, happend⟩
    have hpos := List.length_pos_iff.2 hne
    have hlength := congrArg List.length happend
    rw [List.length_append, List.length_drop, List.length_drop] at hlength
    refine ⟨hmem, hne, by omega, ?_⟩
    rw [List.extract_eq_take_drop, Nat.add_sub_cancel_left, ← happend, List.take_left]

/-- In a trie of words, a walk from a position finds those that stand there. -/
lemma mem_walkAt_ofWords :
    (stop, v) ∈ (ofWords words).walkAt s start ↔ StandsAt words s start stop v := by
  rw [mem_walkAt, standsAt_iff, contains_ofWords]
  tauto

/-- A trie answers as the set of some words, whatever it is asked. -/
structure IsSetOf (t : SyllableTrie) (words : List Text) : Prop where
  contains : ∀ w, t.contains w = true ↔ w ∈ words
  hasWordFrom : ∀ w, t.hasWordFrom w = true ↔ w = [] ∨ ∃ word ∈ words, w <+: word
  mem_walk : ∀ s start stop v, (stop, v) ∈ t.walkAt s start ↔ StandsAt words s start stop v
  pairwise_walk : ∀ s start, (t.walkAt s start).Pairwise fun a b => a.1 < b.1
  last : ∀ s start n, t.longestAt? s start n =
    ((t.walkAt s start).filter fun found => found.1 - start ≤ n).getLast?
  none : ∀ s start n, t.longestAt? s start n = .none ↔
    ∀ stop v, StandsAt words s start stop v → n < stop - start
  beyond : ∀ s start n, s.length ≤ start → t.walkAt s start = [] ∧ t.longestAt? s start n = .none

/-- A trie into which words are inserted, in whatever order and however often, is the set of these
words. -/
theorem isSetOf_ofWords (words : List Text) : (ofWords words).IsSetOf words where
  contains _ := contains_ofWords
  hasWordFrom _ := hasWordFrom_ofWords
  mem_walk _ _ _ _ := mem_walkAt_ofWords
  pairwise_walk := pairwise_walkAt _
  last _ _ _ := rfl
  none s start n := by
    rw [longestAt?, List.getLast?_eq_none_iff, List.filter_eq_nil_iff, Prod.forall]
    simp only [mem_walkAt_ofWords, decide_eq_true_eq, Nat.not_le]
  beyond s start n hstart := by
    have hdrop : s.drop start = [] := List.drop_of_length_le hstart
    rw [longestAt?, walkAt, hdrop]
    exact ⟨rfl, rfl⟩

end SyllableTrie

end PinyinSearch
