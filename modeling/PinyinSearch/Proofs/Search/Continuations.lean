import PinyinSearch.Proofs.Search.EntryOrder

/-!
# Continuations

The entries that may go on from a character are looked for with a query for the character.  Any
character but white space is asked for, and the query is answered by the entries that begin with it,
in the order of the corpus.  White space is not asked for, so that nothing is, and the answer is the
whole corpus (`continuations_eq`), although no entry that is made begins with white space
(`continuations_eq_filter_iff`).
-/

namespace PinyinSearch

namespace Query

variable {c : Char}

/-- A character other than white space is asked for. -/
lemma distinctChars_singleton (hc : Unicode.isBlank c = false) : distinctChars [c] = some [c] := by
  simp [distinctChars, hc, FirstSeen.ofList]

/-- White space leaves the query open. -/
lemma distinctChars_blank (hc : Unicode.isBlank c = true) : distinctChars [c] = none := by
  simp [distinctChars, hc]

end Query

/-- An entry that is made does not begin with white space. -/
lemma Entry.not_isBlank_of_make {r : Romanizer} {k : Category} {raw : Text} {e : Entry} {c : Char}
    (h : Entry.make r k raw = .ok e) (hc : c ∈ e.first?) : Unicode.isBlank c = false := by
  rw [make] at h
  split at h
  · cases h
  · cases h
    rw [first?, text_ofText] at hc
    exact Text.not_isBlank_of_mem_head?_trim hc

namespace Searcher

variable {s : Searcher} {similarity : Similarity} {entries : List Entry} {c : Char} {e : Entry}

/-- The query for continuations asks for the first character alone, and only if it is no white
space. -/
lemma answers_withFirstIn : s.Answers (Query.withFirstIn {} [c]) e ↔
    Unicode.isBlank c = true ∨ e.first? = some c := by
  cases hc : Unicode.isBlank c with
  | true =>
    rw [Query.withFirstIn, Query.distinctChars_blank hc]
    exact iff_of_true ⟨by constructor <;> simp, by simp⟩ (.inl rfl)
  | false =>
    rw [Query.withFirstIn, Query.distinctChars_singleton hc]
    constructor
    · intro h
      obtain ⟨d, hd, hfirst⟩ := h.firstIn [c] rfl
      rw [List.mem_singleton] at hd
      exact .inr (hd ▸ hfirst)
    · intro h
      have hfirst : e.first? = some c := h.resolve_left Bool.false_ne_true
      exact ⟨by constructor <;> simp [hfirst], by simp⟩

/-- The continuations of a character are the entries that begin with it, in the order of the corpus,
and those of white space are all entries. -/
theorem continuations_eq (hs : s.corpus = .build similarity entries) (c : Char) :
    s.continuations c = entries.filter fun e => Unicode.isBlank c || e.first? = some c := by
  classical
  cases hfound : s.searchAll (Query.withFirstIn {} [c]) with
  | ok all =>
    have hall : s.continuations c = all := by
      delta continuations
      simp only [hfound]
    rw [hall, searchAll_eq_filter hs hfound]
    refine List.filter_congr fun e _ => ?_
    rw [Bool.eq_iff_iff, decide_eq_true_eq, answers_withFirstIn, Bool.or_eq_true,
      decide_eq_true_eq]
  | error err =>
    obtain ⟨pattern, hpattern, -⟩ := (searchAll_eq_error_iff hs).1 hfound
    have hnone : (Query.withFirstIn {} [c]).pattern = none := rfl
    rw [hnone] at hpattern
    cases hpattern

/-- Among entries that are made, the continuations of a character are those that begin with it
exactly if it is no white space, or if there are none to find. -/
theorem continuations_eq_filter_iff (hs : s.corpus = .build similarity entries)
    (hmade : ∀ e ∈ entries, ∃ r k raw, Entry.make r k raw = .ok e) (c : Char) :
    s.continuations c = entries.filter (·.first? = some c) ↔
      Unicode.isBlank c = false ∨ entries = [] := by
  rw [continuations_eq hs]
  cases hc : Unicode.isBlank c with
  | false => simp
  | true =>
    have hnone : entries.filter (·.first? = some c) = [] := by
      rw [List.filter_eq_nil_iff]
      intro e he hfirst
      obtain ⟨r, k, raw, hmake⟩ := hmade e he
      have hsolid := Entry.not_isBlank_of_make hmake (of_decide_eq_true hfirst)
      exact absurd (hc.symm.trans hsolid) Bool.noConfusion
    rw [hnone]
    simp

/-- From a space go on all entries, although none begins with one. -/
theorem continuations_eq_filter_iff_sample :
    let entries : List Entry := [.ofText .sample .word ['b', 'a'], .ofText .sample .idiom ['a']]
    let searcher := build entries .sample {}
    (∀ e ∈ entries, ∃ r k raw, Entry.make r k raw = .ok e) ∧
      searcher.continuations 'a' = entries.filter (·.first? = some 'a') ∧
      searcher.continuations ' ' ≠ entries.filter (·.first? = some ' ') := by
  intro entries searcher
  have hmade : ∀ e ∈ entries, ∃ r k raw, Entry.make r k raw = .ok e := by
    simp only [entries, List.forall_mem_cons]
    exact ⟨⟨.sample, .word, ['b', 'a', ' '], rfl⟩, ⟨.sample, .idiom, ['a'], rfl⟩, by simp⟩
  have hcorpus : searcher.corpus = .build _ entries := rfl
  refine ⟨hmade, (continuations_eq_filter_iff hcorpus hmade 'a').2 (.inl (by decide)), ?_⟩
  intro hspace
  obtain hsolid | hnone := (continuations_eq_filter_iff hcorpus hmade ' ').1 hspace
  · exact absurd hsolid (by decide)
  · exact List.cons_ne_nil _ _ hnone

end Searcher

end PinyinSearch
