import PinyinSearch.Proofs.Romanizer.Alignment
import PinyinSearch.Proofs.Search.EntryOrder

/-!
# Entries by their text

A text is looked up among the entries that begin with its first character.  Since these are all
such entries in their order, what is found is the first entry of the corpus that has the text, and
nothing is found only if no entry has it (`lookup_first`).
-/

namespace PinyinSearch

/-- An entry is the first with a text: no entry before its position has the text. -/
structure Entry.IsFirstWith (entries : List Entry) (text : Text) (p : Position) (e : Entry) :
    Prop where
  entry : entries[p]? = some e
  text_eq : e.text = text
  first : ∀ q < p, ∀ d, entries[q]? = some d → d.text ≠ text

/-- Looking at one entry after the other finds the first with a text. -/
lemma Entry.find?_eq_some_iff {entries : List Entry} {text : Text} {e : Entry} :
    entries.find? (·.text = text) = some e ↔ ∃ p, IsFirstWith entries text p e := by
  rw [List.find?_eq_some_iff_getElem]
  constructor
  · rintro ⟨htext, p, hp, rfl, hfirst⟩
    refine ⟨p, List.getElem?_eq_getElem hp, of_decide_eq_true htext, fun q hq d hd => ?_⟩
    obtain ⟨hlt, rfl⟩ := List.getElem?_eq_some_iff.1 hd
    simpa using hfirst q hq
  · rintro ⟨p, hentry, htext, hfirst⟩
    obtain ⟨hp, rfl⟩ := List.getElem?_eq_some_iff.1 hentry
    refine ⟨decide_eq_true htext, p, hp, rfl, fun q hq => ?_⟩
    simpa using hfirst q hq _ (List.getElem?_eq_getElem (Nat.lt_trans hq hp))

namespace Searcher

variable {s : Searcher} {similarity : Similarity} {entries : List Entry}

/-- The entries that begin with a character are looked at in the order of the corpus. -/
lemma filterMap_byFirst (hs : s.corpus = .build similarity entries) (c : Char) :
    (s.corpus.byFirst.positions c).filterMap s.corpus.entry? =
      entries.filter (·.first? = some c) := by
  rw [hs]
  exact (filterMap_of_locates (locates_positions fun _ => Option.mem_toList)).trans <|
    List.filter_congr fun e _ => by simp

/-- A look-up does what looking at every entry does. -/
lemma lookup_eq_find? (hs : s.corpus = .build similarity entries)
    (htexts : ∀ e ∈ entries, e.text ≠ []) (raw : Text) :
    s.lookup raw = entries.find? (·.text = normalize raw) := by
  rw [lookup]
  cases htext : normalize raw with
  | nil =>
    symm
    rw [List.find?_eq_none]
    intro e he
    simpa using htexts e he
  | cons c rest =>
    -- an entry with the text is not lost among those that begin otherwise
    have hfirst : ∀ e : Entry, e.text = c :: rest → e.first? = some c := by
      intro e he
      rw [Entry.first?, he, List.head?_cons]
    change ((s.corpus.byFirst.positions c).filterMap s.corpus.entry?).find? _ = _
    rw [filterMap_byFirst hs, List.find?_filter]
    congr 1
    funext e
    rw [decide_eq_decide]
    simpa using hfirst e

/-- What an entry was made from finds an entry with the same text. -/
theorem exists_lookup_of_make {r : Romanizer} {k : Category} {raw : Text} {e : Entry}
    (hs : s.corpus = .build similarity entries) (htexts : ∀ e ∈ entries, e.text ≠ [])
    (he : e ∈ entries) (h : Entry.make r k raw = .ok e) :
    ∃ d, s.lookup raw = some d ∧ d.text = e.text := by
  have htext : e.text = normalize raw := by
    rw [Entry.text, Entry.sound_of_make h, Romanizer.text_romanize]
  rw [lookup_eq_find? hs htexts, htext]
  cases hfound : entries.find? (·.text = normalize raw) with
  | none =>
    rw [List.find?_eq_none] at hfound
    exact absurd (decide_eq_true htext) (hfound e he)
  | some d =>
    have hd := List.find?_some hfound
    exact ⟨d, rfl, of_decide_eq_true hd⟩

/-- What is found for a text is the first entry with it, and nothing is found only if no entry has
it. -/
theorem lookup_first (hs : s.corpus = .build similarity entries)
    (htexts : ∀ e ∈ entries, e.text ≠ []) (raw : Text) :
    (∀ e, s.lookup raw = some e ↔ ∃ p, Entry.IsFirstWith entries (normalize raw) p e) ∧
      (s.lookup raw = none ↔ ∀ e ∈ entries, e.text ≠ normalize raw) := by
  rw [lookup_eq_find? hs htexts]
  refine ⟨fun e => Entry.find?_eq_some_iff, ?_⟩
  rw [List.find?_eq_none]
  simp only [decide_eq_true_eq, ne_eq]

/-- Two entries with one text, of which the first is found; a third text has no entry. -/
theorem lookup_first_sample :
    let entries : List Entry := [.ofText .sample .word ['a'], .ofText .sample .idiom ['b', '1'],
      .ofText .sample .word ['b', '1']]
    let s : Searcher := build entries .sample {}
    (∀ e ∈ entries, e.text ≠ []) ∧
      s.lookup [' ', 'b', '1'] = some (.ofText .sample .idiom ['b', '1']) ∧
      s.lookup ['b'] = none := by
  intro entries s
  have htexts : ∀ e ∈ entries, e.text ≠ [] := by decide
  have hnormal : normalize [' ', 'b', '1'] = ['b', '1'] ∧ normalize ['b'] = ['b'] := by decide
  refine ⟨htexts, ((lookup_first rfl htexts _).1 _).2 ⟨1, ?_⟩, (lookup_first rfl htexts _).2.2 ?_⟩
  · rw [hnormal.1]
    exact ⟨rfl, rfl, by decide⟩
  · rw [hnormal.2]
    decide

end Searcher

end PinyinSearch
