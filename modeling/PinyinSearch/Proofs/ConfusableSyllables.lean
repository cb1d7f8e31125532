import Mathlib.Data.List.Infix
import PinyinSearch.Proofs.Corpus.Reordering
import PinyinSearch.Proofs.Spelling

/-!
# Confusable syllables

Rules of confusion are texts, and the syllables that a syllable may be confused with follow from
what the texts say.  `Says` reads a rule by the place of its first sign, `SplitsLongest` splits a
syllable by the longest initial of the inventory, and the confusable syllables are what replacing
initials and finals by what the rules say makes of the parts
(`similarSyllables_of_rules`).
-/

namespace PinyinSearch

/-! ## Cutting a text -/

namespace Text

variable {sep : Char} {s before after : Text}

/-- A text that lacks the separator cannot be cut. -/
lemma cutAt_eq_none_iff : cutAt sep s = none ↔ sep ∉ s := by
  induction s with
  | nil => simp [cutAt]
  | cons c rest ih =>
    rw [cutAt, List.mem_cons, not_or]
    by_cases hc : c = sep
    · simp [hc]
    · rw [if_neg hc, Option.map_eq_none_iff, ih]
      exact (and_iff_right (Ne.symm hc)).symm

/-- A text is cut at its first separator. -/
lemma cutAt_eq_some_iff :
    cutAt sep s = some (before, after) ↔ s = before ++ sep :: after ∧ sep ∉ before := by
  constructor
  · intro h
    refine ⟨eq_of_cutAt h, ?_⟩
    induction s generalizing before with
    | nil => cases h
    | cons c rest ih =>
      rw [cutAt] at h
      split at h
      · cases h
        exact List.not_mem_nil
      · next hc =>
        obtain ⟨⟨b, a⟩, hrest, hcut⟩ := Option.map_eq_some_iff.1 h
        cases hcut
        exact List.not_mem_cons_of_ne_of_not_mem (Ne.symm hc) (ih hrest)
  · rintro ⟨rfl, hfirst⟩
    induction before with
    | nil => simp [cutAt]
    | cons c before ih =>
      rw [List.mem_cons, not_or] at hfirst
      rw [List.cons_append, cutAt, if_neg (Ne.symm hfirst.1), ih hfirst.2, Option.map_some]

end Text

/-! ## Rules -/

namespace Confusions

/-- What a rule says of two sounds: it is cut at its first `>` and leads from the left to the right,
or it has no `>`, is cut at its first `=` and leads both ways.  White space around the sides and
their case do not count, and a side may not be empty. -/
inductive Says (rule : Text) : Text → Text → Prop
  | oneWay {left right : Text} : rule = left ++ '>' :: right → '>' ∉ left →
      left.trim ≠ [] → right.trim ≠ [] → Says rule left.trim.lowerAscii right.trim.lowerAscii
  | there {left right : Text} : '>' ∉ rule → rule = left ++ '=' :: right → '=' ∉ left →
      left.trim ≠ [] → right.trim ≠ [] → Says rule left.trim.lowerAscii right.trim.lowerAscii
  | back {left right : Text} : '>' ∉ rule → rule = left ++ '=' :: right → '=' ∉ left →
      left.trim ≠ [] → right.trim ≠ [] → Says rule right.trim.lowerAscii left.trim.lowerAscii

/-- What some rule of a list says. -/
def Said (rules : List Text) (sound x : Text) : Prop := ∃ rule ∈ rules, Says rule sound x

variable {rule sound x left right : Text}

lemma sides?_some {sides : Text × Text} : sides? (some (left, right)) = some sides ↔
    left.trim ≠ [] ∧ right.trim ≠ [] ∧ sides = (left.trim, right.trim) := by
  rw [sides?, Option.bind_some, Option.ite_none_right_eq_some, Option.some.injEq, and_assoc,
    eq_comm (b := sides)]

/-- A rule that is cut at `>` says where its sides lead. -/
lemma says_of_cutAt (hcut : rule.cutAt '>' = some (left, right)) :
    Says rule sound x ↔ left.trim ≠ [] ∧ right.trim ≠ [] ∧
      sound = left.trim.lowerAscii ∧ x = right.trim.lowerAscii := by
  obtain ⟨hrule, hfirst⟩ := Text.cutAt_eq_some_iff.1 hcut
  have hmem : '>' ∈ rule := hrule ▸ List.mem_append_right left List.mem_cons_self
  constructor
  · intro h
    cases h with
    | @oneWay l r hl hfree hleft hright =>
      have hsame : some (l, r) = some (left, right) :=
        (Text.cutAt_eq_some_iff.2 ⟨hl, hfree⟩).symm.trans hcut
      cases hsame
      exact ⟨hleft, hright, rfl, rfl⟩
    | there hfree => exact absurd hmem hfree
    | back hfree => exact absurd hmem hfree
  · rintro ⟨hleft, hright, rfl, rfl⟩
    exact .oneWay hrule hfirst hleft hright

/-- A rule without `>` says where its sides lead when it is cut at `=`, and the way back. -/
lemma says_of_cutAt_eq (hfree : '>' ∉ rule) : Says rule sound x ↔
    ∃ left right, rule.cutAt '=' = some (left, right) ∧ left.trim ≠ [] ∧ right.trim ≠ [] ∧
      (sound = left.trim.lowerAscii ∧ x = right.trim.lowerAscii ∨
        sound = right.trim.lowerAscii ∧ x = left.trim.lowerAscii) := by
  constructor
  · intro h
    cases h with
    | oneWay hrule =>
      exact absurd (hrule ▸ List.mem_append_right _ List.mem_cons_self) hfree
    | there _ hrule hfirst hleft hright =>
      exact ⟨_, _, Text.cutAt_eq_some_iff.2 ⟨hrule, hfirst⟩, hleft, hright, .inl ⟨rfl, rfl⟩⟩
    | back _ hrule hfirst hleft hright =>
      exact ⟨_, _, Text.cutAt_eq_some_iff.2 ⟨hrule, hfirst⟩, hleft, hright, .inr ⟨rfl, rfl⟩⟩
  · rintro ⟨left, right, hcut, hleft, hright, hways⟩
    obtain ⟨hrule, hfirst⟩ := Text.cutAt_eq_some_iff.1 hcut
    rcases hways with ⟨rfl, rfl⟩ | ⟨rfl, rfl⟩
    · exact .there hfree hrule hfirst hleft hright
    · exact .back hfree hrule hfirst hleft hright

/-- A rule leads where its text says. -/
lemma leads_iff : Leads rule sound x ↔ Says rule sound x := by
  rw [Leads, ruleSides?]
  cases hcut : rule.cutAt '>' with
  | some cut =>
    obtain ⟨left, right⟩ := cut
    rw [says_of_cutAt hcut]
    simp only [Option.mem_def, sides?_some, reduceCtorEq, false_and, or_false]
    constructor
    · rintro ⟨_, ⟨hleft, hright, rfl⟩, hsound⟩
      exact ⟨hleft, hright, hsound⟩
    · rintro ⟨hleft, hright, hsound⟩
      exact ⟨_, ⟨hleft, hright, rfl⟩, hsound⟩
  | none =>
    rw [says_of_cutAt_eq (Text.cutAt_eq_none_iff.1 hcut)]
    simp only [Option.mem_def, true_and]
    constructor
    · rintro ⟨sides, hsides, hways⟩
      cases hback : rule.cutAt '=' with
      | none =>
        rw [hback] at hsides
        cases hsides
      | some cut =>
        obtain ⟨left, right⟩ := cut
        rw [hback] at hsides
        obtain ⟨hleft, hright, rfl⟩ := sides?_some.1 hsides
        exact ⟨left, right, rfl, hleft, hright, hways⟩
    · rintro ⟨left, right, hback, hleft, hright, hways⟩
      rw [hback]
      exact ⟨_, sides?_some.2 ⟨hleft, hright, rfl⟩, hways⟩

/-- A sound may be confused with what the rules say. -/
lemma mem_alternatives_iff_said {rules : List Text} :
    x ∈ (ofRules rules).alternatives sound ↔ Said rules sound x := by
  rw [mem_alternatives_ofRules, Said]
  simp only [leads_iff]

end Confusions

/-! ## Splitting a syllable -/

namespace Syllable

variable {s i f i' f' : Text}

/-- A syllable is its initial followed by its final.  The initial is the longest of the inventory
that begins the syllable, and empty where none does. -/
structure SplitsLongest (s initial final : Text) : Prop where
  append : initial ++ final = s
  inventory : initial = [] ∨ initial ∈ initials
  longest : ∀ i ∈ initials, i <+: s → i.length ≤ initial.length

/-- No initial stands in the inventory after a shorter one. -/
lemma pairwise_initials : initials.Pairwise fun a b => b.length ≤ a.length := by decide

/-- A syllable is split by the longest initial, since the inventory has the longer ones first. -/
lemma splitsLongest_split (s : Text) : SplitsLongest s (split s).1 (split s).2 := by
  refine ⟨splitWith_append initials s, ?_, ?_⟩ <;> rw [split, splitWith] <;> split
  · next initial h => exact .inr (List.mem_of_find?_eq_some h)
  · exact .inl rfl
  · next initial h =>
    obtain ⟨-, before, after, hall, hbefore⟩ := List.find?_eq_some_iff_append.1 h
    have hlater := (List.pairwise_append.1 (hall ▸ pairwise_initials)).2.1
    intro i hi hprefix
    rw [hall, List.mem_append, List.mem_cons] at hi
    rcases hi with hi | rfl | hi
    · have hnot := hbefore i hi
      rw [List.isPrefixOf_iff_prefix.2 hprefix] at hnot
      cases hnot
    · exact Nat.le_refl _
    · exact List.rel_of_pairwise_cons hlater hi
  · next h =>
    intro i hi hprefix
    exact absurd (List.isPrefixOf_iff_prefix.2 hprefix) (List.find?_eq_none.1 h i hi)

/-- There is one way to split a syllable by its longest initial. -/
lemma SplitsLongest.unique (h : SplitsLongest s i f) (h' : SplitsLongest s i' f') :
    i = i' ∧ f = f' := by
  have hlength : ∀ {i f i' f'}, SplitsLongest s i f → SplitsLongest s i' f' →
      i.length ≤ i'.length := by
    rintro i f i' f' ⟨happend, rfl | hmem, -⟩ ⟨-, -, hlongest⟩
    · exact Nat.zero_le _
    · exact hlongest i hmem ⟨f, happend⟩
  exact List.append_inj (h.append.trans h'.append.symm)
    (Nat.le_antisymm (hlength h h') (hlength h' h))

lemma split_eq_iff : split s = (i, f) ↔ SplitsLongest s i f := by
  constructor
  · intro h
    simpa only [h] using splitsLongest_split s
  · intro h
    obtain ⟨hi, hf⟩ := (splitsLongest_split s).unique h
    exact Prod.ext hi hf

end Syllable

/-! ## Confusable syllables -/

/-- A syllable is made of another by replacing its initial, its final or both by what rules say. -/
def Similarity.Replaces (initialRules finalRules : List Text) (s x : Text) : Prop :=
  ∃ i f i' f', Syllable.SplitsLongest s i f ∧ (i' = i ∨ Confusions.Said initialRules i i') ∧
    (f' = f ∨ Confusions.Said finalRules f f') ∧ x = i' ++ f'

/-- The confusable syllables are those that the rules make of a syllable, other than itself. -/
lemma Similarity.mem_similarSyllables_iff_replaces {initialRules finalRules : List Text}
    {s x : Text} : x ∈ (Similarity.ofRules initialRules finalRules).similarSyllables s ↔
      x ≠ s.trim.lowerAscii ∧ Replaces initialRules finalRules s.trim.lowerAscii x := by
  obtain ⟨⟨i, f⟩, hsplit⟩ : ∃ parts, Syllable.split s.trim.lowerAscii = parts := ⟨_, rfl⟩
  have hlongest := Syllable.split_eq_iff.1 hsplit
  rw [mem_similarSyllables hsplit]
  refine and_congr_right fun hne => ?_
  simp only [ofRules, Confusions.mem_alternatives_iff_said]
  constructor
  · rintro (⟨i', hi, rfl⟩ | ⟨f', hf, rfl | ⟨i', hi, rfl⟩⟩)
    · exact ⟨i, f, i', f, hlongest, .inr hi, .inl rfl, rfl⟩
    · exact ⟨i, f, i, f', hlongest, .inl rfl, .inr hf, rfl⟩
    · exact ⟨i, f, i', f', hlongest, .inr hi, .inr hf, rfl⟩
  · rintro ⟨j, g, i', f', hsplits, hi, hf, rfl⟩
    obtain ⟨rfl, rfl⟩ := hsplits.unique hlongest
    rcases hi with rfl | hi <;> rcases hf with rfl | hf
    · exact absurd hlongest.append hne
    · exact .inr ⟨f', hf, .inl rfl⟩
    · exact .inl ⟨i', hi, rfl⟩
    · exact .inr ⟨f', hf, .inr ⟨i', hi, rfl⟩⟩

/-- A corpus answers with the confusable syllables of the syllables that it knows. -/
lemma Corpus.similarTo?_eq_some_iff {similarity : Similarity} {entries : List Entry} {s : Text}
    {similar : List Text} : (Corpus.build similarity entries).similarTo? s = some similar ↔
      (Corpus.build similarity entries).knows s = true ∧ similar ≠ [] ∧
        similar = similarity.similarSyllables s := by
  have hrows := CorpusTables.hasSingleRows_build similarity entries
  rw [similarTo?, knows, toCorpusTables_build, Table.get?_eq_some_iff hrows.similarBySyllable,
    Table.contains_iff, CorpusTables.build, similarBySyllable, List.mem_filterMap]
  constructor
  · rintro ⟨s', hs', hrow⟩
    split at hrow
    · cases hrow
    · next hne =>
      cases hrow
      exact ⟨hs', hne, rfl⟩
  · rintro ⟨hs, hne, rfl⟩
    refine ⟨s, hs, ?_⟩
    split
    · next hnil => exact absurd hnil hne
    · rfl

/-- The syllables that a syllable may be confused with are, in ascending order, those that replacing
its initial, its final or both by what the rules say makes of it, other than itself.  A corpus
answers with them for each known syllable that has some, and for no other. -/
theorem similarSyllables_of_rules (initialRules finalRules : List Text) :
    (∀ s, ((Similarity.ofRules initialRules finalRules).similarSyllables s).Pairwise (· < ·) ∧
      ∀ x, x ∈ (Similarity.ofRules initialRules finalRules).similarSyllables s ↔
        x ≠ s.trim.lowerAscii ∧
          Similarity.Replaces initialRules finalRules s.trim.lowerAscii x) ∧
    ∀ entries s similar,
      (Corpus.build (.ofRules initialRules finalRules) entries).similarTo? s = some similar ↔
        (Corpus.build (.ofRules initialRules finalRules) entries).knows s = true ∧ similar ≠ [] ∧
          similar = (Similarity.ofRules initialRules finalRules).similarSyllables s := by
  refine ⟨fun s => ⟨?_, fun x => Similarity.mem_similarSyllables_iff_replaces⟩,
    fun entries s similar => Corpus.similarTo?_eq_some_iff⟩
  exact (Ascending.pairwise_ofList _).filter _

/-- The final, the initial and both replaced. -/
example : (Similarity.ofRules ["z=zh".toList] ["an > ANG".toList]).similarSyllables
    "zhan".toList = ["zan", "zang", "zhang"].map String.toList := by decide

end PinyinSearch
