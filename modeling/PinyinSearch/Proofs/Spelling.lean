import Mathlib.Data.List.Forall2
import Mathlib.Tactic.Common
import PinyinSearch.Corpus.Basic
import PinyinSearch.Proofs.Table
import PinyinSearch.Proofs.Unicode.Case
import PinyinSearch.Proofs.Words

/-!
# Spellings

A syllable is spelled in lower-case letters of ASCII.  Where rules of confusion are about such
letters alone, every syllable that a spelling may be confused with is a spelling, too
(`isSpelling_of_similarTo?`).  The texts that a spelling is equal to where case is ignored are
words.
-/

namespace PinyinSearch

namespace Text

/-- Lower-case letters of ASCII, at least one. -/
def IsSpelling (s : Text) : Prop := s ≠ [] ∧ ∀ c ∈ s, c.isLower = true

instance (s : Text) : Decidable (IsSpelling s) :=
  decidable_of_iff (s ≠ [] ∧ s.all Char.isLower = true) (and_congr_right' List.all_eq_true)

/-- A text is equal to another if case is ignored. -/
def FoldsTo : Text → Text → Prop := List.Forall₂ fun c d => d ∈ Unicode.caseVariants c

/-- What folds to a spelling is a word. -/
lemma FoldsTo.isWord {w s : Text} (h : FoldsTo w s) (hs : IsSpelling s) : IsWord w := by
  constructor
  · rintro rfl
    cases h
    exact hs.1 rfl
  · have hchars := hs.2
    clear hs
    induction h with
    | nil => exact fun c hc => absurd hc List.not_mem_nil
    | cons hcd _ ih =>
      rw [List.forall_mem_cons] at hchars ⊢
      exact ⟨Unicode.isWord_of_mem_caseVariants hchars.1 hcd, ih hchars.2⟩

/-- Among spellings each folds to itself alone. -/
lemma foldsTo_iff_eq {w s : Text} (hw : ∀ c ∈ w, c.isLower = true)
    (hs : ∀ c ∈ s, c.isLower = true) : FoldsTo w s ↔ w = s := by
  constructor
  · intro h
    induction h with
    | nil => rfl
    | cons hcd _ ih =>
      rw [List.forall_mem_cons] at hw hs
      rw [(Unicode.mem_caseVariants_lower hw.1 hs.1).1 hcd, ih hw.2 hs.2]
  · rintro rfl
    rw [FoldsTo, List.forall₂_same]
    exact fun c hc => (Unicode.mem_caseVariants_lower (hw c hc) (hw c hc)).2 rfl

/-- Spellings that fold to others one by one are the same spellings. -/
lemma forall₂_foldsTo_iff_eq {ws ss : List Text} (hws : ∀ w ∈ ws, IsSpelling w)
    (hss : ∀ s ∈ ss, IsSpelling s) : List.Forall₂ FoldsTo ws ss ↔ ws = ss := by
  constructor
  · intro h
    induction h with
    | nil => rfl
    | cons hfold _ ih =>
      rw [List.forall_mem_cons] at hws hss
      rw [(foldsTo_iff_eq hws.1.2 hss.1.2).1 hfold, ih hws.2 hss.2]
  · rintro rfl
    rw [List.forall₂_same]
    exact fun w hw => (foldsTo_iff_eq (hws w hw).2 (hws w hw).2).2 rfl

/-- What folds to texts one after the other is made of what folds to each. -/
lemma foldsTo_append {text s t : Text} :
    FoldsTo text (s ++ t) ↔ ∃ u v, FoldsTo u s ∧ FoldsTo v t ∧ text = u ++ v := by
  constructor
  · intro h
    exact ⟨_, _, List.forall₂_take_append text s t h, List.forall₂_drop_append text s t h,
      (List.take_append_drop _ text).symm⟩
  · rintro ⟨u, v, hu, hv, rfl⟩
    exact List.rel_append hu hv

/-- A space is all that folds to a space. -/
lemma foldsTo_space_cons {text s : Text} :
    FoldsTo text (' ' :: s) ↔ ∃ u, FoldsTo u s ∧ text = ' ' :: u := by
  rw [FoldsTo, List.forall₂_cons_right_iff]
  constructor
  · rintro ⟨c, u, hc, hu, rfl⟩
    exact ⟨u, hu, by rw [Unicode.mem_caseVariants_space.1 hc]⟩
  · rintro ⟨u, hu, rfl⟩
    exact ⟨' ', u, Unicode.mem_caseVariants_space.2 rfl, hu, rfl⟩

/-- What folds to words with a space before each is made of such words. -/
lemma foldsTo_spaced {text : Text} {rs : List Text} :
    FoldsTo text (spaced rs) ↔ ∃ ws, List.Forall₂ FoldsTo ws rs ∧ text = spaced ws := by
  induction rs generalizing text with
  | nil => simp [spaced, FoldsTo]
  | cons r rs ih =>
    have hspaced : ∀ w ws, spaced (w :: ws) = ' ' :: (w ++ spaced ws) := fun w ws => rfl
    rw [hspaced, foldsTo_space_cons]
    simp only [foldsTo_append, ih]
    constructor
    · rintro ⟨_, ⟨w, _, hw, ⟨ws, hws, rfl⟩, rfl⟩, rfl⟩
      exact ⟨w :: ws, .cons hw hws, rfl⟩
    · rintro ⟨_, hws, rfl⟩
      cases hws with
      | cons hw hws => exact ⟨_, ⟨_, _, hw, ⟨_, hws, rfl⟩, rfl⟩, rfl⟩

/-- What folds to joined words is joined from words that fold to them. -/
lemma foldsTo_join {text : Text} {rs : List Text} :
    FoldsTo text (join [' '] rs) ↔ ∃ ws, List.Forall₂ FoldsTo ws rs ∧ text = join [' '] ws := by
  cases rs with
  | nil => simp [join, FoldsTo]
  | cons r rs =>
    rw [join_cons, foldsTo_append]
    simp only [foldsTo_spaced]
    constructor
    · rintro ⟨w, _, hw, ⟨ws, hws, rfl⟩, rfl⟩
      exact ⟨w :: ws, .cons hw hws, join_cons.symm⟩
    · rintro ⟨_, hws, rfl⟩
      cases hws with
      | cons hw hws => exact ⟨_, _, hw, ⟨_, hws, rfl⟩, join_cons⟩

lemma IsSpelling.foldsTo_self {s : Text} (hs : IsSpelling s) : FoldsTo s s :=
  (foldsTo_iff_eq hs.2 hs.2).2 rfl

lemma IsSpelling.isWord {s : Text} (hs : IsSpelling s) : IsWord s :=
  hs.foldsTo_self.isWord hs

/-- A text without upper-case letters stays as it is in lower case. -/
lemma lowerAscii_of_noUpper {s : Text} (hs : ∀ c ∈ s, c.isUpper = false) : lowerAscii s = s := by
  have hmap : s.map Char.toLower = s.map id :=
    List.map_congr_left fun c hc => Unicode.toLower_of_not_isUpper (hs c hc)
  rw [lowerAscii, hmap, List.map_id]

/-- A spelling stays as it is in lower case. -/
lemma lowerAscii_of_lower {s : Text} (hs : ∀ c ∈ s, c.isLower = true) : lowerAscii s = s :=
  lowerAscii_of_noUpper fun c hc => Unicode.not_isUpper_of_isLower (hs c hc)

end Text

/-! ## Rules of confusion -/

namespace Confusions

/-- The two sounds that a rule is about, if it is well-formed. -/
def ruleSides? (rule : Text) : Option (Text × Text) :=
  match rule.cutAt '>' with
  | some cut => sides? (some cut)
  | none => sides? (rule.cutAt '=')

/-- A rule is about sounds in lower-case letters of ASCII. -/
def IsLettered (rule : Text) : Prop :=
  ∀ sides ∈ ruleSides? rule, Text.IsSpelling sides.1 ∧ Text.IsSpelling sides.2

instance (rule : Text) : Decidable (IsLettered rule) :=
  inferInstanceAs (Decidable (∀ sides ∈ ruleSides? rule, _ ∧ _))

/-- All sounds that some sound may be confused with are spellings. -/
def Spelled (t : Confusions) : Prop := ∀ sound, ∀ a ∈ t.alternatives sound, Text.IsSpelling a

/-- A rule leads from one sound to another: from its first side to its second and, unless it is cut
at `>`, back. -/
def Leads (rule sound x : Text) : Prop :=
  ∃ sides ∈ ruleSides? rule,
    sound = sides.1.lowerAscii ∧ x = sides.2.lowerAscii ∨
      rule.cutAt '>' = none ∧ sound = sides.2.lowerAscii ∧ x = sides.1.lowerAscii

variable {t : Confusions} {a b sound x rule : Text}

lemma mem_alternatives_addOneWay : x ∈ (t.addOneWay a b).alternatives sound ↔
    x ∈ t.alternatives sound ∨ sound = a.lowerAscii ∧ x = b.lowerAscii := by
  rw [alternatives, alternatives, addOneWay]
  by_cases hsound : a.lowerAscii = sound
  · subst hsound
    rw [Table.get?_alter_self, Option.getD_some, FirstSeen.mem_ofList, List.mem_append,
      List.mem_singleton]
    simp
  · rw [Table.get?_alter_of_ne _ _ hsound]
    simp [Ne.symm hsound]

/-- A rule adds what it leads to. -/
lemma mem_alternatives_addRule :
    x ∈ (t.addRule rule).alternatives sound ↔ x ∈ t.alternatives sound ∨ Leads rule sound x := by
  rw [addRule, Leads, ruleSides?]
  cases hcut : rule.cutAt '>' with
  | some cut => cases hsides : sides? (some cut) <;> simp [mem_alternatives_addOneWay, hsides]
  | none =>
    cases hsides : sides? (rule.cutAt '=') <;>
      simp [addBothWays, mem_alternatives_addOneWay, or_assoc]

/-- A sound may be confused with what some rule leads to from it. -/
theorem mem_alternatives_ofRules {rules : List Text} :
    x ∈ (ofRules rules).alternatives sound ↔ ∃ rule ∈ rules, Leads rule sound x := by
  suffices hfold : ∀ t : Confusions, x ∈ (rules.foldl addRule t).alternatives sound ↔
      x ∈ t.alternatives sound ∨ ∃ rule ∈ rules, Leads rule sound x by
    rw [ofRules, hfold]
    simp [alternatives]
  induction rules with
  | nil => simp
  | cons rule rules ih =>
    intro t
    rw [List.foldl_cons, ih, mem_alternatives_addRule, or_assoc]
    simp

/-- Rules about letters lead to spellings. -/
lemma spelled_ofRules {rules : List Text} (h : ∀ rule ∈ rules, IsLettered rule) :
    (ofRules rules).Spelled := by
  intro sound x hx
  obtain ⟨rule, hrule, sides, hsides, hleads⟩ := mem_alternatives_ofRules.1 hx
  obtain ⟨hfirst, hsecond⟩ := h rule hrule sides hsides
  rcases hleads with ⟨-, rfl⟩ | ⟨-, -, rfl⟩
  · rwa [Text.lowerAscii_of_lower hsecond.2]
  · rwa [Text.lowerAscii_of_lower hfirst.2]

end Confusions

/-! ## Confusable syllables -/

/-- All initials and finals that some sound may be confused with are spellings. -/
structure Similarity.Spelled (t : Similarity) : Prop where
  initials : t.initials.Spelled
  finals : t.finals.Spelled

/-- Rules about letters lead to spellings. -/
lemma Similarity.spelled_ofRules {initialRules finalRules : List Text}
    (h : ∀ rule ∈ initialRules ++ finalRules, Confusions.IsLettered rule) :
    (Similarity.ofRules initialRules finalRules).Spelled := by
  rw [List.forall_mem_append] at h
  exact ⟨Confusions.spelled_ofRules h.1, Confusions.spelled_ofRules h.2⟩

lemma Text.IsSpelling.append {s t : Text} (hs : IsSpelling s) (ht : ∀ c ∈ t, c.isLower = true) :
    IsSpelling (s ++ t) := by
  refine ⟨List.append_ne_nil_of_left_ne_nil hs.1 t, fun c hc => ?_⟩
  exact (List.mem_append.1 hc).elim (hs.2 c) (ht c)

lemma Text.IsSpelling.prepend {s t : Text} (hs : ∀ c ∈ s, c.isLower = true) (ht : IsSpelling t) :
    IsSpelling (s ++ t) := by
  refine ⟨List.append_ne_nil_of_right_ne_nil s ht.1, fun c hc => ?_⟩
  exact (List.mem_append.1 hc).elim (hs c) (ht.2 c)

/-- A syllable may be confused with what replacing its initial, its final or both makes of it. -/
lemma Similarity.mem_similarSyllables {t : Similarity} {s x initial final : Text}
    (h : Syllable.split s.trim.lowerAscii = (initial, final)) :
    x ∈ t.similarSyllables s ↔ x ≠ s.trim.lowerAscii ∧
      ((∃ i ∈ t.initials.alternatives initial, x = i ++ final) ∨
        ∃ f ∈ t.finals.alternatives final,
          x = initial ++ f ∨ ∃ i ∈ t.initials.alternatives initial, x = i ++ f) := by
  simp only [similarSyllables, h, List.mem_filter, Ascending.mem_ofList, List.mem_append,
    List.mem_map, List.mem_flatMap, List.mem_cons, decide_eq_true_eq, eq_comm (b := x)]
  exact and_comm

/-- What letters may be confused with are spellings. -/
lemma Similarity.Spelled.isSpelling {t : Similarity} (ht : t.Spelled) {s a : Text}
    (hs : ∀ c ∈ s, c.isLower = true) (ha : a ∈ t.similarSyllables s) : Text.IsSpelling a := by
  have htrim : ∀ c ∈ s.trim, c.isLower = true := fun c hc => hs c (Text.mem_of_mem_trim hc)
  have hparts := Syllable.splitWith_append Syllable.initials s.trim
  rw [← hparts, List.forall_mem_append] at htrim
  have hsplit : Syllable.split s.trim.lowerAscii =
      Syllable.splitWith Syllable.initials s.trim := by
    rw [Text.lowerAscii_of_lower fun c hc => hs c (Text.mem_of_mem_trim hc), Syllable.split]
  rcases ((mem_similarSyllables hsplit).1 ha).2 with ⟨i, hi, rfl⟩ | ⟨f, hf, rfl | ⟨i, hi, rfl⟩⟩
  · exact (ht.initials _ i hi).append htrim.2
  · exact .prepend htrim.1 (ht.finals _ f hf)
  · exact (ht.initials _ i hi).append (ht.finals _ f hf).2

/-- A corpus has the confusions of its syllables as they follow from the rules. -/
lemma Corpus.mem_similarSyllables {similarity : Similarity} {entries : List Entry} {s a : Text}
    {similar : List Text} (h : (Corpus.build similarity entries).similarTo? s = some similar)
    (ha : a ∈ similar) : a ∈ similarity.similarSyllables s := by
  have hrow := Table.mem_of_get? h
  rw [Corpus.toCorpusTables_build, CorpusTables.build, similarBySyllable,
    List.mem_filterMap] at hrow
  obtain ⟨s', _, hrow⟩ := hrow
  split at hrow
  · cases hrow
  · cases hrow
    exact ha

/-- In a corpus whose rules are about letters, spellings may be confused with spellings alone. -/
lemma Corpus.isSpelling_of_similarTo? {similarity : Similarity} {entries : List Entry}
    (ht : similarity.Spelled) {s a : Text} {similar : List Text} (hs : Text.IsSpelling s)
    (h : (Corpus.build similarity entries).similarTo? s = some similar) (ha : a ∈ similar) :
    Text.IsSpelling a :=
  ht.isSpelling hs.2 (Corpus.mem_similarSyllables h ha)

/-! ## Samples -/

/-- The sounds of three characters, two of which may be confused, without their tones. -/
def Romanizer.sample : Romanizer where
  readings
    | '中' => [⟨"zhong".toList, "zhong".toList, .neutral⟩]
    | '宗' => [⟨"zong".toList, "zong".toList, .neutral⟩]
    | '国' => [⟨"guo".toList, "guo".toList, .neutral⟩]
    | _ => []

/-- Entries of these characters. -/
def Entry.samples : List Entry :=
  [.ofText .sample .word "中国".toList, .ofText .sample .idiom "国".toList,
    .ofText .sample .word "宗国".toList]

end PinyinSearch
