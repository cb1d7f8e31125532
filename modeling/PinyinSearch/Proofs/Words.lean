import Mathlib.Tactic.Common
import PinyinSearch.Text
import PinyinSearch.Unicode.Word

/-!
# Words of a text

A plain pronunciation is made of words with single spaces between them.  The words can be read back
from it: where some of them, joined by spaces, stand in it without a word character directly before
or behind, they are neighbours among the words that it was made of (`exists_of_join_eq`).
-/

namespace PinyinSearch

namespace Text

/-- A word: one word character or more. -/
def IsWord (w : Text) : Prop := w ≠ [] ∧ ∀ c ∈ w, Unicode.isWord c = true

/-- Words with a space before each. -/
def spaced (ws : List Text) : Text := ws.flatMap (' ' :: ·)

/-- Words with a space behind each. -/
def leading (ws : List Text) : Text := ws.flatMap (· ++ [' '])

/-- No word character stands before a place. -/
def NoWordBefore (s : Text) : Prop := ∀ c ∈ s.getLast?, Unicode.isWord c = false

/-- No word character stands behind a place. -/
def NoWordAfter (s : Text) : Prop := ∀ c ∈ s.head?, Unicode.isWord c = false

/-! ## Trimming -/

lemma mem_of_mem_trim {s : Text} {c : Char} (h : c ∈ trim s) : c ∈ s := by
  rw [trim, List.mem_reverse] at h
  have h' := (List.dropWhile_sublist _).mem h
  rw [List.mem_reverse] at h'
  exact (List.dropWhile_sublist _).mem h'

/-- What is trimmed does not begin with white space. -/
lemma not_isBlank_of_mem_head?_trim {s : Text} {c : Char} (h : c ∈ (trim s).head?) :
    Unicode.isBlank c = false := by
  have hprefix : trim s <+: s.dropWhile Unicode.isBlank := by
    rw [trim, ← List.reverse_suffix, List.reverse_reverse]
    exact List.dropWhile_suffix _
  have hhead : c ∈ (s.dropWhile Unicode.isBlank).head? := by
    obtain ⟨t, ht⟩ := hprefix
    rw [← ht, List.head?_append, h]
    exact rfl
  have hfirst := List.head?_dropWhile_not Unicode.isBlank s
  rwa [hhead] at hfirst

/-- A text with no white space at its ends is not trimmed. -/
lemma trim_of_ends {s : Text} (hfirst : ∀ c ∈ s.head?, Unicode.isBlank c = false)
    (hlast : ∀ c ∈ s.getLast?, Unicode.isBlank c = false) : trim s = s := by
  have hkeep : ∀ cs : Text, (∀ c ∈ cs.head?, Unicode.isBlank c = false) →
      cs.dropWhile Unicode.isBlank = cs := fun cs hcs => by
    cases cs with
    | nil => rfl
    | cons c cs =>
      rw [List.dropWhile_cons_of_neg]
      exact Bool.eq_false_iff.1 (hcs c rfl)
  rw [← List.head?_reverse] at hlast
  rw [trim, hkeep s hfirst, hkeep s.reverse hlast, List.reverse_reverse]

/-- A text without white space is not trimmed. -/
lemma trim_of_noBlank {s : Text} (hs : ∀ c ∈ s, Unicode.isBlank c = false) : trim s = s :=
  trim_of_ends (fun c hc => hs c (List.mem_of_mem_head? hc))
    fun c hc => hs c (List.mem_of_getLast? hc)

/-! ## Joining texts -/

lemma join_cons_of_ne_nil {sep w : Text} {ws : List Text} (hws : ws ≠ []) :
    join sep (w :: ws) = w ++ sep ++ join sep ws := by
  obtain ⟨v, ws, rfl⟩ := List.exists_cons_of_ne_nil hws
  exact List.intercalate_cons_cons

lemma join_singleton {sep w : Text} : join sep [w] = w := List.intercalate_singleton

lemma join_append_join {sep : Text} {us vs : List Text} (hus : us ≠ []) (hvs : vs ≠ []) :
    join sep (us ++ vs) = join sep us ++ sep ++ join sep vs := by
  induction us with
  | nil => exact absurd rfl hus
  | cons u us ih =>
    cases us with
    | nil => rw [List.singleton_append, join_cons_of_ne_nil hvs, join_singleton]
    | cons v us =>
      have hne : v :: us ≠ [] := List.cons_ne_nil v us
      rw [List.cons_append, join_cons_of_ne_nil (List.append_ne_nil_of_left_ne_nil hne vs), ih hne,
        join_cons_of_ne_nil hne]
      simp only [List.append_assoc]

/-- Without a separator the texts stand one directly behind the other. -/
lemma join_nil_left (parts : List Text) : join [] parts = parts.flatten := by
  induction parts with
  | nil => rfl
  | cons part parts ih =>
    cases parts with
    | nil => rw [join_singleton, List.flatten_singleton]
    | cons next parts =>
      rw [join_cons_of_ne_nil (List.cons_ne_nil next parts), ih, List.append_nil]
      rfl

/-- Texts without white space are read back as words from the text with spaces between them. -/
lemma words_join {parts : List Text}
    (hparts : ∀ part ∈ parts, part ≠ [] ∧ ∀ c ∈ part, Unicode.isBlank c = false) :
    words (join [' '] parts) = parts := by
  induction parts with
  | nil => rfl
  | cons part parts ih =>
    rw [List.forall_mem_cons] at hparts
    obtain ⟨⟨hne, hsolid⟩, hparts⟩ := hparts
    have hkept : ∀ rest : List Text,
        (part :: rest).filter (! ·.isEmpty) = part :: rest.filter (! ·.isEmpty) :=
      fun rest => List.filter_cons_of_pos (by simpa using hne)
    cases parts with
    | nil =>
      rw [join_singleton, words, List.splitOnP_eq_singleton hsolid, hkept, List.filter_nil]
    | cons next parts =>
      rw [join_cons_of_ne_nil (List.cons_ne_nil next parts), List.append_assoc,
        List.singleton_append, words,
        List.splitOnP_append_cons_of_forall_mem hsolid ' ' (by decide), hkept]
      exact congrArg (part :: ·) (ih hparts)

/-! ## Joining words -/

lemma join_cons {w : Text} {ws : List Text} : join [' '] (w :: ws) = w ++ spaced ws := by
  induction ws generalizing w with
  | nil => simp [join, spaced]
  | cons v ws ih =>
    rw [join, List.intercalate_cons_cons, ← join, ih]
    simp [spaced]

lemma spaced_append {us vs : List Text} : spaced (us ++ vs) = spaced us ++ spaced vs :=
  List.flatMap_append

/-- What holds of the separator and of the texts holds of the joined text. -/
lemma forall_mem_join {P : Char → Prop} {sep : Text} {parts : List Text} (hsep : ∀ c ∈ sep, P c)
    (hparts : ∀ part ∈ parts, ∀ c ∈ part, P c) : ∀ c ∈ join sep parts, P c := by
  induction parts with
  | nil => exact fun c hc => absurd hc List.not_mem_nil
  | cons part parts ih =>
    rw [List.forall_mem_cons] at hparts
    cases parts with
    | nil => simpa [join] using hparts.1
    | cons next parts =>
      rw [join, List.intercalate_cons_cons, ← join, List.forall_mem_append,
        List.forall_mem_append]
      exact ⟨⟨hparts.1, hsep⟩, ih hparts.2⟩

/-- Words behind others are joined with a space before each. -/
lemma join_append {us vs : List Text} (hus : us ≠ []) :
    join [' '] (us ++ vs) = join [' '] us ++ spaced vs := by
  obtain ⟨u, us, rfl⟩ := List.exists_cons_of_ne_nil hus
  rw [List.cons_append, join_cons, join_cons, spaced_append, List.append_assoc]

/-- Words before others are joined with a space behind each. -/
lemma leading_append_join {us vs : List Text} (hvs : vs ≠ []) :
    join [' '] (us ++ vs) = leading us ++ join [' '] vs := by
  induction us with
  | nil => rfl
  | cons u us ih =>
    obtain ⟨v, ws, hws⟩ := List.exists_cons_of_ne_nil (List.append_ne_nil_of_right_ne_nil us hvs)
    have hjoin : join [' '] (u :: (us ++ vs)) = u ++ ' ' :: join [' '] (us ++ vs) := by
      rw [hws, join_cons, join_cons]
      simp [spaced]
    rw [List.cons_append, hjoin, ih]
    simp [leading]

/-- Joined words begin with a word character. -/
lemma exists_join_eq_cons {ws : List Text} (hne : ws ≠ []) (hws : ∀ w ∈ ws, IsWord w) :
    ∃ c s, join [' '] ws = c :: s ∧ Unicode.isWord c = true := by
  obtain ⟨w, ws, rfl⟩ := List.exists_cons_of_ne_nil hne
  obtain ⟨hw, hchars⟩ := hws w List.mem_cons_self
  obtain ⟨c, w, rfl⟩ := List.exists_cons_of_ne_nil hw
  exact ⟨c, w ++ spaced ws, join_cons, hchars c List.mem_cons_self⟩

/-- Joined words end with a word character. -/
lemma exists_join_eq_concat {ws : List Text} (hne : ws ≠ []) (hws : ∀ w ∈ ws, IsWord w) :
    ∃ s c, join [' '] ws = s ++ [c] ∧ Unicode.isWord c = true := by
  obtain ⟨us, w, rfl⟩ := List.eq_nil_or_concat ws |>.resolve_left hne
  rw [List.concat_eq_append] at hws ⊢
  obtain ⟨hw, hchars⟩ := hws w (by simp)
  obtain ⟨t, c, rfl⟩ := List.eq_nil_or_concat w |>.resolve_left hw
  refine ⟨leading us ++ t, c, (leading_append_join (by simp)).trans ?_, hchars c (by simp)⟩
  simp [join]

/-! ## Ends of words -/

lemma isWord_space : Unicode.isWord ' ' = false := by decide

lemma noWordBefore_nil : NoWordBefore [] := by simp [NoWordBefore]

lemma noWordAfter_nil : NoWordAfter [] := by simp [NoWordAfter]

lemma noWordBefore_space (s : Text) : NoWordBefore (s ++ [' ']) := by
  simp [NoWordBefore, isWord_space]

lemma noWordAfter_space {s : Text} : NoWordAfter (' ' :: s) := by
  simp [NoWordAfter, isWord_space]

lemma noWordAfter_spaced (ws : List Text) {s : Text} (hs : NoWordAfter s) :
    NoWordAfter (spaced ws ++ s) := by
  cases ws with
  | nil => exact hs
  | cons w ws => exact noWordAfter_space

/-- Words with a space behind each end with a space, if there are any. -/
lemma noWordBefore_leading (ws : List Text) {s : Text} (hs : NoWordBefore s) :
    NoWordBefore (s ++ leading ws) := by
  rcases List.eq_nil_or_concat ws with rfl | ⟨ws, w, rfl⟩
  · simpa [leading] using hs
  · rw [leading, List.concat_eq_append, List.flatMap_append, List.flatMap_singleton,
      ← List.append_assoc, ← List.append_assoc]
    exact noWordBefore_space _

/-- The first word of a text is as long as possible. -/
lemma append_inj_of_noWordAfter {w u s t : Text} (hw : ∀ c ∈ w, Unicode.isWord c = true)
    (hu : ∀ c ∈ u, Unicode.isWord c = true) (hs : NoWordAfter s) (ht : NoWordAfter t)
    (h : w ++ s = u ++ t) : w = u ∧ s = t := by
  induction w generalizing u with
  | nil =>
    cases u with
    | nil => exact ⟨rfl, h⟩
    | cons c u =>
      have hc := hu c List.mem_cons_self
      rw [List.nil_append] at h
      rw [h] at hs
      exact absurd hc (Bool.eq_false_iff.1 (hs c rfl))
  | cons c w ih =>
    have hc := hw c List.mem_cons_self
    cases u with
    | nil =>
      rw [List.nil_append] at h
      rw [← h] at ht
      exact absurd hc (Bool.eq_false_iff.1 (ht c rfl))
    | cons d u =>
      rw [List.cons_append, List.cons_append, List.cons.injEq] at h
      obtain ⟨rfl, h⟩ := h
      rw [List.forall_mem_cons] at hw hu
      obtain ⟨rfl, rfl⟩ := ih hw.2 hu.2 h
      exact ⟨rfl, rfl⟩

/-- Joined words that begin a text without breaking a word off are its first words. -/
lemma exists_of_join_prefix {b ws : List Text} {u w rest : Text} (hb : ∀ v ∈ u :: b, IsWord v)
    (hws : ∀ v ∈ w :: ws, IsWord v) (hrest : NoWordAfter rest)
    (h : w ++ spaced ws = u ++ spaced b ++ rest) :
    w = u ∧ ∃ c, ws = b ++ c ∧ rest = spaced c := by
  have hw := (hws w List.mem_cons_self).2
  have hu := (hb u List.mem_cons_self).2
  induction b generalizing u w ws with
  | nil =>
    have hstop : NoWordAfter (spaced ws) := by
      simpa using noWordAfter_spaced ws noWordAfter_nil
    obtain ⟨rfl, rfl⟩ := append_inj_of_noWordAfter hw hu hstop hrest (by simpa [spaced] using h)
    exact ⟨rfl, ws, rfl, rfl⟩
  | cons v b ih =>
    have hstop : NoWordAfter (spaced ws) := by
      simpa using noWordAfter_spaced ws noWordAfter_nil
    have hcut : w ++ spaced ws = u ++ ' ' :: (v ++ spaced b ++ rest) := by
      rw [h]
      simp [spaced]
    obtain ⟨rfl, htail⟩ := append_inj_of_noWordAfter hw hu hstop noWordAfter_space hcut
    cases ws with
    | nil => cases htail
    | cons x ws =>
      have hx : x ++ spaced ws = v ++ spaced b ++ rest := by simpa [spaced] using htail
      rw [List.forall_mem_cons] at hb hws
      obtain ⟨rfl, c, rfl, hc⟩ := ih hb.2 hws.2 hx (hws.2 x List.mem_cons_self).2
        (hb.2 v List.mem_cons_self).2
      exact ⟨rfl, c, rfl, hc⟩

/-- Word characters end amid a word. -/
lemma not_noWordBefore {s : Text} (hne : s ≠ []) (hs : ∀ c ∈ s, Unicode.isWord c = true) :
    ¬NoWordBefore s := by
  intro h
  have hlast := hs _ (List.getLast_mem hne)
  rw [h _ (List.getLast?_eq_some_getLast hne)] at hlast
  exact Bool.false_ne_true hlast

/-- Joined words end amid a word. -/
lemma not_noWordBefore_join {ws : List Text} {before : Text} (hne : ws ≠ [])
    (hws : ∀ w ∈ ws, IsWord w) : ¬NoWordBefore (before ++ join [' '] ws) := by
  obtain ⟨t, c, hjoin, hc⟩ := exists_join_eq_concat hne hws
  intro h
  have hlast := h c (by simp [hjoin])
  rw [hc] at hlast
  exact Bool.false_ne_true hlast.symm

lemma noWordBefore_of_append {s t : Text} (h : NoWordBefore (s ++ t)) : NoWordBefore t := by
  intro c hc
  apply h c
  rw [List.getLast?_append, Option.mem_def.1 hc]
  rfl

/-- Joined words that stand in a text without breaking a word off are neighbours among its words. -/
lemma exists_of_join_eq {b ws : List Text} {before after : Text} (hb : ∀ v ∈ b, IsWord v)
    (hne : b ≠ []) (hws : ∀ v ∈ ws, IsWord v) (hbefore : NoWordBefore before)
    (hafter : NoWordAfter after) (h : join [' '] ws = before ++ join [' '] b ++ after) :
    ∃ a c, ws = a ++ b ++ c ∧ before = leading a ∧ after = spaced c := by
  obtain ⟨u, b, rfl⟩ := List.exists_cons_of_ne_nil hne
  -- the words that the text before reaches beyond are set aside one by one
  induction ws generalizing before with
  | nil =>
    have hu := (hb u List.mem_cons_self).1
    rw [join_cons] at h
    simp [join, hu] at h
  | cons w ws ih =>
    rw [join_cons, List.append_assoc] at h
    have hw := (hws w List.mem_cons_self).2
    rcases List.append_eq_append_iff.1 h with ⟨s, rfl, hs⟩ | ⟨s, rfl, hs⟩
    · cases s with
      | nil =>
        -- the text before is the first word alone, without the space behind it
        rw [List.append_nil] at hbefore
        exact absurd hbefore (not_noWordBefore (hws w List.mem_cons_self).1 hw)
      | cons c s =>
        -- the text before reaches beyond the first word
        cases ws with
        | nil => cases hs
        | cons x ws =>
          obtain ⟨rfl, hx⟩ : ' ' = c ∧ x ++ spaced ws = s ++ (join [' '] (u :: b) ++ after) := by
            simpa [spaced] using hs
          have hs' : NoWordBefore s :=
            noWordBefore_of_append (s := w ++ [' ']) (by simpa using hbefore)
          rw [List.forall_mem_cons] at hws
          rw [← join_cons, ← List.append_assoc] at hx
          obtain ⟨a, c, ha, rfl, hc⟩ := ih hws.2 hs' hx
          exact ⟨w :: a, c, by rw [ha]; rfl, by simp [leading], hc⟩
    · rcases eq_or_ne before [] with rfl | hne
      · rw [List.nil_append] at h
        rw [join_cons] at h
        obtain ⟨rfl, c, rfl, hc⟩ := exists_of_join_prefix hb hws hafter h
        exact ⟨[], c, rfl, rfl, hc⟩
      · -- the text before ends amid the first word
        have hchars : ∀ c ∈ before, Unicode.isWord c = true :=
          fun c hc => hw c (List.mem_append_left s hc)
        exact absurd hbefore (not_noWordBefore hne hchars)

/-- Words with a space behind each are nothing if there are none. -/
lemma leading_eq_nil_iff {ws : List Text} : leading ws = [] ↔ ws = [] := by
  cases ws with
  | nil => exact iff_of_true rfl rfl
  | cons w ws => simp [leading]

/-- A word does not stand before a space where words with a space before each begin. -/
lemma not_isWord_of_spaced_eq {ws : List Text} {mid after : Text} (h : spaced ws = mid ++ after) :
    ¬IsWord mid := by
  rintro ⟨hne, hchars⟩
  obtain ⟨c, mid, rfl⟩ := List.exists_cons_of_ne_nil hne
  cases ws with
  | nil => cases h
  | cons w ws =>
    obtain rfl : ' ' = c := (List.cons.inj h).1
    exact absurd (hchars ' ' List.mem_cons_self) (Bool.eq_false_iff.1 isWord_space)

/-- A word that begins joined texts begins the first of them. -/
lemma prefix_of_append_spaced_eq {w mid after : Text} {ws : List Text} (hmid : IsWord mid)
    (h : w ++ spaced ws = mid ++ after) : mid <+: w := by
  rcases List.append_eq_append_iff.1 h with ⟨s, rfl, hs⟩ | ⟨s, rfl, hs⟩
  · -- the word reaches beyond the first text, which is followed by a space
    cases s with
    | nil => simp
    | cons c s =>
      have hrest : IsWord (c :: s) :=
        ⟨List.cons_ne_nil c s, fun d hd => hmid.2 d (List.mem_append_right w hd)⟩
      exact absurd hrest (not_isWord_of_spaced_eq hs)
  · exact List.prefix_append mid s

/-- A word that stands in joined texts, each of them a word or a single character, begins one of
them if no word character stands before it. -/
lemma exists_prefix_of_join_eq {ws : List Text} {before mid after : Text}
    (hws : ∀ w ∈ ws, IsWord w ∨ w.length = 1) (hmid : IsWord mid) (hbefore : NoWordBefore before)
    (h : join [' '] ws = before ++ mid ++ after) :
    ∃ a w c, ws = a ++ w :: c ∧ before = leading a ∧ mid <+: w := by
  induction ws generalizing before with
  | nil => simp [join, hmid.1] at h
  | cons w ws ih =>
    rw [List.forall_mem_cons] at hws
    rw [join_cons, List.append_assoc] at h
    rcases List.append_eq_append_iff.1 h with ⟨s, rfl, hs⟩ | ⟨s, hw, hs⟩
    · cases s with
      | nil => exact absurd hmid (not_isWord_of_spaced_eq hs)
      | cons d s =>
        -- the text before reaches beyond the first word and the space behind it
        cases ws with
        | nil => cases hs
        | cons x ws =>
          obtain ⟨rfl, hx⟩ : ' ' = d ∧ x ++ spaced ws = s ++ (mid ++ after) := by
            simpa [spaced] using hs
          have hs' : NoWordBefore s :=
            noWordBefore_of_append (s := w ++ [' ']) (by simpa using hbefore)
          rw [← join_cons, ← List.append_assoc] at hx
          obtain ⟨a, v, c, ha, rfl, hprefix⟩ := ih hws.2 hs' hx
          exact ⟨w :: a, v, c, by rw [ha]; rfl, by simp [leading], hprefix⟩
    · rcases eq_or_ne before [] with rfl | hne
      · exact ⟨[], w, ws, rfl, rfl, prefix_of_append_spaced_eq hmid h⟩
      · rcases hws.1 with hword | hsingle
        · -- the text before ends amid the first word
          have hchars : ∀ c ∈ before, Unicode.isWord c = true :=
            fun c hc => hword.2 c (hw ▸ List.mem_append_left s hc)
          exact absurd hbefore (not_noWordBefore hne hchars)
        · -- the text before is the first character alone, without the space behind it
          have hlength := congrArg List.length hw
          rw [hsingle, List.length_append] at hlength
          have hpos := List.length_pos_iff.2 hne
          obtain rfl : s = [] := List.length_eq_zero_iff.1 (by omega)
          exact absurd hmid (not_isWord_of_spaced_eq hs.symm)

/-! ## Reading words back -/

/-- A text without spaces, or a single space. -/
def IsPiece (s : Text) : Prop := s ≠ [] ∧ (' ' ∈ s → s = [' '])

/-- A piece with others behind it that begins with a word is this word. -/
lemma append_spaced_inj {s w : Text} {ss ws : List Text} (hs : IsPiece s) (hw : IsWord w)
    (h : s ++ spaced ss = w ++ spaced ws) : s = w ∧ spaced ss = spaced ws := by
  have hspace : ∀ {vs}, (spaced vs).takeWhile (· != ' ') = [] := fun {vs} => by
    cases vs <;> rfl
  have hfirst : ∀ {v vs}, ' ' ∉ v → (v ++ spaced vs).takeWhile (· != ' ') = v := by
    intro v vs hv
    have hall : ∀ c ∈ v, (c != ' ') = true := fun c hc => by
      rw [bne_iff_ne]
      rintro rfl
      exact hv hc
    rw [List.takeWhile_append_of_pos hall, hspace, List.append_nil]
  have hword : ' ' ∉ w := fun hmem => by
    have := hw.2 ' ' hmem
    rw [isWord_space] at this
    cases this
  have heq : s = w := by
    by_cases hmem : ' ' ∈ s
    · obtain ⟨c, w, rfl⟩ := List.exists_cons_of_ne_nil hw.1
      rw [hs.2 hmem, List.cons_append, List.cons_append, List.cons.injEq] at h
      exact absurd (h.1 ▸ List.mem_cons_self) hword
    · rw [← hfirst hmem, h, hfirst hword]
  exact ⟨heq, List.append_cancel_left (heq ▸ h)⟩

/-- Pieces with a space before each that make up words with a space before each are these words. -/
lemma eq_of_spaced_eq {ss ws : List Text} (hss : ∀ s ∈ ss, IsPiece s) (hws : ∀ w ∈ ws, IsWord w)
    (h : spaced ss = spaced ws) : ss = ws := by
  induction ws generalizing ss with
  | nil =>
    cases ss with
    | nil => rfl
    | cons s ss => cases h
  | cons w ws ih =>
    cases ss with
    | nil => cases h
    | cons s ss =>
      rw [List.forall_mem_cons] at hss hws
      have htail : s ++ spaced ss = w ++ spaced ws := List.tail_eq_of_cons_eq h
      obtain ⟨rfl, hrest⟩ := append_spaced_inj hss.1 hws.1 htail
      rw [ih hss.2 hws.2 hrest]

/-- Texts with a space before each are at least as long as they are many. -/
lemma length_le_length_spaced {ss : List Text} : ss.length ≤ (spaced ss).length := by
  induction ss with
  | nil => exact Nat.le_refl 0
  | cons s ss ih =>
    have hlength : (spaced (s :: ss)).length = s.length + (spaced ss).length + 1 := by
      simp [spaced]
    rw [hlength, List.length_cons]
    omega

/-- Joined texts are at least as long as they are many, if none of them is empty. -/
lemma length_le_length_join {ss : List Text} (hss : ∀ s ∈ ss, s ≠ []) :
    ss.length ≤ (join [' '] ss).length := by
  cases ss with
  | nil => exact Nat.le_refl 0
  | cons s ss =>
    have hs := List.length_pos_iff.2 (hss s List.mem_cons_self)
    have hrest : ss.length ≤ (spaced ss).length := length_le_length_spaced
    rw [join_cons, List.length_append, List.length_cons]
    omega

/-- Joined pieces that make up joined words are these words. -/
lemma eq_of_join_eq {ss ws : List Text} (hss : ∀ s ∈ ss, IsPiece s) (hws : ∀ w ∈ ws, IsWord w)
    (h : join [' '] ss = join [' '] ws) : ss = ws := by
  cases ws with
  | nil =>
    have hlength := length_le_length_join fun s hs => (hss s hs).1
    rw [h] at hlength
    exact List.length_eq_zero_iff.1 (Nat.le_zero.1 hlength)
  | cons w ws =>
    rw [join_cons] at h
    rw [List.forall_mem_cons] at hws
    cases ss with
    | nil => exact absurd (List.append_eq_nil_iff.1 h.symm).1 hws.1.1
    | cons s ss =>
      rw [join_cons] at h
      rw [List.forall_mem_cons] at hss
      obtain ⟨rfl, hrest⟩ := append_spaced_inj hss.1 hws.1 h
      rw [eq_of_spaced_eq hss.2 hws.2 hrest]

lemma IsWord.isPiece {w : Text} (hw : IsWord w) : IsPiece w := by
  refine ⟨hw.1, fun hmem => ?_⟩
  have hspace := hw.2 ' ' hmem
  rw [isWord_space] at hspace
  cases hspace

end Text

end PinyinSearch
