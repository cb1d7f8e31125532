import PinyinSearch.Pattern.PlainSide
import PinyinSearch.Proofs.Pattern.Quantifier
import PinyinSearch.Proofs.Regex.ClassNames
import PinyinSearch.Proofs.Regex.ReaderCases
import PinyinSearch.Proofs.Words

/-!
# Twins

Two texts are twins if they are the same but for some syllables behind word boundaries, which one
writes alone and the other together with syllables they may be confused with.  Whatever a reader of
regular expressions takes from one of them, it takes from the other: no construct but a comment can
reach into a syllable, because none holds a word boundary.  This is said here of every reader below
the steps of an expression.

Most syllables end at a word boundary, too.  Where an operator takes its place, this must not change
what is repeated (`SyllableEnds`), and no backslash may take away the boundary before the syllable:
in a bracket class, the letters and the operator would be members then.
-/

namespace PinyinSearch

open Regex

/-! ## What follows a syllable -/

/-- A text does not begin with an operator of repetition, nor does it where white space does not
count. -/
def Fresh (s : Text) : Prop :=
  ∀ c ∈ (s.dropWhile Unicode.isBlank).head?, c ∉ ['*', '+', '?', '{', '#']

instance (s : Text) : Decidable (Fresh s) :=
  Option.decidableForallMem (s.dropWhile Unicode.isBlank).head?

/-- What stands behind a quantifier that allows one and no other number, reluctant or not. -/
def afterOnce? : Text → Option Text
  | '{' :: s =>
    (Quantifier.read? s).bind fun (q, _, rest) =>
      if q.least = 1 ∧ q.most = some 1 then some (skipReluctance rest) else none
  | _ => none

/-- What may follow a syllable: a word boundary; anything behind one letter, because it is this that
an operator repeats; and what repeats the last letter only once. -/
inductive SyllableEnds : (isOpen : Bool) → Text → Text → Prop where
  | boundary {s a} : SyllableEnds false s ('\\' :: 'b' :: a)
  | letter {c a} :
    Unicode.isBlank c = false →
    SyllableEnds true [c] a
  | once {s c a rest} :
    Unicode.isBlank c = false →
    afterOnce? a = some rest →
    Fresh rest →
    SyllableEnds true (s ++ [c]) a

/-! ## Texts that are the same but for syllables -/

/-- A syllable and those it may be confused with are written on one line. -/
structure OnOneLine (s : Text) (others : List Text) : Prop where
  alone : '\n' ∉ s
  others : ∀ other ∈ others, '\n' ∉ other

/-- A syllable written together with others. -/
def together (s : Text) (others : List Text) : Text :=
  grouped (Text.join ['|'] ((s :: others).map escapeMeta))

/-- Texts that are the same but for some syllables.  They are open if one more backslash in front
would take the word boundary away from a syllable that does not end at one. -/
inductive TwinTexts : (isOpen : Bool) → Text → Text → Prop where
  | nil : TwinTexts false [] []
  | char {k a b c} :
    c ≠ '\\' →
    TwinTexts k a b →
    TwinTexts false (c :: a) (c :: b)
  | backslash {a b} :
    TwinTexts false a b →
    TwinTexts false ('\\' :: a) ('\\' :: b)
  | backslashes {k a b} :
    TwinTexts k a b →
    TwinTexts k ('\\' :: '\\' :: a) ('\\' :: '\\' :: b)
  | syllable {k l s others a b} :
    OnOneLine s others →
    SyllableEnds l s a →
    TwinTexts k a b →
    TwinTexts l ('\\' :: 'b' :: (escapeMeta s ++ a)) ('\\' :: 'b' :: (together s others ++ b))

/-- Texts that are the same but for some syllables, open or not. -/
def Twins (a b : Text) : Prop := ∃ isOpen, TwinTexts isOpen a b

/-- Twins that begin with a syllable, behind the first backslash. -/
inductive Begun (isOpen : Bool) : Text → Text → Prop where
  | intro {s others a b} :
    OnOneLine s others →
    SyllableEnds isOpen s a →
    Twins a b →
    Begun isOpen ('b' :: (escapeMeta s ++ a)) ('b' :: (together s others ++ b))

/-- What an escape may leave of twins. -/
def Remain (a b : Text) : Prop := Twins a b ∨ Begun false a b

/-- How twins begin, as far as a reader can tell that does not know backslashes. -/
inductive Twins.View : Text → Text → Prop where
  | nil : View [] []
  | char {a b c} :
    c ≠ '\\' →
    Twins a b →
    View (c :: a) (c :: b)
  | backslash (a b) : View ('\\' :: a) ('\\' :: b)

/-- What stands in twins behind a backslash. -/
inductive Twins.Behind : Text → Text → Prop where
  | nil : Behind [] []
  | char {a b c} :
    c ≠ '\\' →
    Twins a b →
    Behind (c :: a) (c :: b)
  | backslash {a b} :
    Remain a b →
    Behind ('\\' :: a) ('\\' :: b)
  | syllable {isOpen a b} :
    Begun isOpen a b →
    Behind a b

variable {a b : Text} {f : Flags}

/-! ## What begins with no operator -/

lemma fresh_cons {c : Char} (hblank : Unicode.isBlank c = false)
    (hc : c ∉ ['*', '+', '?', '{', '#']) : Fresh (c :: a) := by
  rw [Fresh, List.dropWhile_cons_of_neg (Bool.eq_false_iff.1 hblank)]
  rintro _ ⟨⟩
  exact hc

lemma Fresh.append (ha : Fresh a) (hb : Fresh b) : Fresh (a ++ b) := by
  induction a with
  | nil => exact hb
  | cons c a ih =>
    by_cases hc : Unicode.isBlank c = true
    · rw [Fresh, List.dropWhile_cons_of_pos hc] at ha
      rw [Fresh, List.cons_append, List.dropWhile_cons_of_pos hc]
      exact ih ha
    · rw [Fresh, List.dropWhile_cons_of_neg hc] at ha
      rw [Fresh, List.cons_append, List.dropWhile_cons_of_neg hc]
      exact ha

/-- What is skipped before a text that begins with no operator is white space. -/
lemma Fresh.skip (h : Fresh a) (f : Flags) : Fresh (f.skip a) := by
  have hskip : Fresh (Flags.skipBlank false a) := by
    induction a with
    | nil => exact h
    | cons c a ih =>
      by_cases hc : Unicode.isBlank c = true
      · rw [Fresh, List.dropWhile_cons_of_pos hc] at h
        rw [Flags.skipBlank, if_neg Bool.false_ne_true, if_pos hc]
        exact ih h
      · have hhead := h
        rw [Fresh, List.dropWhile_cons_of_neg hc] at hhead
        have hsign : c ≠ '#' := fun heq => hhead c rfl (by simp [heq])
        rwa [Flags.skipBlank, if_neg Bool.false_ne_true, if_neg hc, if_neg hsign]
  rw [Flags.skip]
  split
  · exact hskip
  · exact h

lemma Fresh.not_mem {c : Char} (h : Fresh (c :: a)) : c ∉ ['*', '+', '?', '{'] := by
  intro hmem
  have hblank : Unicode.isBlank c = false := by
    have hall : (['*', '+', '?', '{'].all fun d => !Unicode.isBlank d) = true := by decide
    simpa using List.all_eq_true.1 hall c hmem
  rw [Fresh, List.dropWhile_cons_of_neg (Bool.eq_false_iff.1 hblank)] at h
  exact h c rfl (by simp only [List.mem_cons, List.not_mem_nil, or_false] at hmem ⊢; tauto)

/-! ## Comments -/

lemma newline_not_mem_escapeMeta {s : Text} (h : '\n' ∉ s) : '\n' ∉ escapeMeta s := by
  rw [escapeMeta, List.mem_flatMap]
  rintro ⟨c, hc, hmem⟩
  have hne : c ≠ '\n' := fun heq => h (heq ▸ hc)
  split at hmem
  · rw [List.mem_cons, List.mem_singleton] at hmem
    obtain heq | heq := hmem
    · exact absurd heq (by decide)
    · exact hne heq.symm
  · exact hne (List.mem_singleton.1 hmem).symm

/-- No syllable ends a comment. -/
lemma OnOneLine.newline {s : Text} {others : List Text} (h : OnOneLine s others) :
    '\n' ∉ escapeMeta s ∧ '\n' ∉ together s others := by
  have hparts : ∀ part ∈ (s :: others).map escapeMeta, '\n' ∉ part := by
    simp only [List.forall_mem_map, List.forall_mem_cons]
    exact ⟨newline_not_mem_escapeMeta h.alone,
      fun o ho => newline_not_mem_escapeMeta (h.others o ho)⟩
  have hjoin : '\n' ∉ Text.join ['|'] ((s :: others).map escapeMeta) := fun hmem =>
    Text.forall_mem_join (P := (· ≠ '\n')) (List.forall_mem_singleton.2 (by decide))
      (fun part hpart c hc heq => hparts part hpart (heq ▸ hc)) _ hmem rfl
  refine ⟨newline_not_mem_escapeMeta h.alone, ?_⟩
  rw [together, grouped, List.mem_append, List.mem_cons, List.mem_cons, List.mem_cons]
  simpa using hjoin

/-! ## How twins begin -/

namespace Twins

lemma nil : Twins [] [] := ⟨_, .nil⟩

lemma char {c : Char} (h : Twins a b) (hc : c ≠ '\\') : Twins (c :: a) (c :: b) := by
  obtain ⟨_, h⟩ := h
  exact ⟨_, h.char hc⟩

lemma view (h : Twins a b) : View a b := by
  obtain ⟨_, h⟩ := h
  cases h with
  | nil => exact .nil
  | char hc h => exact .char hc ⟨_, h⟩
  | backslash | backslashes | syllable => exact .backslash _ _

lemma behind (h : Twins ('\\' :: a) ('\\' :: b)) : Behind a b := by
  obtain ⟨_, h⟩ := h
  cases h with
  | char hc => exact absurd rfl hc
  | backslashes h => exact .backslash (.inl ⟨_, h⟩)
  | syllable hs hends h => exact .syllable (.intro hs hends ⟨_, h⟩)
  | backslash h =>
    cases h with
    | nil => exact .nil
    | char hc h => exact .char hc ⟨_, h⟩
    | backslash h => exact .backslash (.inl ⟨_, h⟩)
    | backslashes h => exact .backslash (.inl ⟨_, h.backslash⟩)
    | syllable hs hends h => exact .backslash (.inr (.intro hs hends ⟨_, h⟩))

lemma head? (h : Twins a b) : a.head? = b.head? := by
  cases h.view <;> rfl

/-- A character other than a backslash begins both twins. -/
lemma cons_inv {c : Char} (h : Twins (c :: a) b) (hc : c ≠ '\\') :
    ∃ b', b = c :: b' ∧ Twins a b' := by
  cases h.view with
  | char _ hrest => exact ⟨_, rfl, hrest⟩
  | backslash => exact absurd rfl hc

lemma cons_inv_right {c : Char} (h : Twins a (c :: b)) (hc : c ≠ '\\') :
    ∃ a', a = c :: a' ∧ Twins a' b := by
  cases h.view with
  | char _ hrest => exact ⟨_, rfl, hrest⟩
  | backslash => exact absurd rfl hc

/-- Twins begin with the same two characters. -/
lemma exists_cons {c : Char} (h : Twins (c :: a) b) : ∃ b', b = c :: b' ∧ b'.head? = a.head? := by
  cases h.view with
  | char _ hrest => exact ⟨_, rfl, hrest.head?.symm⟩
  | backslash =>
    refine ⟨_, rfl, ?_⟩
    cases h.behind with
    | nil => rfl
    | char => rfl
    | backslash => rfl
    | syllable h =>
      obtain ⟨_, _, _⟩ := h
      rfl

/-- Twins without their first character, if it is a certain one. -/
lemma dropIf (h : Twins a b) {c : Char} (hc : c ≠ '\\') :
    Twins (if a.head? == some c then a.drop 1 else a)
      (if b.head? == some c then b.drop 1 else b) := by
  rw [← h.head?]
  split
  · next hhead =>
    obtain ⟨rest, rfl⟩ := List.head?_eq_some_iff.1 (beq_iff_eq.1 hhead)
    obtain ⟨rest', rfl, hrest⟩ := h.cons_inv hc
    exact hrest
  · exact h

end Twins

/-! ## Skipping -/

lemma skipBlank_append {u : Text} (h : '\n' ∉ u) :
    Flags.skipBlank true (u ++ a) = Flags.skipBlank true a := by
  induction u with
  | nil => rfl
  | cons c u ih =>
    rw [List.mem_cons, not_or] at h
    have hc : (c != '\n') = true := by simpa using Ne.symm h.1
    rw [List.cons_append, Flags.skipBlank, if_pos rfl, hc, ih h.2]

namespace TwinTexts

variable {k : Bool}

lemma skipBlank (h : TwinTexts k a b) (inComment : Bool) :
    Twins (Flags.skipBlank inComment a) (Flags.skipBlank inComment b) := by
  -- a comment goes on behind backslashes and syllables
  have hcomment : ∀ {u v : Text}, '\n' ∉ u →
      Flags.skipBlank true (u ++ v) = Flags.skipBlank true v := skipBlank_append
  induction h generalizing inComment with
  | nil => exact .nil
  | char hc h ih =>
    rw [Flags.skipBlank, Flags.skipBlank]
    split
    · exact ih _
    · split
      · exact ih _
      · split
        · exact ih _
        · exact ⟨_, h.char hc⟩
  | backslash h ih =>
    cases inComment with
    | false => exact ⟨_, h.backslash⟩
    | true => exact ih true
  | backslashes h ih =>
    cases inComment with
    | false => exact ⟨_, h.backslashes⟩
    | true => exact ih true
  | @syllable _ _ s others a b hs hends h ih =>
    cases inComment with
    | false => exact ⟨_, h.syllable hs hends⟩
    | true =>
      have hskip : ∀ {u v : Text}, '\n' ∉ u →
          Flags.skipBlank true ('\\' :: 'b' :: (u ++ v)) = Flags.skipBlank true v :=
        fun hu => hcomment (u := '\\' :: 'b' :: _) (by simp [hu])
      rw [hskip hs.newline.1, hskip hs.newline.2]
      exact ih true

lemma dropWhile (h : TwinTexts k a b) {p : Char → Bool} (hp : p '\\' = false) :
    Twins (a.dropWhile p) (b.dropWhile p) := by
  have hstop : ∀ s : Text, ('\\' :: s).dropWhile p = '\\' :: s := fun _ =>
    List.dropWhile_cons_of_neg (Bool.eq_false_iff.1 hp)
  induction h with
  | nil => exact .nil
  | char hc h ih =>
    rw [List.dropWhile_cons, List.dropWhile_cons]
    split
    · exact ih
    · exact ⟨_, h.char hc⟩
  | backslash h _ =>
    rw [hstop, hstop]
    exact ⟨_, h.backslash⟩
  | backslashes h _ =>
    rw [hstop, hstop]
    exact ⟨_, h.backslashes⟩
  | syllable hs hends h _ =>
    rw [hstop, hstop]
    exact ⟨_, h.syllable hs hends⟩

/-- Twins are cut at the same place, if before it stands no backslash. -/
lemma cutAt (h : TwinTexts k a b) {sep : Char} (hsep : sep ≠ '\\') :
    (∃ s r r', Text.cutAt sep a = some (s, r) ∧ Text.cutAt sep b = some (s, r') ∧ Twins r r') ∨
      (∀ s r, Text.cutAt sep a = some (s, r) → '\\' ∈ s) ∧
        ∀ s r, Text.cutAt sep b = some (s, r) → '\\' ∈ s := by
  -- behind a character that is not the separator
  have hbehind : ∀ {c : Char} {t s r : Text}, c ≠ sep → Text.cutAt sep (c :: t) = some (s, r) →
      ∃ s', s = c :: s' ∧ Text.cutAt sep t = some (s', r) := by
    intro c t s r hc hs
    rw [Text.cutAt, if_neg hc] at hs
    obtain ⟨⟨s', r'⟩, hcut, heq⟩ := Option.map_eq_some_iff.1 hs
    obtain ⟨rfl, rfl⟩ := Prod.mk.inj heq
    exact ⟨s', rfl, hcut⟩
  have hbackslash : ∀ t s r, Text.cutAt sep ('\\' :: t) = some (s, r) → '\\' ∈ s := by
    intro t s r hs
    obtain ⟨s', rfl, -⟩ := hbehind (Ne.symm hsep) hs
    exact List.mem_cons_self
  induction h with
  | nil =>
    have hnil : ∀ s r, Text.cutAt sep [] = some (s, r) → '\\' ∈ s := by
      intro s r hs
      cases hs
    exact .inr ⟨hnil, hnil⟩
  | @char _ a b c hc h ih =>
    by_cases heq : c = sep
    · exact .inl ⟨[], a, b, by rw [Text.cutAt, if_pos heq], by rw [Text.cutAt, if_pos heq], ⟨_, h⟩⟩
    · refine ih.imp ?_ ?_
      · rintro ⟨s, r, r', hs, hs', hr⟩
        exact ⟨c :: s, r, r', by rw [Text.cutAt, if_neg heq, hs]; rfl,
          by rw [Text.cutAt, if_neg heq, hs']; rfl, hr⟩
      · rintro ⟨ha, hb⟩
        constructor
        · intro s r hs
          obtain ⟨s', rfl, hcut⟩ := hbehind heq hs
          exact List.mem_cons_of_mem c (ha _ _ hcut)
        · intro s r hs
          obtain ⟨s', rfl, hcut⟩ := hbehind heq hs
          exact List.mem_cons_of_mem c (hb _ _ hcut)
  | backslash | backslashes | syllable => exact .inr ⟨hbackslash _, hbackslash _⟩

end TwinTexts

namespace Twins

lemma skip (h : Twins a b) (f : Flags) : Twins (f.skip a) (f.skip b) := by
  rw [Flags.skip, Flags.skip]
  split
  · exact h.elim fun _ h => h.skipBlank false
  · exact h

lemma dropWhile (h : Twins a b) {p : Char → Bool} (hp : p '\\' = false) :
    Twins (a.dropWhile p) (b.dropWhile p) :=
  h.elim fun _ h => h.dropWhile hp

lemma cutAt (h : Twins a b) {sep : Char} (hsep : sep ≠ '\\') :
    (∃ s r r', Text.cutAt sep a = some (s, r) ∧ Text.cutAt sep b = some (s, r') ∧ Twins r r') ∨
      (∀ s r, Text.cutAt sep a = some (s, r) → '\\' ∈ s) ∧
        ∀ s r, Text.cutAt sep b = some (s, r) → '\\' ∈ s :=
  h.elim fun _ h => h.cutAt hsep

end Twins

/-! ## Putting twins together -/

/-- Whether a text ends in a backslash that takes along what follows. -/
def dangles : Text → Bool
  | [] => false
  | ['\\'] => true
  | '\\' :: _ :: rest => dangles rest
  | _ :: rest => dangles rest

/-- A text that dangles ends in a backslash. -/
lemma getLast?_of_dangles {s : Text} (h : dangles s = true) : s.getLast? = some '\\' := by
  fun_induction dangles s with
  | case1 => cases h
  | case2 => rfl
  | case3 c rest ih =>
    have hlast := ih h
    rw [List.getLast?_cons_cons, List.getLast?_cons, hlast]
    rfl
  | case4 c rest _ _ ih =>
    have hlast := ih h
    rw [List.getLast?_cons, hlast]
    rfl

lemma skipReluctance_append (hb : Fresh b) :
    skipReluctance (a ++ b) = skipReluctance a ++ b := by
  cases a with
  | nil =>
    refine skipReluctance_of_head?_ne fun hhead => ?_
    obtain ⟨rest, rfl⟩ := List.head?_eq_some_iff.1 hhead
    exact hb.not_mem (by decide)
  | cons c a =>
    by_cases hc : c = '?'
    · subst hc
      rfl
    · have hhead : ∀ s, (c :: s).head? ≠ some '?' := fun _ heq => hc (Option.some.inj heq)
      rw [skipReluctance_of_head?_ne (hhead a), List.cons_append,
        skipReluctance_of_head?_ne (hhead _)]

lemma afterOnce?_eq_some_iff {rest : Text} :
    afterOnce? a = some rest ↔ ∃ q interior t, a = '{' :: (interior ++ '}' :: t) ∧
      Quantifier.ofInterior? interior = some q ∧ q.least = 1 ∧ q.most = some 1 ∧
        rest = skipReluctance t := by
  constructor
  · intro h
    rw [afterOnce?.eq_def] at h
    split at h
    · obtain ⟨⟨q, interior, t⟩, hread, h⟩ := Option.bind_eq_some_iff.1 h
      obtain ⟨honce, heq⟩ := Option.ite_none_right_eq_some.1 h
      exact ⟨q, interior, t, by rw [Quantifier.eq_of_read? hread],
        Quantifier.ofInterior?_of_read? hread, honce.1, honce.2, (Option.some.inj heq).symm⟩
    · cases h
  · rintro ⟨q, interior, t, rfl, hq, hleast, hmost, rfl⟩
    rw [afterOnce?, Quantifier.read?_append hq, Option.bind_some]
    exact if_pos ⟨hleast, hmost⟩

lemma afterOnce?_append {rest : Text} (h : afterOnce? a = some rest) (hb : Fresh b) :
    afterOnce? (a ++ b) = some (rest ++ b) := by
  obtain ⟨q, interior, t, rfl, hq, hleast, hmost, rfl⟩ := afterOnce?_eq_some_iff.1 h
  exact afterOnce?_eq_some_iff.2 ⟨q, interior, t ++ b, by simp, hq, hleast, hmost,
    (skipReluctance_append hb).symm⟩

lemma SyllableEnds.append {k : Bool} {s : Text} (h : SyllableEnds k s a) (hb : Fresh b) :
    SyllableEnds k s (a ++ b) := by
  cases h with
  | boundary => exact .boundary
  | letter hc => exact .letter hc
  | once hc honce hrest => exact .once hc (afterOnce?_append honce hb) (hrest.append hb)

namespace TwinTexts

variable {k l : Bool}

/-- Twins are put behind the same text, unless they are open and it dangles. -/
lemma prepend (s : Text) (h : TwinTexts k a b) (hs : k = true → dangles s = false) :
    ∃ l, TwinTexts l (s ++ a) (s ++ b) ∧ (l = true → k = true) := by
  fun_induction dangles s with
  | case1 => exact ⟨k, h, id⟩
  | case2 =>
    have hk : k = false := by
      cases k with
      | false => rfl
      | true => exact absurd (hs rfl) (by decide)
    subst hk
    exact ⟨false, h.backslash, nofun⟩
  | case3 c rest ih =>
    obtain ⟨l, hrest, hl⟩ := ih hs
    by_cases hc : c = '\\'
    · subst hc
      exact ⟨l, hrest.backslashes, hl⟩
    · exact ⟨false, (hrest.char hc).backslash, nofun⟩
  | case4 c rest hlast hmore ih =>
    obtain ⟨l, hrest, hl⟩ := ih hs
    have hc : c ≠ '\\' := by
      rintro rfl
      cases rest with
      | nil => exact hlast rfl rfl
      | cons d rest => exact hmore d rest rfl rfl
    exact ⟨false, hrest.char hc, nofun⟩

/-- Twins are put one behind the other, if the second begin with no operator and no syllable. -/
lemma append {a' b' : Text} (h : TwinTexts k a b) (h' : TwinTexts false a' b')
    (hfresh : Fresh a') : TwinTexts k (a ++ a') (b ++ b') := by
  induction h with
  | nil => exact h'
  | char hc _ ih => exact ih.char hc
  | backslash _ ih => exact ih.backslash
  | backslashes _ ih => exact ih.backslashes
  | syllable hs hends _ ih => simpa using ih.syllable hs (hends.append hfresh)

end TwinTexts

/-! ## Escapes -/

namespace Escape

variable {r : Text}

lemma fixedHex?_twins {n value m : Nat} (h : Twins a b)
    (hread : fixedHex? f n value a = some (m, r)) :
    ∃ r', fixedHex? f n value b = some (m, r') ∧ Twins r r' := by
  induction n generalizing value a b with
  | zero =>
    obtain ⟨rfl, rfl⟩ := Prod.mk.inj (Option.some.inj hread)
    exact ⟨b, rfl, h⟩
  | succ n ih =>
    have hskip := h.skip f
    rw [fixedHex?] at hread ⊢
    generalize f.skip a = a' at hskip hread
    generalize f.skip b = b' at hskip
    cases hskip.view with
    | nil => cases hread
    | char _ hrest =>
      obtain ⟨d, hd, hread⟩ := Option.bind_eq_some_iff.1 hread
      obtain ⟨r', hread', hr⟩ := ih hrest hread
      exact ⟨r', Option.bind_eq_some_iff.2 ⟨d, hd, hread'⟩, hr⟩
    | backslash => cases hread

lemma bracedHex?_twins {value : Option Nat} {m : Nat} (h : Twins a b)
    (hread : bracedHex? f value a = some (m, r)) :
    ∃ r', bracedHex? f value b = some (m, r') ∧ Twins r r' := by
  have hskip := h.skip f
  generalize hb : f.skip b = b' at hskip
  fun_induction bracedHex? f value a generalizing b b' with
  | case1 => cases hread
  | case2 value a rest ha =>
    rw [ha] at hskip
    obtain ⟨n, rfl, heq⟩ := Option.map_eq_some_iff.1 hread
    obtain ⟨rfl, rfl⟩ := Prod.mk.inj heq
    cases hskip.view with
    | char _ hrest => exact ⟨_, by rw [bracedHex?_of_skip hb]; rfl, hrest⟩
  | case3 => cases hread
  | case4 value a c rest ha hc d hd ih =>
    rw [ha] at hskip
    cases hskip.view with
    | char _ hrest =>
      obtain ⟨r', hread', hr⟩ := ih hrest hread _ rfl (hrest.skip f)
      refine ⟨r', ?_, hr⟩
      rw [bracedHex?_of_skip hb, if_neg hc, hd]
      exact hread'
    | backslash => cases hd

lemma bracedName?_twins {name : Text} (h : Twins a b) (hread : bracedName? f a = some (name, r))
    (hname : '\\' ∉ name) : ∃ r', bracedName? f b = some (name, r') ∧ Twins r r' := by
  have hskip := h.skip f
  generalize hb : f.skip b = b' at hskip
  fun_induction bracedName? f a generalizing b b' name with
  | case1 => cases hread
  | case2 a rest ha =>
    rw [ha] at hskip
    cases hread
    cases hskip.view with
    | char _ hrest => exact ⟨_, by rw [bracedName?_of_skip hb]; rfl, hrest⟩
  | case3 a c rest ha hc ih =>
    rw [ha] at hskip
    obtain ⟨⟨name', r'⟩, htail, heq⟩ := Option.map_eq_some_iff.1 hread
    obtain ⟨rfl, rfl⟩ := Prod.mk.inj heq
    rw [List.mem_cons, not_or] at hname
    cases hskip.view with
    | char _ hrest =>
      obtain ⟨r'', hread', hr⟩ := ih hrest htail hname.2 _ rfl (hrest.skip f)
      refine ⟨r'', ?_, hr⟩
      rw [bracedName?_of_skip hb, if_neg hc, hread']
      rfl
    | backslash => exact absurd rfl hname.1

lemma hexChar?_twins {kind : Char} {e : Escape} (h : Twins a b)
    (hread : hexChar? f kind a = some (e, r)) :
    ∃ r', hexChar? f kind b = some (e, r') ∧ Twins r r' := by
  have hskip := h.skip f
  rw [hexChar?] at hread ⊢
  generalize f.skip a = a' at hskip hread
  generalize f.skip b = b' at hskip
  cases hskip.view with
  | nil => cases hread
  | char hne hrest =>
    dsimp only at hread ⊢
    split at hread
    · next hc =>
      rw [if_pos hc]
      obtain ⟨⟨n, s⟩, hhex, hread⟩ := Option.bind_eq_some_iff.1 hread
      obtain ⟨d, hd, heq⟩ := Option.map_eq_some_iff.1 hread
      obtain ⟨rfl, rfl⟩ := Prod.mk.inj heq
      obtain ⟨r', hhex', hr⟩ := bracedHex?_twins hrest hhex
      exact ⟨r', by rw [hhex', Option.bind_some, hd, Option.map_some], hr⟩
    · next hc =>
      rw [if_neg hc]
      obtain ⟨⟨n, s⟩, hhex, hread⟩ := Option.bind_eq_some_iff.1 hread
      obtain ⟨d, hd, heq⟩ := Option.map_eq_some_iff.1 hread
      obtain ⟨rfl, rfl⟩ := Prod.mk.inj heq
      obtain ⟨r', hhex', hr⟩ := fixedHex?_twins (hrest.char hne) hhex
      exact ⟨r', by rw [hhex', Option.bind_some, hd, Option.map_some], hr⟩
  | backslash =>
    -- a backslash is no digit
    dsimp only at hread
    rw [if_neg (by decide)] at hread
    obtain ⟨⟨n, s⟩, hhex, -⟩ := Option.bind_eq_some_iff.1 hread
    obtain ⟨k, hk⟩ : ∃ k, (if kind = 'x' then 2 else if kind = 'u' then 4 else 8) = k + 1 := by
      split
      · exact ⟨1, rfl⟩
      · split <;> exact ⟨_, rfl⟩
    rw [hk, fixedHex?, skip_backslash] at hhex
    cases hhex

lemma readNamed?_twins {negated : Bool} {e : Escape} (h : Twins a b)
    (hread : readNamed? f negated a = some (e, r)) :
    ∃ r', readNamed? f negated b = some (e, r') ∧ Twins r r' := by
  have hskip := h.skip f
  rw [readNamed?] at hread ⊢
  generalize f.skip a = a' at hskip hread
  generalize f.skip b = b' at hskip
  cases hskip.view with
  | nil => cases hread
  | char hne hrest =>
    dsimp only at hread ⊢
    split at hread
    · next hc =>
      rw [if_pos hc]
      obtain ⟨⟨name, s⟩, hname, hread⟩ := Option.bind_eq_some_iff.1 hread
      obtain ⟨k, hk, heq⟩ := Option.map_eq_some_iff.1 hread
      obtain ⟨rfl, rfl⟩ := Prod.mk.inj heq
      obtain ⟨r', hname', hr⟩ := bracedName?_twins hrest hname (not_mem_of_namedClass? hk)
      exact ⟨r', by rw [hname', Option.bind_some, hk, Option.map_some], hr⟩
    · next hc =>
      rw [if_neg hc, if_neg hne]
      obtain ⟨k, hk, heq⟩ := Option.map_eq_some_iff.1 hread
      obtain ⟨rfl, rfl⟩ := Prod.mk.inj heq
      exact ⟨_, by rw [hk, Option.map_some], hrest⟩
  | backslash => cases hread

lemma boundaryName_twins (h : Twins a b) :
    (boundaryName f a).1 = (boundaryName f b).1 ∧
      Twins (boundaryName f a).2 (boundaryName f b).2 := by
  fun_induction boundaryName f a generalizing b with
  | case1 =>
    cases h.view
    rw [boundaryName]
    exact ⟨rfl, .nil⟩
  | case2 c rest hc name after hname ih =>
    obtain ⟨b, rfl, hrest⟩ := h.cons_inv (by rintro rfl; cases hc)
    obtain ⟨hsame, hafter⟩ := ih (hrest.skip f)
    rw [boundaryName, if_pos hc]
    rw [hname] at hsame hafter
    exact ⟨congrArg (c :: ·) hsame, hafter⟩
  | case3 c rest hc =>
    obtain ⟨b', rfl, -⟩ := h.exists_cons
    rw [boundaryName, if_neg hc]
    exact ⟨rfl, h⟩

lemma boundary?_twins {kind : Boundary} (h : Twins a b)
    (hread : boundary? f a = some (kind, r)) :
    ∃ r', boundary? f b = some (kind, r') ∧ Twins r r' := by
  by_cases hbrace : a.head? = some '{'
  · obtain ⟨a, rfl⟩ := List.head?_eq_some_iff.1 hbrace
    obtain ⟨b, rfl, hrest⟩ := h.cons_inv (by decide)
    have hskip := hrest.skip f
    simp only [boundary?] at hread ⊢
    generalize f.skip a = a' at hskip hread
    generalize f.skip b = b' at hskip
    cases hskip.view with
    | nil => cases hread
    | @char _ _ d hd hrest' =>
      dsimp only at hread ⊢
      split at hread
      · next hletter =>
        rw [if_pos hletter]
        obtain ⟨hname, hafter⟩ := boundaryName_twins (f := f) (hrest'.char hd)
        generalize boundaryName f (d :: _) = read at hname hafter hread
        generalize boundaryName f (d :: _) = read' at hname hafter
        obtain ⟨name, after⟩ := read
        obtain ⟨name', after'⟩ := read'
        obtain rfl : name = name' := hname
        split at hread
        · next heq =>
          obtain ⟨rfl, rfl⟩ := Prod.mk.inj heq
          obtain ⟨k, hk, heq⟩ := Option.map_eq_some_iff.1 hread
          obtain ⟨rfl, rfl⟩ := Prod.mk.inj heq
          obtain ⟨r', rfl, hr⟩ := hafter.cons_inv (by decide)
          exact ⟨_, by simp only [hk, Option.map_some], hr⟩
        · cases hread
      · next hletter =>
        rw [if_neg hletter]
        obtain ⟨rfl, rfl⟩ := Prod.mk.inj (Option.some.inj hread)
        exact ⟨_, rfl, h⟩
    | backslash =>
      dsimp only at hread ⊢
      rw [if_neg (by decide)] at hread ⊢
      obtain ⟨rfl, rfl⟩ := Prod.mk.inj (Option.some.inj hread)
      exact ⟨_, rfl, h⟩
  · rw [boundary?_of_head?_ne hbrace] at hread
    obtain ⟨rfl, rfl⟩ := Prod.mk.inj (Option.some.inj hread)
    exact ⟨b, boundary?_of_head?_ne (h.head? ▸ hbrace), h⟩

/-- Behind a backslash, an escape is read from both twins alike, or a syllable begins.  If the
escape is a backslash, it may leave a syllable that has lost its word boundary. -/
theorem read?_twins {e : Escape} (h : Twins ('\\' :: a) ('\\' :: b))
    (hread : read? f a = some (e, r)) :
    (∃ r', read? f b = some (e, r') ∧ Remain r r') ∨ ∃ isOpen, Begun isOpen a b := by
  cases h.behind with
  | nil => cases hread
  | syllable hbegun => exact .inr ⟨_, hbegun⟩
  | backslash hrest =>
    obtain ⟨rfl, rfl⟩ := Prod.mk.inj (Option.some.inj hread)
    exact .inl ⟨_, rfl, hrest⟩
  | @char a b c hc hrest =>
    refine .inl ?_
    rw [read?.eq_def] at hread ⊢
    dsimp only at hread ⊢
    split at hread
    case h_1 | h_2 | h_3 =>
      obtain ⟨r', hread', hr⟩ := hexChar?_twins hrest hread
      exact ⟨r', hread', .inl hr⟩
    case h_4 | h_5 =>
      obtain ⟨r', hread', hr⟩ := readNamed?_twins hrest hread
      exact ⟨r', hread', .inl hr⟩
    case h_6 | h_7 | h_8 | h_9 | h_10 | h_11 =>
      obtain ⟨k, hk, heq⟩ := Option.map_eq_some_iff.1 hread
      obtain ⟨rfl, rfl⟩ := Prod.mk.inj heq
      exact ⟨b, by simp only [hk, Option.map_some], .inl hrest⟩
    case h_12 =>
      obtain ⟨⟨kind, s⟩, hkind, heq⟩ := Option.map_eq_some_iff.1 hread
      obtain ⟨rfl, rfl⟩ := Prod.mk.inj heq
      obtain ⟨r', hread', hr⟩ := boundary?_twins hrest hkind
      exact ⟨r', by simp only [hread', Option.map_some], .inl hr⟩
    case h_13 =>
      obtain ⟨k, hk, heq⟩ := Option.map_eq_some_iff.1 hread
      obtain ⟨rfl, rfl⟩ := Prod.mk.inj heq
      exact ⟨b, by simp only [hk, Option.map_some], .inl hrest⟩

end Escape

end PinyinSearch
