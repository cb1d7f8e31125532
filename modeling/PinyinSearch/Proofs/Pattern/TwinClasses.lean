import PinyinSearch.Proofs.Pattern.EscapedText
import PinyinSearch.Proofs.Pattern.Twins

/-!
# Bracket classes in twins

A bracket class is read from twins alike.  None reaches into a syllable: where one comes upon the
word boundary before a syllable, it is malformed, and where this has been taken away, so it is upon
the word boundary behind the syllable.
-/

namespace PinyinSearch

namespace Bracket

variable {a b r s rest : Text} {f : Flags} {c : Char} {k : OpenClass} {outer : List OpenClass}
  {closed : BracketClass}

/-! ## Classes that come upon a syllable -/

/-- A word boundary is no member of a class. -/
lemma readRest?_boundary (h : f.skip s = '\\' :: 'b' :: a) : readRest? f k outer s = none := by
  have hmember : readMember? f ('\\' :: 'b' :: a) = none := by
    cases hkind : Escape.boundary? f a with
    | none => simp [readMember?, readOne?, Escape.read?, hkind]
    | some read =>
      obtain ⟨kind, rest⟩ := read
      have hone : readOne? f ('\\' :: 'b' :: a) =
          some (.assert (.boundary kind (!f.unicode)), rest) := by
        simp [readOne?, Escape.read?, hkind]
      exact readMember?_assert hone
  rw [readRest?_member (by decide) (by decide) (.inl rfl) h, hmember, Option.bind_none]

/-- No minus sign stands unescaped in an escaped text. -/
lemma head?_skip_escapeMeta (f : Flags) (s a : Text) :
    (f.skip (escapeMeta s ++ '\\' :: a)).head? ≠ some '-' := by
  induction s with
  | nil => simp [escapeMeta, skip_backslash]
  | cons c s ih =>
    rw [escapeMeta_cons, List.append_assoc]
    cases hc : isMeta c with
    | true => simp [skip_backslash]
    | false =>
      rw [if_neg Bool.false_ne_true, List.singleton_append]
      cases hskip : isSkipped f c with
      | true => rwa [skip_cons_of_isSkipped hskip]
      | false =>
        rw [skip_cons_of_not_isSkipped hc hskip, List.head?_cons]
        rintro ⟨⟩
        exact absurd hc (by decide)

/-- A class that comes upon an escaped text before a word boundary is malformed. -/
lemma readRest?_escapeMeta {t : Text} (h : f.skip t = f.skip (escapeMeta s ++ '\\' :: 'b' :: a)) :
    readRest? f k outer t = none := by
  induction s generalizing k t with
  | nil => exact readRest?_boundary (h.trans skip_backslash)
  | cons c s ih =>
    rw [escapeMeta_cons, List.append_assoc] at h
    have hdash := head?_skip_escapeMeta f s ('b' :: a)
    -- a member, and what is left of the text behind it
    have hmember : ∀ {d : Char} {more : Text}, d ≠ '[' → d ≠ ']' → operation? d = none →
        f.skip t = d :: more →
        readOne? f (d :: more) = some (.char c false, escapeMeta s ++ '\\' :: 'b' :: a) →
        readRest? f k outer t = none := by
      intro d more hopen hclose hop hskip hone
      rw [readRest?_member hopen hclose (.inl hop) hskip, readMember?_of_head?_ne hone hdash]
      cases setOf? f (.char c false) with
      | none => rfl
      | some set => exact ih (skip_skip ..)
    cases hc : isMeta c with
    | true =>
      rw [hc, if_pos rfl, List.cons_append, List.singleton_append, skip_backslash] at h
      exact hmember (by decide) (by decide) rfl h (Escape.read?_of_isMeta hc)
    | false =>
      rw [hc, if_neg Bool.false_ne_true, List.singleton_append] at h
      cases hskip : isSkipped f c with
      | true => exact ih (h.trans (skip_cons_of_isSkipped hskip))
      | false =>
        rw [skip_cons_of_not_isSkipped hc hskip] at h
        have hne : ∀ {d : Char}, isMeta d = true → c ≠ d := by
          rintro d hd rfl
          rw [hc] at hd
          cases hd
        refine hmember (hne (by decide)) (hne (by decide)) ?_ h ?_
        · rw [operation?.eq_def]
          split
          case h_4 => rfl
          all_goals exact absurd rfl (hne (by decide))
        · rw [readOne?.eq_def]
          split
          case h_3 =>
            next heq =>
            obtain ⟨rfl, rfl⟩ := List.cons.inj heq
            rfl
          · next heq => cases heq
          · next heq => exact absurd (List.cons.inj heq).1 (hne (by decide))

/-- A class that comes upon a syllable without its first word boundary is malformed. -/
lemma readRest?_begun {b : Text} (h : Begun false a b) : readRest? f k outer a = none := by
  obtain @⟨s, others, _, _, _, hends, _⟩ := h
  cases hends
  exact readRest?_escapeMeta (s := 'b' :: s) rfl

/-! ## Classes in twins -/

variable {b : Text}

/-- A character or an escape is read from both twins alike, but for conditions, which belong to no
class. -/
lemma readOne?_twins {e : Escape} (h : Twins a b) (hread : readOne? f a = some (e, r)) :
    (∃ condition, e = .assert condition) ∨
      ∃ r', readOne? f b = some (e, r') ∧ Remain r r' := by
  cases h.view with
  | nil => cases hread
  | backslash a b =>
    obtain hsame | ⟨_, hbegun⟩ := Escape.read?_twins h hread
    · exact .inr hsame
    · obtain ⟨_, _, _⟩ := hbegun
      obtain ⟨⟨kind, rest⟩, -, heq⟩ := Option.map_eq_some_iff.1 hread
      exact .inl ⟨_, (Prod.mk.inj heq).1.symm⟩
  | @char a b c hc hrest =>
    have hone : ∀ t, readOne? f (c :: t) = some (.char c false, t) := by
      intro t
      rw [readOne?.eq_def]
      split
      · next heq => cases heq
      · next heq => exact absurd (List.cons.inj heq).1 hc
      · next heq =>
        obtain ⟨rfl, rfl⟩ := List.cons.inj heq
        rfl
    rw [hone] at hread
    obtain ⟨rfl, rfl⟩ := Prod.mk.inj (Option.some.inj hread)
    exact .inr ⟨b, hone b, .inl hrest⟩

lemma deciding_twins (h : Twins a b) : deciding f a = deciding f b := by
  have hblank : Unicode.isBlank '\\' = false := by decide
  have hdrop := h.dropWhile hblank
  rw [deciding, deciding, h.head?]
  split
  · generalize a.dropWhile Unicode.isBlank = a' at hdrop
    generalize b.dropWhile Unicode.isBlank = b' at hdrop
    cases hdrop.view with
    | nil => rfl
    | @char _ _ c _ hrest =>
      by_cases hc : c = '#'
      · subst hc
        simp only [(hrest.dropWhile hblank).head?]
      · simp [hc]
    | backslash => rfl
  · rfl

/-- A member is read from both twins alike. -/
lemma readMember?_twins {set : CharSet} (h : Twins a b)
    (hread : readMember? f a = some (set, r)) :
    ∃ r', readMember? f b = some (set, r') ∧ Remain r r' := by
  obtain ⟨⟨first, rest⟩, hfirst, hmember⟩ := Option.bind_eq_some_iff.1 hread
  obtain ⟨condition, rfl⟩ | ⟨rest', hfirst', hrest⟩ := readOne?_twins h hfirst
  · rw [readMember?_assert hfirst] at hread
    cases hread
  -- no minus sign follows: the member is a character or a class by itself
  have hsingle : (f.skip rest).head? = (f.skip rest').head? → Remain (f.skip rest) (f.skip rest') →
      (f.skip rest).head? ≠ some '-' →
        ∃ r', readMember? f b = some (set, r') ∧ Remain r r' := by
    intro hhead hremain hdash
    rw [readMember?_of_head?_ne hfirst hdash] at hread
    rw [readMember?_of_head?_ne hfirst' (hhead ▸ hdash)]
    obtain ⟨k, hk, heq⟩ := Option.map_eq_some_iff.1 hread
    obtain ⟨rfl, rfl⟩ := Prod.mk.inj heq
    exact ⟨_, by rw [hk, Option.map_some], hremain⟩
  obtain hrest | hrest := hrest
  · have hskip := hrest.skip f
    by_cases hdash : (f.skip rest).head? = some '-'
    · obtain ⟨after, hafter⟩ := List.head?_eq_some_iff.1 hdash
      rw [hafter] at hskip
      obtain ⟨after', hafter', htwins⟩ := hskip.cons_inv (by decide)
      rw [readMember?_dash hfirst hafter, deciding_twins htwins] at hread
      rw [readMember?_dash hfirst' hafter']
      split at hread
      · next hends =>
        obtain ⟨k, hk, heq⟩ := Option.map_eq_some_iff.1 hread
        obtain ⟨rfl, rfl⟩ := Prod.mk.inj heq
        exact ⟨_, by rw [if_pos hends, hk, Option.map_some], .inl (htwins.char (by decide))⟩
      · next hends =>
        obtain ⟨⟨last, s⟩, hlast, hread⟩ := Option.bind_eq_some_iff.1 hread
        obtain ⟨k, hk, heq⟩ := Option.map_eq_some_iff.1 hread
        obtain ⟨rfl, rfl⟩ := Prod.mk.inj heq
        obtain ⟨condition, rfl⟩ | ⟨s', hlast', hs⟩ := readOne?_twins (htwins.skip f) hlast
        · cases first <;> cases hk
        · exact ⟨s', by simp only [if_neg hends, hlast', Option.bind_some, hk, Option.map_some], hs⟩
    · exact hsingle hskip.head? (.inl hskip) hdash
  · have hskip : f.skip rest = rest ∧ f.skip rest' = rest' := by
      obtain ⟨_, _, _⟩ := hrest
      exact ⟨skip_cons_of_not_isBlank (by decide) (by decide),
        skip_cons_of_not_isBlank (by decide) (by decide)⟩
    rw [hskip.1, hskip.2] at hsingle
    obtain ⟨hs, hends, hab⟩ := hrest
    exact hsingle rfl (.inr ⟨hs, hends, hab⟩) (by simp)

/-- The name of a class of ASCII is found in both twins or in none: it would not hold a word
boundary. -/
lemma readAscii?_twins (h : Twins a b) :
    (∃ set r r', readAscii? f a = some (set, r) ∧ readAscii? f b = some (set, r') ∧ Twins r r') ∨
      readAscii? f a = none ∧ readAscii? f b = none := by
  by_cases hcolon : a.head? = some ':'
  swap
  · exact .inr ⟨readAscii?_of_head?_ne hcolon, readAscii?_of_head?_ne (h.head? ▸ hcolon)⟩
  obtain ⟨a, rfl⟩ := List.head?_eq_some_iff.1 hcolon
  obtain ⟨b, rfl, hrest⟩ := h.cons_inv (by decide)
  have hname := hrest.dropIf (show '^' ≠ '\\' by decide)
  rw [readAscii?_colon, readAscii?_colon, ← hrest.head?]
  rw [← hrest.head?] at hname
  generalize (a.head? == some '^') = negated at hname ⊢
  generalize (if negated = true then a.drop 1 else a) = a' at hname ⊢
  generalize (if negated = true then b.drop 1 else b) = b' at hname ⊢
  obtain ⟨name, r, r', hcut, hcut', hr⟩ | ⟨hcut, hcut'⟩ := hname.cutAt (show ':' ≠ '\\' by decide)
  · simp only [hcut, hcut', Option.bind_some, ← hr.head?]
    by_cases hclose : r.head? = some ']'
    · rw [if_pos hclose, if_pos hclose]
      obtain ⟨r, rfl⟩ := List.head?_eq_some_iff.1 hclose
      obtain ⟨r', rfl, hafter⟩ := hr.cons_inv (by decide)
      cases CharSet.asciiClass? (String.ofList name) with
      | none => exact .inr ⟨rfl, rfl⟩
      | some set => exact .inl ⟨_, r, r', rfl, rfl, hafter⟩
    · rw [if_neg hclose, if_neg hclose]
      exact .inr ⟨rfl, rfl⟩
  · have hnone : ∀ {s : Text}, (∀ name r, Text.cutAt ':' s = some (name, r) → '\\' ∈ name) →
        ((Text.cutAt ':' s).bind fun parts =>
          if parts.2.head? = some ']' then
            (CharSet.asciiClass? (String.ofList parts.1)).map fun k =>
              (Escape.negateSet? f negated (Escape.foldSet f k), parts.2.drop 1)
          else none) = none := by
      intro s hs
      cases hparts : Text.cutAt ':' s with
      | none => rfl
      | some parts =>
        obtain ⟨name, rest⟩ := parts
        simp only [Option.bind_some, CharSet.asciiClass?_eq_none (hs name rest hparts),
          Option.map_none, ite_self]
    exact .inr ⟨hnone hcut, hnone hcut'⟩

lemma addDashes_twins (h : Twins a b) :
    (addDashes f k a).1 = (addDashes f k b).1 ∧
      Twins (addDashes f k a).2 (addDashes f k b).2 := by
  fun_induction addDashes f k a generalizing b with
  | case1 k rest ih =>
    obtain ⟨b, rfl, hrest⟩ := h.cons_inv (by decide)
    rw [addDashes]
    exact ih (hrest.skip f)
  | case2 k a hne =>
    have hb : addDashes f k b = (k, b) := by
      rw [addDashes.eq_def]
      split
      · obtain ⟨_, rfl, -⟩ := h.cons_inv_right (by decide)
        exact absurd rfl (hne _)
      · rfl
    rw [hb]
    exact ⟨rfl, h⟩

lemma bodyOf_twins (h : Twins a b) : Twins (bodyOf f a) (bodyOf f b) := by
  have hskip := h.skip f
  have hdrop := hskip.dropIf (show '^' ≠ '\\' by decide)
  rw [← hskip.head?] at hdrop
  rw [bodyOf, bodyOf, ← hskip.head?]
  split at hdrop
  · next hcaret =>
    rw [if_pos hcaret, if_pos hcaret]
    exact hdrop.skip f
  · next hcaret =>
    rw [if_neg hcaret, if_neg hcaret]
    exact hdrop

lemma enter_twins (h : Twins a b) :
    (enter f a).1 = (enter f b).1 ∧ Twins (enter f a).2 (enter f b).2 := by
  have hbody := bodyOf_twins (f := f) h
  rw [enter_eq, enter_eq, ← (h.skip f).head?, ← hbody.head?]
  generalize bodyOf f a = a' at hbody ⊢
  generalize bodyOf f b = b' at hbody ⊢
  split
  · next hclose =>
    obtain ⟨a', rfl⟩ := List.head?_eq_some_iff.1 hclose
    obtain ⟨b', rfl, hrest⟩ := hbody.cons_inv (by decide)
    exact ⟨rfl, hrest⟩
  · exact addDashes_twins hbody

/-- Twins that are shorter than a bound are read alike up to the end of their class. -/
def AgreeBelow (f : Flags) (closed : BracketClass) (r : Text) (n : ℕ) : Prop :=
  ∀ {a b k outer}, a.length < n → Twins a b → readRest? f k outer a = some (closed, r) →
    ∃ r', readRest? f k outer b = some (closed, r') ∧ Twins r r'

namespace AgreeBelow

variable {rest' : Text} (ih : AgreeBelow f closed r a.length)

include ih

lemma openClass (ha : f.skip a = '[' :: rest) (hb : f.skip b = '[' :: rest')
    (h : Twins rest rest') (hread : readRest? f k outer a = some (closed, r)) :
    ∃ r', readRest? f k outer b = some (closed, r') ∧ Twins r r' := by
  have hlt := Flags.length_lt_of_skip ha
  rw [readRest?_open ha] at hread
  rw [readRest?_open hb]
  obtain ⟨set, after, after', hname, hname', hafter⟩ | ⟨hname, hname'⟩ :=
    readAscii?_twins (f := f) h
  · rw [hname] at hread
    rw [hname']
    have hle := length_le_of_readAscii? hname
    cases set with
    | none => cases hread
    | some set => exact ih (by omega) hafter hread
  · rw [hname] at hread
    rw [hname']
    obtain ⟨hclass, hbody⟩ := enter_twins (f := f) h
    have hle := length_enter_le f rest
    rw [← hclass]
    exact ih (by omega) hbody hread

lemma closeClass (ha : f.skip a = ']' :: rest) (hb : f.skip b = ']' :: rest')
    (h : Twins rest rest') (hread : readRest? f k outer a = some (closed, r)) :
    ∃ r', readRest? f k outer b = some (closed, r') ∧ Twins r r' := by
  rw [readRest?_close ha] at hread
  rw [readRest?_close hb]
  obtain ⟨whole, hwhole, hread⟩ := Option.bind_eq_some_iff.1 hread
  rw [hwhole, Option.bind_some]
  cases outer with
  | nil =>
    obtain ⟨rfl, rfl⟩ := Prod.mk.inj (Option.some.inj hread)
    exact ⟨rest', rfl, h⟩
  | cons parent outer => exact ih (Flags.length_lt_of_skip ha) h hread

lemma member (hopen : c ≠ '[') (hclose : c ≠ ']')
    (hop : operation? c = none ∨ rest.head? ≠ some c) (ha : f.skip a = c :: rest) (h : Twins a b)
    (hread : readRest? f k outer a = some (closed, r)) :
    ∃ r', readRest? f k outer b = some (closed, r') ∧ Twins r r' := by
  have hskip := h.skip f
  have hlength := Flags.length_skip_le f a
  rw [ha] at hskip hlength
  obtain ⟨rest', hb, hhead⟩ := hskip.exists_cons
  rw [readRest?_member hopen hclose hop ha] at hread
  rw [readRest?_member hopen hclose (hhead ▸ hop) hb]
  obtain ⟨⟨set, after⟩, hset, hread⟩ := Option.bind_eq_some_iff.1 hread
  have hlt := length_lt_of_readMember? hset
  obtain ⟨after', hset', hafter | hafter⟩ := readMember?_twins (hb ▸ hskip) hset
  · rw [hset', Option.bind_some]
    exact ih (by omega) hafter hread
  · dsimp only at hread
    rw [readRest?_begun hafter] at hread
    cases hread

end AgreeBelow

lemma readRest?_twins (h : Twins a b) (hread : readRest? f k outer a = some (closed, r)) :
    ∃ r', readRest? f k outer b = some (closed, r') ∧ Twins r r' := by
  induction hn : a.length using Nat.strongRecOn generalizing a b k outer with
  | ind n ih =>
    subst hn
    have hagree : AgreeBelow f closed r a.length := fun hlt h hread => ih _ hlt h hread rfl
    cases ha : f.skip a with
    | nil =>
      rw [readRest?_nil ha] at hread
      cases hread
    | cons c rest =>
      have hskip := h.skip f
      rw [ha] at hskip
      by_cases hopen : c = '['
      · subst hopen
        obtain ⟨rest', hb, hrest⟩ := hskip.cons_inv (by decide)
        exact hagree.openClass ha hb hrest hread
      by_cases hclose : c = ']'
      · subst hclose
        obtain ⟨rest', hb, hrest⟩ := hskip.cons_inv (by decide)
        exact hagree.closeClass ha hb hrest hread
      by_cases hmember : operation? c = none ∨ rest.head? ≠ some c
      · exact hagree.member hopen hclose hmember ha h hread
      -- what is left is an operation, whose sign stands twice
      rw [not_or, not_not] at hmember
      obtain ⟨op, hop⟩ := Option.ne_none_iff_exists'.1 hmember.1
      obtain ⟨rest, rfl⟩ := List.head?_eq_some_iff.1 hmember.2
      have hne : c ≠ '\\' := by
        rintro rfl
        cases hop
      obtain ⟨_, hb, hsecond⟩ := hskip.cons_inv hne
      obtain ⟨rest', rfl, hrest⟩ := hsecond.cons_inv hne
      rw [readRest?_operate hop ha] at hread
      rw [readRest?_operate hop hb]
      have hlt := Flags.length_lt_of_skip ha
      exact hagree (Nat.lt_of_succ_lt hlt) hrest hread

/-- A class is read from both twins alike. -/
theorem read?_twins (h : Twins a b) (hread : read? f a = some (closed, r)) :
    ∃ r', read? f b = some (closed, r') ∧ Twins r r' := by
  obtain ⟨hclass, hrest⟩ := enter_twins (f := f) h
  rw [read?] at hread ⊢
  rw [← hclass]
  exact readRest?_twins hrest hread

end Bracket

end PinyinSearch
