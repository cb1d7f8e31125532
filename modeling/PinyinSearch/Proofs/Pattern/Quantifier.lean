import Mathlib.Tactic.Common
import PinyinSearch.Pattern.Quantifier

/-!
# What quantifiers allow

The numbers that a quantifier allows, and how a quantifier is read from its braces.
-/

namespace PinyinSearch.Quantifier

/-- A quantifier allows a number. -/
def Allows : Quantifier → Nat → Prop
  | exactly n, k => k = n
  | between m n, k => m ≤ k ∧ k ≤ n
  | atLeast m, k => m ≤ k
  | upTo n, k => k ≤ n

instance : (q : Quantifier) → (k : Nat) → Decidable (q.Allows k)
  | exactly n, k => inferInstanceAs (Decidable (k = n))
  | between m n, k => inferInstanceAs (Decidable (m ≤ k ∧ k ≤ n))
  | atLeast m, k => inferInstanceAs (Decidable (m ≤ k))
  | upTo n, k => inferInstanceAs (Decidable (k ≤ n))

/-- The least number that a quantifier allows. -/
def least : Quantifier → Nat
  | exactly n => n
  | between m _ => m
  | atLeast m => m
  | upTo _ => 0

/-- The greatest number that a quantifier allows, if there is one. -/
def most : Quantifier → Option Nat
  | exactly n => some n
  | between _ n => some n
  | atLeast _ => none
  | upTo n => some n

/-- A quantifier allows the numbers between its bounds. -/
lemma allows_iff {q : Quantifier} {k : Nat} :
    q.Allows k ↔ q.least ≤ k ∧ ∀ n ∈ q.most, k ≤ n := by
  cases q with
  | exactly n => simp only [Allows, least, most, Option.mem_some_iff, forall_eq']; omega
  | between m n => simp [Allows, least, most]
  | atLeast m => simp [Allows, least, most]
  | upTo n => simp [Allows, least, most]

/-- The bounds of a quantifier are in order. -/
def IsOrdered : Quantifier → Prop
  | between m n => m ≤ n
  | _ => True

lemma IsOrdered.least_le {q : Quantifier} (h : q.IsOrdered) {n : Nat} (hn : n ∈ q.most) :
    q.least ≤ n := by
  cases q with
  | exactly k => exact Nat.le_of_eq (Option.mem_some_iff.1 hn)
  | between m k =>
    obtain rfl := Option.mem_some_iff.1 hn
    exact h
  | atLeast m => cases hn
  | upTo k => exact Nat.zero_le n

/-- A minimum is written down in a quantifier. -/
def HasMinimum : Quantifier → Prop
  | upTo _ => False
  | _ => True

/-- A text is cut at the first separator. -/
lemma cutAt_append {sep : Char} {s rest : Text} (hs : sep ∉ s) :
    Text.cutAt sep (s ++ sep :: rest) = some (s, rest) := by
  induction s with
  | nil => simp [Text.cutAt]
  | cons c s ih =>
    rw [List.mem_cons, not_or] at hs
    rw [List.cons_append, Text.cutAt, if_neg (Ne.symm hs.1), ih hs.2]
    rfl

/-! ## Filters -/

/-- The number that ASCII digits write, if it is small enough. -/
def count? (s : Text) : Option Nat := s.natural?.filter (· < bound)

/-- The number that digits write behind those of another number. -/
def continued (n : Nat) (digits : Text) : Nat :=
  digits.foldl (fun n c => 10 * n + (c.toNat - '0'.toNat)) n

lemma le_continued (n : Nat) (digits : Text) : n ≤ continued n digits := by
  induction digits generalizing n with
  | nil => exact Nat.le_refl n
  | cons c digits ih =>
    have hle : n ≤ 10 * n + (c.toNat - '0'.toNat) := by omega
    exact Nat.le_trans hle (ih _)

/-- To check every number on the way is to check the last one, because they grow. -/
lemma foldlM_pushDigit? {s : Text} (hs : s.all Char.isDigit = true) {n : Nat} (hn : n < bound) :
    s.foldlM pushDigit? n = if continued n s < bound then some (continued n s) else none := by
  induction s generalizing n with
  | nil => exact (if_pos hn).symm
  | cons c s ih =>
    rw [List.all_cons, Bool.and_eq_true] at hs
    rw [List.foldlM_cons, pushDigit?, if_pos hs.1]
    have hcontinued : continued n (c :: s) = continued (10 * n + (c.toNat - '0'.toNat)) s := rfl
    rw [hcontinued]
    by_cases hm : 10 * n + (c.toNat - '0'.toNat) < bound
    · simp only [if_pos hm]
      exact ih hs.2 hm
    · have hlarge := Nat.le_trans (Nat.le_of_not_lt hm) (le_continued _ s)
      simp only [if_neg hm, if_neg (Nat.not_lt.2 hlarge)]
      rfl

lemma foldlM_pushDigit?_eq_none {s : Text} (hs : s.all Char.isDigit = false) (n : Nat) :
    s.foldlM pushDigit? n = none := by
  induction s generalizing n with
  | nil => cases hs
  | cons c s ih =>
    rw [List.foldlM_cons, pushDigit?]
    by_cases hc : c.isDigit = true
    · rw [List.all_cons, hc, Bool.true_and] at hs
      rw [if_pos hc]
      dsimp only
      split
      · exact ih hs _
      · rfl
    · rw [if_neg hc]
      rfl

/-- Behind no plus sign, the second filter takes the numerals of ASCII digits. -/
lemma number?_eq_count? {s : Text} (hs : s.head? ≠ some '+') : number? s = count? s := by
  have hplus : dropPlus s = s := by
    cases s with
    | nil => rfl
    | cons c s =>
      rw [dropPlus]
      rintro rest ⟨⟩
      exact hs rfl
  rw [number?, hplus, count?, Text.natural?]
  cases s with
  | nil => rfl
  | cons c s =>
    by_cases hdigits : (c :: s).all Char.isDigit = true
    · rw [if_pos ⟨List.cons_ne_nil c s, hdigits⟩, Option.filter_some]
      simp only [decide_eq_true_eq]
      exact foldlM_pushDigit? hdigits (by decide)
    · rw [if_neg (fun h => hdigits h.2)]
      exact foldlM_pushDigit?_eq_none (Bool.eq_false_iff.2 hdigits) 0

lemma isDecimalDigit_of_isDigit {c : Char} (h : c.isDigit = true) :
    Unicode.isDecimalDigit c = true := by
  have hlt : c.toNat < 128 := by
    rw [Char.isDigit, Bool.and_eq_true, decide_eq_true_eq, decide_eq_true_eq] at h
    have hle := UInt32.le_iff_toNat_le.1 h.2
    exact Nat.lt_of_le_of_lt hle (by decide)
  rw [Unicode.isDecimalDigit, if_pos hlt, h]

/-- Numbers that the second filter takes have passed the first. -/
lemma areDigits_of_count? {s : Text} {n : Nat} (h : count? s = some n) : areDigits s = true := by
  have hnat : s.natural? = some n := Option.eq_some_of_filter_eq_some h
  rw [Text.natural?] at hnat
  split at hnat
  · next hdigits =>
    have hall := List.all_eq_true.1 hdigits.2
    rw [areDigits, Bool.and_eq_true, decide_eq_true_eq, List.all_eq_true]
    exact ⟨hdigits.1, fun c hc => isDecimalDigit_of_isDigit (hall c hc)⟩
  · cases hnat

/-- Among digits there is no plus sign. -/
lemma number?_of_areDigits {s : Text} (h : areDigits s = true) : number? s = count? s := by
  refine number?_eq_count? fun hplus => ?_
  obtain ⟨rest, rfl⟩ := List.head?_eq_some_iff.1 hplus
  rw [areDigits, Bool.and_eq_true, List.all_cons, Bool.and_eq_true] at h
  exact absurd h.2.1 (by decide)

lemma count?_eq_none {s : Text} (h : areDigits s = false) : count? s = none := by
  rw [Option.eq_none_iff_forall_ne_some]
  intro n hn
  rw [areDigits_of_count? hn] at h
  cases h

/-- The two filters together take one count of ASCII digits, two with a comma between them, or one
with a comma on either side. -/
theorem ofInterior?_eq (interior : Text) : ofInterior? interior =
    match interior.cutAt ',' with
    | none => (count? interior).map exactly
    | some ([], maximum) => (count? maximum).map upTo
    | some (minimum, []) => (count? minimum).map atLeast
    | some (minimum, maximum) =>
      (count? minimum).bind fun m => (count? maximum).map (between m) := by
  -- one text: both filters pass it or the count is none
  have hone : ∀ {s : Text} {f : Nat → Quantifier},
      (if areDigits s then (number? s).map f else none) = (count? s).map f := by
    intro s f
    cases hs : areDigits s with
    | false => rw [count?_eq_none hs]; rfl
    | true => rw [if_pos rfl, number?_of_areDigits hs]
  rw [ofInterior?, hasForm]
  rcases interior.cutAt ',' with _ | ⟨_ | ⟨c, minimum⟩, maximum⟩
  · exact hone
  · exact hone
  · cases maximum with
    | nil => exact hone
    | cons d maximum =>
      cases hmin : areDigits (c :: minimum) with
      | false =>
        simp only [hmin, count?_eq_none hmin, Bool.false_and]
        rfl
      | true =>
        simp only [hmin, Bool.true_and, number?_of_areDigits hmin]
        cases hmax : areDigits (d :: maximum) with
        | false => simp [count?_eq_none hmax]
        | true => simp only [number?_of_areDigits hmax, if_true]

lemma natural?_of_count? {s : Text} {n : Nat} (h : count? s = some n) : s.natural? = some n :=
  Option.eq_some_of_filter_eq_some h

/-- Only digits write a count. -/
lemma isDigit_of_count? {s : Text} {n : Nat} (h : count? s = some n) :
    ∀ c ∈ s, c.isDigit = true := by
  have hnat := natural?_of_count? h
  rw [Text.natural?] at hnat
  split at hnat
  · next hdigits => exact List.all_eq_true.1 hdigits.2
  · cases hnat

/-- Between the braces of a quantifier stand digits and a comma at most. -/
lemma isDigit_of_ofInterior? {interior : Text} {q : Quantifier}
    (h : ofInterior? interior = some q) : ∀ c ∈ interior, c.isDigit = true ∨ c = ',' := by
  rw [ofInterior?_eq] at h
  split at h
  · obtain ⟨n, hn, _⟩ := Option.map_eq_some_iff.1 h
    exact fun c hc => .inl (isDigit_of_count? hn c hc)
  · next maximum hcut =>
    obtain ⟨n, hn, _⟩ := Option.map_eq_some_iff.1 h
    rw [Text.eq_of_cutAt hcut, List.nil_append, List.forall_mem_cons]
    exact ⟨.inr rfl, fun c hc => .inl (isDigit_of_count? hn c hc)⟩
  · next minimum _ hcut =>
    obtain ⟨n, hn, _⟩ := Option.map_eq_some_iff.1 h
    rw [Text.eq_of_cutAt hcut, List.forall_mem_append, List.forall_mem_cons]
    exact ⟨fun c hc => .inl (isDigit_of_count? hn c hc), .inr rfl,
      fun c hc => absurd hc List.not_mem_nil⟩
  · next minimum maximum _ _ hcut =>
    obtain ⟨m, hm, h⟩ := Option.bind_eq_some_iff.1 h
    obtain ⟨n, hn, _⟩ := Option.map_eq_some_iff.1 h
    rw [Text.eq_of_cutAt hcut, List.forall_mem_append, List.forall_mem_cons]
    exact ⟨fun c hc => .inl (isDigit_of_count? hm c hc), .inr rfl,
      fun c hc => .inl (isDigit_of_count? hn c hc)⟩

/-- A quantifier is read between its braces. -/
lemma read?_append {interior rest : Text} {q : Quantifier}
    (h : ofInterior? interior = some q) :
    read? (interior ++ '}' :: rest) = some (q, interior, rest) := by
  have hbrace : '}' ∉ interior := fun hmem => by
    have := isDigit_of_ofInterior? h '}' hmem
    revert this
    decide
  simp [read?, cutAt_append hbrace, h]

lemma ofInterior?_of_read? {s interior rest : Text} {q : Quantifier}
    (h : read? s = some (q, interior, rest)) : ofInterior? interior = some q := by
  obtain ⟨⟨i, r⟩, _, h⟩ := Option.bind_eq_some_iff.1 h
  obtain ⟨q', hq, h⟩ := Option.map_eq_some_iff.1 h
  simp only [Prod.mk.injEq] at h
  obtain ⟨rfl, rfl, _⟩ := h
  exact hq

/-- What follows some text makes no quantifier of it, if it begins with what belongs to none. -/
lemma read?_eq_none_of_append {s rest rest' : Text} {d : Char}
    (hd : ¬ (d.isDigit = true ∨ d = ',')) (hbrace : d ≠ '}') (h : read? (s ++ rest) = none) :
    read? (s ++ d :: rest') = none := by
  rw [Option.eq_none_iff_forall_ne_some]
  intro ⟨q, interior, after⟩ hread
  have hinterior := ofInterior?_of_read? hread
  rcases List.append_eq_append_iff.1 (eq_of_read? hread) with
    ⟨more, rfl, hmore⟩ | ⟨more, rfl, hmore⟩
  · cases more with
    | nil => exact hbrace (List.cons.inj hmore).1
    | cons c more =>
      obtain ⟨rfl, -⟩ := List.cons.inj hmore
      exact hd (isDigit_of_ofInterior? hinterior d (by simp))
  · -- The closing brace stands in the text already.
    cases more with
    | nil => exact hbrace (List.cons.inj hmore).1.symm
    | cons c more =>
      obtain ⟨rfl, -⟩ := List.cons.inj hmore
      rw [List.append_assoc, List.cons_append, read?_append hinterior] at h
      cases h

/-! ## Missing minimums -/

/-- A quantifier without a minimum begins with the comma, and its number is small enough. -/
lemma eq_cons_of_upTo {interior : Text} {n : Nat} (h : ofInterior? interior = some (upTo n)) :
    n < bound ∧ ∃ maximum, interior = ',' :: maximum := by
  rw [ofInterior?_eq] at h
  split at h
  · obtain ⟨k, _, hk⟩ := Option.map_eq_some_iff.1 h
    cases hk
  · next maximum hcut =>
    obtain ⟨k, hcount, hk⟩ := Option.map_eq_some_iff.1 h
    cases hk
    have hsmall := (Option.filter_eq_some_iff.1 hcount).2
    exact ⟨of_decide_eq_true hsmall, maximum, Text.eq_of_cutAt hcut⟩
  · obtain ⟨k, _, hk⟩ := Option.map_eq_some_iff.1 h
    cases hk
  · obtain ⟨m, _, h⟩ := Option.bind_eq_some_iff.1 h
    obtain ⟨k, _, hk⟩ := Option.map_eq_some_iff.1 h
    cases hk

/-- With the minimum 0 written out, the quantifier is read back. -/
lemma ofInterior?_zero {n : Nat} (hn : n < bound) :
    ofInterior? ('0' :: ',' :: Text.decimal n) = some (between 0 n) := by
  have hcut : Text.cutAt ',' ('0' :: ',' :: Text.decimal n) = some (['0'], Text.decimal n) :=
    cutAt_append (s := ['0']) (by decide)
  have hzero : count? ['0'] = some 0 := by decide
  have hcount : count? (Text.decimal n) = some n := by
    rw [count?, Text.natural?_decimal]
    exact Option.filter_eq_some_iff.2 ⟨rfl, decide_eq_true hn⟩
  rw [ofInterior?_eq, hcut]
  split
  · next h => cases h
  · next h => cases h
  · next h => exact absurd (Prod.mk.inj (Option.some.inj h)).2 Nat.toDigits_ne_nil
  · next minimum maximum _ _ h =>
    obtain ⟨hminimum, hmaximum⟩ := Prod.mk.inj (Option.some.inj h)
    rw [← hminimum, ← hmaximum, hzero, hcount]
    rfl

end PinyinSearch.Quantifier
