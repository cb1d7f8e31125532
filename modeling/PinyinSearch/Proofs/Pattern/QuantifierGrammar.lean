import Mathlib.Data.List.Induction
import Mathlib.Data.Nat.Digits.Defs
import PinyinSearch.Proofs.Pattern.Quantifier
import PinyinSearch.Proofs.Regex.Anchors
import PinyinSearch.Proofs.Regex.Words
import PinyinSearch.Regex.Engine

/-!
# The grammar of quantifiers

What stands between the braces of a quantifier is one count, two counts with a comma between them,
or one count with a comma on either side (`Writes`).  A count is a numeral of ASCII digits whose
value fits into 64 bits; leading zeros are allowed, signs and spaces are not.  An opening brace
begins a quantifier exactly if the text up to the first closing brace is of this form
(`at?_iff_encloses`).

Neither of the two filters gives this grammar alone: the first, which is that of a regular
expression (`compile?_form`), passes digits of every script and numbers of any size, the second
passes a plus sign.
-/

namespace PinyinSearch

/-! ## Numerals -/

/-- A text of ASCII digits writes a number in decimal, perhaps with leading zeros. -/
structure Text.IsNumeral (s : Text) (n : Nat) : Prop where
  ne_nil : s ≠ []
  digits : ∀ c ∈ s, '0' ≤ c ∧ c ≤ '9'
  value : n = Nat.ofDigits 10 (s.reverse.map fun c => c.toNat - '0'.toNat)

namespace Text

variable {s : Text} {n : Nat}

lemma drop_of_getElem? {i : Nat} {c : Char} (h : s[i]? = some c) :
    s.drop i = c :: s.drop (i + 1) := by
  obtain ⟨hlt, rfl⟩ := List.getElem?_eq_some_iff.1 h
  exact List.drop_eq_getElem_cons hlt

lemma foldl_digits (s : Text) :
    s.foldl (fun n c => 10 * n + (c.toNat - '0'.toNat)) 0 =
      Nat.ofDigits 10 (s.reverse.map fun c => c.toNat - '0'.toNat) := by
  induction s using List.reverseRecOn with
  | nil => rfl
  | append_singleton s c ih =>
    rw [List.foldl_append, List.reverse_append, ih, List.reverse_singleton, List.singleton_append,
      List.map_cons, Nat.ofDigits_cons, Nat.add_comm]
    rfl

lemma isDigit_iff {c : Char} : c.isDigit = true ↔ '0' ≤ c ∧ c ≤ '9' := by
  simp [Char.isDigit, Char.le_def]

/-- The number that a text writes is read from it, and from no other text is one read. -/
theorem natural?_eq_some_iff : s.natural? = some n ↔ s.IsNumeral n := by
  rw [natural?, foldl_digits]
  constructor
  · intro h
    split at h
    · next hdigits =>
      refine ⟨hdigits.1, fun c hc => ?_, (Option.some.inj h).symm⟩
      exact isDigit_iff.1 (List.all_eq_true.1 hdigits.2 c hc)
    · cases h
  · intro h
    have hall : s.all Char.isDigit = true :=
      List.all_eq_true.2 fun c hc => isDigit_iff.2 (h.digits c hc)
    rw [if_pos ⟨h.ne_nil, hall⟩, h.value]

/-- Only the number 0 is written with a zero in front. -/
lemma eq_zero_of_head?_decimal (h : (decimal n).head? = some '0') : n = 0 := by
  rw [decimal] at h
  induction n using Nat.base_induction 10 (by decide) with
  | single m hm =>
    rw [Nat.toDigits_of_lt_base hm, List.head?_cons, Option.some_inj] at h
    revert h
    decide +revert
  | digit m k hk hm ih =>
    obtain ⟨c, digits, hm'⟩ := List.exists_cons_of_ne_nil (Nat.toDigits_ne_nil (n := m) (b := 10))
    rw [← Nat.toDigits_append_toDigits (by decide) hm hk, hm', List.cons_append,
      List.head?_cons] at h
    rw [hm', List.head?_cons] at ih
    exact absurd (ih h) (Nat.ne_of_gt hm)

/-- The canonical numeral of a number: no digit could be left out in front. -/
structure IsCanonical (s : Text) (n : Nat) : Prop extends s.IsNumeral n where
  lead : s.head? = some '0' → s = ['0']

lemma isCanonical_decimal (n : Nat) : (decimal n).IsCanonical n where
  toIsNumeral := natural?_eq_some_iff.1 (natural?_decimal n)
  lead h := by rw [eq_zero_of_head?_decimal h]; rfl

end Text

namespace Quantifier

variable {s interior rest : Text} {q : Quantifier} {n : Nat}

/-! ## Forms -/

/-- A text without a separator is not cut. -/
lemma cutAt_eq_none {sep : Char} (hs : sep ∉ s) : Text.cutAt sep s = none := by
  cases hcut : Text.cutAt sep s with
  | none => rfl
  | some parts =>
    refine absurd ?_ hs
    rw [Text.eq_of_cutAt hcut]
    simp

lemma areDigits_iff : areDigits s = true ↔ s ≠ [] ∧ ∀ c ∈ s, Unicode.isDecimalDigit c = true := by
  rw [areDigits, Bool.and_eq_true, decide_eq_true_eq, List.all_eq_true]

lemma comma_not_mem_of_areDigits (h : areDigits s = true) : ',' ∉ s := by
  intro hmem
  exact absurd ((areDigits_iff.1 h).2 _ hmem) (by decide)

/-- The texts of the form are one numeral, two with a comma between them, or one with a comma on
either side. -/
lemma hasForm_iff : hasForm s = true ↔
    areDigits s = true ∨ (∃ d e, s = d ++ ',' :: e ∧ areDigits d = true ∧ areDigits e = true) ∨
      (∃ d, s = d ++ [','] ∧ areDigits d = true) ∨ ∃ e, s = ',' :: e ∧ areDigits e = true := by
  constructor
  · intro h
    rw [hasForm] at h
    rcases hcut : s.cutAt ',' with _ | ⟨_ | ⟨c, d⟩, e⟩
    · rw [hcut] at h
      exact .inl h
    · rw [hcut] at h
      exact .inr (.inr (.inr ⟨e, Text.eq_of_cutAt hcut, h⟩))
    · rw [hcut] at h
      have htext := Text.eq_of_cutAt hcut
      cases e with
      | nil => exact .inr (.inr (.inl ⟨c :: d, htext, h⟩))
      | cons c' e =>
        obtain ⟨hd, he⟩ := Bool.and_eq_true_iff.1 h
        exact .inr (.inl ⟨c :: d, c' :: e, htext, hd, he⟩)
  · rintro (h | ⟨d, e, rfl, hd, he⟩ | ⟨d, rfl, hd⟩ | ⟨e, rfl, he⟩)
    · rw [hasForm, cutAt_eq_none (comma_not_mem_of_areDigits h)]
      exact h
    · rw [hasForm, cutAt_append (comma_not_mem_of_areDigits hd)]
      obtain ⟨c, d, rfl⟩ := List.exists_cons_of_ne_nil (areDigits_iff.1 hd).1
      obtain ⟨c', e, rfl⟩ := List.exists_cons_of_ne_nil (areDigits_iff.1 he).1
      exact Bool.and_eq_true_iff.2 ⟨hd, he⟩
    · rw [hasForm, cutAt_append (comma_not_mem_of_areDigits hd)]
      obtain ⟨c, d, rfl⟩ := List.exists_cons_of_ne_nil (areDigits_iff.1 hd).1
      exact hd
    · have hcut : Text.cutAt ',' (',' :: e) = some ([], e) := cutAt_append List.not_mem_nil
      rw [hasForm, hcut]
      exact he

/-- One decimal digit or more. -/
def digits : Regex := .times (.set .digit) 1 none

/-- A comma. -/
def comma : Regex := .set (.range ',' ',')

/-- The expression that describes the form. -/
def formRegex : Regex :=
  .seqs (Regex.anchored true true
    [Regex.alts [.seqs [digits], .seqs [digits, comma, digits], .seqs [digits, comma],
      .seqs [comma, digits]]])

lemma matches_digits {before mid after : Text} :
    digits.Matches before mid after ↔ areDigits mid = true := by
  have hrepeats : ∀ {k : Nat} {before mid after : Text},
      Regex.Repeats (Regex.set .digit).Matches k before mid after ↔
        mid.length = k ∧ ∀ c ∈ mid, Unicode.isDecimalDigit c = true := by
    intro k
    induction k with
    | zero =>
      intro before mid after
      rw [Regex.repeats_zero, List.length_eq_zero_iff]
      exact ⟨by rintro rfl; simp, And.left⟩
    | succ k ih =>
      intro before mid after
      rw [Regex.repeats_succ]
      constructor
      · rintro ⟨_, rest, rfl, ⟨c, rfl, hc⟩, hrest⟩
        obtain ⟨hlength, hall⟩ := ih.1 hrest
        exact ⟨congrArg (· + 1) hlength, List.forall_mem_cons.2 ⟨hc, hall⟩⟩
      · rintro ⟨hlength, hall⟩
        obtain ⟨c, rest, rfl⟩ := List.exists_cons_of_length_eq_add_one hlength
        rw [List.forall_mem_cons] at hall
        exact ⟨[c], rest, rfl, ⟨c, rfl, hall.1⟩, ih.2 ⟨Nat.succ.inj hlength, hall.2⟩⟩
  rw [digits, Regex.matches_times, areDigits_iff]
  constructor
  · rintro ⟨k, hk, -, hmatch⟩
    obtain ⟨hlength, hall⟩ := hrepeats.1 hmatch
    exact ⟨List.length_pos_iff.1 (hlength ▸ hk), hall⟩
  · rintro ⟨hne, hall⟩
    exact ⟨mid.length, List.length_pos_iff.2 hne, nofun, hrepeats.2 ⟨rfl, hall⟩⟩

lemma matches_comma {before mid after : Text} : comma.Matches before mid after ↔ mid = [','] := by
  have hcontains : ∀ c, (CharSet.range ',' ',').contains c = true ↔ c = ',' := by
    intro c
    simp only [CharSet.contains, Bool.and_eq_true, decide_eq_true_eq]
    exact ⟨fun h => Char.le_antisymm h.2 h.1, by rintro rfl; exact ⟨Char.le_refl _, Char.le_refl _⟩⟩
  constructor
  · rintro ⟨c, rfl, hc⟩
    rw [(hcontains c).1 hc]
  · rintro rfl
    exact ⟨',', rfl, (hcontains ',').2 rfl⟩

lemma matches_seqs_pair {r r' : Regex} {before mid after : Text} :
    (Regex.seqs [r, r']).Matches before mid after ↔
      ∃ first rest, mid = first ++ rest ∧ r.Matches before first (rest ++ after) ∧
        r'.Matches (before ++ first) rest after := by
  refine exists_congr fun first => exists_congr fun rest => ?_
  exact and_congr_right fun _ => and_congr_right fun _ => Regex.matches_seqs_singleton

lemma matches_comma_digits {before mid after : Text} :
    (Regex.seqs [comma, digits]).Matches before mid after ↔
      ∃ e, mid = ',' :: e ∧ areDigits e = true := by
  simp only [matches_seqs_pair, matches_comma, matches_digits]
  constructor
  · rintro ⟨_, e, rfl, rfl, he⟩
    exact ⟨e, rfl, he⟩
  · rintro ⟨e, rfl, he⟩
    exact ⟨[','], e, rfl, rfl, he⟩

lemma matches_digits_comma {before mid after : Text} :
    (Regex.seqs [digits, comma]).Matches before mid after ↔
      ∃ d, mid = d ++ [','] ∧ areDigits d = true := by
  simp only [matches_seqs_pair, matches_comma, matches_digits]
  constructor
  · rintro ⟨d, _, rfl, hd, rfl⟩
    exact ⟨d, rfl, hd⟩
  · rintro ⟨d, rfl, hd⟩
    exact ⟨d, [','], rfl, hd, rfl⟩

lemma matches_digits_comma_digits {before mid after : Text} :
    (Regex.seqs [digits, comma, digits]).Matches before mid after ↔
      ∃ d e, mid = d ++ ',' :: e ∧ areDigits d = true ∧ areDigits e = true := by
  constructor
  · rintro ⟨d, rest, rfl, hd, hrest⟩
    obtain ⟨e, rfl, he⟩ := matches_comma_digits.1 hrest
    exact ⟨d, e, rfl, matches_digits.1 hd, he⟩
  · rintro ⟨d, e, rfl, hd, he⟩
    exact ⟨d, ',' :: e, rfl, matches_digits.2 hd, matches_comma_digits.2 ⟨e, rfl, he⟩⟩

/-- How the expression is written. -/
def formNotation : Text := "^(?:\\d+|\\d+,\\d+|\\d+,|,\\d+)$".toList

/-- The first filter passes what the expression for it matches. -/
theorem compile?_form : RegexEngine.unlimited.compile? {} formNotation = some hasForm := by
  have hparse : Regex.parse? {} formNotation = some formRegex := by decide +kernel
  rw [RegexEngine.compile?_unlimited, hparse, Option.map_some]
  refine congrArg some (funext fun s => Bool.eq_iff_iff.2 ?_)
  rw [formRegex, Regex.isMatch_anchored, Regex.matches_seqs_singleton,
    Regex.matches_alts (List.cons_ne_nil _ _), hasForm_iff]
  simp only [List.mem_cons, List.not_mem_nil, or_false, exists_eq_or_imp, exists_eq_left,
    Regex.matches_seqs_singleton, matches_digits, matches_digits_comma_digits,
    matches_digits_comma, matches_comma_digits]

/-! ## Interiors -/

/-- A numeral whose number fits into 64 bits. -/
structure IsCount (d : Text) (n : Nat) : Prop extends d.IsNumeral n where
  lt : n < 2 ^ 64

/-- The texts that stand between the braces of a quantifier. -/
inductive Writes : Text → Quantifier → Prop where
  | exactly {d n} :
    IsCount d n →
    Writes d (.exactly n)
  | between {d e m n} :
    IsCount d m →
    IsCount e n →
    Writes (d ++ ',' :: e) (.between m n)
  | atLeast {d m} :
    IsCount d m →
    Writes (d ++ [',']) (.atLeast m)
  | upTo {d n} :
    IsCount d n →
    Writes (',' :: d) (.upTo n)

lemma count?_eq_some_iff : count? s = some n ↔ IsCount s n := by
  rw [count?, Option.filter_eq_some_iff, Text.natural?_eq_some_iff, decide_eq_true_eq]
  exact ⟨fun h => ⟨h.1, h.2⟩, fun h => ⟨h.toIsNumeral, h.lt⟩⟩

lemma IsCount.comma_not_mem {d : Text} (h : IsCount d n) : ',' ∉ d := by
  intro hmem
  have := h.digits ',' hmem
  revert this
  decide

lemma writes_of_ofInterior? (h : ofInterior? interior = some q) : Writes interior q := by
  rw [ofInterior?_eq] at h
  split at h
  · obtain ⟨n, hn, rfl⟩ := Option.map_eq_some_iff.1 h
    exact .exactly (count?_eq_some_iff.1 hn)
  · next maximum hcut =>
    obtain ⟨n, hn, rfl⟩ := Option.map_eq_some_iff.1 h
    rw [Text.eq_of_cutAt hcut]
    exact .upTo (count?_eq_some_iff.1 hn)
  · next minimum _ hcut =>
    obtain ⟨n, hn, rfl⟩ := Option.map_eq_some_iff.1 h
    rw [Text.eq_of_cutAt hcut]
    exact .atLeast (count?_eq_some_iff.1 hn)
  · next minimum maximum _ _ hcut =>
    obtain ⟨m, hm, h⟩ := Option.bind_eq_some_iff.1 h
    obtain ⟨n, hn, rfl⟩ := Option.map_eq_some_iff.1 h
    rw [Text.eq_of_cutAt hcut]
    exact .between (count?_eq_some_iff.1 hm) (count?_eq_some_iff.1 hn)

lemma Writes.ofInterior? (h : Writes interior q) : ofInterior? interior = some q := by
  cases h with
  | exactly hd =>
    rw [Quantifier.ofInterior?_eq, cutAt_eq_none hd.comma_not_mem]
    simp only [count?_eq_some_iff.2 hd, Option.map_some]
  | @upTo d n hd =>
    have hcut : Text.cutAt ',' (',' :: d) = some ([], d) := cutAt_append List.not_mem_nil
    rw [Quantifier.ofInterior?_eq, hcut]
    simp only [count?_eq_some_iff.2 hd, Option.map_some]
  | @atLeast d m hd =>
    have hne := hd.ne_nil
    rw [Quantifier.ofInterior?_eq, cutAt_append hd.comma_not_mem]
    cases d with
    | nil => exact absurd rfl hne
    | cons c d => simp only [count?_eq_some_iff.2 hd, Option.map_some]
  | @between d e m n hd he =>
    have hne := hd.ne_nil
    have hne' := he.ne_nil
    rw [Quantifier.ofInterior?_eq, cutAt_append hd.comma_not_mem]
    cases d with
    | nil => exact absurd rfl hne
    | cons c d =>
      cases e with
      | nil => exact absurd rfl hne'
      | cons c' e =>
        simp only [count?_eq_some_iff.2 hd, count?_eq_some_iff.2 he, Option.bind_some,
          Option.map_some]

/-- The interiors of quantifiers are those that the grammar gives. -/
theorem ofInterior?_eq_some_iff : ofInterior? interior = some q ↔ Writes interior q :=
  ⟨writes_of_ofInterior?, Writes.ofInterior?⟩

/-- The greatest count and the first that is too great; a sign, and a digit beyond ASCII. -/
example : ofInterior? "18446744073709551615".toList = some (.exactly (2 ^ 64 - 1)) ∧
    ofInterior? "18446744073709551616".toList = none ∧ ofInterior? "+1".toList = none ∧
    ofInterior? "٣".toList = none := by
  simp only [ofInterior?_eq]
  decide

/-! ## Positions -/

/-- The quantifier that a brace at a position opens, and the position behind its closing brace. -/
def at? (s : Text) (opening : Nat) : Option (Quantifier × Nat) :=
  (read? (s.drop (opening + 1))).map fun (q, interior, _) => (q, opening + interior.length + 2)

/-- A brace at a position and the first closing brace behind it enclose a text. -/
structure Encloses (s : Text) (opening : Nat) (interior : Text) (stop : Nat) : Prop where
  drop_eq : s.drop opening = braced interior ++ s.drop stop
  stop_eq : stop = opening + interior.length + 2
  first : '}' ∉ interior

lemma read?_eq_some_iff : read? s = some (q, interior, rest) ↔
    s = interior ++ '}' :: rest ∧ Writes interior q := by
  constructor
  · intro h
    exact ⟨eq_of_read? h, ofInterior?_eq_some_iff.1 (ofInterior?_of_read? h)⟩
  · rintro ⟨rfl, h⟩
    exact read?_append h.ofInterior?

lemma Writes.brace_not_mem (h : Writes interior q) : '}' ∉ interior := by
  intro hmem
  have := isDigit_of_ofInterior? h.ofInterior? '}' hmem
  revert this
  decide

/-- A brace opens a quantifier exactly if it encloses what the grammar gives. -/
lemma at?_eq_some_iff {opening stop : Nat} (hopening : s[opening]? = some '{') :
    at? s opening = some (q, stop) ↔
      ∃ interior, Encloses s opening interior stop ∧ Writes interior q := by
  have hdrop := Text.drop_of_getElem? hopening
  rw [at?, Option.map_eq_some_iff]
  constructor
  · rintro ⟨⟨q', interior, rest⟩, hread, heq⟩
    obtain ⟨rfl, rfl⟩ := Prod.mk.inj heq
    obtain ⟨htext, hwrites⟩ := read?_eq_some_iff.1 hread
    refine ⟨interior, ⟨?_, rfl, hwrites.brace_not_mem⟩, hwrites⟩
    have hrest : s.drop (opening + interior.length + 2) = rest := by
      have hsplit : opening + interior.length + 2 = opening + 1 + (interior.length + 1) := by omega
      rw [hsplit, ← List.drop_drop, htext, ← List.drop_drop, List.drop_left]
      rfl
    rw [hrest, hdrop, htext]
    simp [braced]
  · rintro ⟨interior, henclosed, hwrites⟩
    have htext := hdrop.symm.trans henclosed.drop_eq
    rw [braced, List.cons_append, List.cons_append, List.append_assoc] at htext
    exact ⟨(q, interior, s.drop stop), read?_eq_some_iff.2 ⟨(List.cons.inj htext).2, hwrites⟩,
      congrArg (q, ·) henclosed.stop_eq.symm⟩

/-- A brace opens a quantifier exactly if the text up to the first closing brace is one count, two
counts, or one count and a comma; the quantifier has these counts and ends behind the closing brace.
It is written back as it stands, but for a missing minimum, in place of which a zero is written and
the maximum without leading zeros. -/
theorem at?_iff_encloses {opening : Nat} (hopening : s[opening]? = some '{') :
    (∀ q stop, at? s opening = some (q, stop) ↔
      ∃ interior, Encloses s opening interior stop ∧ Writes interior q) ∧
    ∀ interior q, Writes interior q →
      (q.HasMinimum → q.canonical interior = braced interior) ∧
      ∀ n, q = .upTo n → ∃ digits, Text.IsCanonical digits n ∧
        q.canonical interior = braced ('0' :: ',' :: digits) := by
  refine ⟨fun q stop => at?_eq_some_iff hopening, fun interior q _ => ⟨fun hminimum => ?_, ?_⟩⟩
  · cases q with
    | exactly | between | atLeast => rfl
    | upTo => exact hminimum.elim
  · rintro n rfl
    exact ⟨Text.decimal n, Text.isCanonical_decimal n, rfl⟩

/-- A missing minimum behind leading zeros of the maximum, and braces behind it. -/
theorem at?_iff_encloses_sample :
    let s := "a{,007}{}".toList
    s[1]? = some '{' ∧ at? s 1 = some (.upTo 7, 7) ∧
      ∃ digits, Text.IsCanonical digits 7 ∧
        (upTo 7).canonical ",007".toList = braced ('0' :: ',' :: digits) := by
  intro s
  have hopening : s[1]? = some '{' := rfl
  have hcount : IsCount "007".toList 7 := ⟨Text.natural?_eq_some_iff.1 rfl, by decide⟩
  have hwrites : Writes ",007".toList (.upTo 7) := .upTo hcount
  obtain ⟨hfound, hwritten⟩ := at?_iff_encloses hopening
  refine ⟨hopening, (hfound _ _).2 ⟨",007".toList, ⟨rfl, rfl, by decide⟩, hwrites⟩, ?_⟩
  exact (hwritten _ _ hwrites).2 7 rfl

end Quantifier

end PinyinSearch
