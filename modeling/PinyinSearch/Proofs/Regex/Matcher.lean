import Mathlib.Tactic.Common
import PinyinSearch.Proofs.Regex.Language

/-!
# Correctness of the matcher

The matcher follows the positions that an expression leads to (`Regex.reach`).  Here every part of
it is related to the language of the expression: `Reaches` says that a step on sets of positions
computes the image under a relation, and `reaches_route` that a route computes the image under the
matches of its expression.  The main statement is `isMatch_iff`: the matcher accepts a text exactly
if the expression matches a part of it.

The matcher stops every repetition after as many rounds as the text has positions.  That is enough
because a longer chain of matches has one that stays where it is (`iterate_eq`).
-/

namespace PinyinSearch.Regex

/-- A relation between positions. -/
abbrev Leap := Nat → Nat → Prop

/-- The matches of parts of a text, each by the positions of its ends. -/
def Spans (text : Text) (M : Matching) : Leap := fun i j =>
  ∃ before mid after, before ++ mid ++ after = text ∧ before.length = i ∧
    i + mid.length = j ∧ M before mid after

/-- A number of leaps, one after the other. -/
def Iterate (R : Leap) : Nat → Leap
  | 0 => Eq
  | n + 1 => fun i k => ∃ j, R i j ∧ Iterate R n j k

/-- From positions up to `n` a relation leads forward and not beyond `n`. -/
def Forward (n : Nat) (R : Leap) : Prop := ∀ {i j}, i ≤ n → R i j → i ≤ j ∧ j ≤ n

/-- A step takes every set of positions up to `n` to its image under a relation. -/
structure Reaches (n : Nat) (step : PositionSet → PositionSet) (R : Leap) : Prop where
  forward : Forward n R
  image : ∀ {x : PositionSet}, (∀ i, x.testBit i = true → i ≤ n) → ∀ j,
    (step x).testBit j = true ↔ ∃ i, x.testBit i = true ∧ R i j

/-! ## Matches of parts -/

variable {text : Text}

lemma forward_spans {M : Matching} : Forward text.length (Spans text M) := by
  intro i j _ h
  obtain ⟨before, mid, after, rfl, rfl, rfl, _⟩ := h
  simp only [List.length_append]
  omega

/-- A match of one text after another is a match that ends where a match begins. -/
lemma spans_append {M N : Matching} {i k : Nat} :
    Spans text (fun before mid after => ∃ first rest, mid = first ++ rest ∧
      M before first (rest ++ after) ∧ N (before ++ first) rest after) i k ↔
      ∃ j, Spans text M i j ∧ Spans text N j k := by
  constructor
  · rintro ⟨before, _, after, rfl, rfl, rfl, first, rest, rfl, hM, hN⟩
    refine ⟨before.length + first.length, ⟨before, first, rest ++ after, ?_, rfl, rfl, hM⟩, ?_⟩
    · simp
    · exact ⟨before ++ first, rest, after, by simp, by simp, by simp [Nat.add_assoc], hN⟩
  · rintro ⟨_, ⟨before, first, after', htext, rfl, rfl, hM⟩, before', rest, after, rfl, hlen, rfl,
      hN⟩
    -- both matches cut the text at the same place
    rw [List.append_assoc before' rest after] at htext
    obtain ⟨rfl, rfl⟩ := List.append_inj htext (by simp [hlen])
    refine ⟨before, first ++ rest, after, by simp, rfl, ?_, first, rest, rfl, hM, hN⟩
    simp [Nat.add_assoc]

/-- Nothing is matched at every position of the text. -/
lemma spans_nil {i j : Nat} (hi : i ≤ text.length) :
    Spans text (fun _ mid _ => mid = []) i j ↔ i = j := by
  constructor
  · rintro ⟨before, _, after, rfl, rfl, rfl, rfl⟩
    rfl
  · rintro rfl
    exact ⟨text.take i, [], text.drop i, by simp, List.length_take_of_le hi, rfl, rfl⟩

/-- A number of matches is that number of leaps. -/
lemma spans_repeats {M : Matching} {n i j : Nat} (hi : i ≤ text.length) :
    Spans text (Repeats M n) i j ↔ Iterate (Spans text M) n i j := by
  induction n generalizing i with
  | zero => exact spans_nil hi
  | succ n ih =>
    refine spans_append.trans (exists_congr fun k => and_congr_right fun hik => ?_)
    exact ih (forward_spans hi hik).2

/-! ## Chains of leaps -/

section

variable {n : Nat} {R : Leap}

/-- Chains of leaps forward lead forward. -/
lemma forward_iterate (hR : Forward n R) {m : Nat} : Forward n (Iterate R m) := by
  intro i j hi h
  induction m generalizing i with
  | zero => exact ⟨Nat.le_of_eq h, h ▸ hi⟩
  | succ m ih =>
    obtain ⟨k, hik, hkj⟩ := h
    have hk := hR hi hik
    have hj := ih hk.2 hkj
    omega

/-- Chains are put together. -/
lemma iterate_add {m k i j : Nat} :
    Iterate R (m + k) i j ↔ ∃ l, Iterate R m i l ∧ Iterate R k l j := by
  induction m generalizing i with
  | zero => simp [Iterate]
  | succ m ih =>
    rw [Nat.add_right_comm]
    constructor
    · rintro ⟨a, hia, haj⟩
      obtain ⟨l, hal, hlj⟩ := ih.1 haj
      exact ⟨l, ⟨a, hia, hal⟩, hlj⟩
    · rintro ⟨l, ⟨a, hia, hal⟩, hlj⟩
      exact ⟨a, hia, ih.2 ⟨l, hal, hlj⟩⟩

/-- A chain with more leaps than positions to pass has one that stays, so it may as well be one
leap longer or shorter. -/
lemma iterate_succ_iff (hR : Forward n R) {m i j : Nat} (hi : i ≤ n) (hm : j < i + m) :
    Iterate R (m + 1) i j ↔ Iterate R m i j := by
  induction m generalizing i with
  | zero =>
    constructor
    · rintro ⟨k, hik, rfl⟩
      exact absurd (hR hi hik).1 (by omega)
    · rintro rfl
      exact absurd hm (by omega)
  | succ m ih =>
    constructor
    · rintro ⟨k, hik, hkj⟩
      rcases Nat.eq_or_lt_of_le (hR hi hik).1 with rfl | hlt
      · exact hkj
      · exact ⟨k, hik, (ih (hR hi hik).2 (by omega)).1 hkj⟩
    · rintro ⟨k, hik, hkj⟩
      rcases Nat.eq_or_lt_of_le (hR hi hik).1 with rfl | hlt
      · -- the first leap stays, so it may be taken twice
        exact ⟨i, hik, i, hik, hkj⟩
      · exact ⟨k, hik, (ih (hR hi hik).2 (by omega)).2 hkj⟩

/-- Chains need not have more leaps than there are positions. -/
lemma iterate_min (hR : Forward n R) {m i j : Nat} (hi : i ≤ n) :
    Iterate R (min m (n + 1)) i j ↔ Iterate R m i j := by
  rcases Nat.le_total m (n + 1) with hm | hm
  · rw [Nat.min_eq_left hm]
  · rw [Nat.min_eq_right hm]
    obtain ⟨d, rfl⟩ := Nat.exists_eq_add_of_le hm
    induction d with
    | zero => exact Iff.rfl
    | succ d ih =>
      refine (ih (by omega)).trans ?_
      constructor
      · intro h
        have hj := forward_iterate hR hi h
        exact (iterate_succ_iff hR hi (by omega : j < i + (n + 1 + d))).2 h
      · intro h
        have hj := forward_iterate hR hi h
        exact (iterate_succ_iff hR hi (by omega : j < i + (n + 1 + d))).1 h

end

/-! ## Steps on sets of positions -/

section

open PositionSet

lemma testBit_ofBits_zero {b : Bool} {bits : List Bool} :
    (ofBits (b :: bits)).testBit 0 = b := by
  have hmod : ∀ m : Nat, (2 * m + b.toNat) % 2 = b.toNat := fun m => by cases b <;> simp
  rw [ofBits, Nat.testBit_zero, hmod]
  cases b <;> rfl

lemma testBit_ofBits_succ {b : Bool} {bits : List Bool} {i : Nat} :
    (ofBits (b :: bits)).testBit (i + 1) = (ofBits bits).testBit i := by
  have hdiv : ∀ m : Nat, (2 * m + b.toNat) / 2 = m := fun m => by cases b <;> simp; omega
  rw [ofBits, Nat.testBit_add_one, hdiv]

/-- Which bits are set is read from the list. -/
lemma testBit_ofBits {bits : List Bool} {i : Nat} :
    (ofBits bits).testBit i = true ↔ bits[i]? = some true := by
  induction bits generalizing i with
  | nil => simp [ofBits]
  | cons b bits ih =>
    cases i with
    | zero => rw [testBit_ofBits_zero]; simp
    | succ i => simpa [testBit_ofBits_succ] using ih

lemma testBit_before {s : CharSet} {i : Nat} :
    (PositionSet.before s text).testBit i = true ↔
      ∃ c, text[i]? = some c ∧ s.contains c = true := by
  rw [PositionSet.before, testBit_ofBits, List.getElem?_map]
  simp

lemma testBit_holdingAfter {a : Assertion} {prior : Option Char} {before after : Text} :
    (ofBits (holdingAfter a prior (before ++ after))).testBit before.length =
      a.holds (before.getLast?.or prior) after.head? := by
  induction before generalizing prior with
  | nil => cases after <;> exact testBit_ofBits_zero
  | cons c before ih =>
    refine testBit_ofBits_succ.trans (ih.trans ?_)
    rw [List.getLast?_cons]
    cases before.getLast? <;> rfl

/-- A condition holds at a position with the characters around it. -/
lemma testBit_holding {a : Assertion} {before after : Text} :
    (holding a (before ++ after)).testBit before.length =
      a.holds before.getLast? after.head? := by
  rw [holding, testBit_holdingAfter, Option.or_none]

lemma testBit_upTo {n i : Nat} : (upTo n).testBit i = true ↔ i ≤ n := by
  rw [upTo, Nat.one_shiftLeft, Nat.testBit_two_pow_sub_one, decide_eq_true_iff]
  exact Nat.lt_succ_iff

/-- The image under rows is what the rows of the positions hold. -/
lemma testBit_image {rows : List PositionSet} {x : PositionSet} {j : Nat} :
    (image rows x).testBit j = true ↔
      ∃ i, x.testBit i = true ∧ ∃ row, rows[i]? = some row ∧ row.testBit j = true := by
  induction rows generalizing x with
  | nil => simp [image]
  | cons row rows ih =>
    have hrow : (if x % 2 = 1 then row else 0).testBit j = true ↔
        x.testBit 0 = true ∧ row.testBit j = true := by
      rw [Nat.testBit_zero, decide_eq_true_iff]
      split <;> simp_all
    rw [image, Nat.testBit_or, Bool.or_eq_true, hrow, ih]
    constructor
    · rintro (⟨h0, hj⟩ | ⟨i, hi, row', hrow', hj⟩)
      · exact ⟨0, h0, row, rfl, hj⟩
      · exact ⟨i + 1, Nat.testBit_add_one .. ▸ hi, row', hrow', hj⟩
    · rintro ⟨i, hi, row', hrow', hj⟩
      cases i with
      | zero =>
        obtain rfl : row = row' := by simpa using hrow'
        exact .inl ⟨hi, hj⟩
      | succ i => exact .inr ⟨i, Nat.testBit_add_one .. ▸ hi, row', hrow', hj⟩

end

/-! ## Routes -/

section

variable {n : Nat} {step step' : PositionSet → PositionSet} {R S : Leap}

lemma Reaches.le (h : Reaches n step R) {x : PositionSet} (hx : ∀ i, x.testBit i = true → i ≤ n)
    {j : Nat} (hj : (step x).testBit j = true) : j ≤ n := by
  obtain ⟨i, hi, hij⟩ := (h.image hx j).1 hj
  exact (h.forward (hx i hi) hij).2

/-- One step after the other. -/
lemma Reaches.comp (h : Reaches n step R) (h' : Reaches n step' S) :
    Reaches n (fun x => step' (step x)) fun i k => ∃ j, R i j ∧ S j k := by
  constructor
  · intro i k hi ⟨j, hij, hjk⟩
    have hj := h.forward hi hij
    exact ⟨Nat.le_trans hj.1 (h'.forward hj.2 hjk).1, (h'.forward hj.2 hjk).2⟩
  · intro x hx k
    rw [h'.image (fun j => h.le hx)]
    constructor
    · rintro ⟨j, hj, hjk⟩
      obtain ⟨i, hi, hij⟩ := (h.image hx j).1 hj
      exact ⟨i, hi, j, hij, hjk⟩
    · rintro ⟨i, hi, j, hij, hjk⟩
      exact ⟨j, (h.image hx j).2 ⟨i, hi, hij⟩, hjk⟩

/-- One step or the other. -/
lemma Reaches.union (h : Reaches n step R) (h' : Reaches n step' S) :
    Reaches n (fun x => step x ||| step' x) fun i j => R i j ∨ S i j := by
  constructor
  · exact fun hi hij => hij.elim (h.forward hi) (h'.forward hi)
  · intro x hx j
    rw [Nat.testBit_or, Bool.or_eq_true, h.image hx, h'.image hx, ← exists_or]
    exact exists_congr fun i => and_or_left.symm

/-- A step that is followed a number of times. -/
lemma Reaches.iterate (h : Reaches n step R) {m : Nat} :
    Reaches n (PositionSet.iterate step m) (Iterate R m) := by
  induction m with
  | zero =>
    refine ⟨forward_iterate h.forward, fun {x} hx j => ?_⟩
    exact ⟨fun hj => ⟨j, hj, rfl⟩, fun ⟨i, hi, hij⟩ => hij ▸ hi⟩
  | succ m ih => exact h.comp ih

/-- Positions that a step does not leave are not left by any chain. -/
lemma testBit_of_iterate {x : PositionSet}
    (hx : ∀ i j, x.testBit i = true → R i j → x.testBit j = true) {m i j : Nat}
    (hi : x.testBit i = true) (h : Iterate R m i j) : x.testBit j = true := by
  induction m generalizing i with
  | zero => exact h ▸ hi
  | succ m ih =>
    obtain ⟨k, hik, hkj⟩ := h
    exact ih (hx i k hi hik) hkj

/-- A step that is followed up to a number of times. -/
lemma Reaches.close (h : Reaches n step R) {m : Nat} :
    Reaches n (PositionSet.close step m) fun i j => ∃ d, d ≤ m ∧ Iterate R d i j := by
  constructor
  · rintro i j hi ⟨d, _, hij⟩
    exact forward_iterate h.forward hi hij
  · intro x hx j
    induction m generalizing x with
    | zero =>
      constructor
      · exact fun hj => ⟨j, hj, 0, Nat.le_refl _, rfl⟩
      · rintro ⟨i, hi, d, hd, hij⟩
        obtain rfl := Nat.le_zero.1 hd
        exact hij ▸ hi
    | succ m ih =>
      have hy : ∀ k, (x ||| step x).testBit k = true ↔
          x.testBit k = true ∨ ∃ i, x.testBit i = true ∧ R i k := fun k => by
        rw [Nat.testBit_or, Bool.or_eq_true, h.image hx]
      rw [PositionSet.close]
      split
      case isTrue hstop =>
        -- nothing is added, so the rounds that are left would not add anything either
        rw [hstop] at hy
        constructor
        · exact fun hj => ⟨j, hj, 0, Nat.zero_le _, rfl⟩
        · rintro ⟨i, hi, d, _, hij⟩
          exact testBit_of_iterate (fun a b ha hab => (hy b).2 (.inr ⟨a, ha, hab⟩)) hi hij
      case isFalse =>
        refine (ih fun i hi => ?_).trans ⟨?_, ?_⟩
        · rcases (hy i).1 hi with hi | ⟨a, ha, hai⟩
          · exact hx i hi
          · exact (h.forward (hx a ha) hai).2
        · rintro ⟨i, hi, d, hd, hij⟩
          rcases (hy i).1 hi with hi | ⟨a, ha, hai⟩
          · exact ⟨i, hi, d, Nat.le_succ_of_le hd, hij⟩
          · exact ⟨a, ha, d + 1, Nat.succ_le_succ hd, i, hai, hij⟩
        · rintro ⟨i, hi, d, hd, hij⟩
          cases d with
          | zero => exact ⟨i, (hy i).2 (.inl hi), 0, Nat.zero_le _, hij⟩
          | succ d =>
            obtain ⟨a, hia, haj⟩ := hij
            exact ⟨a, (hy a).2 (.inr ⟨i, hi, hia⟩), d, Nat.le_of_succ_le_succ hd, haj⟩

/-- A step leads to the same positions when it is followed from every position beforehand. -/
lemma Reaches.rows (h : Reaches n step R) :
    Reaches n (PositionSet.image ((List.range (n + 1)).map fun p => step (1 <<< p))) R := by
  have hone : ∀ p i, Nat.testBit (1 <<< p) i = true ↔ p = i := fun p i => by
    rw [Nat.one_shiftLeft, Nat.testBit_two_pow, decide_eq_true_iff]
  have hstep : ∀ {p}, p ≤ n → ∀ j, (step (1 <<< p)).testBit j = true ↔ R p j := fun {p} hp j => by
    rw [h.image fun i hi => (hone p i).1 hi ▸ hp]
    constructor
    · rintro ⟨i, hi, hij⟩
      exact (hone p i).1 hi ▸ hij
    · exact fun hpj => ⟨p, (hone p p).2 rfl, hpj⟩
  refine ⟨h.forward, fun {x} hx j => testBit_image.trans ?_⟩
  refine exists_congr fun i => and_congr_right fun hi => ?_
  have hrow : ((List.range (n + 1)).map fun p => step (1 <<< p))[i]? = some (step (1 <<< i)) := by
    rw [List.getElem?_map, List.getElem?_range (Nat.lt_succ_of_le (hx i hi))]
    rfl
  rw [hrow]
  constructor
  · rintro ⟨row, hrow', hj⟩
    obtain rfl := Option.some.inj hrow'
    exact (hstep (hx i hi) j).1 hj
  · exact fun hij => ⟨_, rfl, (hstep (hx i hi) j).2 hij⟩

/-- Flattening a route does not change where it leads. -/
lemma Reaches.flatten {r : Route} (h : Reaches n (r.reach (n + 1)) R) :
    Reaches n ((r.flatten (n + 1)).reach (n + 1)) R := by
  rw [Route.flatten]
  split
  · exact h.rows
  · exact h

end

/-! ## Expressions -/

/-- A character of a set is one position passed. -/
lemma spans_set {s : CharSet} {i j : Nat} :
    Spans text (set s).Matches i j ↔
      (PositionSet.before s text).testBit i = true ∧ j = i + 1 := by
  rw [testBit_before]
  constructor
  · rintro ⟨before, _, after, rfl, rfl, rfl, c, rfl, hc⟩
    exact ⟨⟨c, by simp, hc⟩, rfl⟩
  · rintro ⟨⟨c, hi, hc⟩, rfl⟩
    obtain ⟨hlt, rfl⟩ := List.getElem?_eq_some_iff.1 hi
    refine ⟨text.take i, [text[i]], text.drop (i + 1), ?_, ?_, rfl, _, rfl, hc⟩
    · rw [List.append_assoc, List.singleton_append, ← List.drop_eq_getElem_cons hlt,
        List.take_append_drop]
    · exact List.length_take_of_le (Nat.le_of_lt hlt)

/-- A condition is checked at a position. -/
lemma spans_assert {a : Assertion} {i j : Nat} (hi : i ≤ text.length) :
    Spans text (assert a).Matches i j ↔
      (PositionSet.holding a text).testBit i = true ∧ i = j := by
  constructor
  · rintro ⟨before, _, after, rfl, rfl, rfl, rfl, ha⟩
    rw [List.append_nil, testBit_holding]
    exact ⟨ha, rfl⟩
  · rintro ⟨ha, rfl⟩
    have hlen : (text.take i).length = i := List.length_take_of_le hi
    refine ⟨text.take i, [], text.drop i, by simp, hlen, rfl, rfl, ?_⟩
    rw [← testBit_holding, List.take_append_drop, hlen]
    exact ha

/-- A repetition is a chain of matches, which counts the least number and up to `b` more if `b` is
what the upper bound leaves, as far as there are positions. -/
lemma spans_times {r : Regex} {least : Nat} {most : Option Nat} {b i j : Nat}
    (hi : i ≤ text.length)
    (hb : ∀ d, d ≤ b ↔ d ≤ text.length + 1 ∧ ∀ k ∈ most, least + d ≤ max least k) :
    Spans text (times r least most).Matches i j ↔
      ∃ l, Iterate (Spans text r.Matches) (min least (text.length + 1)) i l ∧
        ∃ d, d ≤ b ∧ Iterate (Spans text r.Matches) d l j := by
  have hR : Forward text.length (Spans text r.Matches) := forward_spans
  constructor
  · rintro ⟨before, mid, after, htext, hbefore, hmid, n, hleast, hmost, h⟩
    obtain ⟨d, rfl⟩ := Nat.exists_eq_add_of_le hleast
    obtain ⟨l, hil, hlj⟩ := iterate_add.1 <|
      (spans_repeats hi).1 ⟨before, mid, after, htext, hbefore, hmid, h⟩
    have hl := (forward_iterate hR hi hil).2
    refine ⟨l, (iterate_min hR hi).2 hil, min d (text.length + 1), ?_, (iterate_min hR hl).2 hlj⟩
    refine (hb _).2 ⟨Nat.min_le_right .., fun k hk => ?_⟩
    have := hmost k hk
    omega
  · rintro ⟨l, hil, d, hd, hlj⟩
    have hil' := (iterate_min hR hi).1 hil
    obtain ⟨before, mid, after, htext, hbefore, hmid, h⟩ :=
      (spans_repeats hi).2 (iterate_add.2 ⟨l, hil', hlj⟩)
    exact ⟨before, mid, after, htext, hbefore, hmid, least + d, Nat.le_add_right ..,
      ((hb d).1 hd).2, h⟩

/-- A repeated step reaches what a repetition of the expression matches. -/
lemma reaches_times {r : Regex} {route : Route} {least : Nat} {most : Option Nat}
    (h : Reaches text.length (route.reach (text.length + 1)) (Spans text r.Matches)) :
    Reaches text.length ((Route.times route least most).reach (text.length + 1))
      (Spans text (times r least most).Matches) := by
  have hstep : ∀ b, Reaches text.length
      (fun x => PositionSet.close (route.reach (text.length + 1)) b
        (PositionSet.iterate (route.reach (text.length + 1)) (min least (text.length + 1)) x)) _ :=
    fun b => h.iterate.comp h.close
  refine ⟨forward_spans, fun {x} hx j => ?_⟩
  -- the bound on the rounds is what the maximum leaves, or the number of positions without one
  cases most with
  | none =>
    refine ((hstep (text.length + 1)).image hx j).trans ?_
    refine exists_congr fun i => and_congr_right fun hi => (spans_times (hx i hi) ?_).symm
    simp
  | some most =>
    refine ((hstep (min (most - least) (text.length + 1))).image hx j).trans ?_
    refine exists_congr fun i => and_congr_right fun hi => (spans_times (hx i hi) fun d => ?_).symm
    simp only [Option.mem_some_iff, forall_eq']
    omega

/-- Every expression leads to the ends of its matches. -/
lemma reaches_route (r : Regex) :
    Reaches text.length ((r.route text).reach (text.length + 1)) (Spans text r.Matches) := by
  induction r with
  | empty =>
    refine ⟨forward_spans, fun {x} hx j => ⟨fun hj => ⟨j, hj, (spans_nil (hx j hj)).2 rfl⟩, ?_⟩⟩
    rintro ⟨i, hi, hij⟩
    exact (spans_nil (hx i hi)).1 hij ▸ hi
  | set s =>
    refine ⟨forward_spans, fun {x} hx j => ?_⟩
    rw [route, Route.reach, Nat.testBit_shiftLeft, Bool.and_eq_true, decide_eq_true_iff,
      Nat.testBit_and, Bool.and_eq_true]
    constructor
    · rintro ⟨hj, hi, hs⟩
      exact ⟨j - 1, hi, spans_set.2 ⟨hs, (Nat.sub_add_cancel hj).symm⟩⟩
    · rintro ⟨i, hi, hij⟩
      obtain ⟨hs, rfl⟩ := spans_set.1 hij
      exact ⟨Nat.le_add_left .., hi, hs⟩
  | assert a =>
    refine ⟨forward_spans, fun {x} hx j => ?_⟩
    rw [route, Route.reach, Nat.testBit_and, Bool.and_eq_true]
    constructor
    · exact fun ⟨hj, ha⟩ => ⟨j, hj, (spans_assert (hx j hj)).2 ⟨ha, rfl⟩⟩
    · rintro ⟨i, hi, hij⟩
      obtain ⟨ha, rfl⟩ := (spans_assert (hx i hi)).1 hij
      exact ⟨hi, ha⟩
  | seq r s ihr ihs =>
    have h := ihr.comp ihs
    refine ⟨forward_spans, fun {x} hx j => (h.image hx j).trans ?_⟩
    exact exists_congr fun i => and_congr_right fun _ => spans_append.symm
  | alt r s ihr ihs =>
    have h := ihr.union ihs
    refine ⟨forward_spans, fun {x} hx j => (h.image hx j).trans ?_⟩
    refine exists_congr fun i => and_congr_right fun _ => ⟨?_, ?_⟩
    · rintro (⟨before, mid, after, htext, hi, hj, hr⟩ | ⟨before, mid, after, htext, hi, hj, hs⟩)
      · exact ⟨before, mid, after, htext, hi, hj, .inl hr⟩
      · exact ⟨before, mid, after, htext, hi, hj, .inr hs⟩
    · rintro ⟨before, mid, after, htext, hi, hj, hr | hs⟩
      · exact .inl ⟨before, mid, after, htext, hi, hj, hr⟩
      · exact .inr ⟨before, mid, after, htext, hi, hj, hs⟩
  | times r least most ih =>
    -- the route of a repeated expression is flattened first, which changes no step
    exact reaches_times ih.flatten

/-- The matcher accepts a text exactly if the expression matches a part of it. -/
theorem isMatch_iff {r : Regex} :
    r.isMatch text = true ↔
      ∃ before mid after, before ++ mid ++ after = text ∧ r.Matches before mid after := by
  have hroute : Reaches text.length ((r.route text).reach (text.length + 1))
    (Spans text r.Matches) := reaches_route r
  have himage := hroute.image (x := PositionSet.upTo text.length) fun i hi => testBit_upTo.1 hi
  rw [isMatch, bne_iff_ne]
  constructor
  · intro hne
    obtain ⟨j, hj⟩ := Nat.exists_testBit_of_ne_zero hne
    obtain ⟨i, _, before, mid, after, htext, _, _, hr⟩ := (himage j).1 hj
    exact ⟨before, mid, after, htext, hr⟩
  · rintro ⟨before, mid, after, rfl, hr⟩ hzero
    have hj := (himage (before.length + mid.length)).2
      ⟨before.length, testBit_upTo.2 (by simp only [List.length_append]; omega), before, mid, after,
        rfl, rfl, rfl, hr⟩
    rw [← reach, hzero, Nat.zero_testBit] at hj
    exact Bool.false_ne_true hj

end PinyinSearch.Regex
