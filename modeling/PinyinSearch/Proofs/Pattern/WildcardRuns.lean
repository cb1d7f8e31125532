import Mathlib
import PinyinSearch.Proofs.Pattern.Phrase

/-!
# Wildcards in a row

Wildcards one after the other stand for as many syllables as all of them allow together
(`isMatch_transcribe_wildcards`).  This holds as long as at most one wildcard with the minimum 0
stands in front of all that stands for some syllable: two of them are written with nothing between,
and the space that would keep their syllables apart is lost.  Wildcards with the maximum 0 do not
count, as nothing is written for them.
-/

namespace PinyinSearch

open Text Regex

/-- A dot with a quantifier, and what is written between its braces. -/
structure Wildcard where
  q : Quantifier
  interior : Text

namespace Wildcard

def text (w : Wildcard) : Text := '.' :: Quantifier.braced w.interior

/-- The quantifier is read from its braces, its bounds are in order, and its minimum is written
down. -/
structure IsWellFormed (w : Wildcard) : Prop where
  reads : Quantifier.ofInterior? w.interior = some w.q
  ordered : w.q.IsOrdered
  minimum : w.q.HasMinimum

/-- Wildcards one after the other, as they are written. -/
def runText (ws : List Wildcard) : Text := ws.flatMap text

def least (ws : List Wildcard) : Nat := (ws.map (·.q.least)).sum

/-- The sum of the maxima, if each wildcard has one. -/
def most : List Wildcard → Option Nat
  | [] => some 0
  | w :: ws => w.q.most.bind fun m => (most ws).map (m + ·)

/-- The wildcards with the minimum 0 in front of all others, without those with the maximum 0. -/
def leading (ws : List Wildcard) : List Wildcard :=
  (ws.takeWhile fun w => w.q.least = 0).filter fun w => w.q.most ≠ some 0

/-- The lists of words that wildcards stand for one after the other. -/
def language (ws : List Wildcard) : Language Text :=
  (ws.map fun w => Transcriber.wordsAllowed w.q).prod

variable {w : Wildcard} {ws : List Wildcard}

lemma runText_cons : runText (w :: ws) = w.text ++ runText ws := List.flatMap_cons

lemma language_cons : language (w :: ws) = Transcriber.wordsAllowed w.q * language ws :=
  List.prod_cons

lemma leading_cons_void (hzero : w.q.least = 0) (hmost : w.q.most = some 0) :
    leading (w :: ws) = leading ws := by
  simp [leading, hzero, hmost]

lemma leading_cons_optional (hzero : w.q.least = 0) (hmost : w.q.most ≠ some 0) :
    leading (w :: ws) = w :: leading ws := by
  simp [leading, hzero, hmost]

lemma eq_of_leading_cons_eq_nil (hzero : w.q.least = 0) (h : leading (w :: ws) = []) :
    w.q.most = some 0 ∧ leading ws = [] := by
  by_cases hmost : w.q.most = some 0
  · exact ⟨hmost, leading_cons_void hzero hmost ▸ h⟩
  · rw [leading_cons_optional hzero hmost] at h
    cases h

lemma exists_least_ne_zero (hzero : w.q.least = 0) (h : ∃ v ∈ w :: ws, v.q.least ≠ 0) :
    ∃ v ∈ ws, v.q.least ≠ 0 := by
  obtain ⟨v, hv, hpos⟩ := h
  refine ⟨v, (List.mem_cons.1 hv).resolve_left ?_, hpos⟩
  rintro rfl
  exact hpos hzero

/-! ## Numbers of syllables -/

lemma least_le (hws : ∀ w ∈ ws, w.IsWellFormed) : ∀ n ∈ most ws, least ws ≤ n := by
  induction ws with
  | nil => simp [most, least]
  | cons w ws ih =>
    rw [List.forall_mem_cons] at hws
    intro n hn
    obtain ⟨m, hm, hn⟩ := Option.bind_eq_some_iff.1 hn
    obtain ⟨k, hk, rfl⟩ := Option.map_eq_some_iff.1 hn
    have := hws.1.ordered.least_le hm
    have := ih hws.2 k hk
    rw [least, List.map_cons, List.sum_cons, ← least]
    omega

/-- A number between the sums of two bounds is a sum of numbers between the bounds. -/
lemma exists_split {l l' k : Nat} {m m' : Option Nat} (h : ∀ n ∈ m, l ≤ n) (h' : ∀ n ∈ m', l' ≤ n)
    (hleast : l + l' ≤ k) (hmost : ∀ n ∈ m.bind fun a => m'.map (a + ·), k ≤ n) :
    ∃ i ≤ k, (l ≤ i ∧ ∀ n ∈ m, i ≤ n) ∧ l' ≤ k - i ∧ ∀ n ∈ m', k - i ≤ n := by
  cases m' with
  | none =>
    refine ⟨l, by omega, ⟨Nat.le_refl l, h⟩, by omega, by simp⟩
  | some b =>
    have hb := h' b rfl
    refine ⟨max l (k - b), by omega, ⟨by omega, fun a ha => ?_⟩, by omega, ?_⟩
    · have := h a ha
      have := hmost (a + b) (by rw [Option.mem_def.1 ha]; rfl)
      omega
    · rintro n ⟨⟩
      omega

/-- Wildcards stand for words whose number lies between the sums of their bounds. -/
lemma mem_language (hws : ∀ w ∈ ws, w.IsWellFormed) {us : List Text} :
    us ∈ language ws ↔
      (least ws ≤ us.length ∧ ∀ n ∈ most ws, us.length ≤ n) ∧ ∀ u ∈ us, IsWord u := by
  induction ws generalizing us with
  | nil =>
    have hnil : us ∈ language [] ↔ us = [] := Language.mem_one us
    rw [hnil]
    constructor
    · rintro rfl
      simp [least, most]
    · rintro ⟨⟨_, hmost⟩, _⟩
      exact List.length_eq_zero_iff.1 (Nat.le_zero.1 (hmost 0 rfl))
  | cons w ws ih =>
    rw [List.forall_mem_cons] at hws
    rw [language_cons, Language.mem_mul, least, List.map_cons, List.sum_cons, ← least, most]
    constructor
    · rintro ⟨as, ⟨hallows, has⟩, bs, hbs, rfl⟩
      obtain ⟨⟨hleast, hmost⟩, hbs⟩ := (ih hws.2).1 hbs
      obtain ⟨hleast', hmost'⟩ := Quantifier.allows_iff.1 hallows
      rw [List.length_append]
      refine ⟨⟨by omega, fun n hn => ?_⟩, List.forall_mem_append.2 ⟨has, hbs⟩⟩
      obtain ⟨a, ha, hn⟩ := Option.bind_eq_some_iff.1 hn
      obtain ⟨b, hb, rfl⟩ := Option.map_eq_some_iff.1 hn
      exact Nat.add_le_add (hmost' a ha) (hmost b hb)
    · rintro ⟨⟨hleast, hmost⟩, hus⟩
      obtain ⟨i, hi, hfirst, hrest⟩ :=
        exists_split (fun n hn => hws.1.ordered.least_le hn) (least_le hws.2) hleast hmost
      refine ⟨us.take i, ⟨?_, fun u hu => hus u (List.mem_of_mem_take hu)⟩, us.drop i,
        (ih hws.2).2 ⟨?_, fun u hu => hus u (List.mem_of_mem_drop hu)⟩, List.take_append_drop i us⟩
      · rw [List.length_take_of_le hi]
        exact Quantifier.allows_iff.2 hfirst
      · rwa [List.length_drop]

/-! ## Transcription

In front of all that stands for some syllable, one wildcard with the minimum 0 is written with the
spaces behind its syllables.  Behind a syllable every wildcard brings its spaces along.
-/

section

variable {t : Transcriber} {L : Text}

/-- Nothing is written for a wildcard with the maximum 0. -/
lemma cuts_void (hw : w.IsWellFormed) (hzero : w.q.least = 0) (hmost : w.q.most = some 0) :
    t.Cuts false w.text [] ∧ '@' ∉ w.text ∧ Transcriber.wordsAllowed w.q = 1 := by
  have hcuts : t.Cuts false w.text _ := Transcriber.cuts_counted hw.reads
  obtain ⟨_, hcounted, hlanguage⟩ :=
    (Transcriber.counted_of_least_eq_zero hw.minimum hzero).resolve_right (·.1 hmost)
  rw [hcounted] at hcuts
  exact ⟨hcuts, Transcriber.noVariants_counted hw.reads, hlanguage⟩

variable (hp : t.placeholder = ['\\', 'w', '+']) (hL : ∀ c ∈ L, t.IsIdeograph c)

include hp hL

/-- Behind a syllable, wildcards and ideographs stand for further syllables. -/
lemma goesOn_run (hws : ∀ w ∈ ws, w.IsWellFormed) :
    t.GoesOn false (runText ws ++ L) (language ws * t.soundsOf false L) := by
  induction ws with
  | nil =>
    rw [language, List.map_nil, List.prod_nil, one_mul]
    exact Transcriber.goesOn_firstReadings hL
  | cons w ws ih =>
    rw [List.forall_mem_cons] at hws
    rw [runText_cons, language_cons, List.append_assoc, mul_assoc]
    exact (Transcriber.goesOn_counted hp hws.1.reads hws.1.ordered hws.1.minimum).append (ih hws.2)

/-- Wildcards of which the first that counts stands for some syllable. -/
lemma solid_run (hws : ∀ w ∈ ws, w.IsWellFormed) (hleading : leading ws = [])
    (hsome : (∃ w ∈ ws, w.q.least ≠ 0) ∨ L ≠ []) :
    t.Solid false (runText ws ++ L) (language ws * t.soundsOf false L) := by
  induction ws with
  | nil =>
    have hne : L ≠ [] := hsome.resolve_left (by simp)
    rw [language, List.map_nil, List.prod_nil, one_mul]
    exact (Transcriber.exact_firstReadings hne hL).solid
  | cons w ws ih =>
    rw [List.forall_mem_cons] at hws
    rw [runText_cons, language_cons, List.append_assoc, mul_assoc]
    by_cases hzero : w.q.least = 0
    · obtain ⟨hmost, hleading⟩ := eq_of_leading_cons_eq_nil hzero hleading
      obtain ⟨hcuts, hat, hlanguage⟩ := cuts_void hws.1 hzero hmost
      rw [hlanguage, one_mul]
      have hrest := ih hws.2 hleading (hsome.imp_left (exists_least_ne_zero hzero))
      exact hrest.behindNothing hcuts hat
    · exact (Transcriber.solid_counted hp hws.1.reads hws.1.ordered hws.1.minimum
        (Nat.pos_of_ne_zero hzero)).append (goesOn_run hp hL hws.2)

/-- Wildcards of which at most one that counts stands before the first that stands for some
syllable. -/
lemma begins_run (hws : ∀ w ∈ ws, w.IsWellFormed) (hleading : (leading ws).length ≤ 1)
    (hsome : (∃ w ∈ ws, w.q.least ≠ 0) ∨ L ≠ []) :
    t.Begins false (runText ws ++ L) (language ws * t.soundsOf false L) := by
  induction ws with
  | nil => exact (solid_run hp hL hws rfl hsome).begins
  | cons w ws ih =>
    have hall := hws
    rw [List.forall_mem_cons] at hws
    by_cases hzero : w.q.least = 0
    · have hrest : (∃ w ∈ ws, w.q.least ≠ 0) ∨ L ≠ [] :=
        hsome.imp_left (exists_least_ne_zero hzero)
      rw [runText_cons, language_cons, List.append_assoc, mul_assoc]
      by_cases hmost : w.q.most = some 0
      · rw [leading_cons_void hzero hmost] at hleading
        obtain ⟨hcuts, hat, hlanguage⟩ := cuts_void hws.1 hzero hmost
        rw [hlanguage, one_mul]
        exact (ih hws.2 hleading hrest).behindNothing hcuts hat
      · rw [leading_cons_optional hzero hmost, List.length_cons] at hleading
        have hnone : leading ws = [] := List.length_eq_zero_iff.1 (by omega)
        exact Transcriber.begins_counted hp hws.1.reads hws.1.minimum hzero
          (solid_run hp hL hws.2 hnone hrest)
    · refine (solid_run hp hL hall ?_ hsome).begins
      simp [leading, hzero]

end

/-! ## Wildcards alone

Where every wildcard has the minimum 0 and no ideograph follows, at most one of them is written, and
it may be left out.
-/

section

variable {t : Transcriber}

lemma cuts_voids (hws : ∀ w ∈ ws, w.IsWellFormed) (hzero : ∀ w ∈ ws, w.q.least = 0)
    (hleading : leading ws = []) :
    t.Cuts false (runText ws) [] ∧ '@' ∉ runText ws ∧ language ws = 1 := by
  induction ws with
  | nil => exact ⟨.nil, List.not_mem_nil, rfl⟩
  | cons w ws ih =>
    rw [List.forall_mem_cons] at hws hzero
    obtain ⟨hmost, hleading⟩ := eq_of_leading_cons_eq_nil hzero.1 hleading
    obtain ⟨hcuts, hat, hlanguage⟩ := cuts_void (t := t) hws.1 hzero.1 hmost
    obtain ⟨hcuts', hat', hlanguage'⟩ := ih hws.2 hzero.2 hleading
    rw [runText_cons, language_cons, hlanguage, hlanguage', one_mul, List.mem_append, not_or]
    exact ⟨hcuts.append hcuts', ⟨hat, hat'⟩, rfl⟩

/-- Of wildcards with the minimum 0, only one that counts is written. -/
lemma cuts_optionals (hws : ∀ w ∈ ws, w.IsWellFormed) (hzero : ∀ w ∈ ws, w.q.least = 0)
    (hleading : (leading ws).length ≤ 1) :
    '@' ∉ runText ws ∧ (t.Cuts false (runText ws) [] ∧ language ws = 1 ∨
      ∃ most, most ≠ some 0 ∧ t.Cuts false (runText ws) [.optional most] ∧
        language ws = wordsUpTo most) := by
  induction ws with
  | nil => exact ⟨List.not_mem_nil, .inl ⟨.nil, rfl⟩⟩
  | cons w ws ih =>
    rw [List.forall_mem_cons] at hws hzero
    rw [runText_cons, language_cons, List.mem_append, not_or]
    by_cases hmost : w.q.most = some 0
    · rw [leading_cons_void hzero.1 hmost] at hleading
      obtain ⟨hcuts, hat, hlanguage⟩ := cuts_void (t := t) hws.1 hzero.1 hmost
      obtain ⟨hat', hrest⟩ := ih hws.2 hzero.2 hleading
      rw [hlanguage, one_mul]
      refine ⟨⟨hat, hat'⟩, hrest.imp (And.imp_left hcuts.append) ?_⟩
      rintro ⟨most, hne, hcuts', hlanguage'⟩
      exact ⟨most, hne, hcuts.append hcuts', hlanguage'⟩
    · rw [leading_cons_optional hzero.1 hmost, List.length_cons] at hleading
      have hnone : leading ws = [] := List.length_eq_zero_iff.1 (by omega)
      obtain ⟨hcuts', hat', hlanguage'⟩ := cuts_voids (t := t) hws.2 hzero.2 hnone
      have hcuts : t.Cuts false w.text _ := Transcriber.cuts_counted hws.1.reads
      obtain ⟨_, hcounted, hlanguage⟩ :=
        (Transcriber.counted_of_least_eq_zero hws.1.minimum hzero.1).resolve_left (hmost ·.1)
      rw [hcounted] at hcuts
      rw [hlanguage, hlanguage', mul_one]
      exact ⟨⟨Transcriber.noVariants_counted hws.1.reads, hat'⟩,
        .inr ⟨_, hmost, hcuts.append hcuts', rfl⟩⟩

end

/-! ## Matching -/

variable {t : Transcriber} {L : Text}

/-- Between anchors, wildcards and ideographs are transcribed to an expression for the words that
they stand for one after the other. -/
lemma exists_parse?_run (hp : t.placeholder = ['\\', 'w', '+']) (hws : ∀ w ∈ ws, w.IsWellFormed)
    (hleading : (leading ws).length ≤ 1) (hL : ∀ c ∈ L, t.IsIdeograph c) :
    ∃ r, Regex.parse? Searcher.plainFlags
        (t.transcribe false (framed true true (runText ws ++ L))) = some r ∧
      ∀ text, r.isMatch text = true ↔
        ∃ us ∈ language ws * t.soundsOf false L, text = join [' '] us := by
  by_cases hsome : (∃ w ∈ ws, w.q.least ≠ 0) ∨ L ≠ []
  · obtain ⟨rs, hparse, hspells⟩ := (begins_run hp hL hws hleading hsome).parse? true true
    exact ⟨_, hparse, fun text => hspells.isMatch_whole⟩
  · rw [not_or, not_not] at hsome
    obtain ⟨hnone, rfl⟩ := hsome
    have hzero : ∀ w ∈ ws, w.q.least = 0 := fun w hw => by
      by_contra hpos
      exact hnone ⟨w, hw, hpos⟩
    rw [List.append_nil, Transcriber.soundsOf_nil, mul_one]
    obtain ⟨hat, ⟨hcuts, hlanguage⟩ | ⟨most, hmost, hcuts, hlanguage⟩⟩ :=
      cuts_optionals (t := t) hws hzero hleading
    · refine ⟨_, Transcriber.parse?_framed hcuts hat rfl .nil, fun text => ?_⟩
      rw [isMatch_anchored_nil, hlanguage]
      constructor
      · rintro rfl
        exact ⟨[], Language.nil_mem_one, rfl⟩
      · rintro ⟨us, rfl, rfl⟩
        rfl
    · obtain ⟨rs, hreads, hjoins⟩ := Transcriber.exists_joins_optionalForm hp hmost
      refine ⟨_, Transcriber.parse?_framed hcuts hat rfl hreads, fun text => ?_⟩
      rw [isMatch_anchored, hlanguage]
      exact hjoins.matches_iff

/-- Between anchors, wildcards and ideographs match a number of syllables between the sum of the
minima and the sum of the maxima, and the readings of the ideographs behind them. -/
theorem isMatch_transcribe_wildcards (hp : t.placeholder = ['\\', 'w', '+'])
    (hws : ∀ w ∈ ws, w.IsWellFormed) (hleading : (leading ws).length ≤ 1)
    (hL : ∀ c ∈ L, t.IsIdeograph c) :
    ∃ isMatch, RegexEngine.unlimited.compile? Searcher.plainFlags
        (t.transcribe false (framed true true (runText ws ++ L))) = some isMatch ∧
      ∀ ss : List Text, (∀ s ∈ ss, IsSpelling s) → (isMatch (join [' '] ss) = true ↔
        ∃ front, ss = front ++ (t.romanizer.romanize L).syllables ∧
          least ws ≤ front.length ∧ ∀ n ∈ most ws, front.length ≤ n) := by
  obtain ⟨r, hparse, hmatch⟩ := exists_parse?_run hp hws hleading hL
  refine ⟨r.isMatch, by rw [RegexEngine.compile?_unlimited, hparse, Option.map_some], ?_⟩
  intro ss hss
  have hwords : ∀ us ∈ language ws * t.soundsOf false L, ∀ u ∈ us, IsWord u := fun us hus =>
    isWord_of_mem_mul (fun _ h => ((mem_language hws).1 h).2)
      (fun _ => Transcriber.isWord_of_mem_soundsOf fun c hc =>
        Transcriber.isSpelling_of_mem_sounds_false (hL c hc)) hus
  rw [hmatch, exists_mem_join_eq_iff hwords fun s hs => (hss s hs).isWord, Language.mem_mul]
  constructor
  · rintro ⟨front, hfront, back, hback, rfl⟩
    rw [List.forall_mem_append] at hss
    obtain rfl := (Transcriber.mem_soundsOf_false_iff hL hss.2).1 hback
    exact ⟨front, rfl, ((mem_language hws).1 hfront).1⟩
  · rintro ⟨front, rfl, hbounds⟩
    rw [List.forall_mem_append] at hss
    refine ⟨front, (mem_language hws).2 ⟨hbounds, fun s hs => (hss.1 s hs).isWord⟩, _, ?_, rfl⟩
    exact (Transcriber.mem_soundsOf_false_iff hL hss.2).2 rfl

/-- Wildcards for none, for up to one and for at least one syllable before an ideograph. -/
def sample : List Wildcard :=
  [⟨.between 0 0, "0,0".toList⟩, ⟨.between 0 1, "0,1".toList⟩, ⟨.atLeast 1, "1,".toList⟩]

theorem isMatch_transcribe_wildcards_sample :
    (leading sample).length ≤ 1 ∧
      ∃ isMatch, RegexEngine.unlimited.compile? Searcher.plainFlags
          (Phrase.sampleTranscriber.transcribe false "^.{0,0}.{0,1}.{1,}国$".toList) =
            some isMatch ∧ isMatch "zhong zhong guo".toList = true := by
  have hsample : ∀ w ∈ sample, w.IsWellFormed := by
    rintro w (_ | ⟨_, _ | ⟨_, _ | ⟨_, ⟨⟩⟩⟩⟩)
    · exact ⟨by decide, Nat.le_refl 0, trivial⟩
    · exact ⟨by decide, Nat.zero_le 1, trivial⟩
    · exact ⟨by decide, trivial, trivial⟩
  have hlast : ∀ c ∈ ['国'], Phrase.sampleTranscriber.IsIdeograph c := by
    rintro c (_ | ⟨_, ⟨⟩⟩)
    exact ⟨by decide, "guo".toList, rfl, by decide⟩
  have hleading : (leading sample).length ≤ 1 := by decide
  obtain ⟨isMatch, hcompile, hmatch⟩ := isMatch_transcribe_wildcards rfl hsample hleading hlast
  refine ⟨hleading, isMatch, hcompile, ?_⟩
  refine (hmatch ["zhong".toList, "zhong".toList, "guo".toList] (by decide)).2 ?_
  exact ⟨["zhong".toList, "zhong".toList], by decide, by decide, by rintro n ⟨⟩⟩

/-- Two wildcards for up to one syllable each match one syllable before an ideograph, not two. -/
theorem not_isMatch_transcribe_wildcards :
    (RegexEngine.unlimited.compile? Searcher.plainFlags
        (Phrase.sampleTranscriber.transcribe false "^.{0,1}.{0,1}国$".toList)).map
          (fun isMatch => (isMatch "zhong guo".toList, isMatch "zhong zhong guo".toList)) =
      some (true, false) := by
  decide +kernel

end Wildcard

end PinyinSearch
