import PinyinSearch.Proofs.Pattern.Phrase
import PinyinSearch.Proofs.Pattern.TextSide

/-!
# Repeated groups

A group of ideographs may be repeated, and more ideographs may follow it.  Behind an operator of
repetition no syllable has ended, so no space is written between two rounds of the group, nor
between the last of them and what follows.  As all syllables are written between word boundaries,
the expression matches nothing but what follows the group, where the group may be left out
(`isMatch_transcribe_repeated`).
-/

namespace PinyinSearch

open Text Regex

/-- What may stand behind a group to repeat it. -/
inductive Repetition where
  | optional
  | star
  | plus
  /-- A quantifier, and what is written between its braces. -/
  | counted (q : Quantifier) (interior : Text)

namespace Repetition

def text : Repetition → Text
  | optional => ['?']
  | star => ['*']
  | plus => ['+']
  | counted _ interior => Quantifier.braced interior

/-- The repetition as a regular expression writes it. -/
def canonical : Repetition → Text
  | optional => ['?']
  | star => ['*']
  | plus => ['+']
  | counted q interior => q.canonical interior

def least : Repetition → Nat
  | optional => 0
  | star => 0
  | plus => 1
  | counted q _ => q.least

def most : Repetition → Option Nat
  | optional => some 1
  | star => none
  | plus => none
  | counted q _ => q.most

/-- A repetition allows a number of rounds. -/
def Allows (q : Repetition) (k : Nat) : Prop := q.least ≤ k ∧ ∀ n ∈ q.most, k ≤ n

/-- A quantifier is read from its braces, and its bounds are in order. -/
def IsWellFormed : Repetition → Prop
  | counted q interior => Quantifier.ofInterior? interior = some q ∧ q.IsOrdered
  | _ => True

variable {q : Repetition}

/-- No round is allowed unless one is asked for. -/
lemma allows_zero_iff : q.Allows 0 ↔ q.least = 0 := by
  rw [Allows, Nat.le_zero]
  exact and_iff_left fun n _ => Nat.zero_le n

end Repetition

/-! ## Repeated words -/

namespace Regex

variable {rs ts : List Regex} {L K : Language Text} {before mid after : Text}

/-- Words that stand by themselves end amid a word, so that what needs a word to begin behind them
is not there. -/
lemma Stands.eq_zero_of_repeats (h : Stands rs L) {n : Nat}
    (hrepeats : Repeats (seqs rs).Matches n before mid after)
    (hbefore : NoWordBefore (before ++ mid)) : n = 0 := by
  cases n with
  | zero => rfl
  | succ n =>
    obtain ⟨_, rest, rfl, hfirst, hrest⟩ := repeats_succ.1 hrepeats
    obtain ⟨ws, hws, rfl, _, _⟩ := h.matches_iff.1 hfirst
    obtain ⟨hne, hword⟩ := h.isWord hws
    have hbetween : NoWordBefore (before ++ join [' '] ws) := by
      cases n with
      | zero =>
        obtain rfl : rest = [] := hrest
        rwa [List.append_nil] at hbefore
      | succ n =>
        -- the second round would have to begin where the first one ends
        obtain ⟨_, _, rfl, hsecond, _⟩ := repeats_succ.1 hrest
        obtain ⟨_, _, _, hsecond, _⟩ := h.matches_iff.1 hsecond
        exact hsecond
    exact absurd hbetween (not_noWordBefore_join hne hword)

/-- Where no space stands between them, words that are repeated are matched before others only if
they are left out. -/
lemma Stands.matches_repeated (h : Stands rs L) (h' : Stands ts K) {least : Nat}
    {most : Option Nat} :
    (seqs (.times (seqs rs) least most :: ts)).Matches before mid after ↔
      least = 0 ∧ (seqs ts).Matches before mid after := by
  constructor
  · rintro ⟨first, rest, rfl, ⟨n, hn, _, hrepeats⟩, hrest⟩
    obtain ⟨_, _, _, hbefore, _⟩ := h'.matches_iff.1 hrest
    obtain rfl := h.eq_zero_of_repeats hrepeats hbefore
    obtain rfl : first = [] := hrepeats
    rw [List.append_nil] at hrest
    exact ⟨Nat.le_zero.1 hn, hrest⟩
  · rintro ⟨rfl, hmatch⟩
    rw [← List.append_nil before] at hmatch
    refine ⟨[], mid, rfl, ?_, hmatch⟩
    exact matches_times.2 ⟨0, Nat.le_refl 0, fun _ _ => Nat.zero_le _, rfl⟩

end Regex

namespace Transcriber

variable {t : Transcriber} {fuzzy : Bool} {q : Repetition} {s s' : Text} {L K : Language Text}

/-! ## Repeated parts -/

/-- A group that is repeated, and what follows it. -/
def repeatedGroup (s : Text) (q : Repetition) (s' : Text) : Text :=
  '(' :: (s ++ ')' :: (q.text ++ s'))

lemma segments_repetition (hq : q.IsWellFormed) {rest : Text} :
    t.segments fuzzy (q.text ++ rest) = .raw q.canonical :: t.segments fuzzy rest := by
  cases q with
  | optional => exact segments_symbol (c := '?') (by decide) (by decide) (by decide)
  | star => exact segments_symbol (c := '*') (by decide) (by decide) (by decide)
  | plus => exact segments_symbol (c := '+') (by decide) (by decide) (by decide)
  | counted q interior => exact segments_braced hq.1

lemma reads_repetition (hq : q.IsWellFormed) {regex : Text} {r : Regex}
    (h : ReadsUnit Searcher.plainFlags regex r) :
    Reads Searcher.plainFlags (regex ++ q.canonical) [.times r q.least q.most] := by
  cases q with
  | optional => exact h.optional rfl
  | star => exact h.star rfl
  | plus => exact h.plus rfl
  | counted q interior => exact h.quantified rfl hq.1 hq.2

lemma noVariants_repetition (hq : q.IsWellFormed) : '@' ∉ q.text := by
  cases q with
  | counted q interior => exact noVariants_braced hq.1
  | _ => decide

/-- Between anchors, a repeated group with more behind it is transcribed to an expression that
matches what follows the group, if the group may be left out, and nothing else. -/
lemma exists_parse?_repeatedGroup (hq : q.IsWellFormed) (h : t.Exact fuzzy s L)
    (h' : t.Exact fuzzy s' K) :
    ∃ r, Regex.parse? Searcher.plainFlags
        (t.transcribe fuzzy (framed true true (repeatedGroup s q s'))) = some r ∧
      ∀ ws, (∀ w ∈ ws, IsWord w) → (r.isMatch (join [' '] ws) = true ↔ q.Allows 0 ∧ ws ∈ K) := by
  obtain ⟨segs, out, rs, hsettles, hstands⟩ := h
  obtain ⟨segs', out', rs', hsettles', hstands'⟩ := h'
  have hcuts : t.Cuts fuzzy (repeatedGroup s q s')
      (.opener ['('] :: (segs ++ .closer :: .raw q.canonical :: segs')) := by
    refine ⟨fun _ => ends_cons (by decide), fun {rest} hrest => ?_⟩
    have htext : repeatedGroup s q s' ++ rest = '(' :: (s ++ ')' :: (q.text ++ (s' ++ rest))) := by
      simp [repeatedGroup]
    rw [htext, segments_capture (hsettles.cuts.ends (ends_cons (by decide))),
      hsettles.cuts.cut (ends_cons (by decide)), segments_close, segments_repetition hq,
      hsettles'.cuts.cut hrest]
    simp
  have hat : '@' ∉ repeatedGroup s q s' := by
    simp [repeatedGroup, hsettles.noVariants, noVariants_repetition hq, hsettles'.noVariants]
  have hreads : Reads Searcher.plainFlags ('(' :: out ++ [')'] ++ q.canonical ++ out')
      (.times (seqs rs) q.least q.most :: rs') := by
    have hgroup : ReadsUnit Searcher.plainFlags ('(' :: out ++ [')']) (seqs rs) := by
      simpa [join, alts] using
        readsUnit_capture (.cons hsettles.reads .nil) (List.cons_ne_nil _ _) rfl
    exact (reads_repetition hq hgroup).append hsettles'.reads
  have hwrites : t.write false (.opener ['('] :: (segs ++ .closer :: .raw q.canonical :: segs') ++
      [.raw ['$']]) = '(' :: out ++ [')'] ++ q.canonical ++ out' ++ ['$'] := by
    have hopener : ∀ rest, t.write false (.opener ['('] :: rest) = '(' :: t.write false rest :=
      fun rest => rfl
    -- behind the operator no syllable has ended, so no space is written there
    have hcloser : ∀ rest, t.write true (.closer :: .raw q.canonical :: rest) =
        ')' :: (q.canonical ++ t.write false rest) := fun rest => by
      simp [write, form, endsAfter, Segment.startsSyllable, Segment.endsSyllable]
    have hstop : t.write true [.raw ['$']] = ['$'] := rfl
    rw [List.cons_append, hopener, List.append_assoc, List.cons_append, List.cons_append,
      hsettles.writes rfl, hcloser, hsettles'.writes rfl, hstop]
    simp
  refine ⟨_, parse?_framed hcuts hat hwrites hreads, fun ws hws => ?_⟩
  rw [isMatch_anchored, hstands.matches_repeated hstands', Repetition.allows_zero_iff,
    hstands'.matches_iff]
  simp only [noWordBefore_nil, noWordAfter_nil, and_true]
  rw [exists_mem_join_eq_iff (fun us hus => (hstands'.isWord hus).2) hws]

/-! ## Repeated ideographs -/

/-- Between anchors, a repeated group of ideographs with more of them behind it matches the readings
of those behind it, if the group may be left out, and no other list of syllables. -/
theorem isMatch_transcribe_repeated {A B : Text} (hA : A ≠ []) (hB : B ≠ [])
    (hA' : ∀ c ∈ A, t.IsIdeograph c) (hB' : ∀ c ∈ B, t.IsIdeograph c) (hq : q.IsWellFormed) :
    ∃ isMatch, RegexEngine.unlimited.compile? Searcher.plainFlags
        (t.transcribe false (framed true true (repeatedGroup A q B))) = some isMatch ∧
      ∀ ss : List Text, (∀ s ∈ ss, IsSpelling s) → (isMatch (join [' '] ss) = true ↔
        q.Allows 0 ∧ ss = (t.romanizer.romanize B).syllables) := by
  obtain ⟨r, hparse, hmatch⟩ :=
    exists_parse?_repeatedGroup hq (exact_firstReadings hA hA') (exact_firstReadings hB hB')
  refine ⟨r.isMatch, by rw [RegexEngine.compile?_unlimited, hparse, Option.map_some], ?_⟩
  intro ss hss
  rw [hmatch ss fun s hs => (hss s hs).isWord, mem_soundsOf_false_iff hB' hss]

/-- An optional ideograph with one behind it: without the first the second is matched, with it
neither is. -/
theorem isMatch_transcribe_repeated_sample :
    Repetition.optional.Allows 0 ∧ Repetition.optional.Allows 1 ∧
      ∃ isMatch, RegexEngine.unlimited.compile? Searcher.plainFlags
          (Phrase.sampleTranscriber.transcribe false "^(中)?国$".toList) = some isMatch ∧
        isMatch "guo".toList = true ∧ isMatch "zhong guo".toList = false := by
  have hzero : Repetition.optional.Allows 0 := Repetition.allows_zero_iff.2 rfl
  have hfirst : ∀ c ∈ ['中'], Phrase.sampleTranscriber.IsIdeograph c := by
    rintro c (_ | ⟨_, ⟨⟩⟩)
    exact ⟨by decide, "zhong".toList, rfl, by decide⟩
  have hsecond : ∀ c ∈ ['国'], Phrase.sampleTranscriber.IsIdeograph c := by
    rintro c (_ | ⟨_, ⟨⟩⟩)
    exact ⟨by decide, "guo".toList, rfl, by decide⟩
  obtain ⟨isMatch, hcompile, hmatch⟩ := isMatch_transcribe_repeated (q := .optional)
    (List.cons_ne_nil _ _) (List.cons_ne_nil _ _) hfirst hsecond trivial
  refine ⟨hzero, ⟨Nat.zero_le 1, by rintro n ⟨⟩; exact Nat.le_refl 1⟩, isMatch, hcompile, ?_, ?_⟩
  · exact (hmatch ["guo".toList] (by decide)).2 ⟨hzero, by decide⟩
  · rw [Bool.eq_false_iff]
    intro hboth
    have hss := ((hmatch ["zhong".toList, "guo".toList] (by decide)).1 hboth).2
    revert hss
    decide

end Transcriber

end PinyinSearch
