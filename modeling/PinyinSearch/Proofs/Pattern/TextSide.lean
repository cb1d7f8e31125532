import PinyinSearch.Pattern.TextSide
import PinyinSearch.Proofs.Pattern.Cutting
import PinyinSearch.Proofs.Regex.WordRuns

/-!
# Patterns on texts

A pattern without markers is left as it is for texts, and a quantifier is written with its minimum.
What is read is a text that stands for itself, or a part that is repeated as often as the quantifier
allows.
-/

namespace PinyinSearch

open Text Regex

/-! ## Writing -/

lemma textPattern_cons {c : Char} {rest : Text} (hc : c ∉ Transcriber.markers) :
    textPattern (c :: rest) = c :: textPattern rest := by
  rw [textPattern, tokens, Transcriber.read_of_not_mem hc]
  rfl

lemma textPattern_nil : textPattern [] = [] := by
  rw [textPattern, tokens]
  rfl

/-- A text without markers is copied. -/
lemma textPattern_eq_self {s : Text} (hs : ∀ c ∈ s, c ∉ Transcriber.markers) :
    textPattern s = s := by
  induction s with
  | nil => exact textPattern_nil
  | cons c s ih =>
    rw [List.forall_mem_cons] at hs
    rw [textPattern_cons hs.1, ih hs.2]

/-- A quantifier is written with its minimum. -/
lemma textPattern_braced {q : Quantifier} {interior rest : Text}
    (h : Quantifier.ofInterior? interior = some q) :
    textPattern (Quantifier.braced interior ++ rest) =
      q.canonical interior ++ textPattern rest := by
  have htext : Quantifier.braced interior ++ rest = '{' :: (interior ++ '}' :: rest) := by
    simp [Quantifier.braced]
  rw [htext, textPattern, tokens, Transcriber.read_counted h]
  rfl

/-! ## Reading -/

variable {f : Flags}

/-- A missing minimum is read as 0. -/
lemma readBounds?_upTo {n : Nat} {rest : Text} :
    readBounds? f ('0' :: ',' :: decimal n ++ '}' :: rest) = some ((0, some n), rest) := by
  have hzero : Text.natural? ['0'] = some 0 := by decide
  exact readBounds?_between hzero (natural?_decimal n) (Nat.zero_le n)

/-- The bounds of a quantifier are read back from its digits. -/
lemma exists_readBounds? {interior : Text} {q : Quantifier}
    (hq : Quantifier.ofInterior? interior = some q) (hordered : q.IsOrdered) :
    ∃ inner, q.canonical interior = Quantifier.braced inner ∧
      ∀ rest, readBounds? f (inner ++ '}' :: rest) = some ((q.least, q.most), rest) := by
  rw [Quantifier.ofInterior?_eq] at hq
  split at hq
  · obtain ⟨n, hn, rfl⟩ := Option.map_eq_some_iff.1 hq
    exact ⟨interior, rfl, fun rest => readBounds?_exactly (Quantifier.natural?_of_count? hn)⟩
  · next maximum hcut =>
    obtain ⟨n, hn, rfl⟩ := Option.map_eq_some_iff.1 hq
    exact ⟨_, rfl, fun rest => readBounds?_upTo⟩
  · next minimum _ hcut =>
    obtain ⟨n, hn, rfl⟩ := Option.map_eq_some_iff.1 hq
    refine ⟨interior, rfl, fun rest => ?_⟩
    rw [Text.eq_of_cutAt hcut, List.append_assoc]
    exact readBounds?_atLeast (Quantifier.natural?_of_count? hn)
  · next minimum maximum _ _ hcut =>
    obtain ⟨m, hm, hq⟩ := Option.bind_eq_some_iff.1 hq
    obtain ⟨n, hn, rfl⟩ := Option.map_eq_some_iff.1 hq
    refine ⟨interior, rfl, fun rest => ?_⟩
    rw [Text.eq_of_cutAt hcut]
    exact readBounds?_between (Quantifier.natural?_of_count? hm) (Quantifier.natural?_of_count? hn)
      hordered

/-- What a quantifier follows is repeated as often as it allows. -/
lemma Regex.ReadsUnit.quantified {s interior : Text} {r : Regex} {q : Quantifier}
    (h : ReadsUnit f s r) (hv : f.verbose = false) (hq : Quantifier.ofInterior? interior = some q)
    (hordered : q.IsOrdered) :
    Reads f (s ++ q.canonical interior) [.times r q.least q.most] := by
  obtain ⟨inner, hinner, hbounds⟩ := exists_readBounds? (f := f) hq hordered
  rw [hinner]
  simpa [Quantifier.braced] using h.counted hv hbounds

/-! ## Matching -/

/-- A repeated dot matches the texts of allowed lengths, if they are of one line. -/
lemma matches_quantified_dot {q : Quantifier} (hordered : q.IsOrdered) {before mid after : Text} :
    (Regex.times (.set (.compl (.single '\n'))) q.least q.most).Matches before mid after ↔
      q.Allows mid.length ∧ '\n' ∉ mid := by
  have hline : (∀ c ∈ mid, (CharSet.compl (.single '\n')).contains c = true) ↔ '\n' ∉ mid := by
    simp [CharSet.contains, List.forall_mem_ne]
  have hbounds : ∀ n, (∀ k ∈ q.most, n ≤ max q.least k) ↔ ∀ k ∈ q.most, n ≤ k := fun n =>
    forall₂_congr fun k hk => by rw [max_eq_right (hordered.least_le hk)]
  rw [matches_times, Quantifier.allows_iff]
  simp only [repeats_set, hline, hbounds]
  constructor
  · rintro ⟨n, hleast, hmost, rfl, hmid⟩
    exact ⟨⟨hleast, hmost⟩, hmid⟩
  · rintro ⟨⟨hleast, hmost⟩, hmid⟩
    exact ⟨mid.length, hleast, hmost, rfl, hmid⟩

/-- The sets of single characters match these characters. -/
lemma matches_literals {s before mid after : Text} :
    (seqs (s.map fun c => .set (.single c))).Matches before mid after ↔ mid = s := by
  have hchars : ∀ c d, (CharSet.single d).contains c = true ↔ c = d := fun c d => by
    rw [CharSet.contains_single, beq_iff_eq]
    exact eq_comm
  rw [matches_seqs_sets]
  simp only [hchars, List.forall₂_eq_eq_eq]

/-- A text of literals is read as an expression that finds this text, at the ends of a text where
there are anchors. -/
lemma exists_parse?_textPattern_framed {s : Text}
    (hs : ∀ c ∈ s, c ∉ Transcriber.markers ∧ c ∉ operators) (start stop : Bool) :
    ∃ r, Regex.parse? {} (textPattern (framed start stop s)) = some r ∧
      ∀ text, r.isMatch text = true ↔ ∃ before after, text = before ++ s ++ after ∧
        (start = true → before = []) ∧ (stop = true → after = []) := by
  have hwritten : textPattern (framed start stop s) = framed start stop s := by
    refine textPattern_eq_self fun c hc => ?_
    rw [framed, List.mem_append, List.mem_append] at hc
    rcases hc with (hc | hc) | hc
    · split at hc
      · exact List.mem_singleton.1 hc ▸ by decide
      · cases hc
    · exact (hs c hc).1
    · split at hc
      · exact List.mem_singleton.1 hc ▸ by decide
      · cases hc
  have hreads : Reads {} s (s.map fun c => .set (.single c)) :=
    reads_literals (fun c hc => (hs c hc).2) rfl rfl
  refine ⟨_, hwritten ▸ (hreads.framed rfl rfl start stop).parse? rfl, fun text => ?_⟩
  simp only [isMatch_iff, matches_anchored, matches_literals]
  constructor
  · rintro ⟨before, _, after, htext, rfl, hends⟩
    exact ⟨before, after, htext.symm, hends⟩
  · rintro ⟨before, after, htext, hends⟩
    exact ⟨before, s, after, htext.symm, rfl, hends⟩

/-- Between both anchors, this text alone is matched. -/
lemma exists_parse?_textPattern_literals {s : Text}
    (hs : ∀ c ∈ s, c ∉ Transcriber.markers ∧ c ∉ operators) :
    ∃ r, Regex.parse? {} (textPattern (framed true true s)) = some r ∧
      ∀ text, r.isMatch text = true ↔ text = s := by
  obtain ⟨r, hparse, hmatch⟩ := exists_parse?_textPattern_framed hs true true
  refine ⟨r, hparse, fun text => (hmatch text).trans ?_⟩
  constructor
  · rintro ⟨before, after, rfl, hstart, hstop⟩
    rw [hstart rfl, hstop rfl, List.nil_append, List.append_nil]
  · rintro rfl
    exact ⟨[], [], by simp, fun _ => rfl, fun _ => rfl⟩

/-- A dot with a quantifier between anchors is read as an expression that matches the texts of
allowed lengths, if they are of one line. -/
lemma exists_parse?_textPattern_counted {q : Quantifier} {interior : Text}
    (hq : Quantifier.ofInterior? interior = some q) (hordered : q.IsOrdered) :
    ∃ r, Regex.parse? {} (textPattern (framed true true ('.' :: Quantifier.braced interior))) =
        some r ∧
      ∀ text, r.isMatch text = true ↔ q.Allows text.length ∧ '\n' ∉ text := by
  have hwritten : textPattern (framed true true ('.' :: Quantifier.braced interior)) =
      framed true true (['.'] ++ q.canonical interior) := by
    show textPattern ('^' :: '.' :: (Quantifier.braced interior ++ ['$'])) = _
    rw [textPattern_cons (by decide), textPattern_cons (by decide), textPattern_braced hq,
      textPattern_cons (by decide), textPattern_nil]
    rfl
  have hdot : ReadsUnit {} ['.'] (.set (.compl (.single '\n'))) := readsUnit_dot rfl rfl rfl rfl
  have hreads := (hdot.quantified rfl hq hordered).framed rfl rfl true true
  refine ⟨_, hwritten ▸ hreads.parse? rfl, fun text => ?_⟩
  rw [isMatch_anchored, matches_seqs_singleton]
  exact matches_quantified_dot hordered

end PinyinSearch
