import PinyinSearch.Proofs.Regex.Words

/-!
# Runs of words

The expressions for any words, however many of them are asked for: a number of words, further words
behind others, and words in front of others.  The words that may be left out are those that a match
may break off; the expression goes on to match without them.
-/

namespace PinyinSearch.Regex

open Text

variable {rs : List Regex} {L : Language Text}

/-! ## Repeated words -/

/-- Lists of words, no more than a bound if there is one. -/
def wordsUpTo (most : Option Nat) : Language Text :=
  {ws | (∀ k ∈ most, ws.length ≤ k) ∧ ∀ w ∈ ws, IsWord w}

lemma mem_wordsUpTo {most : Option Nat} {ws : List Text} :
    ws ∈ wordsUpTo most ↔ (∀ k ∈ most, ws.length ≤ k) ∧ ∀ w ∈ ws, IsWord w := Iff.rfl

/-- Lists of a number of words. -/
def wordsOf (n : Nat) : Language Text := {ws | ws.length = n ∧ ∀ w ∈ ws, IsWord w}

lemma mem_wordsOf {n : Nat} {ws : List Text} :
    ws ∈ wordsOf n ↔ ws.length = n ∧ ∀ w ∈ ws, IsWord w := Iff.rfl

/-- A word of any length. -/
abbrev word : Regex := .times (.set .word) 1 none

section

variable {before mid after : Text}

/-- What is matched where something is repeated that is matched wherever it stands. -/
lemma repeats_iff {M : Matching} {P : Text → Prop} {g : Text → Text}
    (hM : ∀ {before mid after}, M before mid after ↔ ∃ w, P w ∧ mid = g w) {n : Nat} :
    Repeats M n before mid after ↔
      ∃ ws : List Text, ws.length = n ∧ (∀ w ∈ ws, P w) ∧ mid = ws.flatMap g := by
  induction n generalizing before mid with
  | zero => simp [Repeats]
  | succ n ih =>
    rw [repeats_succ]
    constructor
    · rintro ⟨_, _, rfl, hfirst, hrest⟩
      obtain ⟨w, hw, rfl⟩ := hM.1 hfirst
      obtain ⟨ws, rfl, hws, rfl⟩ := ih.1 hrest
      exact ⟨w :: ws, rfl, List.forall_mem_cons.2 ⟨hw, hws⟩, rfl⟩
    · rintro ⟨ws, hlen, hws, rfl⟩
      cases ws with
      | nil => cases hlen
      | cons w ws =>
        rw [List.forall_mem_cons] at hws
        exact ⟨g w, ws.flatMap g, rfl, hM.2 ⟨w, hws.1, rfl⟩,
          ih.2 ⟨ws, Nat.succ.inj hlen, hws.2, rfl⟩⟩

/-- A set that is repeated matches characters of the set. -/
lemma repeats_set {s : CharSet} {n : Nat} :
    Repeats (Regex.set s).Matches n before mid after ↔
      mid.length = n ∧ ∀ c ∈ mid, s.contains c = true := by
  induction n generalizing before mid with
  | zero =>
    rw [repeats_zero, List.length_eq_zero_iff]
    constructor
    · rintro rfl
      exact ⟨rfl, fun c hc => absurd hc List.not_mem_nil⟩
    · exact And.left
  | succ n ih =>
    rw [repeats_succ]
    constructor
    · rintro ⟨_, rest, rfl, ⟨c, rfl, hc⟩, hrest⟩
      obtain ⟨rfl, hchars⟩ := ih.1 hrest
      exact ⟨rfl, List.forall_mem_cons.2 ⟨hc, hchars⟩⟩
    · rintro ⟨hlen, hchars⟩
      cases mid with
      | nil => cases hlen
      | cons c mid =>
        rw [List.forall_mem_cons] at hchars
        exact ⟨[c], mid, rfl, ⟨c, rfl, hchars.1⟩, ih.2 ⟨Nat.succ.inj hlen, hchars.2⟩⟩

/-- A word is matched wherever it stands. -/
lemma matches_word : word.Matches before mid after ↔ IsWord mid := by
  rw [matches_times]
  constructor
  · rintro ⟨n, hn, _, h⟩
    obtain ⟨rfl, hchars⟩ := repeats_set.1 h
    exact ⟨List.length_pos_iff.1 hn, hchars⟩
  · rintro ⟨hne, hchars⟩
    exact ⟨mid.length, List.length_pos_iff.2 hne, by simp, repeats_set.2 ⟨rfl, hchars⟩⟩

/-- Words, up to a bound if there is one, each of which is matched in some form. -/
lemma matches_wordsUpTo {r : Regex} {g : Text → Text} {most : Option Nat}
    (hr : ∀ {before mid after}, r.Matches before mid after ↔ ∃ w, IsWord w ∧ mid = g w) :
    (times r 0 most).Matches before mid after ↔ ∃ ws ∈ wordsUpTo most, mid = ws.flatMap g := by
  rw [matches_times]
  constructor
  · rintro ⟨n, _, hmost, h⟩
    obtain ⟨ws, rfl, hws, rfl⟩ := (repeats_iff hr).1 h
    exact ⟨ws, ⟨fun k hk => by simpa using hmost k hk, hws⟩, rfl⟩
  · rintro ⟨ws, ⟨hmost, hws⟩, rfl⟩
    refine ⟨ws.length, Nat.zero_le _, fun k hk => by simpa using hmost k hk, ?_⟩
    exact (repeats_iff hr).2 ⟨ws, rfl, hws, rfl⟩

variable {space : CharSet} (hspace : ∀ c, space.contains c = true ↔ c = ' ')

include hspace

/-- A space and a word. -/
lemma matches_space_word :
    (seqs [.set space, word]).Matches before mid after ↔ ∃ w, IsWord w ∧ mid = ' ' :: w := by
  constructor
  · rintro ⟨_, _, rfl, ⟨c, rfl, hc⟩, hword⟩
    obtain rfl := (hspace c).1 hc
    exact ⟨_, matches_word.1 (matches_seqs_singleton.1 hword), rfl⟩
  · rintro ⟨w, hw, rfl⟩
    refine ⟨[' '], w, rfl, ⟨' ', rfl, (hspace ' ').2 rfl⟩, ?_⟩
    exact matches_seqs_singleton.2 (matches_word.2 hw)

/-- A word and a space. -/
lemma matches_word_space :
    (seqs [word, .set space]).Matches before mid after ↔ ∃ w, IsWord w ∧ mid = w ++ [' '] := by
  constructor
  · rintro ⟨w, _, rfl, hword, hset⟩
    obtain ⟨c, rfl, hc⟩ := matches_seqs_singleton.1 hset
    obtain rfl := (hspace c).1 hc
    exact ⟨w, matches_word.1 hword, rfl⟩
  · rintro ⟨w, hw, rfl⟩
    refine ⟨w, [' '], rfl, matches_word.2 hw, matches_seqs_singleton.2 ?_⟩
    exact ⟨' ', rfl, (hspace ' ').2 rfl⟩

/-- Words behind words, each with a space before it. -/
lemma matches_further {most : Option Nat} :
    (times (seqs [.set space, word]) 0 most).Matches before mid after ↔
      ∃ ws ∈ wordsUpTo most, mid = Text.spaced ws :=
  matches_wordsUpTo (matches_space_word hspace)

/-- Words that go on behind others, as many as there may be. -/
lemma continues_further {most : Option Nat} :
    Continues [.times (seqs [.set space, word]) 0 most] (wordsUpTo most) := by
  constructor
  case isWord => exact fun hws => hws.2
  case sound =>
    intro before mid after hmatch hmid
    obtain ⟨ws, hws, rfl⟩ := (matches_further hspace).1 (matches_seqs_singleton.1 hmatch)
    by_cases hafter : NoWordAfter after
    · exact ⟨ws, [], (List.append_nil _).symm, hws, hafter, fun _ => rfl⟩
    · -- the last word is broken off, so it is left out
      rcases List.eq_nil_or_concat ws with rfl | ⟨us, w, rfl⟩
      · exact absurd hmid hafter
      · rw [List.concat_eq_append] at hws
        refine ⟨us, ' ' :: w, by simp [Text.spaced], ?_, noWordAfter_space,
          fun h => absurd h hafter⟩
        refine ⟨fun k hk => ?_, fun v hv => hws.2 v (List.mem_append_left _ hv)⟩
        have hlen := hws.1 k hk
        rw [List.length_append] at hlen
        omega
  case amid =>
    intro before mid after hmatch hmid
    obtain ⟨ws, hws, rfl⟩ := (matches_further hspace).1 (matches_seqs_singleton.1 hmatch)
    cases ws with
    | nil => exact ⟨rfl, hws⟩
    | cons w ws => exact absurd noWordAfter_space hmid
  case complete =>
    exact fun hws _ => matches_seqs_singleton.2 ((matches_further hspace).2 ⟨_, hws, rfl⟩)

/-- Words before others, as many as there may be. -/
lemma Spells.lead {most : Option Nat} (h : Spells rs L) :
    Spells (.times (seqs [word, .set space]) 0 most :: rs) (wordsUpTo most * L) := by
  have hleading : ∀ {before mid after : Text},
      (times (seqs [word, .set space]) 0 most).Matches before mid after ↔
        ∃ ws ∈ wordsUpTo most, mid = leading ws :=
    matches_wordsUpTo (matches_word_space hspace)
  constructor
  case isWord =>
    intro ws hws
    refine ⟨?_, isWord_of_mem_mul (fun _ hus => hus.2) (fun _ hvs => (h.isWord hvs).2) hws⟩
    obtain ⟨us, hus, vs, hvs, rfl⟩ := Language.mem_mul.1 hws
    exact List.append_ne_nil_of_right_ne_nil us (h.isWord hvs).1
  case sound =>
    rintro before _ after ⟨first, rest, rfl, hfirst, hrest⟩
    obtain ⟨us, hus, rfl⟩ := hleading.1 hfirst
    obtain ⟨lead, ws, trail, rfl, hws, hbefore, htrail, hlead, hnil⟩ := h.sound hrest
    by_cases hstart : NoWordBefore before
    · obtain rfl := hlead (noWordBefore_leading _ hstart)
      refine ⟨[], us ++ ws, trail, ?_, Language.append_mem_mul hus hws, by simpa using hstart,
        htrail, fun _ => rfl, hnil⟩
      rw [leading_append_join (h.isWord hws).1]
      simp
    · cases us with
      | nil =>
        refine ⟨lead, ws, trail, by simp [leading], ?_, by simpa [leading] using hbefore, htrail,
          fun hb => absurd hb hstart, hnil⟩
        exact Language.append_mem_mul hus hws
      | cons u us =>
        -- the first word is broken off, so it is left out
        obtain rfl : lead = [] := by
          apply hlead
          have := noWordBefore_leading us (noWordBefore_space (before ++ u))
          simpa [leading] using this
        refine ⟨u ++ [' '], us ++ ws, trail, ?_, Language.append_mem_mul ⟨fun k hk => ?_, ?_⟩ hws,
          ?_, htrail, fun hb => absurd hb hstart, hnil⟩
        · rw [leading_append_join (h.isWord hws).1]
          simp [leading]
        · exact Nat.le_of_succ_le (hus.1 k hk)
        · exact fun v hv => hus.2 v (List.mem_cons_of_mem u hv)
        · rw [← List.append_assoc]
          exact noWordBefore_space _
  case complete =>
    intro ws before after hws hbefore hafter
    obtain ⟨us, hus, vs, hvs, rfl⟩ := Language.mem_mul.1 hws
    refine ⟨leading us, join [' '] vs, leading_append_join (h.isWord hvs).1,
      hleading.2 ⟨us, hus, rfl⟩, ?_⟩
    exact h.complete hvs (noWordBefore_leading _ hbefore) hafter

/-! ## Runs of words -/

/-- Any words with a space between neighbours. -/
def wordRun (space : CharSet) : Nat → List Regex
  | 0 => []
  | 1 => [word]
  | n + 2 => word :: .set space :: wordRun space (n + 1)

/-- A run of words matches that number of words. -/
lemma joins_wordRun {n : Nat} : Joins (wordRun space (n + 1)) (wordsOf (n + 1)) := by
  induction n with
  | zero =>
    refine ⟨fun {before mid after} => ?_⟩
    rw [wordRun, matches_seqs_singleton, matches_word]
    constructor
    · exact fun h => ⟨[mid], ⟨rfl, by simpa using h⟩, by simp [join]⟩
    · rintro ⟨ws, ⟨hlen, hws⟩, rfl⟩
      obtain ⟨w, rfl⟩ := List.length_eq_one_iff.1 hlen
      simpa [join] using hws
  | succ n ih =>
    refine ⟨fun {before mid after} => ⟨?_, ?_⟩⟩
    · rintro ⟨w, _, rfl, hword, _, rest, rfl, ⟨c, rfl, hc⟩, hrest⟩
      obtain rfl := (hspace c).1 hc
      obtain ⟨ws, ⟨hlen, hws⟩, rfl⟩ := ih.matches_iff.1 hrest
      refine ⟨w :: ws, ⟨congrArg Nat.succ hlen, ?_⟩, ?_⟩
      · exact List.forall_mem_cons.2 ⟨matches_word.1 hword, hws⟩
      · obtain ⟨v, ws, rfl⟩ := List.exists_cons_of_length_eq_add_one hlen
        rw [join_cons, join_cons]
        rfl
    · rintro ⟨ws, ⟨hlen, hws⟩, rfl⟩
      obtain ⟨w, ws, rfl⟩ := List.exists_cons_of_length_eq_add_one hlen
      rw [List.forall_mem_cons] at hws
      have hlen' : ws.length = n + 1 := Nat.succ.inj hlen
      refine ⟨w, ' ' :: join [' '] ws, ?_, matches_word.2 hws.1, [' '], join [' '] ws, rfl,
        ⟨' ', rfl, (hspace ' ').2 rfl⟩, ih.matches_iff.2 ⟨ws, ⟨hlen', hws.2⟩, rfl⟩⟩
      obtain ⟨v, ws, rfl⟩ := List.exists_cons_of_length_eq_add_one hlen'
      rw [join_cons, join_cons]
      rfl

/-- Further words go on behind those of a run. -/
lemma Joins.further {most : Option Nat} (h : Joins rs L) (hne : ∀ ws ∈ L, ws ≠ []) :
    Joins (rs ++ [.times (seqs [.set space, word]) 0 most]) (L * wordsUpTo most) := by
  refine ⟨fun {before mid after} => matches_seqs_append.trans ?_⟩
  constructor
  · rintro ⟨_, _, rfl, hfirst, hrest⟩
    obtain ⟨us, hus, rfl⟩ := h.matches_iff.1 hfirst
    obtain ⟨vs, hvs, rfl⟩ := (matches_further hspace).1 (matches_seqs_singleton.1 hrest)
    exact ⟨us ++ vs, Language.append_mem_mul hus hvs, (join_append (hne us hus)).symm⟩
  · rintro ⟨_, hws, rfl⟩
    obtain ⟨us, hus, vs, hvs, rfl⟩ := Language.mem_mul.1 hws
    refine ⟨join [' '] us, Text.spaced vs, join_append (hne us hus),
      h.matches_iff.2 ⟨us, hus, rfl⟩, ?_⟩
    exact matches_seqs_singleton.2 ((matches_further hspace).2 ⟨vs, hvs, rfl⟩)

end

end PinyinSearch.Regex
