import Mathlib.Computability.Language
import PinyinSearch.Proofs.Regex.Anchors
import PinyinSearch.Proofs.Words

/-!
# Expressions that match whole words

In the texts that the plain side of a pattern is matched with, words are separated by single spaces.
Here the matches of an expression are described by the lists of words that they are made of:
`Joins` and `Stands` say just what is matched, `Spells` is about an expression that matches words
with spaces between them, `Continues` about one that goes on behind a word, with a space before each
of its own.

A match may begin or end amid a word where a number of words may be left out.  What is matched of
such a word is set aside, as `lead` or `trail`; the rest of the match is made of whole words, and it
is all that counts.
-/

namespace PinyinSearch.Regex

open Text

/-- Expressions one after the other that match words joined by spaces, wherever they stand. -/
structure Joins (rs : List Regex) (L : Language Text) : Prop where
  matches_iff : ∀ {before mid after},
    (seqs rs).Matches before mid after ↔ ∃ ws ∈ L, mid = join [' '] ws

/-- Expressions one after the other that match words joined by spaces exactly where no word
characters stand next to them. -/
structure Stands (rs : List Regex) (L : Language Text) : Prop where
  isWord : ∀ {ws}, ws ∈ L → ws ≠ [] ∧ ∀ w ∈ ws, IsWord w
  matches_iff : ∀ {before mid after}, (seqs rs).Matches before mid after ↔
    ∃ ws ∈ L, mid = join [' '] ws ∧ NoWordBefore before ∧ NoWordAfter after

/-- Expressions one after the other that match words joined by spaces; the words stand by
themselves. -/
structure Spells (rs : List Regex) (L : Language Text) : Prop where
  isWord : ∀ {ws}, ws ∈ L → ws ≠ [] ∧ ∀ w ∈ ws, IsWord w
  sound : ∀ {before mid after}, (seqs rs).Matches before mid after →
    ∃ lead ws trail, mid = lead ++ join [' '] ws ++ trail ∧ ws ∈ L ∧
      NoWordBefore (before ++ lead) ∧ NoWordAfter (trail ++ after) ∧
      (NoWordBefore before → lead = []) ∧ (NoWordAfter after → trail = [])
  complete : ∀ {ws before after}, ws ∈ L → NoWordBefore before → NoWordAfter after →
    (seqs rs).Matches before (join [' '] ws) after

/-- Expressions one after the other that match words with a space before each.  Amid a word they
match nothing, as if there were no words to match. -/
structure Continues (rs : List Regex) (L : Language Text) : Prop where
  isWord : ∀ {ws}, ws ∈ L → ∀ w ∈ ws, IsWord w
  sound : ∀ {before mid after}, (seqs rs).Matches before mid after → NoWordAfter (mid ++ after) →
    ∃ ws trail, mid = spaced ws ++ trail ∧ ws ∈ L ∧ NoWordAfter (trail ++ after) ∧
      (NoWordAfter after → trail = [])
  amid : ∀ {before mid after}, (seqs rs).Matches before mid after → ¬NoWordAfter (mid ++ after) →
    mid = [] ∧ [] ∈ L
  complete : ∀ {ws before after}, ws ∈ L → NoWordAfter after →
    (seqs rs).Matches before (spaced ws) after

variable {rs ts : List Regex} {L K : Language Text}

/-- Joined words are told apart. -/
lemma exists_mem_join_eq_iff {us : List Text} (hL : ∀ ws ∈ L, ∀ w ∈ ws, IsWord w)
    (hus : ∀ u ∈ us, IsWord u) : (∃ ws ∈ L, join [' '] us = join [' '] ws) ↔ us ∈ L := by
  constructor
  · rintro ⟨ws, hws, hjoin⟩
    rwa [eq_of_join_eq (fun u hu => (hus u hu).isPiece) (hL ws hws) hjoin]
  · exact fun hmem => ⟨us, hmem, rfl⟩

/-! ## One after the other -/

lemma isWord_of_mem_mul (h : ∀ ws ∈ L, ∀ w ∈ ws, IsWord w) (h' : ∀ ws ∈ K, ∀ w ∈ ws, IsWord w)
    {ws : List Text} (hws : ws ∈ L * K) : ∀ w ∈ ws, IsWord w := by
  obtain ⟨us, hus, vs, hvs, rfl⟩ := Language.mem_mul.1 hws
  exact List.forall_mem_append.2 ⟨h us hus, h' vs hvs⟩

/-- Words that go on behind others. -/
lemma Spells.append (h : Spells rs L) (h' : Continues ts K) : Spells (rs ++ ts) (L * K) := by
  constructor
  case isWord =>
    intro ws hws
    refine ⟨?_, isWord_of_mem_mul (fun _ hus => (h.isWord hus).2) (fun _ => h'.isWord) hws⟩
    obtain ⟨us, hus, vs, hvs, rfl⟩ := Language.mem_mul.1 hws
    exact List.append_ne_nil_of_left_ne_nil (h.isWord hus).1 vs
  case sound =>
    intro before mid after hmatch
    obtain ⟨first, rest, rfl, hfirst, hrest⟩ := matches_seqs_append.1 hmatch
    obtain ⟨lead, us, trail, rfl, hus, hbefore, htrail, hlead, hnil⟩ := h.sound hfirst
    by_cases hgo : NoWordAfter (rest ++ after)
    · -- the first match ends with a word, so the second may add words to it
      obtain rfl := hnil hgo
      obtain ⟨vs, trail, rfl, hvs, htrail, hnil⟩ := h'.sound hrest hgo
      refine ⟨lead, us ++ vs, trail, ?_, Language.append_mem_mul hus hvs, hbefore, htrail, hlead,
        hnil⟩
      rw [join_append (h.isWord hus).1]
      simp
    · -- the first match ends amid a word, so the second is empty
      obtain ⟨rfl, hvs⟩ := h'.amid hrest hgo
      rw [List.nil_append] at htrail hnil
      refine ⟨lead, us, trail, by simp, ?_, hbefore, htrail, hlead, hnil⟩
      simpa using Language.append_mem_mul hus hvs
  case complete =>
    intro ws before after hws hbefore hafter
    obtain ⟨us, hus, vs, hvs, rfl⟩ := Language.mem_mul.1 hws
    refine matches_seqs_append.2 ⟨join [' '] us, spaced vs, join_append (h.isWord hus).1, ?_, ?_⟩
    · exact h.complete hus hbefore (noWordAfter_spaced _ hafter)
    · exact h'.complete hvs hafter

/-- Nothing may go on behind a word. -/
lemma Continues.nil : Continues [] 1 := by
  constructor
  case isWord =>
    rintro ws rfl w hw
    exact absurd hw List.not_mem_nil
  case sound =>
    rintro before mid after rfl hgo
    exact ⟨[], [], rfl, Language.nil_mem_one, hgo, fun _ => rfl⟩
  case amid =>
    rintro before mid after rfl hgo
    exact ⟨rfl, Language.nil_mem_one⟩
  case complete =>
    rintro ws before after rfl hafter
    rfl

/-- Words that go on behind a word, and more that go on behind them. -/
lemma Continues.append (h : Continues rs L) (h' : Continues ts K) :
    Continues (rs ++ ts) (L * K) := by
  constructor
  case isWord => exact isWord_of_mem_mul (fun _ => h.isWord) (fun _ => h'.isWord)
  case sound =>
    intro before mid after hmatch hmid
    obtain ⟨first, rest, rfl, hfirst, hrest⟩ := matches_seqs_append.1 hmatch
    rw [List.append_assoc] at hmid
    obtain ⟨us, trail, rfl, hus, htrail, hnil⟩ := h.sound hfirst hmid
    by_cases hgo : NoWordAfter (rest ++ after)
    · obtain rfl := hnil hgo
      obtain ⟨vs, trail, rfl, hvs, htrail, hnil⟩ := h'.sound hrest hgo
      refine ⟨us ++ vs, trail, ?_, Language.append_mem_mul hus hvs, htrail, hnil⟩
      simp [spaced_append]
    · obtain ⟨rfl, hvs⟩ := h'.amid hrest hgo
      rw [List.nil_append] at htrail hnil
      refine ⟨us, trail, by simp, ?_, htrail, hnil⟩
      simpa using Language.append_mem_mul hus hvs
  case amid =>
    intro before mid after hmatch hmid
    obtain ⟨first, rest, rfl, hfirst, hrest⟩ := matches_seqs_append.1 hmatch
    rw [List.append_assoc] at hmid
    obtain ⟨rfl, hus⟩ := h.amid hfirst hmid
    obtain ⟨rfl, hvs⟩ := h'.amid hrest hmid
    exact ⟨rfl, Language.append_mem_mul hus hvs⟩
  case complete =>
    intro ws before after hws hafter
    obtain ⟨us, hus, vs, hvs, rfl⟩ := Language.mem_mul.1 hws
    refine matches_seqs_append.2 ⟨spaced us, spaced vs, spaced_append, ?_, ?_⟩
    · exact h.complete hus (noWordAfter_spaced _ hafter)
    · exact h'.complete hvs hafter

/-! ## Boundaries and spaces -/

/-- A word boundary. -/
abbrev boundary : Regex := .assert (.boundary .either false)

/-- Before a word there is a boundary unless a word character stands before it. -/
lemma matches_boundary_before {before after : Text} {c : Char} (hc : Unicode.isWord c = true) :
    boundary.Matches before [] (c :: after) ↔ NoWordBefore before := by
  rw [matches_assert, NoWordBefore]
  cases before.getLast? <;> simp [Assertion.holds, Assertion.boundaryHolds, hc]

/-- Behind a word there is a boundary unless a word character stands behind it. -/
lemma matches_boundary_after {before after : Text} {c : Char} (hc : Unicode.isWord c = true) :
    boundary.Matches (before ++ [c]) [] after ↔ NoWordAfter after := by
  rw [matches_assert, NoWordAfter]
  cases after.head? <;> simp [Assertion.holds, Assertion.boundaryHolds, hc]

/-- Between boundaries words stand by themselves. -/
lemma Joins.bounded (h : Joins rs L) (hL : ∀ ws ∈ L, ws ≠ [] ∧ ∀ w ∈ ws, IsWord w) :
    Stands ([boundary] ++ rs ++ [boundary]) L := by
  refine ⟨fun {ws} => hL ws, fun {before mid after} => ?_⟩
  -- a boundary at the end of joined words asks that no word character stands next to them
  simp only [matches_seqs_append, matches_seqs_singleton]
  constructor
  · rintro ⟨_, _, rfl, ⟨_, mid, rfl, ⟨rfl, hstart⟩, hmid⟩, rfl, hstop⟩
    obtain ⟨ws, hws, rfl⟩ := h.matches_iff.1 hmid
    obtain ⟨c, s, hcons, hc⟩ := exists_join_eq_cons (hL ws hws).1 (hL ws hws).2
    obtain ⟨t, d, hconcat, hd⟩ := exists_join_eq_concat (hL ws hws).1 (hL ws hws).2
    refine ⟨ws, hws, by simp, ?_, ?_⟩
    · have hstart' : boundary.Matches before [] (c :: (s ++ after)) :=
        ⟨rfl, by simpa [hcons] using hstart⟩
      exact (matches_boundary_before hc).1 hstart'
    · have hstop' : boundary.Matches (before ++ t ++ [d]) [] after :=
        ⟨rfl, by simpa [hconcat] using hstop⟩
      exact (matches_boundary_after hd).1 hstop'
  · rintro ⟨ws, hws, rfl, hbefore, hafter⟩
    obtain ⟨c, s, hcons, hc⟩ := exists_join_eq_cons (hL ws hws).1 (hL ws hws).2
    obtain ⟨t, d, hconcat, hd⟩ := exists_join_eq_concat (hL ws hws).1 (hL ws hws).2
    refine ⟨join [' '] ws, [], by simp, ⟨[], join [' '] ws, rfl, ?_,
      h.matches_iff.2 ⟨ws, hws, rfl⟩⟩, ?_⟩
    · rw [hcons]
      exact (matches_boundary_before hc).2 hbefore
    · rw [hconcat, ← List.append_assoc]
      exact (matches_boundary_after hd).2 hafter

/-- Words that stand by themselves are spelled. -/
lemma Stands.spells (h : Stands rs L) : Spells rs L := by
  constructor
  case isWord => exact h.isWord
  case sound =>
    intro before mid after hm
    obtain ⟨ws, hws, rfl, hbefore, hafter⟩ := h.matches_iff.1 hm
    exact ⟨[], ws, [], by simp, hws, by simpa using hbefore, hafter, fun _ => rfl, fun _ => rfl⟩
  case complete =>
    intro ws before after hws hbefore hafter
    exact h.matches_iff.2 ⟨ws, hws, rfl, hbefore, hafter⟩

/-- Words that stand by themselves, a space, and more words that stand by themselves. -/
lemma Stands.append {space : CharSet} (hspace : ∀ c, space.contains c = true ↔ c = ' ')
    (h : Stands rs L) (h' : Stands ts K) : Stands (rs ++ .set space :: ts) (L * K) := by
  have hjoin : ∀ {us vs}, us ∈ L → vs ∈ K →
      join [' '] (us ++ vs) = join [' '] us ++ ([' '] ++ join [' '] vs) := by
    intro us vs hus hvs
    obtain ⟨v, vs, rfl⟩ := List.exists_cons_of_ne_nil (h'.isWord hvs).1
    rw [join_append (h.isWord hus).1, join_cons]
    rfl
  constructor
  case isWord =>
    intro ws hws
    refine ⟨?_, isWord_of_mem_mul (fun _ hus => (h.isWord hus).2) (fun _ hvs => (h'.isWord hvs).2)
      hws⟩
    obtain ⟨us, hus, vs, hvs, rfl⟩ := Language.mem_mul.1 hws
    exact List.append_ne_nil_of_left_ne_nil (h.isWord hus).1 vs
  case matches_iff =>
    intro before mid after
    rw [matches_seqs_append]
    constructor
    · rintro ⟨_, _, rfl, hfirst, _, _, rfl, ⟨c, rfl, hc⟩, hrest⟩
      obtain rfl := (hspace c).1 hc
      obtain ⟨us, hus, rfl, hbefore, _⟩ := h.matches_iff.1 hfirst
      obtain ⟨vs, hvs, rfl, _, hafter⟩ := h'.matches_iff.1 hrest
      exact ⟨us ++ vs, Language.append_mem_mul hus hvs, (hjoin hus hvs).symm, hbefore, hafter⟩
    · rintro ⟨_, hws, rfl, hbefore, hafter⟩
      obtain ⟨us, hus, vs, hvs, rfl⟩ := Language.mem_mul.1 hws
      refine ⟨join [' '] us, [' '] ++ join [' '] vs, hjoin hus hvs,
        h.matches_iff.2 ⟨us, hus, rfl, hbefore, noWordAfter_space⟩, [' '], join [' '] vs, rfl,
        ⟨' ', rfl, (hspace ' ').2 rfl⟩, ?_⟩
      exact h'.matches_iff.2 ⟨vs, hvs, rfl, noWordBefore_space _, hafter⟩

/-- Words that follow a space go on behind a word. -/
lemma Spells.spaced {space : CharSet} (hspace : ∀ c, space.contains c = true ↔ c = ' ')
    (h : Spells rs L) : Continues (.set space :: rs) L := by
  have hjoin : ∀ {ws}, ws ∈ L → ' ' :: join [' '] ws = Text.spaced ws := fun {ws} hws => by
    obtain ⟨w, ws, rfl⟩ := List.exists_cons_of_ne_nil (h.isWord hws).1
    rw [join_cons]
    rfl
  constructor
  case isWord => exact fun hws => (h.isWord hws).2
  case sound =>
    rintro before _ after ⟨_, rest, rfl, ⟨c, rfl, hc⟩, hrest⟩ _
    obtain rfl := (hspace c).1 hc
    obtain ⟨lead, ws, trail, rfl, hws, _, htrail, hlead, hnil⟩ := h.sound hrest
    obtain rfl := hlead (noWordBefore_space before)
    refine ⟨ws, trail, ?_, hws, htrail, hnil⟩
    rw [← hjoin hws]
    rfl
  case amid =>
    rintro before _ after ⟨_, rest, rfl, ⟨c, rfl, hc⟩, hrest⟩ hamid
    obtain rfl := (hspace c).1 hc
    exact absurd noWordAfter_space hamid
  case complete =>
    intro ws before after hws hafter
    refine ⟨[' '], join [' '] ws, (hjoin hws).symm, ⟨' ', rfl, (hspace ' ').2 rfl⟩, ?_⟩
    exact h.complete hws (noWordBefore_space before) hafter

/-! ## Alternatives -/

/-- Alternatives match what one of them matches. -/
lemma matches_alts {before mid after : Text} (hne : rs ≠ []) :
    (Regex.alts rs).Matches before mid after ↔ ∃ r ∈ rs, r.Matches before mid after := by
  induction rs with
  | nil => exact absurd rfl hne
  | cons r rs ih =>
    cases rs with
    | nil => simp [Regex.alts]
    | cons s rs =>
      rw [List.exists_mem_cons_iff, ← ih (List.cons_ne_nil _ _)]
      exact matches_alt

/-- Words that one of two expressions matches. -/
lemma Spells.alt {r s : Regex} (h : Spells [r] L) (h' : Spells [s] K) :
    Spells [.alt r s] (L + K) := by
  constructor
  case isWord =>
    rintro ws (hws | hws)
    · exact h.isWord hws
    · exact h'.isWord hws
  case sound =>
    intro before mid after hmatch
    rcases matches_seqs_singleton.1 hmatch with hr | hs
    · obtain ⟨lead, ws, trail, hmid, hws, hrest⟩ := h.sound (matches_seqs_singleton.2 hr)
      exact ⟨lead, ws, trail, hmid, .inl hws, hrest⟩
    · obtain ⟨lead, ws, trail, hmid, hws, hrest⟩ := h'.sound (matches_seqs_singleton.2 hs)
      exact ⟨lead, ws, trail, hmid, .inr hws, hrest⟩
  case complete =>
    rintro ws before after (hws | hws) hbefore hafter
    · exact matches_seqs_singleton.2 (.inl
        (matches_seqs_singleton.1 (h.complete hws hbefore hafter)))
    · exact matches_seqs_singleton.2 (.inr
        (matches_seqs_singleton.1 (h'.complete hws hbefore hafter)))

/-- A group of one branch matches what the branch matches. -/
lemma Spells.group (h : Spells rs L) : Spells [seqs rs] L := by
  constructor
  case isWord => exact h.isWord
  case sound => exact fun hmatch => h.sound (matches_seqs_singleton.1 hmatch)
  case complete =>
    exact fun hws hbefore hafter => matches_seqs_singleton.2 (h.complete hws hbefore hafter)

/-- A group matches what one of its branches matches. -/
lemma Spells.alts {rss : List (List Regex)} {Ls : List (Language Text)}
    (h : List.Forall₂ Spells rss Ls) (hne : rss ≠ []) :
    Spells [Regex.alts (rss.map seqs)] Ls.sum := by
  induction h with
  | nil => exact absurd rfl hne
  | @cons rs L rss Ls hrs hrss ih =>
    cases hrss with
    | nil => simpa [Regex.alts] using hrs.group
    | cons hrs' hrss => exact hrs.group.alt (ih (List.cons_ne_nil _ _))

/-! ## Whole expressions -/

/-- An expression that spells words is found in a text of words exactly where neighbours of them are
spelled by it. -/
lemma Spells.isMatch_join {start stop : Bool} {ws : List Text} (h : Spells rs L)
    (hws : ∀ w ∈ ws, IsWord w) :
    (seqs (anchored start stop rs)).isMatch (join [' '] ws) = true ↔
      ∃ a b c, ws = a ++ b ++ c ∧ b ∈ L ∧ (start = true → a = []) ∧ (stop = true → c = []) := by
  rw [isMatch_iff]
  constructor
  · rintro ⟨before, mid, after, htext, hmatch⟩
    obtain ⟨hmid, hstart, hstop⟩ := matches_anchored.1 hmatch
    obtain ⟨lead, b, trail, rfl, hb, hbefore, hafter, hlead, htrail⟩ := h.sound hmid
    obtain ⟨hne, hword⟩ := h.isWord hb
    have hjoin : join [' '] ws = before ++ lead ++ join [' '] b ++ (trail ++ after) := by
      rw [← htext]
      simp
    obtain ⟨a, c, rfl, ha, hc⟩ := exists_of_join_eq hword hne hws hbefore hafter hjoin
    refine ⟨a, b, c, rfl, hb, fun hs => ?_, fun hs => ?_⟩
    · obtain rfl := hstart hs
      rw [hlead noWordBefore_nil] at ha
      cases a with
      | nil => rfl
      | cons w a => simp [leading] at ha
    · obtain rfl := hstop hs
      rw [htrail noWordAfter_nil] at hc
      cases c with
      | nil => rfl
      | cons w c => simp [Text.spaced] at hc
  · rintro ⟨a, b, c, rfl, hb, hstart, hstop⟩
    refine ⟨leading a, join [' '] b, Text.spaced c, ?_, matches_anchored.2 ⟨?_, ?_, ?_⟩⟩
    · rw [List.append_assoc, List.append_assoc, leading_append_join, join_append]
      · exact (h.isWord hb).1
      · exact List.append_ne_nil_of_left_ne_nil (h.isWord hb).1 c
    · apply h.complete hb
      · simpa using noWordBefore_leading a noWordBefore_nil
      · simpa using noWordAfter_spaced c noWordAfter_nil
    · exact fun hs => by rw [hstart hs]; rfl
    · exact fun hs => by rw [hstop hs]; rfl

/-- An expression that spells words and is anchored at both ends matches these words alone. -/
lemma Spells.isMatch_whole {text : Text} (h : Spells rs L) :
    (seqs (anchored true true rs)).isMatch text = true ↔ ∃ ws ∈ L, text = join [' '] ws := by
  rw [isMatch_anchored]
  constructor
  · intro hmatch
    obtain ⟨lead, ws, trail, rfl, hws, _, _, hlead, htrail⟩ := h.sound hmatch
    obtain rfl := hlead noWordBefore_nil
    obtain rfl := htrail noWordAfter_nil
    exact ⟨ws, hws, by simp⟩
  · rintro ⟨ws, hws, rfl⟩
    exact h.complete hws noWordBefore_nil noWordAfter_nil

end PinyinSearch.Regex
