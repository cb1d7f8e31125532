import PinyinSearch.Proofs.Pattern.TextSide
import PinyinSearch.Proofs.Pattern.Transcription

/-!
# Transcribing wildcards

A dot is transcribed to the placeholder for a word, and a dot with a quantifier to words as many as
the quantifier allows.  Where the quantifier allows none, how it is written depends on where
syllables stand: behind it, before it or nowhere.
-/

namespace PinyinSearch

open Text Regex

namespace Transcriber

variable {t : Transcriber} {fuzzy : Bool} {s : Text} {L : Language Text}

/-- A dot stands for any one syllable. -/
lemma solid_any (hp : t.placeholder = ['\\', 'w', '+']) : t.Solid fuzzy ['.'] (wordsOf 1) := by
  have hcuts : t.Cuts fuzzy ['.'] [.syllable t.placeholder] :=
    ⟨fun _ => ends_cons (by decide), fun hrest => segments_dot hrest⟩
  refine (exact_syllable hcuts (by decide) (hp ▸ reads_word rfl rfl)
    (joins_wordRun contains_space) fun ws hws => ⟨?_, hws.2⟩).solid
  exact List.ne_nil_of_length_eq_add_one hws.1

/-! ## Counted wildcards -/

/-- Lists of words as many as a quantifier allows. -/
def wordsAllowed (q : Quantifier) : Language Text :=
  {ws | q.Allows ws.length ∧ ∀ w ∈ ws, IsWord w}

lemma mem_wordsAllowed {q : Quantifier} {ws : List Text} :
    ws ∈ wordsAllowed q ↔ q.Allows ws.length ∧ ∀ w ∈ ws, IsWord w := Iff.rfl

lemma wordsUpTo_zero : wordsUpTo (some 0) = 1 := by
  ext ws
  simp only [mem_wordsUpTo, Option.mem_some_iff, forall_eq', Nat.le_zero, List.length_eq_zero_iff,
    Language.mem_one]
  refine and_iff_left_of_imp ?_
  rintro rfl
  exact List.forall_mem_nil _

/-- Words and further words are words whose number lies between two bounds. -/
lemma mem_wordsOf_mul {m : Nat} {most : Option Nat} {ws : List Text} :
    ws ∈ wordsOf m * wordsUpTo most ↔
      m ≤ ws.length ∧ (∀ k ∈ most, ws.length ≤ m + k) ∧ ∀ w ∈ ws, IsWord w := by
  rw [Language.mem_mul]
  constructor
  · rintro ⟨us, ⟨rfl, hus⟩, vs, ⟨hmost, hvs⟩, rfl⟩
    rw [List.length_append]
    refine ⟨Nat.le_add_right .., fun k hk => Nat.add_le_add_left (hmost k hk) _, ?_⟩
    exact List.forall_mem_append.2 ⟨hus, hvs⟩
  · rintro ⟨hm, hmost, hws⟩
    refine ⟨ws.take m, ⟨List.length_take_of_le hm, fun w hw => hws w (List.mem_of_mem_take hw)⟩,
      ws.drop m, ⟨fun k hk => ?_, fun w hw => hws w (List.mem_of_mem_drop hw)⟩,
      List.take_append_drop m ws⟩
    have := hmost k hk
    rw [List.length_drop]
    omega

/-- A group that captures nothing is read as what stands in it. -/
lemma readsUnit_grouped {regex : Text} {rs : List Regex}
    (h : Reads Searcher.plainFlags regex rs) :
    ReadsUnit Searcher.plainFlags (grouped regex) (seqs rs) := by
  have hgroup := readsUnit_group (.cons h .nil) (List.cons_ne_nil _ _)
  simpa [grouped, join, alts] using hgroup

section

variable (hp : t.placeholder = ['\\', 'w', '+'])

include hp

/-- The placeholder for a number of syllables is read as a run of words. -/
lemma reads_placeholders {n : Nat} :
    Reads Searcher.plainFlags (t.placeholders n) (wordRun space n) := by
  have hword : Reads Searcher.plainFlags t.placeholder [word] := hp ▸ reads_word rfl rfl
  rw [placeholders]
  induction n using wordRun.induct with
  | case1 => exact .nil
  | case2 => simpa [join, wordRun] using hword
  | case3 n ih =>
    have htext : join [' '] (List.replicate (n + 2) t.placeholder) =
        t.placeholder ++ ([' '] ++ join [' '] (List.replicate (n + 1) t.placeholder)) := by
      rw [List.replicate_succ, List.replicate_succ, join, List.intercalate_cons_cons,
        List.append_assoc]
      rfl
    rw [htext]
    exact hword.append (reads_space.append ih)

/-- One more syllable is a group of a space and a word. -/
lemma readsUnit_further :
    ReadsUnit Searcher.plainFlags t.further (seqs [.set space, word]) :=
  readsUnit_grouped (reads_space.append (hp ▸ reads_word rfl rfl))

/-- One syllable and a space behind it are a group. -/
lemma readsUnit_leading :
    ReadsUnit Searcher.plainFlags (grouped (t.placeholder ++ [' '])) (seqs [word, .set space]) :=
  readsUnit_grouped ((hp ▸ reads_word rfl rfl : Reads _ t.placeholder [word]).append reads_space)

end

lemma readsUnit_upTo {regex : Text} {r : Regex} {n : Nat}
    (h : ReadsUnit Searcher.plainFlags regex r) :
    Reads Searcher.plainFlags (regex ++ upTo n) [.times r 0 (some n)] := by
  simpa [upTo, Quantifier.braced] using h.counted rfl fun rest => readBounds?_upTo

/-- A repetition up to a maximum, or without one, is read as such. -/
lemma reads_repeated {regex : Text} {r : Regex} {most : Option Nat}
    (h : ReadsUnit Searcher.plainFlags regex r) :
    Reads Searcher.plainFlags (repeated regex most) [.times r 0 most] := by
  cases most with
  | none => exact h.star rfl
  | some n => exact readsUnit_upTo h

/-- A number of words, and further words up to a bound or without one. -/
lemma reads_run (hp : t.placeholder = ['\\', 'w', '+']) (m : Nat) (most : Option Nat) :
    Reads Searcher.plainFlags (t.placeholders (m + 1) ++ repeated t.further most)
        (wordRun space (m + 1) ++ [.times (seqs [.set space, word]) 0 most]) ∧
      Joins (wordRun space (m + 1) ++ [.times (seqs [.set space, word]) 0 most])
        (wordsOf (m + 1) * wordsUpTo most) := by
  constructor
  · exact (reads_placeholders hp).append (reads_repeated (readsUnit_further hp))
  · exact (joins_wordRun contains_space).further contains_space fun ws hws =>
      List.ne_nil_of_length_eq_add_one hws.1

variable {q : Quantifier} {interior : Text}

/-- A quantifier with a minimum above 0 makes one segment, which matches as many words as it
allows. -/
lemma counted_of_least_pos (hp : t.placeholder = ['\\', 'w', '+']) (hq : q.IsOrdered)
    (hmin : q.HasMinimum) (hpos : 0 < q.least) :
    ∃ regex rs, t.counted q interior = [.syllable regex] ∧
      Reads Searcher.plainFlags regex rs ∧ Joins rs (wordsAllowed q) := by
  cases q with
  | exactly n =>
    obtain ⟨n, rfl⟩ := Nat.exists_eq_add_one_of_ne_zero hpos.ne'
    exact ⟨_, _, rfl, reads_placeholders hp, joins_wordRun contains_space⟩
  | between m n =>
    obtain ⟨m, rfl⟩ := Nat.exists_eq_add_one_of_ne_zero hpos.ne'
    have hle : m + 1 ≤ n := hq
    rcases Nat.eq_or_lt_of_le hle with rfl | hlt
    · have hlanguage : wordsAllowed (.between (m + 1) (m + 1)) = wordsOf (m + 1) := by
        ext ws
        exact and_congr_left' ⟨fun h => Nat.le_antisymm h.2 h.1, fun h => ⟨h.ge, h.le⟩⟩
      refine ⟨t.placeholders (m + 1), _, by simp [counted], reads_placeholders hp, ?_⟩
      exact hlanguage ▸ joins_wordRun contains_space
    · obtain ⟨hreads, hjoins⟩ := reads_run hp m (some (n - (m + 1)))
      have hlanguage : wordsAllowed (.between (m + 1) n) =
          wordsOf (m + 1) * wordsUpTo (some (n - (m + 1))) := by
        ext ws
        rw [mem_wordsOf_mul, mem_wordsAllowed, Quantifier.Allows, and_assoc]
        refine and_congr_right' (and_congr_left' ?_)
        simp only [Option.mem_some_iff, forall_eq', Nat.add_sub_cancel' hle]
      refine ⟨_, _, ?_, hreads, hlanguage ▸ hjoins⟩
      rw [counted, if_neg (by omega), if_neg (by omega), if_neg (by omega), if_neg (by omega),
        List.append_assoc]
      rfl
  | atLeast m =>
    obtain ⟨m, rfl⟩ := Nat.exists_eq_add_one_of_ne_zero hpos.ne'
    obtain ⟨hreads, hjoins⟩ := reads_run hp m none
    have hlanguage : wordsAllowed (.atLeast (m + 1)) = wordsOf (m + 1) * wordsUpTo none := by
      ext ws
      rw [mem_wordsOf_mul, mem_wordsAllowed, Quantifier.Allows]
      simp
    refine ⟨_, _, ?_, hreads, hlanguage ▸ hjoins⟩
    rw [counted, List.append_assoc]
    · rfl
    · exact Nat.succ_ne_zero m
  | upTo n => exact hmin.elim

/-- A quantifier with the minimum 0 makes a segment of optional syllables, or none if its maximum is
0, too. -/
lemma counted_of_least_eq_zero (hmin : q.HasMinimum) (hzero : q.least = 0) :
    (q.most = some 0 ∧ t.counted q interior = [] ∧ wordsAllowed q = 1) ∨
      q.most ≠ some 0 ∧ t.counted q interior = [.optional q.most] ∧
        wordsAllowed q = wordsUpTo q.most := by
  have hlanguage : wordsAllowed q = wordsUpTo q.most := by
    ext ws
    simp [mem_wordsAllowed, mem_wordsUpTo, Quantifier.allows_iff, hzero]
  rw [hlanguage]
  cases q with
  | exactly n =>
    obtain rfl : n = 0 := hzero
    exact .inl ⟨rfl, rfl, wordsUpTo_zero⟩
  | between m n =>
    obtain rfl : m = 0 := hzero
    rcases Nat.eq_zero_or_pos n with rfl | hn
    · exact .inl ⟨rfl, by simp [counted], wordsUpTo_zero⟩
    · exact .inr
        ⟨by simp [Quantifier.most, hn.ne'], by simp [counted, Quantifier.most, hn.ne'], rfl⟩
  | atLeast m =>
    obtain rfl : m = 0 := hzero
    exact .inr ⟨(Option.some_ne_none 0).symm, rfl, rfl⟩
  | upTo n => exact hmin.elim

lemma cuts_counted (hq : Quantifier.ofInterior? interior = some q) :
    t.Cuts fuzzy ('.' :: Quantifier.braced interior) (t.counted q interior) :=
  ⟨fun _ => ends_cons (by decide), fun _ => segments_counted hq⟩

lemma noVariants_counted (hq : Quantifier.ofInterior? interior = some q) :
    '@' ∉ '.' :: Quantifier.braced interior := by
  rw [List.mem_cons, not_or]
  exact ⟨by decide, noVariants_braced hq⟩

/-- A quantifier with a minimum above 0 stands for as many syllables as it allows. -/
lemma solid_counted (hp : t.placeholder = ['\\', 'w', '+'])
    (hq : Quantifier.ofInterior? interior = some q) (hordered : q.IsOrdered) (hmin : q.HasMinimum)
    (hpos : 0 < q.least) :
    t.Solid fuzzy ('.' :: Quantifier.braced interior) (wordsAllowed q) := by
  obtain ⟨regex, rs, hcounted, hreads, hjoins⟩ := counted_of_least_pos hp hordered hmin hpos
  have hcuts : t.Cuts fuzzy ('.' :: Quantifier.braced interior) _ := cuts_counted hq
  rw [hcounted] at hcuts
  refine (exact_syllable hcuts (noVariants_counted hq) hreads hjoins
    fun ws hws => ⟨?_, hws.2⟩).solid
  rintro rfl
  have hallows : q.Allows 0 := hws.1
  cases q <;> simp_all [Quantifier.Allows, Quantifier.least]

/-- Behind a syllable, a quantifier stands for further syllables. -/
lemma goesOn_counted (hp : t.placeholder = ['\\', 'w', '+'])
    (hq : Quantifier.ofInterior? interior = some q) (hordered : q.IsOrdered)
    (hmin : q.HasMinimum) :
    t.GoesOn fuzzy ('.' :: Quantifier.braced interior) (wordsAllowed q) := by
  rcases Nat.eq_zero_or_pos q.least with hzero | hpos
  · have hcuts : t.Cuts fuzzy ('.' :: Quantifier.braced interior) _ := cuts_counted hq
    rcases counted_of_least_eq_zero hmin hzero with ⟨_, hcounted, hlanguage⟩ |
      ⟨_, hcounted, hlanguage⟩
    · rw [hcounted] at hcuts
      refine ⟨[], [], [], ⟨hcuts, noVariants_counted hq, rfl, fun _ => rfl, .nil⟩, ?_⟩
      exact hlanguage ▸ .nil
    · rw [hcounted] at hcuts
      refine ⟨_, repeated t.further q.most, _, ⟨hcuts, noVariants_counted hq, rfl, fun hrest => rfl,
        reads_repeated (readsUnit_further hp)⟩, ?_⟩
      exact hlanguage ▸ continues_further contains_space
  · exact (solid_counted hp hq hordered hmin hpos).goesOn

/-- Before a syllable, a quantifier with the minimum 0 stands for syllables in front. -/
lemma begins_counted (hp : t.placeholder = ['\\', 'w', '+'])
    (hq : Quantifier.ofInterior? interior = some q) (hmin : q.HasMinimum) (hzero : q.least = 0)
    (h : t.Solid fuzzy s L) :
    t.Begins fuzzy ('.' :: Quantifier.braced interior ++ s) (wordsAllowed q * L) := by
  have hcuts : t.Cuts fuzzy ('.' :: Quantifier.braced interior) _ := cuts_counted hq
  have hat := noVariants_counted hq
  rcases counted_of_least_eq_zero hmin hzero with ⟨_, hcounted, hlanguage⟩ |
    ⟨_, hcounted, hlanguage⟩
  · rw [hcounted] at hcuts
    rw [hlanguage, one_mul]
    exact h.begins.behindNothing hcuts hat
  · rw [hcounted] at hcuts
    obtain ⟨segs, out, rs, hcuts', hat', hstarts, hwrites, hreads, hspells⟩ := h
    have hrepeated : Reads Searcher.plainFlags
        (repeated (grouped (t.placeholder ++ [' '])) q.most) _ :=
      reads_repeated (readsUnit_leading hp)
    refine ⟨_, repeated (grouped (t.placeholder ++ [' '])) q.most ++ out, _, ⟨hcuts.append hcuts',
      fun hmem => (List.mem_append.1 hmem).elim hat hat', rfl, fun {rest} hrest => ?_,
      hrepeated.append hreads⟩, ?_⟩
    · -- a syllable follows, so the spaces are written behind the optional syllables
      have hform : t.form false (segs ++ rest).head? (.optional q.most) =
          repeated (grouped (t.placeholder ++ [' '])) q.most := by
        rw [form, optionalForm.eq_def, if_neg Bool.false_ne_true,
          if_pos (startsSyllable_append hstarts)]
      rw [List.append_assoc, List.singleton_append, write, hform, endsAfter, hwrites hrest]
      simp
    · rw [hlanguage]
      exact hspells.lead contains_space

/-! ## A wildcard alone -/

/-- A text is read as an expression that matches no more words than a number. -/
def ReadsUpTo (regex : Text) (most : Option Nat) : Prop :=
  ∃ rs, Reads Searcher.plainFlags regex rs ∧ ∀ {before mid after},
    (seqs rs).Matches before mid after → ∃ ws ∈ wordsUpTo most, mid = join [' '] ws

/-- Words that may be left out. -/
lemma exists_joins_optional {regex : Text} {rs : List Regex}
    (hreads : Reads Searcher.plainFlags regex rs) (hjoins : Joins rs L) :
    ∃ rs', Reads Searcher.plainFlags (grouped regex ++ ['?']) rs' ∧ Joins rs' (1 + L) := by
  refine ⟨_, (readsUnit_grouped hreads).optional rfl, ⟨fun {before mid after} => ?_⟩⟩
  rw [matches_seqs_singleton, matches_optional, hjoins.matches_iff]
  constructor
  · rintro (rfl | ⟨ws, hws, rfl⟩)
    · exact ⟨[], .inl rfl, rfl⟩
    · exact ⟨ws, .inr hws, rfl⟩
  · rintro ⟨ws, rfl | hws, rfl⟩
    · exact .inl rfl
    · exact .inr ⟨ws, hws, rfl⟩

/-- No word, or a word and further words. -/
lemma one_add_wordsOf_mul (further : Option Nat) :
    (1 + wordsOf 1 * wordsUpTo further : Language Text) = wordsUpTo (further.map (· + 1)) := by
  ext ws
  rw [Language.mem_add, Language.mem_one, mem_wordsOf_mul, mem_wordsUpTo]
  cases ws with
  | nil => simp
  | cons w ws => cases further <;> simp [Nat.add_comm]

section

variable (hp : t.placeholder = ['\\', 'w', '+'])

include hp

/-- A word and further words, all of which may be left out. -/
lemma exists_joins_run (further : Option Nat) :
    ∃ rs, Reads Searcher.plainFlags
        (grouped (t.placeholder ++ repeated t.further further) ++ ['?']) rs ∧
      Joins rs (wordsUpTo (further.map (· + 1))) := by
  have hplaceholder : t.placeholders 1 = t.placeholder := by simp [placeholders, join]
  obtain ⟨hreads, hjoins⟩ := reads_run hp 0 further
  rw [hplaceholder] at hreads
  rw [← one_add_wordsOf_mul]
  exact exists_joins_optional hreads hjoins

/-- With no syllable around them, optional syllables are a group that may be left out. -/
lemma exists_joins_optionalForm {most : Option Nat} (hmost : most ≠ some 0) :
    ∃ rs, Reads Searcher.plainFlags (t.optionalForm false (some (.raw ['$'])) most) rs ∧
      Joins rs (wordsUpTo most) := by
  match most, hmost with
  | none, _ =>
    obtain ⟨rs, hreads, hjoins⟩ := exists_joins_run hp none
    rw [repeated, ← List.append_assoc] at hreads
    exact ⟨rs, hreads, hjoins⟩
  | some 0, hmost => exact absurd rfl hmost
  | some 1, _ =>
    have hword : Reads Searcher.plainFlags t.placeholder [word] := hp ▸ reads_word rfl rfl
    have hlanguage : (1 + wordsOf 1 : Language Text) = wordsUpTo (some 1) := by
      simpa [wordsUpTo_zero] using one_add_wordsOf_mul (some 0)
    rw [← hlanguage]
    exact exists_joins_optional hword (joins_wordRun (n := 0) contains_space)
  | some (n + 2), _ =>
    obtain ⟨rs, hreads, hjoins⟩ := exists_joins_run hp (some (n + 1))
    rw [repeated, ← List.append_assoc] at hreads
    exact ⟨rs, hreads, hjoins⟩

/-- With no syllable around them, optional syllables match no more words than their number. -/
lemma readsUpTo_optionalForm {most : Option Nat} (hmost : most ≠ some 0) :
    ReadsUpTo (t.optionalForm false (some (.raw ['$'])) most) most := by
  obtain ⟨rs, hreads, hjoins⟩ := exists_joins_optionalForm hp hmost
  exact ⟨rs, hreads, hjoins.matches_iff.1⟩

/-- Between anchors, a wildcard with a minimum is transcribed to an expression for words as many as
the quantifier allows. -/
lemma exists_parse?_wordsAllowed (hq : Quantifier.ofInterior? interior = some q)
    (hordered : q.IsOrdered) (hmin : q.HasMinimum) :
    ∃ r, Regex.parse? Searcher.plainFlags
        (t.transcribe fuzzy (framed true true ('.' :: Quantifier.braced interior))) = some r ∧
      ∀ text, r.isMatch text = true → ∃ ws ∈ wordsAllowed q, text = join [' '] ws := by
  have hcuts : t.Cuts fuzzy ('.' :: Quantifier.braced interior) _ := cuts_counted hq
  have hat := noVariants_counted hq
  rcases Nat.eq_zero_or_pos q.least with hzero | hpos
  · -- no syllable stands around the wildcard, so the third way to write it applies
    rcases counted_of_least_eq_zero hmin hzero with ⟨_, hcounted, hlanguage⟩ |
      ⟨hmost, hcounted, hlanguage⟩
    · rw [hcounted] at hcuts
      refine ⟨_, parse?_framed hcuts hat rfl .nil, fun text hmatch => ?_⟩
      rw [isMatch_anchored_nil.1 hmatch, hlanguage]
      exact ⟨[], Language.nil_mem_one, rfl⟩
    · rw [hcounted] at hcuts
      obtain ⟨rs, hreads, hwords⟩ := readsUpTo_optionalForm hp hmost
      refine ⟨_, parse?_framed hcuts hat rfl hreads, fun text hmatch => ?_⟩
      rw [hlanguage]
      exact hwords (isMatch_anchored.1 hmatch)
  · have hsolid : t.Solid fuzzy ('.' :: Quantifier.braced interior) (wordsAllowed q) :=
      solid_counted hp hq hordered hmin hpos
    obtain ⟨rs, hparse, hspells⟩ := hsolid.begins.parse? true true
    exact ⟨_, hparse, fun text => hspells.isMatch_whole.1⟩

/-- Between anchors, a wildcard is transcribed to an expression that joined pieces match in allowed
numbers at most.  It misses allowed numbers of pieces that are no words. -/
lemma exists_parse?_counted (hq : Quantifier.ofInterior? interior = some q)
    (hordered : q.IsOrdered) :
    ∃ r, Regex.parse? Searcher.plainFlags
        (t.transcribe fuzzy (framed true true ('.' :: Quantifier.braced interior))) = some r ∧
      ∀ ss : List Text, (∀ s ∈ ss, IsPiece s) → r.isMatch (join [' '] ss) = true →
        q.Allows ss.length := by
  by_cases hmin : q.HasMinimum
  · obtain ⟨r, hparse, hwords⟩ :
        ∃ r, Regex.parse? Searcher.plainFlags
            (t.transcribe fuzzy (framed true true ('.' :: Quantifier.braced interior))) = some r ∧
          ∀ text, r.isMatch text = true → ∃ ws ∈ wordsAllowed q, text = join [' '] ws :=
      exists_parse?_wordsAllowed hp hq hordered hmin
    refine ⟨r, hparse, fun ss hss hmatch => ?_⟩
    obtain ⟨ws, hws, hjoin⟩ := hwords _ hmatch
    obtain rfl := eq_of_join_eq hss hws.2 hjoin
    exact hws.1
  · cases q with
    | upTo n =>
      -- characters are counted, and there are at least as many as pieces
      have hcuts : t.Cuts fuzzy ('.' :: Quantifier.braced interior) _ := cuts_counted hq
      have hdot : ReadsUnit Searcher.plainFlags ['.'] (.set (.compl (.single '\n'))) :=
        readsUnit_dot rfl rfl rfl rfl
      refine ⟨_, parse?_framed hcuts (noVariants_counted hq) rfl (readsUnit_upTo hdot),
        fun ss hss hmatch => ?_⟩
      have hline := (matches_quantified_dot (q := .upTo n) trivial).1
        (matches_seqs_singleton.1 (isMatch_anchored.1 hmatch))
      exact (length_le_length_join fun s hs => (hss s hs).1).trans hline.1
    | _ => exact absurd trivial hmin

end

end Transcriber

end PinyinSearch
