import PinyinSearch.Proofs.Pattern.TextSide
import PinyinSearch.Proofs.Pattern.TwinClasses
import PinyinSearch.Proofs.Regex.Widening
import PinyinSearch.Proofs.Regex.Words

/-!
# Reading twins in step

The steps of reading an expression keep pace on twins, from states that are alike but for wider
expressions: where one twin has a syllable, the other has this syllable or others
(`run?_twins`).  So the expression of the one twin is read if that of the other is, and it is wider
(`parse?_twins`).

Behind a syllable the states are sealed, unless it has one letter: the one reader has just read
letters, and the other a group.  The syllable was followed by what is no operator, and with the next
part the states are unsealed.
-/

namespace PinyinSearch

variable {a b r : Text} {f : Flags}

/-! ## Flags and counts -/

lemma Flags.read?_twins {f' : Flags} {seen seen' : List Char} {c : Char} (h : Twins a b)
    (hread : f.read? seen a = some (f', seen', c, r)) :
    ∃ r', f.read? seen b = some (f', seen', c, r') ∧ Twins r r' := by
  obtain ⟨_, h⟩ := h
  induction h generalizing f seen with
  | nil => cases hread
  | @char _ a b d _ hrest ih =>
    rw [Flags.read?] at hread ⊢
    split at hread
    · next hends =>
      rw [if_pos hends]
      split at hread
      · cases hread
      · next hminus =>
        rw [if_neg hminus]
        cases hread
        exact ⟨b, rfl, _, hrest⟩
    · next hends =>
      rw [if_neg hends]
      split at hread
      · cases hread
      · next hseen =>
        rw [if_neg hseen]
        split at hread
        · next hminus =>
          rw [if_pos hminus]
          exact ih hread
        · next hminus =>
          rw [if_neg hminus]
          obtain ⟨g, hg, hread⟩ := Option.bind_eq_some_iff.1 hread
          obtain ⟨r', hread', hr⟩ := ih hread
          exact ⟨r', by rw [hg, Option.bind_some, hread'], hr⟩
  | backslash | backslashes | syllable =>
    -- a backslash is no flag
    rw [Flags.read?] at hread
    rw [if_neg (by decide)] at hread
    split at hread
    · cases hread
    · rw [if_neg (by decide)] at hread
      cases hread

namespace Regex

lemma skipReluctance_twins (h : Twins a b) : Twins (skipReluctance a) (skipReluctance b) := by
  by_cases hmark : a.head? = some '?'
  · obtain ⟨a, rfl⟩ := List.head?_eq_some_iff.1 hmark
    obtain ⟨b, rfl, hrest⟩ := h.cons_inv (by decide)
    exact hrest
  · rwa [skipReluctance_of_head?_ne hmark, skipReluctance_of_head?_ne (h.head? ▸ hmark)]

lemma readDigits_twins (h : Twins a b) :
    (readDigits f a).1 = (readDigits f b).1 ∧ Twins (readDigits f a).2 (readDigits f b).2 := by
  fun_induction readDigits f a generalizing b with
  | case1 =>
    cases h.view
    rw [readDigits]
    exact ⟨rfl, .nil⟩
  | case2 c rest hc digits after hdigits ih =>
    obtain ⟨b, rfl, hrest⟩ := h.cons_inv (by rintro rfl; exact absurd hc (by decide))
    obtain ⟨hsame, hafter⟩ := ih (hrest.skip f)
    rw [hdigits] at hsame hafter
    rw [readDigits, if_pos hc]
    exact ⟨congrArg (c :: ·) hsame, hafter⟩
  | case3 c rest hc =>
    obtain ⟨b', rfl, -⟩ := h.exists_cons
    rw [readDigits, if_neg hc]
    exact ⟨rfl, h⟩

lemma readCount_twins (h : Twins a b) :
    (readCount f a).1 = (readCount f b).1 ∧ Twins (readCount f a).2 (readCount f b).2 := by
  have hblank : Unicode.isBlank '\\' = false := by decide
  obtain ⟨hsame, hrest⟩ := readDigits_twins (f := f) (h.dropWhile hblank)
  exact ⟨congrArg Text.natural? hsame, hrest.dropWhile hblank⟩

lemma readBounds?_twins {bounds : Nat × Option Nat} (h : Twins a b)
    (hread : readBounds? f a = some (bounds, r)) :
    ∃ r', readBounds? f b = some (bounds, r') ∧ Twins r r' := by
  obtain ⟨hsame, hrest⟩ := readCount_twins (f := f) (h.skip f)
  rw [readBounds?] at hread ⊢
  generalize readCount f (f.skip a) = count at hsame hrest hread
  generalize readCount f (f.skip b) = count' at hsame hrest
  obtain ⟨least, s⟩ := count
  obtain ⟨least', s'⟩ := count'
  obtain rfl : least = least' := hsame
  split at hread
  · next heq =>
    cases heq
    obtain ⟨r', rfl, hr⟩ := hrest.cons_inv (by decide)
    cases hread
    exact ⟨r', rfl, hr⟩
  · next heq =>
    cases heq
    obtain ⟨s', rfl, hs⟩ := hrest.cons_inv (by decide)
    have hskip := hs.skip f
    simp only
    generalize f.skip _ = t at hskip hread
    generalize f.skip s' = t' at hskip
    split at hread
    · cases hread
      obtain ⟨r', rfl, hr⟩ := hskip.cons_inv (by decide)
      exact ⟨r', rfl, hr⟩
    · next hne =>
      obtain ⟨hsame, hrest⟩ := readCount_twins (f := f) hskip
      split
      · obtain ⟨_, rfl, -⟩ := hskip.cons_inv_right (by decide)
        exact absurd rfl (hne _)
      · generalize readCount f t = count at hsame hrest hread
        generalize readCount f t' = count' at hsame hrest
        obtain ⟨most, s⟩ := count
        obtain ⟨most', s'⟩ := count'
        obtain rfl : most = most' := hsame
        split at hread
        · next heq =>
          cases heq
          obtain ⟨r', rfl, hr⟩ := hrest.cons_inv (by decide)
          split at hread
          · next hle =>
            cases hread
            exact ⟨r', if_pos hle, hr⟩
          · cases hread
        · cases hread
  · cases hread

/-! ## Groups -/

variable {st st' u : State} {k : Bool}

set_option maxRecDepth 100000 in
lemma isAlphabetic_backslash : Unicode.isAlphabetic '\\' = false := by
  unfold Unicode.isAlphabetic Unicode.alphabeticRanges Unicode.addedAlphabeticRanges
    Unicode.Property.alphabetic Unicode.Ranges.ofGaps Unicode.tableNumbers
  rw [String.toList_ofList, String.toList_ofList]
  decide +kernel

set_option maxRecDepth 100000 in
lemma isNumeric_backslash : Unicode.isNumeric '\\' = false := by
  unfold Unicode.isNumeric Unicode.numericRanges Unicode.addedNumericRanges
    Unicode.GeneralCategory.decimalNumber Unicode.GeneralCategory.letterNumber
    Unicode.GeneralCategory.otherNumber Unicode.Ranges.ofGaps Unicode.tableNumbers
  rw [List.map_cons, List.map_cons, List.map_cons, List.map_nil, String.toList_ofList,
    String.toList_ofList, String.toList_ofList, String.toList_ofList]
  decide +kernel

/-- No group is named with a backslash. -/
lemma not_mem_of_isName {name : Text} (h : isName name = true) : '\\' ∉ name := by
  have hchar : ∀ isFirst, isNameChar isFirst '\\' = false := by
    simp [isNameChar, isAlphabetic_backslash, isNumeric_backslash]
  cases name with
  | nil => exact List.not_mem_nil
  | cons c rest =>
    rw [isName, Bool.and_eq_true] at h
    rw [List.mem_cons, not_or]
    constructor
    · rintro rfl
      rw [hchar] at h
      cases h.1
    · intro hmem
      have hrest := List.all_eq_true.1 h.2 _ hmem
      rw [hchar] at hrest
      cases hrest

lemma readNamedGroup?_twins (h : Twins a b) (hst : st.WidensTo k st')
    (hread : readNamedGroup? st a = some (u, r)) :
    ∃ u' r', readNamedGroup? st' b = some (u', r') ∧ u.WidensTo false u' ∧ Twins r r' := by
  obtain ⟨⟨name, rest⟩, hcut, hread⟩ := Option.bind_eq_some_iff.1 hread
  dsimp only at hread
  split at hread
  · next hname =>
    obtain ⟨rfl, rfl⟩ := Prod.mk.inj (Option.some.inj hread)
    obtain ⟨name', s, s', hs, hs', hrest⟩ | ⟨hbackslash, -⟩ := h.cutAt (show '>' ≠ '\\' by decide)
    · rw [hcut] at hs
      obtain ⟨rfl, rfl⟩ := Prod.mk.inj (Option.some.inj hs)
      refine ⟨_, s', ?_, (hst.addName name).openGroup st.flags true, hrest⟩
      rw [readNamedGroup?, hs', Option.bind_some, hst.names, hst.flags]
      exact if_pos hname
    · rw [Bool.and_eq_true] at hname
      exact absurd (hbackslash _ _ hcut) (not_mem_of_isName hname.1)
  · cases hread

lemma not_cons_of_twins (h : Twins a b) {c : Char} (hc : c ≠ '\\') (ha : ∀ t, a ≠ c :: t)
    (t : Text) : b ≠ c :: t := by
  rintro rfl
  obtain ⟨a', rfl, -⟩ := h.cons_inv_right hc
  exact ha a' rfl

/-- Behind an opening parenthesis and a question mark, twins are read as the same kind of group. -/
lemma readGroup?_of_mark {t : Text} (hb : st'.flags.skip b = '?' :: t) (h : Twins a t)
    (hequals : ∀ s, a ≠ '=' :: s) (hbang : ∀ s, a ≠ '!' :: s) (hangle : ∀ s, a ≠ '<' :: s)
    (hname : ∀ s, a ≠ 'P' :: '<' :: s) :
    readGroup? st' b = (st'.flags.read? [] t).bind fun (f, letters, last, rest) =>
      if last = ':' then some (st'.openGroup f false, rest)
      else if letters = [] then none
      else some (st'.changeFlags f, rest) := by
  have hequals' := not_cons_of_twins h (by decide) hequals
  have hbang' := not_cons_of_twins h (by decide) hbang
  have hangle' := not_cons_of_twins h (by decide) hangle
  have hname' : ∀ s, t ≠ 'P' :: '<' :: s := by
    rintro s rfl
    obtain ⟨a', rfl, h'⟩ := h.cons_inv_right (by decide)
    obtain ⟨a'', rfl, -⟩ := h'.cons_inv_right (by decide)
    exact hname a'' rfl
  rw [readGroup?, hb]
  split <;> simp_all

lemma readGroup?_twins (h : Twins a b) (hst : st.WidensTo k st')
    (hread : readGroup? st a = some (u, r)) :
    ∃ u' r', readGroup? st' b = some (u', r') ∧ u.WidensTo false u' ∧ Twins r r' := by
  have hskip := h.skip st.flags
  have hflags := hst.flags
  rw [readGroup?] at hread
  generalize st.flags.skip a = a' at hskip hread
  generalize hb : st.flags.skip b = b' at hskip
  rw [← hflags] at hb
  split at hread
  case h_1 | h_2 | h_3 | h_4 => cases hread
  case h_5 =>
    obtain ⟨_, rfl, hmark⟩ := hskip.cons_inv (by decide)
    obtain ⟨_, rfl, hletter⟩ := hmark.cons_inv (by decide)
    obtain ⟨_, rfl, hrest⟩ := hletter.cons_inv (by decide)
    rw [readGroup?, hb]
    exact readNamedGroup?_twins hrest hst hread
  case h_6 hequals hbang =>
    obtain ⟨_, rfl, hmark⟩ := hskip.cons_inv (by decide)
    obtain ⟨b'', rfl, hrest⟩ := hmark.cons_inv (by decide)
    have hequals' := not_cons_of_twins hrest (by decide) hequals
    have hbang' := not_cons_of_twins hrest (by decide) hbang
    have hopen : readGroup? st' b = readNamedGroup? st' b'' := by
      simp [readGroup?, hb]
    rw [hopen]
    exact readNamedGroup?_twins hrest hst hread
  case h_7 hequals hbang _ _ hname hangle =>
    obtain ⟨b'', rfl, hmark⟩ := hskip.cons_inv (by decide)
    rw [readGroup?_of_mark hb hmark hequals hbang hangle hname, hflags]
    obtain ⟨⟨f, letters, last, r'⟩, hletters, hread⟩ := Option.bind_eq_some_iff.1 hread
    obtain ⟨r'', hletters', hr⟩ := Flags.read?_twins hmark hletters
    rw [hletters', Option.bind_some]
    dsimp only at hread ⊢
    split at hread
    · next hlast =>
      cases hread
      rw [if_pos hlast]
      exact ⟨_, _, rfl, hst.openGroup f false, hr⟩
    · next hlast =>
      rw [if_neg hlast]
      split at hread
      · cases hread
      · next hsome =>
        cases hread
        rw [if_neg hsome]
        exact ⟨_, _, rfl, hst.changeFlags f, hr⟩
  case h_8 hmark =>
    have hmark' := not_cons_of_twins hskip (by decide) hmark
    have hopen : readGroup? st' b = some (st'.openGroup st'.flags true, b') := by
      simp [readGroup?, hb]
      split <;> simp_all
    rw [hopen, hflags]
    cases hread
    exact ⟨_, _, rfl, hst.openGroup st.flags true, hskip⟩

/-! ## Steps -/

/-- A character other than a backslash begins the same part in twins.  No operator stands where the
states are sealed. -/
lemma step?_twins {c : Char} (h : Twins a b) (hst : st.WidensTo k st') (hc : c ≠ '\\')
    (hsealed : k = true → c ∉ ['*', '+', '?', '{']) (hstep : step? st c a = some (u, r)) :
    ∃ u' r', step? st' c b = some (u', r') ∧ u.WidensTo false u' ∧ Twins r r' := by
  have hflags := hst.flags
  have hopen : c ∈ ['*', '+', '?', '{'] → st.WidensTo false st' := by
    intro hmem
    cases k with
    | false => exact hst
    | true => exact absurd hmem (hsealed rfl)
  rw [step?.eq_def] at hstep ⊢
  split at hstep
  case h_1 => exact readGroup?_twins h hst hstep
  case h_2 =>
    obtain ⟨v, hclose, heq⟩ := Option.map_eq_some_iff.1 hstep
    obtain ⟨rfl, rfl⟩ := Prod.mk.inj heq
    obtain ⟨u', hclose', hu⟩ := hst.closeGroup? hclose
    exact ⟨u', b, by simp only [hclose', Option.map_some], hu, h⟩
  case h_3 =>
    cases hstep
    exact ⟨_, b, rfl, hst.nextBranch, h⟩
  case h_4 =>
    obtain ⟨⟨k, s⟩, hclass, heq⟩ := Option.map_eq_some_iff.1 hstep
    obtain ⟨rfl, rfl⟩ := Prod.mk.inj heq
    obtain ⟨r', hclass', hr⟩ := Bracket.read?_twins h hclass
    exact ⟨_, r', by simp only [hflags, hclass', Option.map_some], hst.push (.refl _), hr⟩
  case h_5 | h_6 | h_7 =>
    obtain ⟨v, hrepeat, heq⟩ := Option.map_eq_some_iff.1 hstep
    obtain ⟨rfl, rfl⟩ := Prod.mk.inj heq
    obtain ⟨u', hrepeat', hu⟩ := (hopen (by decide)).repeatLast? hrepeat
    exact ⟨u', _, by simp only [hrepeat', Option.map_some], hu, skipReluctance_twins h⟩
  case h_8 =>
    obtain ⟨⟨⟨least, most⟩, s⟩, hbounds, hstep⟩ := Option.bind_eq_some_iff.1 hstep
    obtain ⟨v, hrepeat, heq⟩ := Option.map_eq_some_iff.1 hstep
    obtain ⟨rfl, rfl⟩ := Prod.mk.inj heq
    obtain ⟨s', hbounds', hs⟩ := readBounds?_twins h hbounds
    obtain ⟨u', hrepeat', hu⟩ := (hopen (by decide)).repeatLast? hrepeat
    refine ⟨u', skipReluctance (u'.flags.skip s'), ?_, hu, ?_⟩
    · simp only [hflags, hbounds', Option.bind_some, hrepeat', Option.map_some]
    · rw [hu.flags]
      exact skipReluctance_twins (hs.skip _)
  case h_9 => exact absurd rfl hc
  case h_11 | h_12 =>
    cases hstep
    rw [hflags]
    exact ⟨_, b, rfl, hst.push (.refl _), h⟩
  case h_10 | h_13 =>
    obtain ⟨k, hset, heq⟩ := Option.map_eq_some_iff.1 hstep
    obtain ⟨rfl, rfl⟩ := Prod.mk.inj heq
    exact ⟨_, b, by simp only [hflags, hset, Option.map_some], hst.push (.refl _), h⟩

/-! ## Syllables -/

variable {s : Text} {others : List Text}

/-- A syllable or what follows it begins with no brace. -/
lemma head?_ne_brace (h : SyllableEnds k s a) : (escapeMeta s ++ a).head? ≠ some '{' := by
  cases s with
  | nil =>
    generalize hs : ([] : Text) = s at h
    cases h with
    | boundary => simp [← hs, escapeMeta]
    | letter => cases hs
    | once => exact absurd hs (by simp)
  | cons c s =>
    rw [escapeMeta_cons]
    split
    · simp
    · next hc =>
      rintro ⟨⟩
      exact hc rfl

/-- A letter is read as a part. -/
lemma literals_concat {c : Char} (f : Flags) (s : Text) (hc : Unicode.isBlank c = false) :
    literals f (s ++ [c]) = literals f s ++ [.ofSet (Escape.foldSet f (.single c)) 0] := by
  have hkept : isSkipped f c = false := by simp [isSkipped, hc]
  rw [literals, List.filter_append, List.map_append, literals,
    List.filter_cons_of_pos (by simp [hkept]), List.filter_nil]
  rfl

/-- What repeats once is read so under all flags. -/
lemma exists_readBounds?_of_afterOnce? {rest : Text} (h : afterOnce? a = some rest) :
    ∃ s t, a = '{' :: s ∧ rest = skipReluctance t ∧
      ∀ f, readBounds? f s = some ((1, some 1), t) := by
  obtain ⟨q, interior, t, rfl, hq, hleast, hmost, rfl⟩ := afterOnce?_eq_some_iff.1 h
  refine ⟨_, t, rfl, rfl, fun f => ?_⟩
  have hordered : q.IsOrdered := by
    cases q with
    | between m n =>
      obtain rfl : m = 1 := hleast
      obtain rfl : n = 1 := Option.some.inj hmost
      exact Nat.le_refl 1
    | exactly | atLeast | upTo => trivial
  have hcanonical : q.canonical interior = Quantifier.braced interior := by
    cases q with
    | upTo => cases hleast
    | exactly | between | atLeast => rfl
  obtain ⟨inner, hinner, hbounds⟩ := exists_readBounds? (f := f) hq hordered
  rw [hcanonical] at hinner
  obtain rfl : interior = inner := by simpa [Quantifier.braced] using hinner
  rw [hbounds, hleast, hmost]

/-- Where several parts were read here, and one in their place there, the states are sealed. -/
lemma State.WidensTo.pushAll {ps : List Part} {whole : Part} (h : st.WidensTo k st')
    (hps : (seqs (ps.map Part.regex)).WidensTo whole.regex) :
    (st.pushAll ps).WidensTo true (st'.push whole) := by
  rw [pushAll_eq]
  exact ⟨⟨h.level.flags, h.level.branches, .instead hps h.level.items⟩, h.outer, h.names⟩

/-- It makes no difference whether the last of several parts is repeated once, or what stands for
them all. -/
lemma WidensTo.once {ps : List Part} {p p' whole whole' : Part}
    (h : (seqs ((ps ++ [p]).map Part.regex)).WidensTo whole.regex)
    (hp : p'.regex = .times p.regex 1 (some 1))
    (hwhole : whole'.regex = .times whole.regex 1 (some 1)) :
    (seqs ((ps ++ [p']).map Part.regex)).WidensTo whole'.regex := by
  intro before mid after hmatches
  rw [List.map_append, matches_seqs_append] at hmatches
  obtain ⟨first, last, hmid, hfirst, hlast⟩ := hmatches
  have hlast := matches_seqs_singleton.1 hlast
  rw [hp, matches_once] at hlast
  rw [hwhole, matches_once]
  refine h before mid after ?_
  rw [List.map_append, matches_seqs_append]
  exact ⟨first, last, hmid, hfirst, matches_seqs_singleton.2 hlast⟩

/-- A count is read behind the part that it repeats. -/
lemma run?_counted (st : State) (p : Part) {t rest : Text} {least : Nat} {most : Option Nat}
    (hbounds : readBounds? st.flags t = some ((least, most), rest)) :
    ∃ p' : Part, p'.regex = .times p.regex least most ∧
      run? (st.push p) ('{' :: t) = run? (st.push p') (skipReluctance (st.flags.skip rest)) := by
  obtain ⟨p', hp', hrepeat⟩ := repeatLast?_push st p least most
  refine ⟨p', hp', ?_⟩
  rw [run?_of_skip (skip_cons_of_not_isBlank (by decide) (by decide))]
  simp only [step?, flags_push, hbounds, Option.bind_some, hrepeat, Option.map_some]

lemma fresh_skipReluctance {t : Text} (h : Fresh (skipReluctance t)) (f : Flags) :
    Fresh (skipReluctance (f.skip t)) := by
  by_cases hmark : t.head? = some '?'
  · obtain ⟨t, rfl⟩ := List.head?_eq_some_iff.1 hmark
    rwa [skip_cons_of_not_isBlank (by decide) (by decide)]
  · rw [skipReluctance_of_head?_ne hmark] at h
    have hskip := h.skip f
    rwa [skipReluctance_of_head?_ne]
    intro hhead
    obtain ⟨rest, hrest⟩ := List.head?_eq_some_iff.1 hhead
    rw [hrest] at hskip
    exact hskip.not_mem (by decide)

/-- A syllable is read as the set of its letters, and the syllables it may be confused with are
further alternatives.  An operator repeats the only letter, or the last one no more than once; else
the states are sealed. -/
lemma run?_syllable {isOpen : Bool} (hends : SyllableEnds isOpen s a) (h : Twins a b)
    (hst : st.WidensTo k st') (hrun : run? st (escapeMeta s ++ a) = some u) :
    ∃ l v v' r r', run? v r = some u ∧ run? st' (together s others ++ b) = run? v' r' ∧
      v.WidensTo l v' ∧ (l = true → Fresh r) ∧ Twins r r' ∧ r.length ≤ a.length := by
  obtain ⟨whole, hwhole, hrun'⟩ :=
    (readsUnit_escapedGroup st.flags (List.cons_ne_nil s others)).run b hst.flags
  -- the syllable alone is one of the alternatives
  have hwidens : (seqs ((literals st.flags s).map Part.regex)).WidensTo whole.regex := by
    intro before mid after hmatches
    rw [hwhole]
    exact (matches_alts (List.cons_ne_nil _ _)).2 ⟨_, List.mem_cons_self, hmatches⟩
  rw [run?_escapeMeta] at hrun
  cases hends with
  | boundary =>
    exact ⟨true, _, _, _, _, hrun, hrun', hst.pushAll hwidens,
      fun _ => fresh_cons (by decide) (by decide), h, Nat.le_refl _⟩
  | @letter c _ hc =>
    have hliteral := literals_concat st.flags [] hc
    rw [List.nil_append] at hliteral
    rw [hliteral] at hrun hwidens
    have hpart : (Part.ofSet (Escape.foldSet st.flags (.single c)) 0).regex.WidensTo whole.regex :=
      fun _ _ _ hmatches => hwidens _ _ _ (matches_seqs_singleton.2 hmatches)
    exact ⟨false, _, _, _, _, hrun, hrun', hst.push hpart, nofun, h, Nat.le_refl _⟩
  | @once s c _ _ hc honce hfresh =>
    obtain ⟨t, w, rfl, rfl, hbounds⟩ := exists_readBounds?_of_afterOnce? honce
    obtain ⟨t', rfl, ht⟩ := h.cons_inv (by decide)
    obtain ⟨w', hbounds', hw⟩ := readBounds?_twins ht (hbounds st'.flags)
    rw [literals_concat st.flags s hc] at hrun hwidens
    rw [pushAll_append] at hrun
    -- the last letter is repeated here, and the group there
    obtain ⟨p, hp, hcount⟩ := run?_counted (st.pushAll (literals st.flags s))
      (.ofSet (Escape.foldSet st.flags (.single c)) 0) (hbounds _)
    obtain ⟨whole', hwhole', hcount'⟩ := run?_counted st' whole hbounds'
    rw [flags_pushAll] at hcount
    refine ⟨true, st.pushAll (literals st.flags s ++ [p]), st'.push whole', _, _, ?_,
      hrun'.trans hcount', hst.pushAll (hwidens.once hp hwhole'),
      fun _ => fresh_skipReluctance hfresh st.flags, ?_, ?_⟩
    · rw [pushAll_append]
      exact hcount.symm.trans hrun
    · rw [hst.flags]
      exact skipReluctance_twins (hw.skip _)
    · have hle := length_le_of_readBounds? (hbounds st.flags)
      have hskip := Flags.length_skip_le st.flags w
      have hmark := length_skipReluctance_le (st.flags.skip w)
      rw [List.length_cons]
      omega

/-! ## Whole expressions -/

/-- What remains of twins and is shorter than a bound is read alike but for wider expressions. -/
def AgreeBelow (u : State) (n : ℕ) : Prop :=
  ∀ {a b st st' k}, a.length < n → Remain a b → st.WidensTo k st' → (k = true → Fresh a) →
    run? st a = some u → ∃ l u', run? st' b = some u' ∧ u.WidensTo l u'

namespace AgreeBelow

lemma syllable {n : ℕ} {isOpen : Bool} (ih : AgreeBelow u n) (hends : SyllableEnds isOpen s a)
    (h : Twins a b) (hlt : a.length < n) (hst : st.WidensTo k st')
    (hrun : run? st (escapeMeta s ++ a) = some u) :
    ∃ l u', run? st' (together s others ++ b) = some u' ∧ u.WidensTo l u' := by
  obtain ⟨l, v, v', r, r', hrest, hrest', hv, hfresh, hr, hle⟩ := run?_syllable hends h hst hrun
  rw [hrest']
  exact ih (Nat.lt_of_le_of_lt hle hlt) (.inl hr) hv hfresh hrest

lemma twins (ih : AgreeBelow u a.length) (h : Twins a b) (hst : st.WidensTo k st')
    (hsealed : k = true → Fresh a) (hrun : run? st a = some u) :
    ∃ l u', run? st' b = some u' ∧ u.WidensTo l u' := by
  have hlength := Flags.length_skip_le st.flags a
  have hskip := h.skip st.flags
  have hfresh : k = true → Fresh (st.flags.skip a) := fun hk => (hsealed hk).skip _
  rw [run?_eq] at hrun
  rw [run?_eq, hst.flags]
  generalize st.flags.skip a = s at hlength hskip hfresh hrun
  generalize st.flags.skip b = t at hskip
  cases hskip.view with
  | nil =>
    cases hrun
    exact ⟨k, st', rfl, hst⟩
  | char hc hrest =>
    obtain ⟨⟨v, r⟩, hstep, hrun⟩ := Option.bind_eq_some_iff.1 hrun
    obtain ⟨v', r', hstep', hv, hr⟩ :=
      step?_twins hrest hst hc (fun hk => (hfresh hk).not_mem) hstep
    have hle := length_le_of_step? hstep
    rw [List.length_cons] at hlength
    simp only [hstep', Option.bind_some]
    exact ih (by omega) (.inl hr) hv nofun hrun
  | backslash s t =>
    rw [List.length_cons] at hlength
    obtain ⟨⟨v, r⟩, hstep, hafter⟩ := Option.bind_eq_some_iff.1 hrun
    obtain ⟨⟨e, r⟩, hescape, hpush⟩ := Option.bind_eq_some_iff.1 hstep
    obtain ⟨p, hp, heq⟩ := Option.map_eq_some_iff.1 hpush
    obtain ⟨rfl, rfl⟩ := Prod.mk.inj heq
    obtain ⟨r', hescape', hr⟩ | ⟨_, hbegun⟩ := Escape.read?_twins hskip hescape
    · have hlt := Escape.length_lt_of_read? hescape
      rw [← hst.flags] at hescape' hp
      simp only [step?_escape hescape', hp, Option.map_some, Option.bind_some]
      exact ih (by omega) hr (hst.push (.refl _)) nofun hafter
    · obtain @⟨s, others, a', b', -, hends, hrest⟩ := hbegun
      have hbrace' : (together s others ++ b').head? ≠ some '{' := by simp [together, grouped]
      rw [step?_boundary (head?_ne_brace hends)] at hstep
      obtain ⟨hpushed, rfl⟩ := Prod.mk.inj (Option.some.inj hstep)
      rw [← hpushed] at hafter
      simp only [step?_boundary hbrace', Option.bind_some, hst.flags]
      simp only [List.length_cons, List.length_append] at hlength
      exact ih.syllable hends hrest (by omega) (hst.push (.refl _)) hafter

lemma begun (ih : AgreeBelow u a.length) (h : Begun false a b) (hst : st.WidensTo k st')
    (hrun : run? st a = some u) : ∃ l u', run? st' b = some u' ∧ u.WidensTo l u' := by
  obtain @⟨s, others, a, b, -, hends, hrest⟩ := h
  have hlt : a.length < ('b' :: (escapeMeta s ++ a)).length := by
    simp only [List.length_cons, List.length_append]
    omega
  have hliteral : ∀ {v : State} {rest : Text}, run? v ('b' :: rest) =
      run? (v.push (.ofSet (Escape.foldSet v.flags (.single 'b')) 0)) rest := by
    intro v rest
    rw [run?_of_skip (skip_cons_of_not_isBlank (by decide) (by decide)),
      step?_literal (by decide), charSet?_eq_some]
    rfl
  rw [hliteral] at hrun
  rw [hliteral, hst.flags]
  exact ih.syllable hends hrest hlt (hst.push (.refl _)) hrun

end AgreeBelow

/-- Twins are read up to states that are alike but for wider expressions. -/
theorem run?_twins (h : Remain a b) (hst : st.WidensTo k st') (hsealed : k = true → Fresh a)
    (hrun : run? st a = some u) : ∃ l u', run? st' b = some u' ∧ u.WidensTo l u' := by
  induction hn : a.length using Nat.strongRecOn generalizing a b st st' k with
  | ind n ih =>
    subst hn
    have hagree : AgreeBelow u a.length := fun hlt h hst hsealed hrun =>
      ih _ hlt h hst hsealed hrun rfl
    obtain h | h := h
    · exact hagree.twins h hst hsealed hrun
    · exact hagree.begun h hst hrun

/-- If an expression is read of one of two twins, a wider one is read of the other. -/
theorem parse?_twins {p : Regex} (h : Twins a b) (hparse : parse? f a = some p) :
    ∃ q, parse? f b = some q ∧ p.WidensTo q := by
  obtain ⟨part, hmeasure, rfl⟩ := Option.map_eq_some_iff.1 hparse
  obtain ⟨u, hrun, hfinish⟩ := Option.bind_eq_some_iff.1 hmeasure
  have hstart : State.WidensTo false { level := { flags := f } } { level := { flags := f } } :=
    ⟨⟨rfl, .nil, .nil⟩, .nil, rfl⟩
  obtain ⟨_, u', hrun', hu⟩ := run?_twins (.inl h) hstart nofun hrun
  obtain ⟨part', hfinish', hpart⟩ := hu.finish? hfinish
  exact ⟨part'.regex, by simp only [parse?, measure?, hrun', Option.bind_some, hfinish',
    Option.map_some], hpart⟩

end Regex

end PinyinSearch
