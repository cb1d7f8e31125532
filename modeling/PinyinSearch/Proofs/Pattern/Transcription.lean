import PinyinSearch.Proofs.Pattern.Cutting
import PinyinSearch.Proofs.Regex.WordRuns
import PinyinSearch.Proofs.Unicode.Case
import PinyinSearch.Search.Searcher

/-!
# Transcribing patterns part by part

A part of a pattern is cut into segments, the segments are written as a regular expression, and this
is read as expressions that match words.  `Begins` and `GoesOn` say all of this at once of a part,
together with the lists of words that it stands for: where no syllable stands before the part, and
where one does.  A part that is `Solid`, as it always stands for some syllable, may stand in both
places; a space is written before it where a syllable stands before.  A part that is `Exact` matches
its words just where they stand by themselves.
-/

namespace PinyinSearch

open Text Regex

namespace Transcriber

/-- A part of a pattern is cut, written where a syllable stands before it or not, and read. -/
structure Transcribes (t : Transcriber) (fuzzy after : Bool) (s : Text) (segs : List Segment)
    (out : Text) (rs : List Regex) : Prop where
  cuts : t.Cuts fuzzy s segs
  noVariants : '@' ∉ s
  head : segs.head?.any Segment.isRepetition = false
  writes : ∀ {rest}, rest.head?.any Segment.isRepetition = false →
    t.write after (segs ++ rest) = out ++ t.write true rest
  reads : Reads Searcher.plainFlags out rs

/-- A part that no syllable stands before is transcribed to an expression for some words. -/
def Begins (t : Transcriber) (fuzzy : Bool) (s : Text) (L : Language Text) : Prop :=
  ∃ segs out rs, t.Transcribes fuzzy false s segs out rs ∧ Spells rs L

/-- A part that a syllable stands before is transcribed to an expression for further words. -/
def GoesOn (t : Transcriber) (fuzzy : Bool) (s : Text) (L : Language Text) : Prop :=
  ∃ segs out rs, t.Transcribes fuzzy true s segs out rs ∧ Continues rs L

/-- A part is transcribed to an expression for some words, with a space before it where a syllable
stands before it. -/
def Solid (t : Transcriber) (fuzzy : Bool) (s : Text) (L : Language Text) : Prop :=
  ∃ segs out rs, t.Cuts fuzzy s segs ∧ '@' ∉ s ∧ segs.head?.any Segment.startsSyllable = true ∧
    (∀ {after rest}, rest.head?.any Segment.isRepetition = false →
      t.write after (segs ++ rest) = (if after then [' '] else []) ++ out ++ t.write true rest) ∧
    Reads Searcher.plainFlags out rs ∧ Spells rs L

/-- A part is cut, written with a space before it where a syllable stands before it, and read. -/
structure Settles (t : Transcriber) (fuzzy : Bool) (s : Text) (segs : List Segment) (out : Text)
    (rs : List Regex) : Prop where
  cuts : t.Cuts fuzzy s segs
  noVariants : '@' ∉ s
  starts : segs.head?.any Segment.startsSyllable = true
  writes : ∀ {after rest}, rest.head?.any Segment.isRepetition = false →
    t.write after (segs ++ rest) = (if after then [' '] else []) ++ out ++ t.write true rest
  reads : Reads Searcher.plainFlags out rs

/-- A part is transcribed to an expression for some words that stand by themselves. -/
def Exact (t : Transcriber) (fuzzy : Bool) (s : Text) (L : Language Text) : Prop :=
  ∃ segs out rs, t.Settles fuzzy s segs out rs ∧ Stands rs L

variable {t : Transcriber} {fuzzy : Bool} {s s' : Text} {L K : Language Text}

/-! ## Putting parts together -/

/-- What begins a syllable repeats nothing. -/
lemma isRepetition_of_startsSyllable {segs : List Segment}
    (h : segs.head?.any Segment.startsSyllable = true) :
    segs.head?.any Segment.isRepetition = false := by
  cases segs with
  | nil => rfl
  | cons segment segs => cases segment <;> first | rfl | cases h

lemma startsSyllable_append {segs rest : List Segment}
    (h : segs.head?.any Segment.startsSyllable = true) :
    (segs ++ rest).head?.any Segment.startsSyllable = true := by
  cases segs with
  | nil => cases h
  | cons segment segs => exact h

lemma isRepetition_append {segs rest : List Segment}
    (h : segs.head?.any Segment.isRepetition = false)
    (hrest : rest.head?.any Segment.isRepetition = false) :
    (segs ++ rest).head?.any Segment.isRepetition = false := by
  cases segs with
  | nil => exact hrest
  | cons segment segs => exact h

/-- A part goes on behind another. -/
lemma Transcribes.append {after : Bool} {segs segs' : List Segment} {out out' : Text}
    {rs rs' : List Regex} (h : t.Transcribes fuzzy after s segs out rs)
    (h' : t.Transcribes fuzzy true s' segs' out' rs') :
    t.Transcribes fuzzy after (s ++ s') (segs ++ segs') (out ++ out') (rs ++ rs') := by
  constructor
  case cuts => exact h.cuts.append h'.cuts
  case noVariants => exact fun hat => (List.mem_append.1 hat).elim h.noVariants h'.noVariants
  case head => exact isRepetition_append h.head h'.head
  case writes =>
    intro rest hrest
    rw [List.append_assoc, List.append_assoc, h.writes (isRepetition_append h'.head hrest),
      h'.writes hrest]
  case reads => exact h.reads.append h'.reads

lemma Begins.append (h : t.Begins fuzzy s L) (h' : t.GoesOn fuzzy s' K) :
    t.Begins fuzzy (s ++ s') (L * K) := by
  obtain ⟨segs, out, rs, htrans, hspells⟩ := h
  obtain ⟨segs', out', rs', htrans', hcontinues⟩ := h'
  exact ⟨_, _, _, htrans.append htrans', hspells.append hcontinues⟩

lemma GoesOn.append (h : t.GoesOn fuzzy s L) (h' : t.GoesOn fuzzy s' K) :
    t.GoesOn fuzzy (s ++ s') (L * K) := by
  obtain ⟨segs, out, rs, htrans, hcontinues⟩ := h
  obtain ⟨segs', out', rs', htrans', hcontinues'⟩ := h'
  exact ⟨_, _, _, htrans.append htrans', hcontinues.append hcontinues'⟩

lemma GoesOn.nil : t.GoesOn fuzzy [] 1 :=
  ⟨[], [], [], ⟨.nil, List.not_mem_nil, rfl, fun _ => rfl, .nil⟩, .nil⟩

/-- The set of the space, where case is ignored. -/
def space : CharSet := Escape.foldSet Searcher.plainFlags (.single ' ')

/-- Where case is ignored, a character matches its case variants. -/
lemma contains_foldSet {c d : Char} :
    (Escape.foldSet Searcher.plainFlags (.single d)).contains c = true ↔
      d ∈ Unicode.caseVariants c := by
  show ((Unicode.caseVariants c).any fun x => (CharSet.single d).contains x) = true ↔ _
  simp

lemma contains_space (c : Char) : space.contains c = true ↔ c = ' ' :=
  contains_foldSet.trans Unicode.mem_caseVariants_space

lemma reads_space : Reads Searcher.plainFlags [' '] [.set space] :=
  (readsUnit_literal (by decide) rfl rfl).reads

lemma Solid.begins (h : t.Solid fuzzy s L) : t.Begins fuzzy s L := by
  obtain ⟨segs, out, rs, hcuts, hat, hstarts, hwrites, hreads, hspells⟩ := h
  refine ⟨segs, out, rs, ⟨hcuts, hat, isRepetition_of_startsSyllable hstarts, fun hrest => ?_,
    hreads⟩, hspells⟩
  rw [hwrites hrest]
  rfl

lemma Solid.goesOn (h : t.Solid fuzzy s L) : t.GoesOn fuzzy s L := by
  obtain ⟨segs, out, rs, hcuts, hat, hstarts, hwrites, hreads, hspells⟩ := h
  refine ⟨segs, [' '] ++ out, [.set space] ++ rs, ⟨hcuts, hat,
    isRepetition_of_startsSyllable hstarts, fun hrest => ?_, reads_space.append hreads⟩,
    hspells.spaced contains_space⟩
  rw [hwrites hrest]
  rfl

lemma Settles.solid {segs : List Segment} {out : Text} {rs : List Regex}
    (h : t.Settles fuzzy s segs out rs) (hspells : Spells rs L) : t.Solid fuzzy s L :=
  ⟨segs, out, rs, h.cuts, h.noVariants, h.starts, h.writes, h.reads, hspells⟩

lemma Exact.solid (h : t.Exact fuzzy s L) : t.Solid fuzzy s L := by
  obtain ⟨segs, out, rs, hsettles, hstands⟩ := h
  exact hsettles.solid hstands.spells

/-- Parts that stand for words one after the other have a space between them. -/
lemma Exact.append (h : t.Exact fuzzy s L) (h' : t.Exact fuzzy s' K) :
    t.Exact fuzzy (s ++ s') (L * K) := by
  obtain ⟨segs, out, rs, hsettles, hstands⟩ := h
  obtain ⟨segs', out', rs', hsettles', hstands'⟩ := h'
  refine ⟨segs ++ segs', out ++ ([' '] ++ out'), rs ++ .set space :: rs', ?_,
    hstands.append contains_space hstands'⟩
  constructor
  case cuts => exact hsettles.cuts.append hsettles'.cuts
  case noVariants =>
    exact fun hat => (List.mem_append.1 hat).elim hsettles.noVariants hsettles'.noVariants
  case starts => exact startsSyllable_append hsettles.starts
  case writes =>
    intro after rest hrest
    have hnext : (segs' ++ rest).head?.any Segment.isRepetition = false :=
      isRepetition_append (isRepetition_of_startsSyllable hsettles'.starts) hrest
    rw [List.append_assoc, hsettles.writes hnext, hsettles'.writes hrest]
    simp
  case reads => exact hsettles.reads.append (reads_space.append hsettles'.reads)

/-- A part that stands for some words goes on with further words. -/
lemma Solid.append (h : t.Solid fuzzy s L) (h' : t.GoesOn fuzzy s' K) :
    t.Solid fuzzy (s ++ s') (L * K) := by
  obtain ⟨segs, out, rs, hcuts, hat, hstarts, hwrites, hreads, hspells⟩ := h
  obtain ⟨segs', out', rs', htrans, hcontinues⟩ := h'
  refine ⟨segs ++ segs', out ++ out', rs ++ rs', hcuts.append htrans.cuts,
    fun hmem => (List.mem_append.1 hmem).elim hat htrans.noVariants,
    startsSyllable_append hstarts, fun {after rest} hrest => ?_, hreads.append htrans.reads,
    hspells.append hcontinues⟩
  rw [List.append_assoc, hwrites (isRepetition_append htrans.head hrest), htrans.writes hrest]
  simp

/-- What nothing is written for may stand before a part. -/
lemma Begins.behindNothing (h : t.Begins fuzzy s' L) (hcuts : t.Cuts fuzzy s []) (hat : '@' ∉ s) :
    t.Begins fuzzy (s ++ s') L := by
  obtain ⟨segs, out, rs, htrans, hspells⟩ := h
  refine ⟨segs, out, rs, ⟨hcuts.append htrans.cuts, ?_, htrans.head, htrans.writes,
    htrans.reads⟩, hspells⟩
  exact fun hmem => (List.mem_append.1 hmem).elim hat htrans.noVariants

lemma Solid.behindNothing (h : t.Solid fuzzy s' L) (hcuts : t.Cuts fuzzy s []) (hat : '@' ∉ s) :
    t.Solid fuzzy (s ++ s') L := by
  obtain ⟨segs, out, rs, hcuts', hat', hstarts, hwrites, hreads, hspells⟩ := h
  refine ⟨segs, out, rs, hcuts.append hcuts', ?_, hstarts, hwrites, hreads, hspells⟩
  exact fun hmem => (List.mem_append.1 hmem).elim hat hat'

/-- A part that is one segment of whole syllables stands for them. -/
lemma exact_syllable {regex : Text} {rs : List Regex} (hcuts : t.Cuts fuzzy s [.syllable regex])
    (hat : '@' ∉ s) (hreads : Reads Searcher.plainFlags regex rs) (hjoins : Joins rs L)
    (hL : ∀ ws ∈ L, ws ≠ [] ∧ ∀ w ∈ ws, IsWord w) : t.Exact fuzzy s L := by
  have hboundary : Reads Searcher.plainFlags boundary [Regex.boundary] := reads_boundary rfl rfl
  refine ⟨_, boundary ++ regex ++ boundary, _, ⟨hcuts, hat, rfl, fun {after rest} hrest => ?_,
    (hboundary.append hreads).append hboundary⟩, hjoins.bounded hL⟩
  rw [List.singleton_append, write, form, hrest]
  cases after <;> rfl

/-! ## Groups -/

/-- The branches of a group are transcribed one by one. -/
lemma transcribes_branches {ss : List Text} {Ls : List (Language Text)}
    (h : List.Forall₂ (t.Begins fuzzy) ss Ls) (hne : ss ≠ []) :
    ∃ segs outs rss, (∀ {rest}, t.segments fuzzy (join ['|'] ss ++ ')' :: rest) =
        segs ++ t.segments fuzzy rest) ∧
      (∀ {rest}, t.write false (segs ++ rest) = join ['|'] outs ++ ')' :: t.write true rest) ∧
      outs ≠ [] ∧ List.Forall₂ (Reads Searcher.plainFlags) outs rss ∧
      List.Forall₂ Spells rss Ls := by
  induction h with
  | nil => exact absurd rfl hne
  | @cons s L ss Ls hs hss ih =>
    obtain ⟨segs, out, rs, htrans, hspells⟩ := hs
    cases hss with
    | nil =>
      refine ⟨segs ++ [.closer], [out], [rs], fun {rest} => ?_, fun {rest} => ?_,
        List.cons_ne_nil _ _, .cons htrans.reads .nil, .cons hspells .nil⟩
      · rw [join, List.intercalate_singleton, htrans.cuts.cut (ends_cons (by decide)),
          segments_close, List.append_assoc]
        rfl
      · rw [List.append_assoc, htrans.writes rfl, join, List.intercalate_singleton]
        rfl
    | @cons s' L' ss Ls hs' hss =>
      obtain ⟨segs', outs, rss, hcut, hwrite, houts, hreads, hspells'⟩ := ih (List.cons_ne_nil _ _)
      refine ⟨segs ++ .raw ['|'] :: segs', out :: outs, rs :: rss, fun {rest} => ?_,
        fun {rest} => ?_, List.cons_ne_nil _ _, .cons htrans.reads hreads, .cons hspells hspells'⟩
      · rw [join, List.intercalate_cons_cons, List.append_assoc, List.append_assoc,
          List.singleton_append, ← join, htrans.cuts.cut (ends_cons (by decide)), segments_bar,
          hcut, List.append_assoc]
        rfl
      · -- no syllable stands before the branch behind a bar
        have hbar : t.write true (.raw ['|'] :: (segs' ++ rest)) =
            '|' :: t.write false (segs' ++ rest) := rfl
        have hjoin : join ['|'] (out :: outs) = out ++ '|' :: join ['|'] outs := by
          rw [join, List.intercalate_cons_of_ne_nil houts]
          simp [join]
        rw [List.append_assoc, List.cons_append, htrans.writes rfl, hbar, hwrite, hjoin,
          List.append_assoc]
        rfl

/-- Before the closing parenthesis, branches begin with no operator of repetition. -/
lemma ends_branches {ss : List Text} {Ls : List (Language Text)}
    (h : List.Forall₂ (t.Begins fuzzy) ss Ls) {rest : Text} :
    Ends (join ['|'] ss ++ ')' :: rest) := by
  cases h with
  | nil => exact ends_cons (by decide)
  | @cons s L ss Ls hs hss =>
    obtain ⟨segs, out, rs, htrans, _⟩ := hs
    cases ss with
    | nil =>
      rw [join, List.intercalate_singleton]
      exact htrans.cuts.ends (ends_cons (by decide))
    | cons s' ss =>
      rw [join, List.intercalate_cons_cons, List.append_assoc, List.append_assoc]
      exact htrans.cuts.ends (ends_cons (by decide))

/-- There is no wildcard for finals in branches. -/
lemma noVariants_branches {ss : List Text} {Ls : List (Language Text)}
    (h : List.Forall₂ (t.Begins fuzzy) ss Ls) : '@' ∉ join ['|'] ss := by
  induction h with
  | nil => exact List.not_mem_nil
  | @cons s L ss Ls hs hss ih =>
    obtain ⟨segs, out, rs, htrans, _⟩ := hs
    cases ss with
    | nil =>
      rw [join, List.intercalate_singleton]
      exact htrans.noVariants
    | cons s' ss =>
      rw [join, List.intercalate_cons_cons, ← join]
      simp [htrans.noVariants, ih]

/-- The opening of a group, which captures what it matches or nothing. -/
def groupOpener (captures : Bool) : Text := if captures then ['('] else ['(', '?', ':']

/-- A group is cut into its opening and what follows. -/
lemma segments_groupOpener {captures : Bool} {rest : Text} (h : Ends rest) :
    t.segments fuzzy (groupOpener captures ++ rest) =
      .opener (groupOpener captures) :: t.segments fuzzy rest := by
  cases captures with
  | true => exact segments_capture h
  | false => exact segments_group

/-- A group is read as its branches. -/
lemma reads_group {captures : Bool} {outs : List Text} {rss : List (List Regex)}
    (h : List.Forall₂ (Reads Searcher.plainFlags) outs rss) (hne : outs ≠ []) :
    Reads Searcher.plainFlags (groupOpener captures ++ join ['|'] outs ++ [')'])
      [alts (rss.map seqs)] := by
  cases captures with
  | true => exact (readsUnit_capture h hne rfl).reads
  | false => exact (readsUnit_group h hne).reads

/-- A group stands for what its branches stand for. -/
lemma solid_group {captures : Bool} {ss : List Text} {Ls : List (Language Text)}
    (h : List.Forall₂ (t.Begins fuzzy) ss Ls) (hne : ss ≠ []) :
    t.Solid fuzzy (groupOpener captures ++ join ['|'] ss ++ [')']) Ls.sum := by
  obtain ⟨segs, outs, rss, hcut, hwrite, houts, hreads, hspells⟩ := transcribes_branches h hne
  have hrss : rss ≠ [] := by
    rintro rfl
    exact houts (List.forall₂_nil_right_iff.1 hreads)
  refine ⟨.opener (groupOpener captures) :: segs, groupOpener captures ++ join ['|'] outs ++ [')'],
    [alts (rss.map seqs)], ⟨fun {rest} _ => ?_, fun {rest} _ => ?_⟩, ?_, rfl,
    fun {after rest} _ => ?_, reads_group hreads houts, .alts hspells hrss⟩
  · cases captures <;> exact ends_cons (by decide)
  · rw [List.append_assoc, List.append_assoc, List.singleton_append,
      segments_groupOpener (ends_branches h), hcut]
    rfl
  · have hat := noVariants_branches h
    cases captures <;> simp [groupOpener, hat]
  · have hopener : t.write after (.opener (groupOpener captures) :: (segs ++ rest)) =
        (if after then [' '] else []) ++ groupOpener captures ++ t.write false (segs ++ rest) := by
      cases after <;> rfl
    rw [List.cons_append, hopener, hwrite]
    simp

/-! ## Whole patterns -/

/-- A part between anchors is cut like the part. -/
lemma segments_framed {start stop : Bool} {segs : List Segment} (h : t.Cuts fuzzy s segs) :
    t.segments fuzzy (framed start stop s) =
      (if start then [.raw ['^']] else []) ++ (segs ++ if stop then [.raw ['$']] else []) := by
  have hstart : ∀ rest, t.segments fuzzy ('^' :: rest) = .raw ['^'] :: t.segments fuzzy rest :=
    fun rest => segments_symbol (c := '^') (by decide) (by decide) (by decide)
  have hstop : t.segments fuzzy ['$'] = [.raw ['$']] := by
    rw [segments_symbol (by decide) (by decide) (by decide), segments_nil]
    rfl
  have hpart : t.segments fuzzy (s ++ if stop then ['$'] else []) =
      segs ++ if stop then [.raw ['$']] else [] := by
    cases stop with
    | false => simpa using h.cut ends_nil
    | true =>
      refine (h.cut (ends_cons (by decide))).trans ?_
      rw [hstop]
      rfl
  cases start with
  | false => exact hpart
  | true => exact (hstart _).trans (congrArg (_ :: ·) hpart)

/-- Where no variants are asked for, a pattern is transcribed as it stands. -/
lemma transcribe_of_noVariants (hat : '@' ∉ s) :
    t.transcribe fuzzy s = t.transcribeOne fuzzy s := by
  rw [transcribe, Syllable.openFinal, List.splitOn_eq_singleton hat]

/-- A part between anchors is transcribed to an expression between anchors. -/
lemma parse?_framed {start stop : Bool} {segs : List Segment} {out : Text} {rs : List Regex}
    (hcuts : t.Cuts fuzzy s segs) (hat : '@' ∉ s)
    (hwrite : t.write false (segs ++ if stop then [.raw ['$']] else []) =
      out ++ if stop then ['$'] else [])
    (hreads : Reads Searcher.plainFlags out rs) :
    Regex.parse? Searcher.plainFlags (t.transcribe fuzzy (framed start stop s)) =
      some (seqs (anchored start stop rs)) := by
  have hnone : '@' ∉ framed start stop s := by
    cases start <;> cases stop <;> simp [framed, hat]
  have hwhole : t.transcribe fuzzy (framed start stop s) = framed start stop out := by
    rw [transcribe_of_noVariants hnone, transcribeOne, segments_framed hcuts]
    cases start with
    | false => exact hwrite
    | true =>
      have hraw : ∀ rest, t.write false (.raw ['^'] :: rest) = '^' :: t.write false rest :=
        fun rest => rfl
      exact (hraw _).trans (congrArg ('^' :: ·) hwrite)
  rw [hwhole]
  exact (hreads.framed rfl rfl start stop).parse? rfl

/-- A part that stands for words is transcribed to an expression for them. -/
lemma Begins.parse? (h : t.Begins fuzzy s L) (start stop : Bool) :
    ∃ rs, Regex.parse? Searcher.plainFlags (t.transcribe fuzzy (framed start stop s)) =
      some (seqs (anchored start stop rs)) ∧ Spells rs L := by
  obtain ⟨segs, out, rs, htrans, hspells⟩ := h
  have hstop : t.write true (if stop then [.raw ['$']] else []) = if stop then ['$'] else [] := by
    cases stop <;> rfl
  refine ⟨rs, parse?_framed htrans.cuts htrans.noVariants ?_ htrans.reads, hspells⟩
  rw [htrans.writes (by cases stop <;> rfl), hstop]

end Transcriber

end PinyinSearch
