import PinyinSearch.Proofs.Regex.ReaderCases

/-!
# Reading notation part by part

A regular expression that was put together from smaller texts is read part by part.  `Reads` says
of a text which expressions it adds to the branch that is being read, whatever was read before and
whatever follows; there is one law for each way in which texts are put together.
-/

namespace PinyinSearch.Regex

/-- Nothing that would change the part before: no mark of reluctance, and no brace. -/
def Follows (s : Text) : Prop := s.head? ≠ some '?' ∧ s.head? ≠ some '{'

/-- Adds parts to the current branch, one after the other. -/
def State.pushAll (st : State) (ps : List Part) : State := ps.foldl State.push st

/-- A text that is read as some expressions one after the other. -/
structure Reads (f : Flags) (s : Text) (rs : List Regex) : Prop where
  follows : Follows s
  run : ∀ {st} (rest), st.flags = f → Follows rest →
    ∃ ps : List Part, ps.map Part.regex = rs ∧ run? st (s ++ rest) = run? (st.pushAll ps) rest

/-- A text that is read as one expression even where a repetition follows. -/
structure ReadsUnit (f : Flags) (s : Text) (r : Regex) : Prop where
  follows : ∀ t, Follows (s ++ t)
  run : ∀ {st} (rest), st.flags = f →
    ∃ p : Part, p.regex = r ∧ run? st (s ++ rest) = run? (st.push p) rest

/-- Alternatives. -/
def alts : List Regex → Regex
  | [] => empty
  | [r] => r
  | r :: rs => alt r (alts rs)

variable {f : Flags}

/-! ## States -/

@[simp] lemma flags_push {st : State} {p : Part} : (st.push p).flags = st.flags := rfl

lemma pushAll_append {st : State} {ps qs : List Part} :
    st.pushAll (ps ++ qs) = (st.pushAll ps).pushAll qs := List.foldl_append

@[simp] lemma flags_pushAll {st : State} {ps : List Part} :
    (st.pushAll ps).flags = st.flags := by
  induction ps generalizing st with
  | nil => rfl
  | cons p ps ih => exact ih

lemma pushAll_eq {st : State} {ps : List Part} :
    st.pushAll ps = { st with level.items := (ps.map Item.expr).reverse ++ st.level.items } := by
  induction ps generalizing st with
  | nil => rfl
  | cons p ps ih => exact ih.trans (by simp [State.push, Level.push])

/-- A part that was just added is repeated. -/
lemma repeatLast?_push (st : State) (p : Part) (least : Nat) (most : Option Nat) :
    ∃ p' : Part, p'.regex = times p.regex least most ∧
      (st.push p).repeatLast? least most = some (st.push p') :=
  ⟨⟨_, _⟩, rfl, rfl⟩

/-! ## Steps -/

section

variable {st : State} {c : Char} {rest : Text}

lemma run?_nil (hv : st.flags.verbose = false) : run? st [] = some st := by
  rw [run?_eq, Flags.skip_of_not_verbose hv]

/-- Where nothing is skipped, each character begins a part. -/
lemma run?_cons (hv : st.flags.verbose = false) :
    run? st (c :: rest) = (step? st c rest).bind fun (st', rest') => run? st' rest' :=
  run?_of_skip (Flags.skip_of_not_verbose hv _)

end

/-! ## Parts one after the other -/

lemma Reads.nil : Reads f [] [] :=
  ⟨⟨by simp, by simp⟩, fun _ _ _ => ⟨[], rfl, rfl⟩⟩

lemma Follows.append {s t : Text} (hs : Follows s) (ht : Follows t) : Follows (s ++ t) := by
  cases s with
  | nil => exact ht
  | cons c s => exact hs

/-- Texts one after the other are read one after the other. -/
lemma Reads.append {s t : Text} {rs rs' : List Regex} (h : Reads f s rs) (h' : Reads f t rs') :
    Reads f (s ++ t) (rs ++ rs') := by
  refine ⟨h.follows.append h'.follows, fun {st} rest hst hrest => ?_⟩
  obtain ⟨ps, hps, hrun⟩ := h.run (t ++ rest) hst (h'.follows.append hrest)
  obtain ⟨qs, hqs, hrun'⟩ := h'.run rest (flags_pushAll.trans hst) hrest
  refine ⟨ps ++ qs, by rw [List.map_append, hps, hqs], ?_⟩
  rw [List.append_assoc, hrun, hrun', pushAll_append]

lemma ReadsUnit.reads {s : Text} {r : Regex} (h : ReadsUnit f s r) : Reads f s [r] := by
  refine ⟨by simpa using h.follows [], fun {st} rest hst _ => ?_⟩
  obtain ⟨p, rfl, hrun⟩ := h.run rest hst
  exact ⟨[p], rfl, hrun⟩

/-- An expression that is read whole is the sequence of its parts. -/
lemma Reads.parse? {s : Text} {rs : List Regex} (h : Reads f s rs) (hv : f.verbose = false) :
    Regex.parse? f s = some (seqs rs) := by
  have hflags : State.flags { level := { flags := f } } = f := rfl
  obtain ⟨ps, rfl, hrun⟩ := h.run [] hflags ⟨by simp, by simp⟩
  rw [List.append_nil, run?_nil (by rw [flags_pushAll]; exact hv)] at hrun
  rw [Regex.parse?, measure?, hrun, pushAll_eq]
  simp [State.finish?, Level.content, Level.branch, List.filterMap_map, Function.comp_def,
    Item.regex?]

/-! ## Characters -/

/-- The characters that begin something other than themselves. -/
def operators : List Char := ['(', ')', '|', '[', '?', '*', '+', '{', '\\', '.', '^', '$']

lemma step?_literal {st : State} {c : Char} {rest : Text} (hc : c ∉ operators) :
    step? st c rest =
      (charSet? st.flags c false).map fun s => (st.push (.ofSet s 0), rest) := by
  rw [step?.eq_def]
  split
  case h_13 => rfl
  all_goals exact absurd (by decide) hc

/-- A character that is a part by itself. -/
lemma ReadsUnit.of_step {c : Char} {r : Regex} (hc : Follows [c]) (hv : f.verbose = false)
    (hstep : ∀ st rest, st.flags = f →
      ∃ p : Part, p.regex = r ∧ step? st c rest = some (st.push p, rest)) :
    ReadsUnit f [c] r := by
  refine ⟨fun t => hc, fun {st} rest hst => ?_⟩
  obtain ⟨p, hp, hpush⟩ := hstep st rest hst
  refine ⟨p, hp, ?_⟩
  rw [List.singleton_append, run?_cons (hst ▸ hv), hpush]
  rfl

/-- A character that is no operator stands for itself. -/
lemma readsUnit_literal {c : Char} (hc : c ∉ operators) (hv : f.verbose = false)
    (hu : f.unicode = true) : ReadsUnit f [c] (.set (Escape.foldSet f (.single c))) := by
  refine .of_step ⟨?_, ?_⟩ hv fun st rest hst => ?_
  · rintro ⟨⟩
    exact absurd (by decide) hc
  · rintro ⟨⟩
    exact absurd (by decide) hc
  · subst hst
    refine ⟨.ofSet (Escape.foldSet st.flags (.single c)) 0, rfl, ?_⟩
    rw [step?_literal hc, charSet?, if_pos hu]
    rfl

/-- The dot stands for every character that does not end a line. -/
lemma readsUnit_dot (hv : f.verbose = false) (hu : f.unicode = true) (hs : f.dotAll = false)
    (hr : f.crlf = false) : ReadsUnit f ['.'] (.set (.compl (.single '\n'))) := by
  refine .of_step ⟨by decide, by decide⟩ hv fun st rest hst => ?_
  subst hst
  exact ⟨.ofSet (.compl (.single '\n')) 0, rfl, by simp [step?, dotSet?, hu, hs, hr]⟩

/-- A caret stands for the start of the text. -/
lemma reads_start (hv : f.verbose = false) (hm : f.multiLine = false) :
    Reads f ['^'] [.assert .textStart] := by
  refine (ReadsUnit.of_step ⟨by decide, by decide⟩ hv fun st rest hst => ?_).reads
  subst hst
  exact ⟨.ofAssertion .textStart, rfl, by simp [step?, hm]⟩

/-- A dollar sign stands for the end of the text. -/
lemma reads_stop (hv : f.verbose = false) (hm : f.multiLine = false) :
    Reads f ['$'] [.assert .textEnd] := by
  refine (ReadsUnit.of_step ⟨by decide, by decide⟩ hv fun st rest hst => ?_).reads
  subst hst
  exact ⟨.ofAssertion .textEnd, rfl, by simp [step?, hm]⟩

/-- A text without operators stands for itself. -/
lemma reads_literals {s : Text} (hs : ∀ c ∈ s, c ∉ operators) (hv : f.verbose = false)
    (hu : f.unicode = true) :
    Reads f s (s.map fun c => .set (Escape.foldSet f (.single c))) := by
  induction s with
  | nil => exact .nil
  | cons c s ih =>
    rw [List.forall_mem_cons] at hs
    exact (readsUnit_literal hs.1 hv hu).reads.append (ih hs.2)

/-! ## Repetitions -/

/-- An operator of repetition is read behind the part that it repeats. -/
lemma run?_repeat (st : State) (p : Part) (c : Char) {s rest : Text} {least : Nat}
    {most : Option Nat} (hv : st.flags.verbose = false)
    (hstep : step? (st.push p) c s =
      ((st.push p).repeatLast? least most).map fun st => (st, skipReluctance rest))
    (hrest : Follows rest) :
    ∃ p' : Part, p'.regex = .times p.regex least most ∧
      run? (st.push p) (c :: s) = run? (st.push p') rest := by
  obtain ⟨p', hp', hrepeat⟩ := repeatLast?_push st p least most
  refine ⟨p', hp', ?_⟩
  rw [run?_cons (show (st.push p).flags.verbose = false from hv), hstep, hrepeat,
    skipReluctance_of_head?_ne hrest.1]
  rfl

/-- The class of word characters, repeated. -/
lemma reads_word (hv : f.verbose = false) (hu : f.unicode = true) :
    Reads f ['\\', 'w', '+'] [.times (.set .word) 1 none] := by
  refine ⟨⟨by decide, by decide⟩, fun {st} rest hst hrest => ?_⟩
  subst hst
  obtain ⟨p, hp, hrun⟩ := run?_repeat st (.ofSet .word 0) '+' hv rfl hrest
  refine ⟨[p], congrArg (fun r => [r]) hp, ?_⟩
  have hclass : Escape.read? st.flags ('w' :: '+' :: rest) = some (.set .word, '+' :: rest) := by
    simp [Escape.read?, Escape.perlClass?, Escape.negateSet?, hu]
  show run? st ('\\' :: 'w' :: '+' :: rest) = run? (st.push p) rest
  rw [← hrun, run?_cons hv, step?_escape hclass]
  rfl

/-- A word boundary. -/
lemma reads_boundary (hv : f.verbose = false) (hu : f.unicode = true) :
    Reads f ['\\', 'b'] [.assert (.boundary .either false)] := by
  refine ⟨⟨by decide, by decide⟩, fun {st} rest hst hrest => ?_⟩
  subst hst
  refine ⟨[.ofAssertion (.boundary .either false)], rfl, ?_⟩
  show run? st ('\\' :: 'b' :: rest) = _
  rw [run?_cons hv, step?_boundary hrest.2, hu]
  rfl

/-- A unit is repeated by the operator behind it. -/
lemma ReadsUnit.repeatedBy {s : Text} {r : Regex} {c : Char} {least : Nat} {most : Option Nat}
    (h : ReadsUnit f s r) (hv : f.verbose = false)
    (hstep : ∀ st rest, step? st c rest =
      (st.repeatLast? least most).map fun st => (st, skipReluctance rest)) :
    Reads f (s ++ [c]) [.times r least most] := by
  refine ⟨h.follows [c], fun {st} rest hst hrest => ?_⟩
  obtain ⟨p, rfl, hrun⟩ := h.run (c :: rest) hst
  subst hst
  obtain ⟨p', hp', hrun'⟩ := run?_repeat st p c hv (hstep _ _) hrest
  refine ⟨[p'], congrArg (fun r => [r]) hp', ?_⟩
  rw [List.append_assoc, List.singleton_append, hrun, hrun']
  rfl

/-- A unit with a star is repeated without bound. -/
lemma ReadsUnit.star {s : Text} {r : Regex} (h : ReadsUnit f s r) (hv : f.verbose = false) :
    Reads f (s ++ ['*']) [.times r 0 none] := h.repeatedBy hv fun _ _ => rfl

/-- A unit with a plus sign is repeated without bound, but at least once. -/
lemma ReadsUnit.plus {s : Text} {r : Regex} (h : ReadsUnit f s r) (hv : f.verbose = false) :
    Reads f (s ++ ['+']) [.times r 1 none] := h.repeatedBy hv fun _ _ => rfl

/-- A unit with a question mark may be left out. -/
lemma ReadsUnit.optional {s : Text} {r : Regex} (h : ReadsUnit f s r) (hv : f.verbose = false) :
    Reads f (s ++ ['?']) [.times r 0 (some 1)] := h.repeatedBy hv fun _ _ => rfl

/-! ## Counts -/

/-- Only digits write a number. -/
lemma digits_of_natural? {s : Text} {n : Nat} (hs : s.natural? = some n) :
    s ≠ [] ∧ s.all Char.isDigit = true := by
  rw [Text.natural?] at hs
  split at hs
  · assumption
  · cases hs

/-- A digit is no white space. -/
lemma isBlank_of_isDigit {c : Char} (hc : c.isDigit = true) : Unicode.isBlank c = false := by
  have hdigit := Char.isDigit_iff_toNat.1 hc
  simp only [Char.reduceToNat] at hdigit
  simp only [Unicode.isBlank, Unicode.isBlankCode, Bool.or_eq_false_iff, Bool.and_eq_false_iff,
    decide_eq_false_iff_not, beq_eq_false_iff_ne]
  omega

/-- Nothing is skipped before a digit, a comma or a brace. -/
lemma skip_digits {s rest : Text} {c : Char} (hs : s.all Char.isDigit = true)
    (hc : c = ',' ∨ c = '}') : f.skip (s ++ c :: rest) = s ++ c :: rest := by
  cases s with
  | nil =>
    obtain ⟨hblank, hsign⟩ : Unicode.isBlank c = false ∧ c ≠ '#' := by
      rcases hc with rfl | rfl <;> decide
    exact skip_cons_of_not_isBlank hblank hsign
  | cons d s =>
    rw [List.all_cons, Bool.and_eq_true] at hs
    have hsign : d ≠ '#' := by
      rintro rfl
      exact absurd hs.1 (by decide)
    exact skip_cons_of_not_isBlank (isBlank_of_isDigit hs.1) hsign

/-- The digits of a number are read up to a comma or a brace. -/
lemma readDigits_append {s rest : Text} {c : Char} (hs : s.all Char.isDigit = true)
    (hc : c = ',' ∨ c = '}') : readDigits f (s ++ c :: rest) = (s, c :: rest) := by
  have hdigit : c.isDigit = false := by rcases hc with rfl | rfl <;> decide
  induction s with
  | nil => rw [List.nil_append, readDigits, if_neg (Bool.eq_false_iff.1 hdigit)]
  | cons d s ih =>
    rw [List.all_cons, Bool.and_eq_true] at hs
    rw [List.cons_append, readDigits, if_pos hs.1, skip_digits hs.2 hc, ih hs.2]

/-- A number is read up to a comma or a brace. -/
lemma readCount_append {s rest : Text} {n : Nat} {c : Char} (hs : s.natural? = some n)
    (hc : c = ',' ∨ c = '}') : readCount f (s ++ c :: rest) = (some n, c :: rest) := by
  obtain ⟨hne, hdigits⟩ := digits_of_natural? hs
  have hblank : Unicode.isBlank c = false := by rcases hc with rfl | rfl <;> decide
  have hdrop : (s ++ c :: rest).dropWhile Unicode.isBlank = s ++ c :: rest := by
    obtain ⟨d, t, rfl⟩ := List.exists_cons_of_ne_nil hne
    have hd := isBlank_of_isDigit (List.all_eq_true.1 hdigits d List.mem_cons_self)
    exact List.dropWhile_cons_of_neg (Bool.eq_false_iff.1 hd)
  rw [readCount, hdrop, readDigits_append hdigits hc]
  simp [hs, hblank]

lemma readBounds?_exactly {s rest : Text} {n : Nat} (hs : s.natural? = some n) :
    readBounds? f (s ++ '}' :: rest) = some ((n, some n), rest) := by
  rw [readBounds?, skip_digits (digits_of_natural? hs).2 (.inr rfl), readCount_append hs (.inr rfl)]
  rfl

lemma readBounds?_atLeast {s rest : Text} {m : Nat} (hs : s.natural? = some m) :
    readBounds? f (s ++ ',' :: '}' :: rest) = some ((m, none), rest) := by
  have hskip : f.skip ('}' :: rest) = '}' :: rest := skip_digits (s := []) rfl (.inr rfl)
  rw [readBounds?, skip_digits (digits_of_natural? hs).2 (.inl rfl), readCount_append hs (.inl rfl)]
  simp [hskip]

lemma readBounds?_between {s t rest : Text} {m n : Nat} (hs : s.natural? = some m)
    (ht : t.natural? = some n) (hle : m ≤ n) :
    readBounds? f (s ++ ',' :: t ++ '}' :: rest) = some ((m, some n), rest) := by
  have hsecond : readCount f (t ++ '}' :: rest) = (some n, '}' :: rest) :=
    readCount_append ht (.inr rfl)
  obtain ⟨hne, hdigits⟩ := digits_of_natural? ht
  have hskip : f.skip (t ++ '}' :: rest) = t ++ '}' :: rest := skip_digits hdigits (.inr rfl)
  obtain ⟨d, t, rfl⟩ := List.exists_cons_of_ne_nil hne
  have hd : d ≠ '}' := by
    rintro rfl
    exact absurd (List.all_eq_true.1 hdigits '}' List.mem_cons_self) (by decide)
  rw [List.cons_append] at hsecond hskip
  rw [readBounds?, List.append_assoc, List.cons_append,
    skip_digits (digits_of_natural? hs).2 (.inl rfl), readCount_append hs (.inl rfl)]
  simp [hskip, hsecond, hle, hd]

/-- A unit is repeated as often as the bounds behind it say. -/
lemma ReadsUnit.counted {s interior : Text} {r : Regex} {least : Nat} {most : Option Nat}
    (h : ReadsUnit f s r) (hv : f.verbose = false)
    (hbounds : ∀ rest, readBounds? f (interior ++ '}' :: rest) = some ((least, most), rest)) :
    Reads f (s ++ '{' :: interior ++ ['}']) [.times r least most] := by
  refine ⟨by simpa using h.follows ('{' :: interior ++ ['}']), fun {st} rest hst hrest => ?_⟩
  obtain ⟨p, rfl, hrun⟩ := h.run ('{' :: interior ++ '}' :: rest) hst
  subst hst
  have hstep : step? (st.push p) '{' (interior ++ '}' :: rest) =
      ((st.push p).repeatLast? least most).map fun st => (st, skipReluctance rest) := by
    simp only [step?, flags_push, hbounds, Option.bind_some]
    obtain ⟨p', _, hrepeat⟩ := repeatLast?_push st p least most
    rw [hrepeat, Option.map_some, Option.map_some, flags_push, Flags.skip_of_not_verbose hv]
  obtain ⟨p', hp', hrun'⟩ := run?_repeat st p '{' hv hstep hrest
  refine ⟨[p'], congrArg (fun r => [r]) hp', ?_⟩
  have htext : s ++ '{' :: interior ++ ['}'] ++ rest = s ++ ('{' :: interior ++ '}' :: rest) := by
    simp
  rw [htext, hrun]
  exact hrun'

/-! ## Groups -/

lemma branch_pushAll {st : State} {ps : List Part} (hitems : st.level.items = []) :
    (st.pushAll ps).level.branch.regex = seqs (ps.map Part.regex) := by
  rw [pushAll_eq]
  simp [Level.branch, hitems, List.filterMap_map, Function.comp_def, Item.regex?]

/-- Branches are read one after the other, and what was read holds their alternatives. -/
lemma run?_alternatives {ss : List Text} {rss : List (List Regex)}
    (h : List.Forall₂ (Reads f) ss rss) (hss : ss ≠ []) (st : State) {rest : Text}
    (hst : st.flags = f) (hitems : st.level.items = []) (hrest : Follows rest) :
    ∃ l : Level, l.flags = f ∧
      l.content.regex = st.level.branches.foldl (fun later b => alt b.regex later)
        (alts (rss.map seqs)) ∧
      run? st (Text.join ['|'] ss ++ rest) = run? { st with level := l } rest := by
  induction h generalizing st with
  | nil => exact absurd rfl hss
  | @cons s rs ss rss hs hrest' ih =>
    have hbranches : ∀ ps, (st.pushAll ps).level.branches = st.level.branches := fun ps => by
      rw [pushAll_eq]
    cases hrest' with
    | nil =>
      obtain ⟨ps, rfl, hrun⟩ := hs.run rest hst hrest
      -- the branches before the last one are still to be added
      refine ⟨(st.pushAll ps).level, flags_pushAll.trans hst, ?_, ?_⟩
      · show (st.pushAll ps).level.branches.foldl _ (st.pushAll ps).level.branch.regex = _
        rw [branch_pushAll hitems, hbranches]
        rfl
      · rw [Text.join, List.intercalate_singleton, hrun, pushAll_eq]
    | @cons t rs' ss rss ht hrest' =>
      obtain ⟨ps, rfl, hrun⟩ := hs.run ('|' :: (Text.join ['|'] (t :: ss) ++ rest)) hst
        ⟨by simp, by simp⟩
      obtain ⟨l, hflags, hcontent, hrun'⟩ :=
        ih (by simp) (st.pushAll ps).nextBranch (flags_pushAll.trans hst) rfl
      refine ⟨l, hflags, hcontent.trans ?_, ?_⟩
      · show ((st.pushAll ps).level.branch :: (st.pushAll ps).level.branches).foldl _ _ = _
        rw [List.foldl_cons, branch_pushAll hitems, hbranches]
        rfl
      · rw [Text.join, List.intercalate_cons_cons, List.append_assoc, List.append_assoc,
          List.singleton_append, ← Text.join, hrun,
          run?_of_skip (skip_cons_of_not_isBlank (by decide) (by decide))]
        simp only [step?, Option.bind_some, hrun']
        rw [pushAll_eq]
        rfl

/-- Branches that are not in a group are read as their alternatives. -/
theorem parse?_alternatives {ss : List Text} {rss : List (List Regex)}
    (h : List.Forall₂ (Reads f) ss rss) (hss : ss ≠ []) (hv : f.verbose = false) :
    Regex.parse? f (Text.join ['|'] ss) = some (alts (rss.map seqs)) := by
  obtain ⟨l, hflags, hcontent, hrun⟩ :=
    run?_alternatives h hss { level := { flags := f } } rfl rfl (⟨by simp, by simp⟩ : Follows [])
  have hend : run? { level := l } [] = some { level := l } :=
    run?_nil (show l.flags.verbose = false from hflags ▸ hv)
  rw [List.append_nil, hend] at hrun
  rw [Regex.parse?, measure?, hrun]
  exact congrArg some hcontent

/-- The branches of a group are read up to its end, where the group is added to what is around. -/
lemma run?_branches {ss : List Text} {rss : List (List Regex)} (h : List.Forall₂ (Reads f) ss rss)
    (hss : ss ≠ []) (st : State) (rest : Text) {l : Level} {outer : List Level}
    (hst : st.flags = f) (hitems : st.level.items = []) (houter : st.outer = l :: outer) :
    ∃ p : Part, p.regex = st.level.branches.foldl (fun later b => alt b.regex later)
        (alts (rss.map seqs)) ∧
      run? st (Text.join ['|'] ss ++ ')' :: rest) =
        run? { st with level := l.push p, outer } rest := by
  obtain ⟨inner, -, hcontent, hrun⟩ :=
    run?_alternatives h hss st hst hitems (⟨by simp, by simp⟩ : Follows (')' :: rest))
  refine ⟨inner.group, hcontent, ?_⟩
  have hclose : { st with level := inner }.closeGroup? =
      some { st with level := l.push inner.group, outer } := by
    simp only [State.closeGroup?, houter]
  rw [hrun, run?_of_skip (skip_cons_of_not_isBlank (by decide) (by decide))]
  simp only [step?, hclose, Option.map_some, Option.bind_some]

/-- The branches of a group do not begin with a question mark. -/
lemma follows_branches {ss : List Text} {rss : List (List Regex)}
    (h : List.Forall₂ (Reads f) ss rss) (rest : Text) :
    Follows (Text.join ['|'] ss ++ ')' :: rest) := by
  have hclose : Follows (')' :: rest) := ⟨by simp, by simp⟩
  cases h with
  | nil => exact hclose
  | @cons s rs ss rss hs hrest =>
    cases ss with
    | nil =>
      rw [Text.join, List.intercalate_singleton]
      exact hs.follows.append hclose
    | cons t ss =>
      rw [Text.join, List.intercalate_cons_cons, List.append_assoc, List.append_assoc]
      exact hs.follows.append ⟨by simp, by simp⟩

/-- A group that captures nothing stands for its branches. -/
lemma readsUnit_group {ss : List Text} {rss : List (List Regex)}
    (h : List.Forall₂ (Reads f) ss rss) (hss : ss ≠ []) :
    ReadsUnit f ('(' :: '?' :: ':' :: Text.join ['|'] ss ++ [')']) (alts (rss.map seqs)) := by
  refine ⟨fun t => ⟨by simp, by simp⟩, fun {st} rest hst => ?_⟩
  obtain ⟨p, hp, hrun⟩ := run?_branches h hss (st.openGroup f false) rest rfl rfl rfl
  refine ⟨p, hp, ?_⟩
  subst hst
  have htext : '(' :: '?' :: ':' :: Text.join ['|'] ss ++ [')'] ++ rest =
      '(' :: '?' :: ':' :: (Text.join ['|'] ss ++ ')' :: rest) := by simp
  have hopen : readGroup? st ('?' :: ':' :: (Text.join ['|'] ss ++ ')' :: rest)) =
      some (st.openGroup st.flags false, Text.join ['|'] ss ++ ')' :: rest) := by
    rw [readGroup?, skip_cons_of_not_isBlank (by decide) (by decide)]
    simp [Flags.read?]
  rw [htext, run?_of_skip (skip_cons_of_not_isBlank (by decide) (by decide))]
  simp only [step?, hopen, Option.bind_some, hrun]
  rfl

/-- A group that captures what it matches stands for its branches, too. -/
lemma readsUnit_capture {ss : List Text} {rss : List (List Regex)}
    (h : List.Forall₂ (Reads f) ss rss) (hss : ss ≠ []) (hv : f.verbose = false) :
    ReadsUnit f ('(' :: Text.join ['|'] ss ++ [')']) (alts (rss.map seqs)) := by
  refine ⟨fun t => ⟨by simp, by simp⟩, fun {st} rest hst => ?_⟩
  obtain ⟨p, hp, hrun⟩ := run?_branches h hss (st.openGroup f true) rest rfl rfl rfl
  refine ⟨p, hp, ?_⟩
  subst hst
  have htext : '(' :: Text.join ['|'] ss ++ [')'] ++ rest =
      '(' :: (Text.join ['|'] ss ++ ')' :: rest) := by simp
  have hopen : readGroup? st (Text.join ['|'] ss ++ ')' :: rest) =
      some (st.openGroup st.flags true, Text.join ['|'] ss ++ ')' :: rest) := by
    have hfollows := follows_branches h rest
    rw [readGroup?, Flags.skip_of_not_verbose hv]
    -- no branch begins with a question mark, so the parenthesis has no options
    split
    case h_8 => rfl
    all_goals
      next heq =>
      rw [heq] at hfollows
      exact absurd rfl hfollows.1
  rw [htext, run?_cons hv]
  simp only [step?, hopen, Option.bind_some, hrun]
  rfl

end PinyinSearch.Regex
