import PinyinSearch.Proofs.Pattern.Parallel
import PinyinSearch.Proofs.Pattern.TwinReading
import PinyinSearch.Proofs.Table

/-!
# Confusable syllables in patterns

Where sounds are confused, a pattern is cut into the same segments, but for syllables that are
written with the syllables they may be confused with.  So its two transcriptions are twins
(`transcribe_twins`), unless an operator repeats another part of such a syllable than of the group:
a syllable alone is left open before an operator, which then takes its last letter, but a group is
repeated as a whole.  It is the same part if the syllable has one letter, and it makes no difference
if it is repeated once.
-/

namespace PinyinSearch

/-- Segments are the same, but for a syllable that is written alone or together with others. -/
inductive Segment.Twins : Segment → Segment → Prop where
  | same (segment : Segment) : Twins segment segment
  | syllable {s others} :
    OnOneLine s others →
    Twins (.syllable (escapeMeta s)) (.syllable (together s others))

namespace Segment.Twins

variable {a b : Segment}

lemma startsSyllable (h : Segment.Twins a b) : b.startsSyllable = a.startsSyllable := by
  cases h <;> rfl

lemma isRepetition (h : Segment.Twins a b) : b.isRepetition = a.isRepetition := by
  cases h <;> rfl

lemma endsAfter (h : Segment.Twins a b) (after : Bool) :
    Transcriber.endsAfter after b = Transcriber.endsAfter after a := by
  cases h <;> rfl

end Segment.Twins

/-- No sound that may be confused with another holds a line feed. -/
def Corpus.SoundsOnOneLine (c : Corpus) : Prop :=
  ∀ row ∈ c.similarBySyllable, ∀ sound ∈ row.1 :: row.2, '\n' ∉ sound

instance (c : Corpus) : Decidable c.SoundsOnOneLine :=
  inferInstanceAs (Decidable (∀ row ∈ c.similarBySyllable, ∀ sound ∈ row.1 :: row.2, '\n' ∉ sound))

/-! ## What is repeated -/

namespace Segment

/-- Whether an operator that is written behind a syllable repeats the same if this is one of a
group: all of it, if it is one letter, or whatever it is only once. -/
def isRepeatedAlike (behind : Text) : Segment → Bool
  | syllable s => s.getLast?.any fun c => !Unicode.isBlank c &&
      (s == escapeMeta [c] || (afterOnce? behind).any fun rest => Fresh rest)
  | _ => false

/-- Whether a backslash at the end of a segment would take along what follows. -/
def dangles : Segment → Bool
  | syllable s | fragment s | opener s | raw s => PinyinSearch.dangles s
  | optional _ | closer => false

end Segment

namespace Transcriber

/-- Whether operators repeat the same in two lists of segments.  Behind a syllable and a group of
syllables they may do so only where no segment `dangles`. -/
def repeatsAlike (t : Transcriber) (dangles : Bool) : List Segment → List Segment → Bool
  | a :: rest, b :: rest' =>
    (!rest.head?.any Segment.isRepetition || decide (a = b) ||
      !dangles && a.isRepeatedAlike (t.write true rest)) && t.repeatsAlike dangles rest rest'
  | _, _ => true

/-- Operators of a pattern repeat the same with and without confusable syllables. -/
def RepeatsAlike (t : Transcriber) (pattern : Text) : Prop :=
  ∀ v ∈ Syllable.openFinal pattern,
    t.repeatsAlike ((t.segments false v).any Segment.dangles) (t.segments false v)
      (t.segments true v) = true

instance (t : Transcriber) (pattern : Text) : Decidable (t.RepeatsAlike pattern) :=
  inferInstanceAs (Decidable (∀ v ∈ Syllable.openFinal pattern, _))

/-- Lists of segments are the same, but for syllables that are written alone or together with
others. -/
abbrev SegmentsTwins : List Segment → List Segment → Prop := List.Forall₂ Segment.Twins

variable {t : Transcriber} {segs segs' : List Segment}

/-! ## Cutting -/

lemma syllable_twins (h : t.corpus.SoundsOnOneLine) (s : Text) :
    Segment.Twins (.syllable (t.syllable false s)) (.syllable (t.syllable true s)) := by
  have halone : t.syllable false s = escapeMeta s := rfl
  rw [halone, syllable, if_pos rfl]
  cases hsimilar : t.corpus.similarTo? s with
  | none => exact .same _
  | some others =>
    cases others with
    | nil => exact .same _
    | cons other others =>
      obtain ⟨hs, hothers⟩ := List.forall_mem_cons.1 (h _ (Table.mem_of_get? hsimilar))
      exact .syllable ⟨hs, hothers⟩

lemma parallel_twins (h : t.corpus.SoundsOnOneLine) : Parallel Segment.Twins t t false true where
  refl := .same
  syllable := syllable_twins h
  split _ := rfl
  romanizer := rfl
  placeholder := rfl

/-- A pattern is cut into segments that are the same, but for syllables with confusable ones. -/
theorem segments_twins (h : t.corpus.SoundsOnOneLine) (pattern : Text) :
    SegmentsTwins (t.segments false pattern) (t.segments true pattern) :=
  (parallel_twins h).segments pattern

/-! ## Writing -/

lemma any_head?_twins {p : Segment → Bool} (hp : ∀ {a b}, Segment.Twins a b → p b = p a)
    (h : SegmentsTwins segs segs') : segs'.head?.any p = segs.head?.any p := by
  cases h with
  | nil => rfl
  | cons hab => exact hp hab

/-- A segment is written alike before twins. -/
lemma form_twins (h : SegmentsTwins segs segs') (after : Bool) (a : Segment) :
    t.form after segs'.head? a = t.form after segs.head? a := by
  have hrepetition := any_head?_twins Segment.Twins.isRepetition h
  have hstarts := any_head?_twins Segment.Twins.startsSyllable h
  cases a <;> simp only [form, optionalForm, hrepetition, hstarts]

/-- What is repeated alike may follow a syllable. -/
lemma syllableEnds_of_isRepeatedAlike {s w : Text}
    (h : (Segment.syllable (escapeMeta s)).isRepeatedAlike w = true) : SyllableEnds true s w := by
  have hconcat : ∀ s c, escapeMeta (s ++ [c]) = escapeMeta s ++ escapeMeta [c] := by
    simp [escapeMeta]
  have hlast : ∀ c, (escapeMeta [c]).getLast? = some c := by
    intro c
    rw [escapeMeta, List.flatMap_singleton]
    split <;> rfl
  obtain rfl | ⟨s, c, rfl⟩ := s.eq_nil_or_concat
  · cases h
  rw [Segment.isRepeatedAlike, List.concat_eq_append, hconcat, List.getLast?_append, hlast,
    Option.some_or, Option.any_some, Bool.and_eq_true, Bool.not_eq_true', Bool.or_eq_true,
    beq_iff_eq, Option.any_eq_true] at h
  obtain ⟨hblank, hletter | ⟨rest, honce, hfresh⟩⟩ := h
  · have hnil : s = [] := by
      cases s with
      | nil => rfl
      | cons d s =>
        have hlength := congrArg List.length hletter
        rw [List.length_append, escapeMeta_cons] at hlength
        split at hlength <;> simp at hlength
    subst hnil
    exact .letter hblank
  · rw [List.concat_eq_append]
    exact .once hblank honce (of_decide_eq_true hfresh)

/-- A text that ends in another character than a backslash takes nothing along. -/
lemma not_dangles_append {s : Text} {c : Char} (hc : c ≠ '\\') : dangles (s ++ [c]) = false := by
  rw [Bool.eq_false_iff]
  intro h
  have hlast := getLast?_of_dangles h
  rw [List.getLast?_concat] at hlast
  exact hc (Option.some.inj hlast)

lemma not_dangles_repeated (group : Text) (maximum : Option Nat) :
    dangles (repeated group maximum) = false := by
  cases maximum with
  | none => exact not_dangles_append (by decide)
  | some n =>
    rw [repeated, upTo, Quantifier.braced, ← List.append_assoc]
    exact not_dangles_append (by decide)

lemma not_dangles_form {a : Segment} (h : a.dangles = false) (after : Bool)
    (next : Option Segment) : dangles (t.form after next a) = false := by
  cases a with
  | syllable s =>
    rw [form]
    split
    · exact h
    · have hend : boundary ++ s ++ boundary = boundary ++ s ++ ['\\'] ++ ['b'] := by simp [boundary]
      rw [hend]
      exact not_dangles_append (by decide)
  | fragment s => exact h
  | opener s => exact h
  | raw s => exact h
  | closer => rfl
  | optional maximum =>
    rw [form, optionalForm.eq_def]
    split
    · exact not_dangles_repeated _ _
    · split
      · exact not_dangles_repeated _ _
      · split <;> exact not_dangles_append (by decide)

/-- Segments are written as twins if operators repeat the same.  The twins may be open if no segment
dangles. -/
lemma write_twins {dangling : Bool} (h : SegmentsTwins segs segs')
    (hdangling : dangling = false → segs.any Segment.dangles = false)
    (hrepeats : t.repeatsAlike dangling segs segs' = true) (after : Bool) :
    ∃ k, TwinTexts k (t.write after segs) (t.write after segs') ∧
      (k = true → dangling = false) := by
  induction h generalizing after with
  | nil => exact ⟨false, .nil, nofun⟩
  | @cons a b segs segs' hab hrest ih =>
    rw [repeatsAlike, Bool.and_eq_true] at hrepeats
    have hdangling' : dangling = false → a.dangles = false ∧ segs.any Segment.dangles = false :=
      fun hk => by simpa using hdangling hk
    obtain ⟨k, hwrite, hk⟩ := ih (fun hk => (hdangling' hk).2) hrepeats.2 (endsAfter after a)
    rw [write, write, hab.startsSyllable, hab.endsAfter]
    generalize hsep : (if (after && a.startsSyllable) = true then [' '] else []) = sep
    have hspace : dangles sep = false := by
      rw [← hsep]
      split <;> rfl
    by_cases hsame : a = b
    · subst hsame
      rw [form_twins hrest]
      obtain ⟨l, hform, hl⟩ := hwrite.prepend (t.form after segs.head? a)
        (fun hopen => not_dangles_form (hdangling' (hk hopen)).1 after _)
      obtain ⟨m, hsep, hm⟩ := hform.prepend sep fun _ => hspace
      exact ⟨m, by simpa using hsep, fun hopen => hk (hl (hm hopen))⟩
    cases hab with
    | same => exact absurd rfl hsame
    | @syllable s others hline =>
      rw [form, form, any_head?_twins Segment.Twins.isRepetition hrest]
      by_cases hnext : segs.head?.any Segment.isRepetition = true
      · rw [if_pos hnext, if_pos hnext]
        have halike : dangling = false ∧
            (Segment.syllable (escapeMeta s)).isRepeatedAlike (t.write true segs) = true := by
          simpa [hnext, hsame] using hrepeats.1
        have hends : SyllableEnds true s
            (t.write (endsAfter after (.syllable (escapeMeta s))) segs) :=
          syllableEnds_of_isRepeatedAlike halike.2
        obtain ⟨l, htwins, -⟩ := (hwrite.syllable hline hends).prepend sep fun _ => hspace
        exact ⟨l, by simpa [boundary] using htwins, fun _ => halike.1⟩
      · rw [if_neg hnext, if_neg hnext]
        obtain ⟨l, hend, hl⟩ := hwrite.prepend boundary fun _ => rfl
        obtain ⟨m, htwins, hm⟩ := (hend.syllable hline .boundary).prepend sep fun _ => hspace
        exact ⟨m, by simpa [boundary] using htwins, fun hopen => absurd (hm hopen) (by decide)⟩

/-! ## Whole patterns -/

lemma grouped_twins {k l : Bool} {a b c d : Text} (h : TwinTexts k a b) (h' : TwinTexts l c d) :
    TwinTexts false (grouped a ++ c) (grouped b ++ d) := by
  have hinner := h.append (h'.char (c := ')') (by decide)) (fresh_cons (by decide) (by decide))
  simpa [grouped] using ((hinner.char (c := ':') (by decide)).char (c := '?') (by decide)).char
    (c := '(') (by decide)

lemma join_twins {ss ss' : List Text}
    (h : List.Forall₂ (fun s s' => ∃ k, TwinTexts k s s') ss ss') :
    Twins (Text.join ['|'] (ss.map grouped)) (Text.join ['|'] (ss'.map grouped)) := by
  induction h with
  | nil => exact .nil
  | @cons s s' ss ss' hs hrest ih =>
    obtain ⟨_, hs⟩ := hs
    cases hrest with
    | nil => exact ⟨_, by simpa [Text.join] using grouped_twins hs .nil⟩
    | cons =>
      obtain ⟨_, ih⟩ := ih
      have hbranches := grouped_twins hs (ih.char (c := '|') (by decide))
      exact ⟨_, by simpa [Text.join, List.intercalate_cons_cons] using hbranches⟩

lemma eq_of_openFinal {pattern v : Text} (h : Syllable.openFinal pattern = [v]) : v = pattern := by
  rw [Syllable.openFinal] at h
  split at h
  · have hlength := congrArg List.length h
    rw [List.length_map, List.length_singleton] at hlength
    exact absurd hlength (by decide)
  · exact (List.cons.inj h).1.symm

/-- A pattern is transcribed to twins with and without confusable syllables. -/
theorem transcribe_twins (h : t.corpus.SoundsOnOneLine) {pattern : Text}
    (hrepeats : t.RepeatsAlike pattern) :
    Twins (t.transcribe false pattern) (t.transcribe true pattern) := by
  have hone : ∀ v ∈ Syllable.openFinal pattern,
      Twins (t.transcribeOne false v) (t.transcribeOne true v) := by
    intro v hv
    obtain ⟨_, htwins, -⟩ := write_twins (segments_twins h v) id (hrepeats v hv) false
    exact ⟨_, htwins⟩
  simp only [transcribe]
  generalize hvariants : Syllable.openFinal pattern = variants at hone
  split
  · obtain rfl := eq_of_openFinal hvariants
    exact hone _ (List.mem_singleton.2 rfl)
  · have hgroups : ∀ k, variants.map (fun v => grouped (t.transcribeOne k v)) =
        (variants.map (t.transcribeOne k)).map grouped := by simp
    rw [hgroups, hgroups]
    refine join_twins ?_
    rw [List.forall₂_map_left_iff, List.forall₂_map_right_iff, List.forall₂_same]
    exact hone

end Transcriber

end PinyinSearch
