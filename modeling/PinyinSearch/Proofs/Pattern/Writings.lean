import PinyinSearch.Proofs.Pattern.Phrase

/-!
# Ways to write syllables

A syllable that a corpus knows may be written as an ideograph that is read so, or in letters of any
case.  Neighbours are separated by an apostrophe or a space, and need no separator where one of them
is an ideograph.  The main statement, `transcribe_writing`, says that all these ways to write a list
of syllables are transcribed alike.
-/

namespace PinyinSearch

open Text

/-- A syllable as it is written in a pattern. -/
inductive Writing where
  /-- A character beyond ASCII. -/
  | ideograph (c : Char)
  /-- Letters, of any case. -/
  | letters (run : Text)

/-- What is written between two syllables of a pattern. -/
inductive Separator where
  | apostrophe
  | space
  | nothing

namespace Writing

/-- The syllable as it is written. -/
def text : Writing → Text
  | ideograph c => [c]
  | letters run => run

/-- An ideograph is read as a syllable, and letters are the syllable in lower case. -/
def Reads (t : Transcriber) (s : Text) : Writing → Prop
  | ideograph c => 128 ≤ c.toNat ∧ t.romanizer.firstPlain? c = some s
  | letters run => run.lowerAscii = s

/-- A syllable is not written in letters. -/
def IsIdeograph : Writing → Prop
  | ideograph _ => True
  | letters _ => False

end Writing

namespace Separator

/-- The separator as it is written. -/
def text : Separator → Text
  | apostrophe => ['\'']
  | space => [' ']
  | nothing => []

/-- The separator as it is cut off. -/
def segments : Separator → List Segment
  | apostrophe => []
  | space => [.raw [' ']]
  | nothing => []

/-- Two syllables may have the separator between them: letters do not meet letters. -/
def Parts (w v : Writing) : Separator → Prop
  | nothing => w.IsIdeograph ∨ v.IsIdeograph
  | _ => True

end Separator

/-- A pattern writes syllables one after the other, the first of them in the given way. -/
inductive Writes (t : Transcriber) : List Text → Writing → Text → Prop where
  | last {s w} :
    w.Reads t s →
    Writes t [s] w w.text
  | cons {s w ss v rest} {sep : Separator} :
    w.Reads t s →
    sep.Parts w v →
    Writes t ss v rest →
    Writes t (s :: ss) w (w.text ++ (sep.text ++ rest))

namespace Transcriber

/-- The transcription of some syllables: each between word boundaries, with single spaces. -/
def spelledOut (t : Transcriber) (fuzzy : Bool) (ss : List Text) : Text :=
  join [' '] (ss.map fun s => boundary ++ t.syllable fuzzy s ++ boundary)

variable {t : Transcriber} {fuzzy : Bool} {s run rest pattern : Text} {w v : Writing}
  {ss : List Text}

/-! ## Runs of letters -/

lemma isAlpha_of_lowerAscii (h : run.lowerAscii = s) (hs : IsSpelling s) :
    ∀ c ∈ run, c.isAlpha = true := by
  intro c hc
  have hlower : c.toLower.isLower = true := hs.2 _ (h ▸ List.mem_map_of_mem hc)
  cases hupper : c.isUpper with
  | true => exact Bool.or_eq_true_iff.2 (.inl hupper)
  | false =>
    rw [Unicode.toLower_of_not_isUpper hupper] at hlower
    exact Bool.or_eq_true_iff.2 (.inr hlower)

lemma not_marker_of_isAlpha {c : Char} (hc : c.isAlpha = true) : c ∉ markers := by
  have hnone : markers.all (fun d => !d.isAlpha) = true := by decide
  intro hmem
  have hfalse := List.all_eq_true.1 hnone c hmem
  rw [hc] at hfalse
  cases hfalse

/-- Letters are gathered until something else follows. -/
lemma segmentsAfter_letters {before : Text} (hrun : ∀ c ∈ run, c.isAlpha = true) :
    t.segmentsAfter fuzzy before (tokens true (run ++ rest)) =
      t.segmentsAfter fuzzy (before ++ run) (tokens true rest) := by
  induction run generalizing before with
  | nil => simp
  | cons c run ih =>
    rw [List.forall_mem_cons] at hrun
    rw [List.cons_append, tokens, read_of_not_mem (not_marker_of_isAlpha hrun.1),
      segmentsAfter_letter hrun.1, ih hrun.2, List.append_assoc, List.singleton_append]

/-- The letters gathered come before the segments of the tokens that follow, if these do not begin
with a letter. -/
lemma segmentsAfter_eq_append {tokens : List Token}
    (h : ∀ c, tokens.head? = some (.char c) → c.isAlpha = false) :
    t.segmentsAfter fuzzy run tokens = t.letters fuzzy run ++ t.segmentsAfter fuzzy [] tokens := by
  rw [segmentsAfter.eq_def t fuzzy run, segmentsAfter.eq_def t fuzzy []]
  split
  case h_4 c rest _ _ =>
    rw [if_neg (Bool.eq_false_iff.1 (h c rfl)), if_neg (Bool.eq_false_iff.1 (h c rfl))]
    simp
  all_goals simp

lemma segments_letters (hrun : ∀ c ∈ run, c.isAlpha = true)
    (hrest : ∀ c ∈ rest.head?, c.isAlpha = false) :
    t.segments fuzzy (run ++ rest) = t.letters fuzzy run ++ t.segments fuzzy rest := by
  rw [segments, segmentsAfter_letters hrun, List.nil_append, segmentsAfter_eq_append]
  · rfl
  · intro c hc
    cases rest with
    | nil => simp [tokens] at hc
    | cons d rest =>
      have hd := hrest d rfl
      rw [tokens, List.head?_cons, Option.some.injEq, Token.read.eq_def] at hc
      split at hc
      case h_3 => split at hc <;> cases hc
      case h_5 => split at hc <;> cases hc
      case h_6 =>
        cases hc
        exact hd
      all_goals cases hc

/-- Letters that are a known syllable, but for their case, are left whole. -/
lemma letters_of_knows (h : run.lowerAscii = s) (hs : IsSpelling s) (hknown : t.corpus.knows s) :
    t.letters fuzzy run = [.syllable (t.syllable fuzzy s)] := by
  have hsplit : t.corpus.split t.maxSyllableLength run = [.syllable s] := by
    have htrim : run.trim = run := trim_of_noBlank fun c hc =>
      Unicode.not_isBlank_of_isAlpha (isAlpha_of_lowerAscii h hs c hc)
    rw [Corpus.split, htrim, h]
    cases s with
    | nil => exact absurd rfl hs.1
    | cons c s => exact if_pos hknown
  rw [letters, hsplit]
  rfl

/-! ## One syllable and one separator -/

/-- A known syllable is cut off before what is no letter, however it is written. -/
lemma segments_writing (hreads : w.Reads t s) (hs : IsSpelling s) (hknown : t.corpus.knows s)
    (hrest : w.IsIdeograph ∨ ∀ c ∈ rest.head?, c.isAlpha = false) :
    t.segments fuzzy (w.text ++ rest) =
      .syllable (t.syllable fuzzy s) :: t.segments fuzzy rest := by
  cases w with
  | ideograph c => exact segments_ideograph hreads.1 hreads.2 hs.1
  | letters run =>
    have hnoLetter := hrest.resolve_left id
    rw [Writing.text, segments_letters (isAlpha_of_lowerAscii hreads hs) hnoLetter,
      letters_of_knows hreads hs hknown]
    rfl

/-- A separator is cut off before any syllable: an apostrophe leaves nothing, a space is copied. -/
lemma segments_separator {sep : Separator} :
    t.segments fuzzy (sep.text ++ rest) = sep.segments ++ t.segments fuzzy rest := by
  cases sep with
  | apostrophe => exact segments_symbol (c := '\'') (by decide) (by decide) (by decide)
  | space => exact segments_symbol (c := ' ') (by decide) (by decide) (by decide)
  | nothing => rfl

/-- A separator that may stand behind letters is no letter, nor does a letter follow it. -/
lemma isIdeograph_or_head {sep : Separator} (hparts : sep.Parts w v) (hv : Writes t ss v rest) :
    w.IsIdeograph ∨ ∀ c ∈ (sep.text ++ rest).head?, c.isAlpha = false := by
  cases sep with
  | apostrophe => exact .inr (by rintro c ⟨⟩; rfl)
  | space => exact .inr (by rintro c ⟨⟩; rfl)
  | nothing =>
    refine hparts.imp_right fun hideograph => ?_
    cases v with
    | letters run => exact hideograph.elim
    | ideograph d =>
      cases hv with
      | last hreads =>
        rintro c ⟨⟩
        exact Unicode.isAlpha_of_le hreads.1
      | cons hreads =>
        rintro c ⟨⟩
        exact Unicode.isAlpha_of_le hreads.1

/-! ## All syllables -/

lemma write_true_of_startsSyllable {segs : List Segment}
    (h : segs.head?.any Segment.startsSyllable = true) :
    t.write true segs = ' ' :: t.write false segs := by
  cases segs with
  | nil => cases h
  | cons segment segs => cases segment <;> first | rfl | cases h

/-- Before a syllable, a syllable is written with a single space behind it, whatever separates
them. -/
lemma write_separator {sep : Separator} {regex : Text} {segs : List Segment}
    (hsegs : segs.head?.any Segment.startsSyllable = true) :
    t.write false (.syllable regex :: (sep.segments ++ segs)) =
      boundary ++ regex ++ boundary ++ ' ' :: t.write false segs := by
  have hnext : (sep.segments ++ segs).head?.any Segment.isRepetition = false := by
    cases sep with
    | space => rfl
    | _ => exact isRepetition_of_startsSyllable hsegs
  have hspace : t.write true (sep.segments ++ segs) = ' ' :: t.write false segs := by
    cases sep with
    | space => rfl
    | _ => exact write_true_of_startsSyllable hsegs
  have hform : t.form false (sep.segments ++ segs).head? (.syllable regex) =
      boundary ++ regex ++ boundary := by
    rw [form, hnext]
    rfl
  rw [write, hform, ← hspace]
  rfl

/-- A list of syllables is transcribed syllable by syllable, however it is written. -/
lemma write_segments_of_writes (h : Writes t ss w pattern)
    (hss : ∀ s ∈ ss, IsSpelling s ∧ t.corpus.knows s = true) :
    (t.segments fuzzy pattern).head?.any Segment.startsSyllable = true ∧
      t.write false (t.segments fuzzy pattern) = t.spelledOut fuzzy ss := by
  induction h with
  | @last s w hreads =>
    obtain ⟨hs, hknown⟩ := hss s List.mem_cons_self
    have hend : ∀ c ∈ ([] : Text).head?, c.isAlpha = false := by simp
    rw [← List.append_nil w.text, segments_writing hreads hs hknown (.inr hend), segments_nil]
    refine ⟨rfl, ?_⟩
    simp [write, form, spelledOut, join]
  | @cons s w ss v rest sep hreads hparts hrest ih =>
    rw [List.forall_mem_cons] at hss
    obtain ⟨hstarts, hwrite⟩ := ih hss.2
    rw [segments_writing hreads hss.1.1 hss.1.2 (isIdeograph_or_head hparts hrest),
      segments_separator]
    refine ⟨rfl, ?_⟩
    rw [write_separator hstarts, hwrite]
    cases hrest <;> simp [spelledOut, join]

lemma noVariants_of_writes (h : Writes t ss w pattern) (hss : ∀ s ∈ ss, IsSpelling s) :
    '@' ∉ pattern := by
  have htext : ∀ {s : Text} {w : Writing}, w.Reads t s → IsSpelling s → '@' ∉ w.text := by
    intro s w hreads hs hat
    cases w with
    | ideograph c =>
      obtain rfl := List.mem_singleton.1 hat
      exact absurd hreads.1 (by decide)
    | letters run => exact absurd (isAlpha_of_lowerAscii hreads hs _ hat) (by decide)
  induction h with
  | last hreads => exact htext hreads (hss _ List.mem_cons_self)
  | @cons s w ss v rest sep hreads hparts hrest ih =>
    rw [List.forall_mem_cons] at hss
    have hsep : '@' ∉ sep.text := by cases sep <;> decide
    simp only [List.mem_append, not_or]
    exact ⟨htext hreads hss.1, hsep, ih hss.2⟩

/-- All ways to write known syllables are transcribed alike: to the syllables between word
boundaries, with single spaces, and without confusable syllables these are as they are spelled. -/
theorem transcribe_writing (h : Writes t ss w pattern)
    (hss : ∀ s ∈ ss, IsSpelling s ∧ t.corpus.knows s = true) :
    t.transcribe fuzzy pattern = t.spelledOut fuzzy ss ∧
      t.transcribe false pattern =
        join [' '] (ss.map fun s => boundary ++ s ++ boundary) := by
  have hat : '@' ∉ pattern := noVariants_of_writes h fun s hs => (hss s hs).1
  have hall : ∀ fuzzy, t.transcribe fuzzy pattern = t.spelledOut fuzzy ss := fun fuzzy => by
    rw [transcribe_of_noVariants hat, transcribeOne, (write_segments_of_writes h hss).2]
  refine ⟨hall fuzzy, (hall false).trans (congrArg (join [' ']) ?_)⟩
  refine List.map_congr_left fun s hs => ?_
  have hsyllable : t.syllable false s = s := escapeMeta_of_isSpelling (hss s hs).1
  rw [hsyllable]

/-- Two syllables, the second an ideograph behind letters in upper case and an apostrophe. -/
theorem transcribe_writing_sample :
    Phrase.sampleTranscriber.transcribe true "ZhonG'国".toList =
        "\\b(?:zhong|zong)\\b \\b(?:guo|go|gou)\\b".toList ∧
      Phrase.sampleTranscriber.transcribe false "ZhonG'国".toList =
        "\\bzhong\\b \\bguo\\b".toList := by
  have hsecond : Writes Phrase.sampleTranscriber ["guo".toList] (.ideograph '国') "国".toList :=
    .last ⟨by decide, rfl⟩
  have hfirst : Writing.Reads Phrase.sampleTranscriber "zhong".toList
      (.letters "ZhonG".toList) := rfl
  have hboth : Writes Phrase.sampleTranscriber ["zhong".toList, "guo".toList]
      (.letters "ZhonG".toList) ("ZhonG".toList ++ (Separator.apostrophe.text ++ "国".toList)) :=
    .cons hfirst trivial hsecond
  have hknown : ∀ s ∈ ["zhong".toList, "guo".toList],
      IsSpelling s ∧ Phrase.sampleTranscriber.corpus.knows s = true := by decide +kernel
  obtain ⟨hfuzzy, hplain⟩ :
      Phrase.sampleTranscriber.transcribe true "ZhonG'国".toList = _ ∧ _ :=
    transcribe_writing hboth hknown
  exact ⟨hfuzzy.trans (by decide +kernel), hplain⟩

end Transcriber

end PinyinSearch
