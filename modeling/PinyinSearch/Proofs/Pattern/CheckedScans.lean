import PinyinSearch.Proofs.Pattern.Cursors
import PinyinSearch.Proofs.Pattern.Literals

/-!
# Scanning without failure

Both sides of a pattern are written here once more, by loops over its positions.  Each loop looks at
the character at its position, finds the end of what begins there, slices it off and goes on at the
end.  Whatever is looked at or sliced off must be within the pattern, and no difference may be below
zero; else the loop fails.

Neither loop fails, whatever the pattern, and both come to their end with what the sides are defined
to be.  The writer does not fail either: its only difference is below zero for optional syllables
with the maximum zero, and no pattern has such a segment (`scansSafely`).
-/

namespace PinyinSearch

open Cursor

/-! ## Loops -/

section

variable {σ : Type} {s : Text}

/-- A loop that takes steps as long as its position is below `n`, from one state to another.  The
slices lie between the positions of its steps.  A loop that fails or goes on forever has no run. -/
inductive Runs (n : Nat) (step : Nat → σ → Option (σ × Nat)) :
    Nat → σ → List (Nat × Nat) → σ → Prop where
  | done {i x} :
    n ≤ i →
    Runs n step i x [] x
  | turn {i j x y z slices} :
    i < n →
    step i x = some (y, j) →
    Runs n step j y slices z →
    Runs n step i x ((i, j) :: slices) z

/-- Slices that are not empty and in range cover a text from a position to its end, one after the
other. -/
inductive Covers (s : Text) : Nat → List (Nat × Nat) → Prop where
  | done :
    Covers s s.length []
  | slice {i j slices} :
    i < j →
    j ≤ s.length →
    Covers s j slices →
    Covers s i ((i, j) :: slices)

lemma Covers.flatMap_extract {i : Nat} {slices : List (Nat × Nat)} (h : Covers s i slices) :
    slices.flatMap (fun slice => s.extract slice.1 slice.2) = s.drop i := by
  induction h with
  | done => rw [List.flatMap_nil, List.drop_length]
  | @slice i j slices hij hj _ ih =>
    have hdrop : s.drop j = (s.drop i).drop (j - i) := by
      rw [List.drop_drop, Nat.add_sub_of_le hij.le]
    rw [List.flatMap_cons, ih, List.extract_eq_take_drop, hdrop, List.take_append_drop]

/-- A loop goes through a text from its beginning to its end, in slices that make up the text. -/
def Scans (s : Text) (step : Nat → σ → Option (σ × Nat)) (x z : σ) : Prop :=
  ∃ slices, Runs s.length step 0 x slices z ∧ Covers s 0 slices ∧
    slices.flatMap (fun slice => s.extract slice.1 slice.2) = s

variable {step : Nat → σ → Option (σ × Nat)} (inv : Nat → σ → Prop)

/-- A loop comes to its end if every step keeps an invariant and goes on within the text. -/
lemma exists_runs
    (hstep : ∀ {i c rest x}, s.drop i = c :: rest → inv i x →
      ∃ y j, step i x = some (y, j) ∧ i < j ∧ j ≤ s.length ∧ inv j y)
    {i : Nat} {x : σ} (hi : i ≤ s.length) (hx : inv i x) :
    ∃ slices z, Runs s.length step i x slices z ∧ Covers s i slices ∧ inv s.length z := by
  -- on the number of characters that are left
  induction hn : s.length - i using Nat.strong_induction_on generalizing i x with
  | h n ih =>
    rcases Nat.lt_or_eq_of_le hi with hlt | rfl
    · obtain ⟨y, j, hy, hij, hj, hinv⟩ := hstep (List.drop_eq_getElem_cons hlt) hx
      obtain ⟨slices, z, hruns, hcovers, hz⟩ := ih (s.length - j) (by omega) hj hinv rfl
      exact ⟨(i, j) :: slices, z, .turn hlt hy hruns, .slice hij hj hcovers, hz⟩
    · exact ⟨[], x, .done (Nat.le_refl _), .done, hx⟩

lemma exists_scans
    (hstep : ∀ {i c rest x}, s.drop i = c :: rest → inv i x →
      ∃ y j, step i x = some (y, j) ∧ i < j ∧ j ≤ s.length ∧ inv j y)
    {x : σ} (hx : inv 0 x) : ∃ z, Scans s step x z ∧ inv s.length z := by
  obtain ⟨slices, z, hruns, hcovers, hz⟩ := exists_runs inv hstep (Nat.zero_le _) hx
  exact ⟨z, ⟨slices, hruns, hcovers, hcovers.flatMap_extract⟩, hz⟩

end

namespace Cursor

/-! ## Turns -/

/-- The text from a position to an end that was looked for, and the end. -/
def sliceTo? (s : Text) (i : Nat) (stop? : Option Nat) : Option (Text × Nat) := do
  let stop ← stop?
  let taken ← slice? s i stop
  return (taken, stop)

/-- A quantifier as a regular expression writes it, whose braces were sliced off. -/
def verbatim (q : Quantifier) (written : Text) : Text :=
  match q with
  | .upTo n => Transcriber.upTo n
  | _ => written

/-- What is written for an opening brace at a position, and the end of what is taken for it. -/
def braceAt? (s : Text) (i : Nat) : Option (Text × Nat) := do
  match ← quantifierAt? s i with
  | some (q, stop) =>
    let written ← slice? s i stop
    return (verbatim q written, stop)
  | none => return (['\\', '{'], i + 1)

/-- What the text side writes for what begins at a position, and where this ends. -/
def textAt? (s : Text) (i : Nat) : Option (Text × Nat) := do
  match ← s[i]? with
  | '[' => sliceTo? s i (classEnd? s i)
  | '\\' => sliceTo? s i (escapeEnd? s i)
  | '{' => braceAt? s i
  | '}' => return (['\\', '}'], i + 1)
  | _ => sliceTo? s i (some (i + 1))

/-- The segments of a `.` with a quantifier, of which `written` was sliced off. -/
def counted? (t : Transcriber) (q : Quantifier) (written : Text) : Option (List Segment) :=
  match q with
  | .exactly 0 | .between 0 0 => some []
  | .exactly n => some [.syllable (t.placeholders n)]
  | .between m n =>
    if n < m then some [.raw written]
    else if m = 0 then some [.optional (some n)]
    else if m = n then some [.syllable (t.placeholders m)]
    else do
      let more ← sub? n m
      return [.syllable (t.placeholders m ++ t.further ++ Transcriber.upTo more)]
  | .atLeast 0 => some [.optional none]
  | .atLeast m => some [.syllable (t.placeholders m ++ t.further ++ ['*'])]
  | .upTo n => some [.raw ('.' :: Transcriber.upTo n)]

/-- The segments of a `.` at a position, and the end of what is taken for it. -/
def wildcardAt? (t : Transcriber) (s : Text) (i : Nat) : Option (List Segment × Nat) :=
  match s[i + 1]? with
  | some '*' | some '+' | some '?' => some ([.raw ['.']], i + 1)
  | some '{' => do
    match ← quantifierAt? s (i + 1) with
    | some (q, stop) =>
      let written ← slice? s i stop
      let segments ← counted? t q written
      return (segments, stop)
    | none => return ([.syllable t.placeholder], i + 1)
  | _ => some ([.syllable t.placeholder], i + 1)

/-- The segments of what begins at a position with a character that is no letter, and where this
ends. -/
def symbolAt? (t : Transcriber) (fuzzy : Bool) (s : Text) (i : Nat) (c : Char) :
    Option (List Segment × Nat) :=
  match c with
  | '[' => (sliceTo? s i (classEnd? s i)).map fun (taken, stop) => ([.raw taken], stop)
  | '\\' => (sliceTo? s i (escapeEnd? s i)).map fun (taken, stop) => ([.raw taken], stop)
  | '.' => wildcardAt? t s i
  | '{' => (braceAt? s i).map fun (written, stop) => ([.raw written], stop)
  | '}' => some ([.raw ['\\', '}']], i + 1)
  | '(' => (sliceTo? s i (groupEnd? s i)).map fun (taken, stop) =>
    ([if taken.getLast? = some ')' then .raw taken else .opener taken], stop)
  | c => some (t.symbol fuzzy c, i + 1)

/-- A step of the text side, which gathers what is written. -/
def textStep? (s : Text) (i : Nat) (gathered : Text) : Option (Text × Nat) := do
  let (written, stop) ← textAt? s i
  return (gathered ++ written, stop)

/-- A step of the plain side, which gathers segments and, behind them, letters. -/
def plainStep? (t : Transcriber) (fuzzy : Bool) (s : Text) (i : Nat)
    (gathered : List Segment × Text) : Option ((List Segment × Text) × Nat) := do
  let c ← s[i]?
  if c.isAlpha then return ((gathered.1, gathered.2 ++ [c]), i + 1)
  else
    let (segments, stop) ← symbolAt? t fuzzy s i c
    return ((gathered.1 ++ t.letters fuzzy gathered.2 ++ segments, []), stop)

/-- A turn was taken at a position, within the text behind its first character. -/
structure Takes {α : Type} (i : Nat) (rest : Text) (turn : Turn α) (taken : Option (List α × Nat)) :
    Prop where
  result : taken = some (turn.output, i + turn.more + 1)
  within : turn.more ≤ rest.length

variable {t : Transcriber} {fuzzy : Bool} {s rest taken after interior : Text} {i : Nat} {c : Char}
  {q : Quantifier}

/-- What begins at a position is sliced off. -/
lemma slice?_cons_of_drop (h : s.drop i = c :: rest) (hrest : taken ++ after = rest) :
    slice? s i (i + taken.length + 1) = some (c :: taken) := by
  have hi := length_of_drop h
  have htaken : s.drop i = (c :: taken) ++ after := by
    rw [h, ← hrest, List.cons_append]
  exact slice?_of_drop (by omega) htaken

lemma sliceTo?_of_drop (h : s.drop i = c :: rest) (hrest : taken ++ after = rest) :
    sliceTo? s i (some (i + 1 + taken.length)) = some (c :: taken, i + taken.length + 1) := by
  rw [sliceTo?, Option.bind_eq_bind, Option.bind_some, Nat.add_right_comm,
    slice?_cons_of_drop h hrest]
  rfl

lemma length_le_of_append (h : taken ++ after = rest) : taken.length ≤ rest.length := by
  rw [← h, List.length_append]
  exact Nat.le_add_right ..

/-! ### Quantifiers -/

lemma verbatim_braced : verbatim q (Quantifier.braced interior) = q.canonical interior := by
  cases q <;> rfl

/-- A quantifier is found with its end. -/
lemma quantifierAt?_of_read? (h : s.drop i = c :: rest)
    (hread : Quantifier.read? rest = some (q, interior, after)) :
    quantifierAt? s i = some (some (q, i + (interior.length + 1) + 1)) := by
  rw [quantifierAt?_of_drop h, Quantifier.at?, drop_succ h, hread]
  rfl

lemma quantifierAt?_of_read?_eq_none (h : s.drop i = c :: rest)
    (hread : Quantifier.read? rest = none) : quantifierAt? s i = some none := by
  rw [quantifierAt?_of_drop h, Quantifier.at?, drop_succ h, hread]
  rfl

/-- The text behind an opening brace begins with what is taken for the quantifier. -/
lemma append_of_read? (hread : Quantifier.read? rest = some (q, interior, after)) :
    (interior ++ ['}']) ++ after = rest := by
  rw [Quantifier.eq_of_read? hread, List.append_assoc]
  rfl

lemma takes_brace (h : s.drop i = '{' :: rest) :
    Takes i rest (textTurn '{' rest) (braceAt? s i) := by
  rw [textTurn]
  cases hread : Quantifier.read? rest with
  | none =>
    refine ⟨?_, Nat.zero_le _⟩
    rw [braceAt?, quantifierAt?_of_read?_eq_none h hread]
    rfl
  | some found =>
    obtain ⟨q, interior, after⟩ := found
    have hrest := append_of_read? hread
    have hslice := slice?_cons_of_drop h hrest
    have hlength := length_le_of_append hrest
    rw [List.length_append, List.length_singleton] at hslice hlength
    refine ⟨?_, hlength⟩
    rw [braceAt?, quantifierAt?_of_read? h hread]
    simp only [Option.bind_eq_bind, Option.bind_some, hslice]
    exact congrArg some (congrArg (·, _) verbatim_braced)

/-! ### The text side -/

/-- The text side takes the same turn. -/
lemma takes_textTurn (h : s.drop i = c :: rest) :
    Takes i rest (textTurn c rest) (textAt? s i) := by
  rw [textAt?, getElem?_of_drop h, textTurn.eq_def]
  split
  case h_1 =>
    refine ⟨?_, length_le_of_append (Span.bracket_append rest)⟩
    exact classEnd?_of_drop h ▸ sliceTo?_of_drop h (Span.bracket_append rest)
  case h_2 =>
    refine ⟨?_, length_le_of_append (Span.escape_append rest)⟩
    exact escapeEnd?_of_drop h ▸ sliceTo?_of_drop h (Span.escape_append rest)
  case h_3 => exact takes_brace h
  case h_4 => exact ⟨rfl, Nat.zero_le _⟩
  case h_5 hbracket hescape hopen hclose =>
    refine ⟨?_, Nat.zero_le _⟩
    rw [Option.bind_eq_bind, Option.bind_some]
    split
    case h_5 => exact sliceTo?_of_drop h (List.nil_append rest)
    all_goals contradiction

lemma exists_textStep? {gathered : Text} (h : s.drop i = c :: rest)
    (hinv : gathered ++ textPattern (s.drop i) = textPattern s) :
    ∃ y j, textStep? s i gathered = some (y, j) ∧ i < j ∧ j ≤ s.length ∧
      y ++ textPattern (s.drop j) = textPattern s := by
  obtain ⟨hresult, hwithin⟩ := takes_textTurn h
  have hi := length_of_drop h
  refine ⟨gathered ++ (textTurn c rest).output, i + (textTurn c rest).more + 1, ?_, by omega,
    by omega, ?_⟩
  · rw [textStep?, hresult]
    rfl
  · rw [← hinv, h, drop_of_drop h, ← @outputs_textTurn i (c :: rest), outputs_cons,
      outputs_textTurn, List.append_assoc]

/-- The text side is scanned. -/
theorem scans_textPattern (s : Text) : Scans s (textStep? s) [] (textPattern s) := by
  have hstart : [] ++ textPattern (s.drop 0) = textPattern s := rfl
  obtain ⟨written, hscans, hwritten⟩ := exists_scans
    (fun i written => written ++ textPattern (s.drop i) = textPattern s) exists_textStep? hstart
  rw [List.drop_length, textPattern_nil, List.append_nil] at hwritten
  exact hwritten ▸ hscans

/-! ### The plain side -/

/-- The difference that is written for a quantifier with two bounds is taken where the bounds are in
order. -/
lemma counted?_braced :
    counted? t q ('.' :: Quantifier.braced interior) = some (t.counted q interior) := by
  cases q with
  | exactly n => cases n <;> rfl
  | atLeast m => cases m <;> rfl
  | upTo n => rfl
  | between m n =>
    by_cases hzero : m = 0 ∧ n = 0
    · obtain ⟨rfl, rfl⟩ := hzero
      rfl
    · rw [counted?, Transcriber.counted]
      · by_cases hlt : n < m
        · rw [if_pos hlt, if_pos hlt]
        · rw [if_neg hlt, if_neg hlt, if_neg (by omega : n ≠ 0)]
          by_cases hm : m = 0
          · rw [if_pos hm, if_pos hm]
          · by_cases heq : m = n
            · rw [if_neg hm, if_neg hm, if_pos heq, if_pos heq]
            · rw [if_neg hm, if_neg hm, if_neg heq, if_neg heq, sub?_of_le (Nat.le_of_not_lt hlt)]
              rfl
      · exact fun hm hn => hzero ⟨hm, hn⟩

lemma takes_wildcardTurn (h : s.drop i = '.' :: rest) :
    Takes i rest (t.wildcardTurn rest) (wildcardAt? t s i) := by
  rw [wildcardAt?, getElem?_succ h, Transcriber.wildcardTurn.eq_def]
  split
  case h_1 | h_2 | h_3 => exact ⟨rfl, Nat.zero_le _⟩
  case h_4 behind =>
    have hopening := drop_succ h
    rw [List.head?_cons]
    cases hread : Quantifier.read? behind with
    | none =>
      refine ⟨?_, Nat.zero_le _⟩
      simp only [quantifierAt?_of_read?_eq_none hopening hread]
      rfl
    | some found =>
      obtain ⟨q, interior, after⟩ := found
      have hrest : ('{' :: (interior ++ ['}'])) ++ after = '{' :: behind :=
        congrArg ('{' :: ·) (append_of_read? hread)
      have hslice := slice?_cons_of_drop h hrest
      have hlength := length_le_of_append hrest
      simp only [List.length_cons, List.length_append, List.length_nil, Nat.zero_add]
        at hslice hlength ⊢
      refine ⟨?_, hlength⟩
      have hstop : i + 1 + (interior.length + 1) + 1 = i + (interior.length + 1 + 1) + 1 := by omega
      have hcounted : counted? t q ('.' :: '{' :: (interior ++ ['}'])) =
          some (t.counted q interior) := counted?_braced
      simp only [quantifierAt?_of_read? hopening hread, hstop, Option.bind_eq_bind,
        Option.bind_some, hslice, hcounted]
      rfl
  case h_5 hstar hplus hopt hbrace =>
    refine ⟨?_, Nat.zero_le _⟩
    split
    case h_5 => rfl
    all_goals
      next hhead =>
        obtain ⟨behind, rfl⟩ := List.head?_eq_some_iff.1 hhead
        simp at hstar hplus hopt hbrace

lemma takes_symbolTurn (h : s.drop i = c :: rest) :
    Takes i rest (t.symbolTurn fuzzy c rest) (symbolAt? t fuzzy s i c) := by
  rw [Transcriber.symbolTurn.eq_def]
  split
  case h_1 =>
    refine ⟨?_, length_le_of_append (Span.bracket_append rest)⟩
    rw [symbolAt?, classEnd?_of_drop h, sliceTo?_of_drop h (Span.bracket_append rest)]
    rfl
  case h_2 =>
    refine ⟨?_, length_le_of_append (Span.escape_append rest)⟩
    rw [symbolAt?, escapeEnd?_of_drop h, sliceTo?_of_drop h (Span.escape_append rest)]
    rfl
  case h_3 => exact takes_wildcardTurn h
  case h_4 =>
    obtain ⟨hresult, hwithin⟩ := takes_brace h
    rw [textTurn] at hresult hwithin
    rw [symbolAt?, hresult]
    cases hread : Quantifier.read? rest with
    | none => exact ⟨rfl, Nat.zero_le _⟩
    | some found =>
      rw [hread] at hwithin
      exact ⟨rfl, hwithin⟩
  case h_5 => exact ⟨rfl, Nat.zero_le _⟩
  case h_6 =>
    refine ⟨?_, length_le_of_append (Span.groupOpener_append rest)⟩
    rw [symbolAt?, groupEnd?_of_drop h, sliceTo?_of_drop h (Span.groupOpener_append rest)]
    rfl
  case h_7 hbracket hescape hdot hopen hclose hopener =>
    have hsymbol : symbolAt? t fuzzy s i c = some (t.symbol fuzzy c, i + 1) := by
      rw [symbolAt?] <;> assumption
    exact ⟨hsymbol, Nat.zero_le _⟩

/-- What was gathered before a position, and what the segments behind it are. -/
structure Gathers (t : Transcriber) (fuzzy : Bool) (s : Text) (i : Nat)
    (gathered : List Segment × Text) : Prop where
  letters : ∀ c ∈ gathered.2, c.isAlpha = true
  segments : gathered.1 ++ t.segments fuzzy (gathered.2 ++ s.drop i) = t.segments fuzzy s

lemma exists_plainStep? {gathered : List Segment × Text} (h : s.drop i = c :: rest)
    (hinv : Gathers t fuzzy s i gathered) :
    ∃ y j, plainStep? t fuzzy s i gathered = some (y, j) ∧ i < j ∧ j ≤ s.length ∧
      Gathers t fuzzy s j y := by
  obtain ⟨segs, run⟩ := gathered
  have hi := length_of_drop h
  rw [plainStep?, getElem?_of_drop h, Option.bind_eq_bind, Option.bind_some]
  by_cases hc : c.isAlpha = true
  · refine ⟨(segs, run ++ [c]), i + 1, if_pos hc, by omega, by omega, ?_, ?_⟩
    · exact List.forall_mem_append.2 ⟨hinv.letters, List.forall_mem_singleton.2 hc⟩
    · rw [← hinv.segments, h, drop_succ h, List.append_assoc, List.singleton_append]
  · have hturn : Takes i rest (t.symbolTurn fuzzy c rest) _ := takes_symbolTurn h
    obtain ⟨hresult, hwithin⟩ := hturn
    rw [Bool.not_eq_true] at hc
    refine ⟨(segs ++ t.letters fuzzy run ++ (t.symbolTurn fuzzy c rest).output, []),
      i + (t.symbolTurn fuzzy c rest).more + 1, ?_, by omega, by omega, List.forall_mem_nil _, ?_⟩
    · rw [if_neg (Bool.eq_false_iff.1 hc), hresult]
      rfl
    · have hrest : ∀ d ∈ (c :: rest).head?, d.isAlpha = false := by
        rintro d ⟨⟩
        exact hc
      rw [← hinv.segments, h, drop_of_drop h, Transcriber.segments_letters hinv.letters hrest,
        Transcriber.segments_symbolTurn hc, List.nil_append, List.append_assoc, List.append_assoc]

/-- The plain side is scanned, up to the letters that are left at the end. -/
theorem exists_scans_segments (t : Transcriber) (fuzzy : Bool) (s : Text) :
    ∃ segments run, Scans s (plainStep? t fuzzy s) ([], []) (segments, run) ∧
      segments ++ t.letters fuzzy run = t.segments fuzzy s := by
  have hstart : Gathers t fuzzy s 0 ([], []) := ⟨List.forall_mem_nil _, rfl⟩
  obtain ⟨⟨segments, run⟩, hscans, hletters, hsegments⟩ :=
    exists_scans (Gathers t fuzzy s) exists_plainStep? hstart
  refine ⟨segments, run, hscans, ?_⟩
  rw [← hsegments, List.drop_length, Transcriber.segments_letters hletters (by simp),
    Transcriber.segments_nil, List.append_nil]

/-! ## Writing -/

/-- Optional syllables as they are written. -/
def optionalForm? (t : Transcriber) (afterSyllable : Bool) (next : Option Segment)
    (maximum : Option Nat) : Option Text :=
  if afterSyllable then some (Transcriber.repeated t.further maximum)
  else if next.any Segment.startsSyllable then
    some (Transcriber.repeated (grouped (t.placeholder ++ [' '])) maximum)
  else
    match maximum with
    | some 1 => some (grouped t.placeholder ++ ['?'])
    | some n => do
      let more ← sub? n 1
      return grouped (t.placeholder ++ t.further ++ Transcriber.upTo more) ++ ['?']
    | none => some (grouped (t.placeholder ++ t.further ++ ['*']) ++ ['?'])

/-- A segment as it is written before the segment `next`. -/
def form? (t : Transcriber) (afterSyllable : Bool) (next : Option Segment) :
    Segment → Option Text
  | .optional maximum => optionalForm? t afterSyllable next maximum
  | segment => some (t.form afterSyllable next segment)

/-- Writes segments one after the other. -/
def write? (t : Transcriber) (afterSyllable : Bool) : List Segment → Option Text
  | [] => some []
  | segment :: rest => do
    let written ← form? t afterSyllable rest.head? segment
    let behind ← write? t (Transcriber.endsAfter afterSyllable segment) rest
    return (if afterSyllable && segment.startsSyllable then [' '] else []) ++ written ++ behind

lemma form?_eq {segment : Segment} {afterSyllable : Bool} {next : Option Segment}
    (h : segment ≠ .optional (some 0)) :
    form? t afterSyllable next segment = some (t.form afterSyllable next segment) := by
  cases segment with
  | optional maximum =>
    rw [form?, optionalForm?.eq_def, Transcriber.form, Transcriber.optionalForm.eq_def]
    split
    · rfl
    · split
      · rfl
      · obtain _ | _ | _ | n := maximum
        · rfl
        · exact absurd rfl h
        · rfl
        · rfl
  | _ => rfl

/-- Segments are written without failure if the maximum of no optional syllables is zero. -/
lemma write?_eq {segments : List Segment} {afterSyllable : Bool}
    (h : Segment.optional (some 0) ∉ segments) :
    write? t afterSyllable segments = some (t.write afterSyllable segments) := by
  induction segments generalizing afterSyllable with
  | nil => rfl
  | cons segment segments ih =>
    rw [List.mem_cons, not_or] at h
    rw [write?, form?_eq (Ne.symm h.1), ih h.2]
    rfl

/-- The writer would fail otherwise. -/
example : write? Phrase.sampleTranscriber false [.optional (some 0)] = none := rfl

/-! ### Optional syllables -/

section

variable {maximum : Option Nat}

lemma optional_not_mem_letters {run : Text} : .optional maximum ∉ t.letters fuzzy run :=
  fun hmem => (Transcriber.isReadable_letters run _ hmem).elim

lemma optional_not_mem_symbol : .optional maximum ∉ t.symbol fuzzy c := by
  rw [Transcriber.symbol.eq_def]
  split
  case h_9 =>
    split
    · simp
    · intro hmem
      have hread : (t.ideograph fuzzy c).IsReadable := Transcriber.isReadable_ideograph c
      rw [← List.mem_singleton.1 hmem] at hread
      exact hread
  all_goals simp

/-- A quantifier that allows nothing but zero counts no syllables at all. -/
lemma optional_not_mem_counted : .optional (some 0) ∉ t.counted q interior := by
  rw [Transcriber.counted.eq_def]
  split
  case h_3 =>
    split_ifs with hlt hzero
    · simp
    · simp
    · simpa using Ne.symm hzero
    · simp
    · simp
  all_goals simp

lemma optional_not_mem_wildcardTurn :
    .optional (some 0) ∉ (t.wildcardTurn rest).output := by
  rw [Transcriber.wildcardTurn.eq_def]
  split
  case h_4 behind =>
    cases Quantifier.read? behind with
    | none => simp
    | some found => exact optional_not_mem_counted
  all_goals simp

lemma optional_not_mem_plainTurn :
    .optional (some 0) ∉ (t.plainTurn fuzzy c rest).output := by
  rw [Transcriber.plainTurn]
  split
  · exact optional_not_mem_letters
  · rw [Transcriber.symbolTurn.eq_def]
    split
    case h_3 => exact optional_not_mem_wildcardTurn
    case h_4 => cases Quantifier.read? rest <;> simp
    case h_6 =>
      show _ ∉ [if _ then Segment.raw _ else Segment.opener _]
      split <;> simp
    case h_7 => exact optional_not_mem_symbol
    all_goals simp

lemma optional_not_mem_segments (s : Text) : .optional (some 0) ∉ t.segments fuzzy s := by
  have houtputs : outputs (t.plainTurn fuzzy) 0 s = t.segments fuzzy s :=
    Transcriber.outputs_plainTurn s
  rw [← houtputs]
  exact not_mem_outputs (fun _ _ => optional_not_mem_plainTurn) s

end

/-! ## Safety -/

/-- What is looked for at a position is found behind it, within the pattern. -/
def FindsEnd (s : Text) (i : Nat) (stop? : Option Nat) : Prop :=
  ∃ stop, stop? = some stop ∧ i < stop ∧ stop ≤ s.length

/-- A pattern is scanned and written without failure: every end that is looked for lies behind its
beginning and within the pattern, both loops come to their end with what they are meant to find, and
so does the writer. -/
structure ScansSafely (t : Transcriber) (fuzzy : Bool) (s : Text) : Prop where
  bracket : ∀ i, s[i]? = some '[' → FindsEnd s i (classEnd? s i)
  escape : ∀ i, s[i]? = some '\\' → FindsEnd s i (escapeEnd? s i)
  opener : ∀ i, s[i]? = some '(' → FindsEnd s i (groupEnd? s i)
  brace : ∀ i, s[i]? = some '{' → ∃ found, quantifierAt? s i = some found ∧
    ∀ q stop, found = some (q, stop) → i < stop ∧ stop ≤ s.length
  wildcard : ∀ i, s[i]? = some '.' → FindsEnd s i ((wildcardAt? t s i).map Prod.snd)
  textSide : Scans s (textStep? s) [] (textPattern s)
  plainSide : ∃ segments run, Scans s (plainStep? t fuzzy s) ([], []) (segments, run) ∧
    segments ++ t.letters fuzzy run = t.segments fuzzy s
  optional : .optional (some 0) ∉ t.segments fuzzy s
  written : write? t false (t.segments fuzzy s) = some (t.transcribeOne fuzzy s)

lemma findsEnd_of_drop (h : s.drop i = c :: rest) (hrest : taken ++ after = rest) :
    FindsEnd s i (some (i + 1 + taken.length)) := by
  have hi := length_of_drop h
  have hlength := length_le_of_append hrest
  exact ⟨_, rfl, by omega, by omega⟩

/-- Every pattern is scanned and written without failure. -/
theorem scansSafely (t : Transcriber) (fuzzy : Bool) (s : Text) : ScansSafely t fuzzy s where
  bracket i hi := by
    have h := Text.drop_of_getElem? hi
    rw [classEnd?_of_drop h]
    exact findsEnd_of_drop h (Span.bracket_append _)
  escape i hi := by
    have h := Text.drop_of_getElem? hi
    rw [escapeEnd?_of_drop h]
    exact findsEnd_of_drop h (Span.escape_append _)
  opener i hi := by
    have h := Text.drop_of_getElem? hi
    rw [groupEnd?_of_drop h]
    exact findsEnd_of_drop h (Span.groupOpener_append _)
  brace i hi := by
    have h := Text.drop_of_getElem? hi
    refine ⟨_, quantifierAt?_of_drop h, fun q stop hfound => ?_⟩
    obtain ⟨⟨q', interior, after⟩, hread, heq⟩ := Option.map_eq_some_iff.1 hfound
    obtain ⟨rfl, rfl⟩ := Prod.mk.inj heq
    have hi := length_of_drop h
    have hlength := length_le_of_append (append_of_read? hread)
    rw [List.length_append, List.length_singleton] at hlength
    omega
  wildcard i hi := by
    have h := Text.drop_of_getElem? hi
    have hlength := length_of_drop h
    obtain ⟨hresult, hwithin⟩ := takes_wildcardTurn (t := t) h
    rw [hresult]
    exact ⟨_, rfl, by omega, by omega⟩
  textSide := scans_textPattern s
  plainSide := exists_scans_segments t fuzzy s
  optional := optional_not_mem_segments s
  written := write?_eq (optional_not_mem_segments s)

end Cursor

end PinyinSearch
