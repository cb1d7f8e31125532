import PinyinSearch.Pattern.PlainSide
import PinyinSearch.Proofs.Pattern.Quantifier

/-!
# Cutting patterns part by part

A pattern that was put together from smaller texts is cut into segments part by part, as long as no
operator of repetition follows a part: it would belong to the last character of the part.  There is
one law for each kind of part.
-/

namespace PinyinSearch

namespace Transcriber

/-- What follows a part does not repeat it. -/
def Ends (rest : Text) : Prop := ∀ c ∈ rest.head?, c ∉ ['*', '+', '?', '{']

/-- A part of a pattern is cut into the given segments, whatever follows. -/
structure Cuts (t : Transcriber) (fuzzy : Bool) (s : Text) (segments : List Segment) : Prop where
  ends : ∀ {rest}, Ends rest → Ends (s ++ rest)
  cut : ∀ {rest}, Ends rest → t.segments fuzzy (s ++ rest) = segments ++ t.segments fuzzy rest

variable {t : Transcriber} {fuzzy : Bool}

lemma ends_nil : Ends [] := by simp [Ends]

/-- A text that begins with no operator of repetition ends a part. -/
lemma ends_cons {c : Char} {rest : Text} (hc : c ∉ ['*', '+', '?', '{']) : Ends (c :: rest) := by
  rintro d ⟨⟩
  exact hc

lemma Cuts.nil : t.Cuts fuzzy [] [] := ⟨id, fun _ => rfl⟩

/-- Parts one after the other are cut one after the other. -/
lemma Cuts.append {s s' : Text} {segs segs' : List Segment} (h : t.Cuts fuzzy s segs)
    (h' : t.Cuts fuzzy s' segs') : t.Cuts fuzzy (s ++ s') (segs ++ segs') := by
  constructor
  case ends =>
    intro rest hrest
    rw [List.append_assoc]
    exact h.ends (h'.ends hrest)
  case cut =>
    intro rest hrest
    rw [List.append_assoc, List.append_assoc, h.cut (h'.ends hrest), h'.cut hrest]

@[simp] lemma letters_nil : t.letters fuzzy [] = [] := rfl

@[simp] lemma segments_nil : t.segments fuzzy [] = [] := by
  rw [segments, tokens]
  rfl

lemma segments_cons {c : Char} {rest : Text} :
    t.segments fuzzy (c :: rest) = t.segmentsAfter fuzzy []
      ((Token.read true c rest).1 :: tokens true (Token.read true c rest).2) := by
  rw [segments, tokens]

/-- The characters that begin a token of more than one character, or none of their own. -/
def markers : List Char := ['[', '\\', '{', '}', '(']

lemma not_mem_markers {c : Char} (hbracket : c ≠ '[') (hescape : c ≠ '\\') (hopen : c ≠ '{')
    (hclose : c ≠ '}') (hgroup : c ≠ '(') : c ∉ markers := by
  simp only [markers, List.mem_cons, List.not_mem_nil, or_false, not_or]
  exact ⟨hbracket, hescape, hopen, hclose, hgroup⟩

/-- Any other character is a token. -/
lemma read_of_not_mem {options : Bool} {c : Char} {rest : Text} (hc : c ∉ markers) :
    Token.read options c rest = (.char c, rest) := by
  rw [Token.read.eq_def]
  split
  case h_6 => rfl
  all_goals exact absurd (by decide) hc

/-- A letter is gathered. -/
lemma segmentsAfter_letter {run : Text} {c : Char} {rest : List Token} (hc : c.isAlpha = true) :
    t.segmentsAfter fuzzy run (.char c :: rest) = t.segmentsAfter fuzzy (run ++ [c]) rest := by
  have hdot : c ≠ '.' := by
    rintro rfl
    cases hc
  rw [segmentsAfter, if_pos hc]
  · exact fun _ _ _ _ h => hdot h
  · exact hdot

/-- A character that is neither a letter nor a dot is cut off behind the letters gathered. -/
lemma segmentsAfter_symbol {run : Text} {c : Char} {rest : List Token} (hdot : c ≠ '.')
    (hc : c.isAlpha = false) :
    t.segmentsAfter fuzzy run (.char c :: rest) =
      t.letters fuzzy run ++ t.symbol fuzzy c ++ t.segmentsAfter fuzzy [] rest := by
  rw [segmentsAfter, if_neg (Bool.eq_false_iff.1 hc)]
  · exact fun _ _ _ _ h => hdot h
  · exact hdot

/-- A character that is neither a letter nor a dot is cut off by itself. -/
lemma segments_symbol {c : Char} {rest : Text} (hc : c ∉ markers) (hdot : c ≠ '.')
    (halpha : c.isAlpha = false) :
    t.segments fuzzy (c :: rest) = t.symbol fuzzy c ++ t.segments fuzzy rest := by
  rw [segments_cons, read_of_not_mem hc, segmentsAfter_symbol hdot halpha, letters_nil,
    List.nil_append]
  rfl

/-- No quantifier and no operator of repetition begins what ends a part. -/
lemma head_tokens {rest : Text} (h : Ends rest) {token : Token} {more : List Token}
    (htokens : tokens true rest = token :: more) :
    (∀ q interior, token ≠ .count q interior) ∧ ∀ c, token = .char c → c ∉ ['*', '+', '?'] := by
  cases rest with
  | nil => rw [tokens] at htokens; cases htokens
  | cons d rest =>
    have hd := h d rfl
    rw [tokens, List.cons.injEq] at htokens
    obtain ⟨rfl, _⟩ := htokens
    rw [Token.read.eq_def]
    split
    case h_3 => exact absurd (by simp) hd
    case h_5 => exact ⟨by simp, by simp⟩
    case h_6 =>
      refine ⟨by simp, fun c hc => ?_⟩
      obtain rfl := Token.char.inj hc
      exact fun hmem => hd (by simp at hmem ⊢; tauto)
    all_goals exact ⟨by simp, by simp⟩

/-- A dot without a quantifier is any one character if an operator repeats it, and else a
syllable. -/
lemma segmentsAfter_dot {run : Text} {rest : List Token} :
    (∀ q interior more, rest ≠ .count q interior :: more) →
      t.segmentsAfter fuzzy run (.char '.' :: rest) =
        t.letters fuzzy run ++ (match rest with
          | .char '*' :: _ | .char '+' :: _ | .char '?' :: _ => .raw ['.']
          | _ => .syllable t.placeholder) :: t.segmentsAfter fuzzy [] rest := by
  intro h
  rw [segmentsAfter.eq_def]
  split
  case h_3 heq =>
    obtain rfl := (List.cons.inj heq).2
    rfl
  case h_2 heq => exact (h _ _ _ (List.cons.inj heq).2).elim
  case h_4 hdot heq => exact (hdot (Token.char.inj (List.cons.inj heq).1).symm).elim
  all_goals next heq => cases heq

/-- A dot that is not repeated is a syllable. -/
lemma segments_dot {rest : Text} (h : Ends rest) :
    t.segments fuzzy ('.' :: rest) = .syllable t.placeholder :: t.segments fuzzy rest := by
  rw [segments_cons, read_of_not_mem (by decide)]
  show t.segmentsAfter fuzzy [] (.char '.' :: tokens true rest) = _
  have hsegments : t.segments fuzzy rest = t.segmentsAfter fuzzy [] (tokens true rest) := rfl
  rw [hsegments]
  cases htokens : tokens true rest with
  | nil => simp [segmentsAfter]
  | cons token more =>
    obtain ⟨hcount, hchar⟩ := head_tokens h htokens
    cases token with
    | count q interior => exact absurd rfl (hcount q interior)
    | char c =>
      have hc := hchar c rfl
      simp only [List.mem_cons, List.not_mem_nil, or_false, not_or] at hc
      simp [segmentsAfter, hc]
    | _ => simp [segmentsAfter]

/-! ## Quantifiers -/

lemma read_counted {options : Bool} {interior rest : Text} {q : Quantifier}
    (h : Quantifier.ofInterior? interior = some q) :
    Token.read options '{' (interior ++ '}' :: rest) = (.count q interior, rest) := by
  simp [Token.read, Quantifier.read?_append h]

/-- There is no wildcard for finals in a quantifier. -/
lemma noVariants_braced {interior : Text} {q : Quantifier}
    (h : Quantifier.ofInterior? interior = some q) : '@' ∉ Quantifier.braced interior := by
  intro hat
  simp only [Quantifier.braced, List.cons_append, List.mem_cons, List.mem_append, Char.reduceEq,
    false_or, List.not_mem_nil, or_false] at hat
  have := Quantifier.isDigit_of_ofInterior? h '@' hat
  revert this
  decide

/-- A quantifier behind anything but a dot is copied with its minimum. -/
lemma segments_braced {interior rest : Text} {q : Quantifier}
    (h : Quantifier.ofInterior? interior = some q) :
    t.segments fuzzy (Quantifier.braced interior ++ rest) =
      .raw (q.canonical interior) :: t.segments fuzzy rest := by
  have htext : Quantifier.braced interior ++ rest = '{' :: (interior ++ '}' :: rest) := by
    simp [Quantifier.braced]
  rw [htext, segments_cons, read_counted h, segmentsAfter]
  rfl

/-- A dot with a quantifier makes the segments that count syllables. -/
lemma segments_counted {interior rest : Text} {q : Quantifier}
    (h : Quantifier.ofInterior? interior = some q) :
    t.segments fuzzy ('.' :: Quantifier.braced interior ++ rest) =
      t.counted q interior ++ t.segments fuzzy rest := by
  have htext : '.' :: Quantifier.braced interior ++ rest =
      '.' :: '{' :: (interior ++ '}' :: rest) := by simp [Quantifier.braced]
  rw [htext, segments_cons, read_of_not_mem (by decide)]
  show t.segmentsAfter fuzzy [] (.char '.' :: tokens true ('{' :: (interior ++ '}' :: rest))) = _
  rw [tokens, read_counted h, segmentsAfter, letters_nil, List.nil_append]
  rfl

/-! ## Groups -/

/-- A parenthesis without options opens a group. -/
lemma segments_capture {rest : Text} (h : Ends rest) :
    t.segments fuzzy ('(' :: rest) = .opener ['('] :: t.segments fuzzy rest := by
  have hspan : Span.groupOpener rest = ([], rest) := by
    rw [Span.groupOpener.eq_def]
    split
    · exact absurd (by simp) (h '?' rfl)
    · rfl
  have hread : Token.read true '(' rest = (.opener ['('], rest) := by simp [Token.read, hspan]
  rw [segments_cons, hread, segmentsAfter]
  rfl

/-- A parenthesis with the option not to capture opens a group. -/
lemma segments_group {rest : Text} :
    t.segments fuzzy ('(' :: '?' :: ':' :: rest) =
      .opener ['(', '?', ':'] :: t.segments fuzzy rest := by
  have hread : Token.read true '(' ('?' :: ':' :: rest) = (.opener ['(', '?', ':'], rest) := by
    simp [Token.read, Span.groupOpener, Span.through]
  rw [segments_cons, hread, segmentsAfter]
  rfl

lemma segments_bar {rest : Text} :
    t.segments fuzzy ('|' :: rest) = .raw ['|'] :: t.segments fuzzy rest :=
  segments_symbol (by decide) (by decide) (by decide)

lemma segments_close {rest : Text} :
    t.segments fuzzy (')' :: rest) = .closer :: t.segments fuzzy rest :=
  segments_symbol (by decide) (by decide) (by decide)

end Transcriber

end PinyinSearch
