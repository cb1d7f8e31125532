import PinyinSearch.Proofs.Pattern.Spans
import PinyinSearch.Proofs.Pattern.TextSide

/-!
# Patterns that stay as they are on texts

The regular expression for texts is cut into the tokens that it was written from, but for the braces
that have become escapes and the minimums that were written out.  So it is a pattern that stands for
itself, and a pattern stands for itself if and only if each of its braces stands in a class, in an
escape or in a quantifier with a minimum (`textPattern_fixed`).
-/

namespace PinyinSearch

open Text

namespace Token

/-- The token that a token is written as for texts. -/
def settled : Token → Token
  | count (.upTo n) _ => count (.between 0 n) ('0' :: ',' :: decimal n)
  | brace c => escape ['\\', c]
  | token => token

/-- A token is written as it is. -/
def IsSettled : Token → Prop
  | count q _ => q.HasMinimum
  | brace _ => False
  | _ => True

/-- What the text side reads: a quantifier is that of its interior, and single characters have no
other meaning. -/
def IsSound : Token → Prop
  | count q interior => Quantifier.ofInterior? interior = some q
  | brace c => c = '{' ∨ c = '}'
  | opener s => s = ['(']
  | char c => c ∉ Transcriber.markers
  | _ => True

variable {token : Token} {c : Char} {s rest : Text}

lemma textForm_settled : token.settled.textForm = token.textForm := by
  cases token with
  | count q interior => cases q <;> rfl
  | _ => rfl

lemma isSound_read : (read false c rest).1.IsSound := by
  rw [read.eq_def]
  split
  case h_3 =>
    split
    · next hread => exact Quantifier.ofInterior?_of_read? hread
    · exact .inl rfl
  case h_4 => exact .inr rfl
  case h_5 => rfl
  case h_6 hbracket hescape hopen hclose hgroup =>
    exact Transcriber.not_mem_markers hbracket hescape hopen hclose hgroup
  all_goals trivial

lemma textForm_eq_written (h : token.IsSettled) : token.textForm = token.written := by
  cases token with
  | count q interior =>
    cases q with
    | upTo n => exact h.elim
    | _ => rfl
  | brace c => exact h.elim
  | _ => rfl

/-- A token that is written in another way differs from itself in its first two characters. -/
lemma textForm_append_ne (hsound : token.IsSound) (h : ¬ token.IsSettled) (x y : Text) :
    token.textForm ++ x ≠ token.written ++ y := by
  intro heq
  cases token with
  | count q interior =>
    cases q with
    | upTo n =>
      obtain ⟨-, maximum, rfl⟩ := Quantifier.eq_cons_of_upTo hsound
      have hminimum : '0' = ',' := (List.cons.inj (List.cons.inj heq).2).1
      cases hminimum
    | _ => exact h trivial
  | brace c =>
    have hc : '\\' = c := (List.cons.inj heq).1
    subst hc
    rcases hsound with hbrace | hbrace <;> cases hbrace
  | _ => exact h trivial

/-! ## Reading what was written -/

lemma read_braced {q : Quantifier} {interior : Text}
    (h : Quantifier.ofInterior? interior = some q) :
    read false '{' ((interior ++ ['}']) ++ rest) = (count q interior, rest) := by
  rw [List.append_assoc]
  exact Transcriber.read_counted h

lemma read_escapedBrace (hc : c = '{' ∨ c = '}') :
    read false '\\' ([c] ++ rest) = (escape ['\\', c], rest) := by
  rcases hc with rfl | rfl <;> rfl

/-- What is written for a token is read as what it stands for, in front of any text as long as the
token was closed. -/
lemma read_textForm (h : (read false c s).2 = [] → rest = []) :
    ∃ d s', (read false c s).1.textForm = d :: s' ∧
      read false d (s' ++ rest) = ((read false c s).1.settled, rest) := by
  revert h
  rw [read.eq_def false c s]
  split
  case h_1 =>
    intro h
    refine ⟨'[', (Span.bracket s).1, rfl, ?_⟩
    show (Token.bracket ('[' :: (Span.bracket _).1), (Span.bracket _).2) = _
    rw [Span.bracket_readBack h]
    rfl
  case h_2 =>
    intro h
    refine ⟨'\\', (Span.escape s).1, rfl, ?_⟩
    show (Token.escape ('\\' :: (Span.escape _).1), (Span.escape _).2) = _
    rw [Span.escape_readBack h]
    rfl
  case h_3 =>
    intro h
    cases hread : Quantifier.read? s with
    | none => exact ⟨'\\', ['{'], rfl, read_escapedBrace (.inl rfl)⟩
    | some found =>
      obtain ⟨q, interior, after⟩ := found
      have hq := Quantifier.ofInterior?_of_read? hread
      cases q with
      | upTo n =>
        obtain ⟨hn, -⟩ := Quantifier.eq_cons_of_upTo hq
        exact ⟨'{', _, rfl, read_braced (Quantifier.ofInterior?_zero hn)⟩
      | _ => exact ⟨'{', _, rfl, read_braced hq⟩
  case h_4 => exact fun _ => ⟨'\\', ['}'], rfl, read_escapedBrace (.inr rfl)⟩
  case h_5 => exact fun _ => ⟨'(', [], rfl, rfl⟩
  case h_6 hbracket hescape hopen hclose hgroup =>
    intro _
    refine ⟨c, [], rfl, Transcriber.read_of_not_mem ?_⟩
    exact Transcriber.not_mem_markers hbracket hescape hopen hclose hgroup

end Token

/-- The regular expression for texts is cut into what its tokens were written as. -/
lemma tokens_textPattern (s : Text) :
    tokens false (textPattern s) = (tokens false s).map Token.settled := by
  fun_induction tokens false s with
  | case1 => rw [textPattern_nil, tokens, List.map_nil]
  | case2 c rest ih =>
    have hend : (Token.read false c rest).2 = [] →
        textPattern (Token.read false c rest).2 = [] := by
      intro h
      rw [h, textPattern_nil]
    obtain ⟨d, s', hwritten, hread⟩ := Token.read_textForm hend
    have htext : textPattern (c :: rest) =
        d :: (s' ++ textPattern (Token.read false c rest).2) := by
      rw [textPattern, tokens, List.flatMap_cons, hwritten]
      rfl
    rw [htext, tokens, hread, ih, List.map_cons]

/-! ## Patterns that are written as they are -/

lemma isSound_of_mem_tokens {p : Text} {token : Token} (h : token ∈ tokens false p) :
    token.IsSound := by
  fun_induction tokens false p with
  | case1 => cases h
  | case2 c rest ih =>
    cases h with
    | head => exact Token.isSound_read
    | tail _ h => exact ih h

lemma flatMap_textForm_eq_iff {ts : List Token} (hsound : ∀ token ∈ ts, token.IsSound) :
    ts.flatMap Token.textForm = ts.flatMap Token.written ↔ ∀ token ∈ ts, token.IsSettled := by
  induction ts with
  | nil => simp
  | cons token ts ih =>
    rw [List.forall_mem_cons] at hsound ⊢
    rw [List.flatMap_cons, List.flatMap_cons]
    by_cases h : token.IsSettled
    · rw [Token.textForm_eq_written h, List.append_cancel_left_eq, ih hsound.2]
      exact (and_iff_right h).symm
    · exact iff_of_false (Token.textForm_append_ne hsound.1 h _ _) fun hall => h hall.1

lemma textPattern_eq_self_iff {p : Text} :
    textPattern p = p ↔ ∀ token ∈ tokens false p, token.IsSettled := by
  have hsame := flatMap_textForm_eq_iff fun _ => isSound_of_mem_tokens (p := p)
  rwa [written_tokens] at hsame

/-! ## Braces -/

/-- The token that a position of a pattern belongs to. -/
def tokenAt? : List Token → Nat → Option Token
  | [], _ => none
  | token :: rest, i =>
    if i < token.written.length then some token else tokenAt? rest (i - token.written.length)

/-- A brace stands in a bracket class, in an escape or in a quantifier with a minimum. -/
def Token.Shelters : Token → Prop
  | .bracket _ | .escape _ => True
  | .count q _ => q.HasMinimum
  | _ => False

/-- Every position of a pattern belongs to a token, in which the character there is written. -/
lemma exists_tokenAt? {ts : List Token} {i : Nat} {c : Char}
    (h : (ts.flatMap Token.written)[i]? = some c) :
    ∃ token ∈ ts, tokenAt? ts i = some token ∧ c ∈ token.written := by
  induction ts generalizing i with
  | nil => cases h
  | cons token ts ih =>
    rw [List.flatMap_cons, List.getElem?_append] at h
    rw [tokenAt?]
    split at h
    · next hi =>
      rw [if_pos hi]
      exact ⟨token, List.mem_cons_self, rfl, List.mem_of_getElem? h⟩
    · next hi =>
      rw [if_neg hi]
      obtain ⟨found, hmem, hfound⟩ := ih h
      exact ⟨found, List.mem_cons_of_mem token hmem, hfound⟩

/-- Every token begins at some position of the pattern. -/
lemma exists_tokenAt?_eq {ts : List Token} {token : Token} {c : Char} (h : token ∈ ts)
    (hc : token.written.head? = some c) :
    ∃ i, tokenAt? ts i = some token ∧ (ts.flatMap Token.written)[i]? = some c := by
  induction ts with
  | nil => cases h
  | cons first ts ih =>
    rw [List.flatMap_cons]
    cases h with
    | head =>
      obtain ⟨w, hw⟩ := List.head?_eq_some_iff.1 hc
      exact ⟨0, by simp [tokenAt?, hw], by simp [hw]⟩
    | tail _ h =>
      obtain ⟨i, hfound, hi⟩ := ih h
      have hbehind : ¬ first.written.length + i < first.written.length := by omega
      refine ⟨first.written.length + i, ?_, ?_⟩
      · rw [tokenAt?, if_neg hbehind, Nat.add_sub_cancel_left]
        exact hfound
      · rw [List.getElem?_append_right (Nat.le_add_right _ i), Nat.add_sub_cancel_left]
        exact hi

/-- The tokens that are written as they are hold no braces but sheltered ones. -/
lemma forall_isSettled_iff {p : Text} :
    (∀ token ∈ tokens false p, token.IsSettled) ↔ ∀ i c, p[i]? = some c → c = '{' ∨ c = '}' →
      ∃ token ∈ tokenAt? (tokens false p) i, token.Shelters := by
  have hp : (tokens false p).flatMap Token.written = p := written_tokens false p
  constructor
  · intro hall i c hi hc
    rw [← hp] at hi
    obtain ⟨token, hmem, hfound, hwritten⟩ := exists_tokenAt? hi
    refine ⟨token, hfound, ?_⟩
    have hsettled := hall token hmem
    have hsound := isSound_of_mem_tokens hmem
    cases token with
    | bracket | escape => trivial
    | count q interior => exact hsettled
    | brace d => exact hsettled.elim
    | opener s =>
      obtain rfl : s = ['('] := hsound
      obtain rfl := List.mem_singleton.1 hwritten
      rcases hc with hc | hc <;> cases hc
    | char d =>
      obtain rfl := List.mem_singleton.1 hwritten
      rcases hc with rfl | rfl
      · exact absurd (by decide) hsound
      · exact absurd (by decide) hsound
  · intro hall token hmem
    have hsheltered : ∀ c, token.written.head? = some c → c = '{' ∨ c = '}' → token.Shelters := by
      intro c hhead hc
      obtain ⟨i, hfound, hi⟩ := exists_tokenAt?_eq hmem hhead
      rw [hp] at hi
      obtain ⟨token', hfound', hshelters⟩ := hall i c hi hc
      obtain rfl := Option.some.inj (hfound.symm.trans hfound')
      exact hshelters
    have hsound := isSound_of_mem_tokens hmem
    cases token with
    | count q interior => exact hsheltered '{' rfl (.inl rfl)
    | brace c => exact hsheltered c rfl hsound
    | _ => trivial

/-- The regular expression for texts is a pattern that stands for itself.  A pattern stands for
itself if and only if each of its braces that stands neither in a class nor in an escape belongs to
a quantifier with a minimum. -/
theorem textPattern_fixed (p : Text) :
    textPattern (textPattern p) = textPattern p ∧
      (textPattern p = p ↔ ∀ i c, p[i]? = some c → c = '{' ∨ c = '}' →
        ∃ token ∈ tokenAt? (tokens false p) i, token.Shelters) := by
  constructor
  · calc textPattern (textPattern p)
        = ((tokens false p).map Token.settled).flatMap Token.textForm := by
          rw [textPattern, tokens_textPattern]
      _ = textPattern p := by
          rw [List.flatMap_map, textPattern]
          exact List.flatMap_congr fun token _ => Token.textForm_settled
  · rw [textPattern_eq_self_iff, forall_isSettled_iff]

/-- Braces in a class, in an escape and in quantifiers with a minimum stay. -/
example : textPattern "[\x7b]\\x{41}.{2,}中{3}".toList = "[\x7b]\\x{41}.{2,}中{3}".toList := by
  decide +kernel

end PinyinSearch
