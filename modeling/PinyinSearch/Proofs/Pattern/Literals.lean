import PinyinSearch.Proofs.Pattern.EscapedText
import PinyinSearch.Proofs.Pattern.Wildcards

/-!
# Patterns without operators

A pattern that holds no operator is literal, whatever braces stand in it, as long as no quantifier
begins at one.  For texts it is read as its characters one after the other
(`reads_textPattern`).  For plain pronunciations it is taken apart into syllables, fragments and
single characters, each of which is read wherever it stands, and so the pattern is read, too
(`exists_parse?_transcribe`); where finals are put in the place of an `@`, every variant is a
literal pattern again.
-/

namespace PinyinSearch

open Text Regex

/-- The characters that are operators wherever they stand in a pattern. -/
def patternOperators : List Char := ['\\', '.', '*', '+', '?', '(', ')', '[', '|', '^', '$']

/-- A pattern holds no operator, and at none of its braces begins a quantifier. -/
inductive Text.IsLiteral : Text → Prop where
  | nil : IsLiteral []
  | cons {c rest} :
    c ∉ patternOperators →
    (c = '{' → Quantifier.read? rest = none) →
    IsLiteral rest →
    IsLiteral (c :: rest)

namespace Text.IsLiteral

lemma cons_iff {c : Char} {rest : Text} : IsLiteral (c :: rest) ↔
    c ∉ patternOperators ∧ (c = '{' → Quantifier.read? rest = none) ∧ IsLiteral rest := by
  constructor
  · intro h
    cases h with
    | cons hc hbrace hrest => exact ⟨hc, hbrace, hrest⟩
  · intro ⟨hc, hbrace, hrest⟩
    exact .cons hc hbrace hrest

lemma not_mem {s : Text} (h : IsLiteral s) : ∀ c ∈ s, c ∉ patternOperators := by
  induction h with
  | nil => exact List.forall_mem_nil _
  | cons hc _ _ ih => exact List.forall_mem_cons.2 ⟨hc, ih⟩

instance decidable : (s : Text) → Decidable s.IsLiteral
  | [] => isTrue .nil
  | _ :: rest =>
    have := decidable rest
    decidable_of_iff _ cons_iff.symm

end Text.IsLiteral

variable {c : Char} {rest s : Text}

/-! ## Cutting -/

/-- The token of a character of a literal pattern. -/
def literalToken (c : Char) : Token := if c = '{' ∨ c = '}' then .brace c else .char c

lemma read_of_literal {options : Bool} (hc : c ∉ patternOperators)
    (hbrace : c = '{' → Quantifier.read? rest = none) :
    Token.read options c rest = (literalToken c, rest) := by
  rw [Token.read.eq_def]
  split
  case h_3 =>
    rw [hbrace rfl]
    rfl
  case h_4 => rfl
  case h_6 hopen hclose _ => rw [literalToken, if_neg fun h => h.elim hopen hclose]
  all_goals exact absurd (by decide) hc

/-- A literal pattern is cut into its characters. -/
lemma tokens_of_isLiteral (options : Bool) (h : s.IsLiteral) :
    tokens options s = s.map literalToken := by
  induction h with
  | nil => rw [tokens, List.map_nil]
  | cons hc hbrace _ ih => rw [tokens, read_of_literal hc hbrace, ih, List.map_cons]

/-! ## Texts -/

lemma reads_literalToken (hc : c ∉ patternOperators) :
    Reads {} (literalToken c).textForm [.set (.single c)] := by
  rw [literalToken]
  split
  · next hbrace =>
    rcases hbrace with rfl | rfl
    · exact reads_escapeMeta {} ['{']
    · exact reads_escapeMeta {} ['}']
  · next hbrace =>
    have hoperator : c ∉ operators := by
      intro hmem
      have hall : operators ⊆ '{' :: patternOperators := by decide
      exact (List.mem_cons.1 (hall hmem)).elim (fun h => hbrace (.inl h)) hc
    exact (readsUnit_literal hoperator rfl rfl).reads

/-- A literal pattern stands for its characters one after the other. -/
lemma reads_textPattern (h : s.IsLiteral) :
    Reads {} (textPattern s) (s.map fun c => .set (.single c)) := by
  rw [textPattern, tokens_of_isLiteral false h]
  induction h with
  | nil => exact .nil
  | cons hc _ _ ih => exact (reads_literalToken hc).append ih

/-- On texts a literal pattern is looked for as it stands. -/
theorem exists_parse?_textPattern (h : s.IsLiteral) :
    ∃ r, Regex.parse? {} (textPattern s) = some r ∧
      ∀ text, r.isMatch text = true ↔ s <:+: text := by
  refine ⟨_, (reads_textPattern h).parse? rfl, fun text => ?_⟩
  rw [isMatch_iff]
  constructor
  · intro ⟨before, mid, after, htext, hmatch⟩
    obtain rfl := matches_literals.1 hmatch
    exact ⟨before, after, htext⟩
  · intro ⟨before, after, htext⟩
    exact ⟨before, s, after, htext, matches_literals.2 rfl⟩

/-! ## Plain pronunciations -/

/-- A regular expression for plain pronunciations that is read wherever it stands. -/
def IsReadable (regex : Text) : Prop := ∃ rs, Reads Searcher.plainFlags regex rs

namespace IsReadable

lemma nil : IsReadable [] := ⟨[], .nil⟩

lemma append {a b : Text} (ha : IsReadable a) (hb : IsReadable b) : IsReadable (a ++ b) := by
  obtain ⟨rs, hrs⟩ := ha
  obtain ⟨rs', hrs'⟩ := hb
  exact ⟨rs ++ rs', hrs.append hrs'⟩

lemma escaped (s : Text) : IsReadable (escapeMeta s) := ⟨_, reads_escapeMeta _ s⟩

lemma space : IsReadable [' '] := ⟨_, Transcriber.reads_space⟩

lemma boundary : IsReadable Transcriber.boundary := ⟨_, reads_boundary rfl rfl⟩

lemma grouped {a : Text} (ha : IsReadable a) : IsReadable (PinyinSearch.grouped a) := by
  obtain ⟨rs, hrs⟩ := ha
  exact ⟨_, (Transcriber.readsUnit_grouped hrs).reads⟩

lemma dot : IsReadable ['.'] := ⟨_, (readsUnit_dot rfl rfl rfl rfl).reads⟩

lemma start : IsReadable ['^'] := ⟨_, reads_start rfl rfl⟩

lemma stop : IsReadable ['$'] := ⟨_, reads_stop rfl rfl⟩

lemma exists_parse? {a : Text} (h : IsReadable a) :
    ∃ r, Regex.parse? Searcher.plainFlags a = some r := by
  obtain ⟨rs, hrs⟩ := h
  exact ⟨_, hrs.parse? rfl⟩

/-- Alternatives that are read by themselves are read together, and match what one of them does. -/
lemma exists_parse?_join {ss : List Text} (hss : ss ≠ []) (h : ∀ s ∈ ss, IsReadable s) :
    ∃ r, Regex.parse? Searcher.plainFlags (Text.join ['|'] (ss.map PinyinSearch.grouped)) =
        some r ∧
      ∀ text, r.isMatch text = true ↔
        ∃ s ∈ ss, ∃ r, Regex.parse? Searcher.plainFlags s = some r ∧ r.isMatch text = true := by
  choose! rs hrs using h
  have hreads : List.Forall₂ (Reads Searcher.plainFlags) (ss.map PinyinSearch.grouped)
      (ss.map fun s => [seqs (rs s)]) := by
    rw [List.forall₂_map_left_iff, List.forall₂_map_right_iff, List.forall₂_same]
    exact fun s hs => (Transcriber.readsUnit_grouped (hrs s hs)).reads
  have hne : ss.map PinyinSearch.grouped ≠ [] := fun hnil => hss (List.map_eq_nil_iff.1 hnil)
  refine ⟨_, parse?_alternatives hreads hne rfl, fun text => ?_⟩
  have halts : ∀ {before mid after : Text},
      (alts ((ss.map fun s => [seqs (rs s)]).map seqs)).Matches before mid after ↔
        ∃ s ∈ ss, (seqs (rs s)).Matches before mid after := by
    intro before mid after
    rw [matches_alts (by simpa using hss)]
    simp only [List.map_map, List.mem_map, exists_exists_and_eq_and, Function.comp_apply,
      matches_seqs_singleton]
  simp only [isMatch_iff, halts]
  constructor
  · rintro ⟨before, mid, after, htext, s, hs, hmatch⟩
    exact ⟨s, hs, _, (hrs s hs).parse? rfl, before, mid, after, htext, hmatch⟩
  · rintro ⟨s, hs, r, hparse, before, mid, after, htext, hmatch⟩
    obtain rfl : seqs (rs s) = r := Option.some.inj (((hrs s hs).parse? rfl).symm.trans hparse)
    exact ⟨before, mid, after, htext, s, hs, hmatch⟩

end IsReadable

/-- A segment that is read wherever it stands; there are no operators among these. -/
def Segment.IsReadable : Segment → Prop
  | .syllable regex | .fragment regex | .raw regex => PinyinSearch.IsReadable regex
  | .optional _ | .opener _ | .closer => False

namespace Transcriber

variable {t : Transcriber} {fuzzy : Bool}

lemma isReadable_form {segment : Segment} (h : segment.IsReadable) (after : Bool)
    (next : Option Segment) : IsReadable (t.form after next segment) := by
  cases segment with
  | syllable regex =>
    rw [form]
    split
    · exact .append .boundary h
    · exact .append (.append .boundary h) .boundary
  | fragment regex => exact .append .boundary h
  | raw regex => exact h
  | optional _ => exact h.elim
  | opener _ => exact h.elim
  | closer => exact h.elim

lemma isReadable_write {segments : List Segment} (h : ∀ segment ∈ segments, segment.IsReadable)
    (after : Bool) : IsReadable (t.write after segments) := by
  induction segments generalizing after with
  | nil => exact .nil
  | cons segment segments ih =>
    rw [List.forall_mem_cons] at h
    have hspace : IsReadable (if after && segment.startsSyllable then [' '] else []) := by
      split
      · exact .space
      · exact .nil
    rw [write]
    exact (hspace.append (isReadable_form h.1 after _)).append (ih h.2 _)

lemma isReadable_syllable (s : Text) : IsReadable (t.syllable fuzzy s) := by
  rw [syllable]
  split
  · exact .escaped s
  · exact ⟨_, (readsUnit_escapedGroup _ (List.cons_ne_nil _ _)).reads⟩

lemma isReadable_piecesAfter (fragment : Text) (pieces : List Piece) :
    ∀ segment ∈ t.piecesAfter fuzzy fragment pieces, segment.IsReadable := by
  have hfragment : ∀ fragment, ∀ segment ∈ (if fragment = [] then []
      else [Segment.fragment (escapeMeta fragment)]), segment.IsReadable := by
    intro fragment segment hmem
    split at hmem
    · cases hmem
    · obtain rfl := List.mem_singleton.1 hmem
      exact .escaped fragment
  induction pieces generalizing fragment with
  | nil => exact hfragment fragment
  | cons piece pieces ih =>
    cases piece with
    | fragment s => exact ih _
    | syllable s =>
      rw [piecesAfter, List.forall_mem_append, List.forall_mem_cons]
      exact ⟨hfragment fragment, isReadable_syllable s, ih []⟩

lemma isReadable_letters (run : Text) : ∀ segment ∈ t.letters fuzzy run, segment.IsReadable :=
  isReadable_piecesAfter [] _

lemma isReadable_ideograph (c : Char) : (t.ideograph fuzzy c).IsReadable := by
  rw [ideograph]
  split
  · exact .escaped [c]
  · exact .escaped [c]
  · exact isReadable_syllable _

/-- A token that asks for nothing before it or behind it: a brace, or a character that is no
operator of repetition, no bar and no closing parenthesis. -/
def IsPlainToken : Token → Prop
  | .char c => c ∉ [')', '*', '+', '?', '|']
  | .brace c => c = '{' ∨ c = '}'
  | _ => False

lemma isReadable_symbol (hc : c ∉ [')', '*', '+', '?', '|']) :
    ∀ segment ∈ t.symbol fuzzy c, segment.IsReadable := by
  rw [symbol.eq_def]
  split
  case h_2 => exact List.forall_mem_singleton.2 .start
  case h_3 => exact List.forall_mem_singleton.2 .stop
  case h_8 => exact List.forall_mem_nil _
  case h_9 =>
    split
    · exact List.forall_mem_singleton.2 (.escaped [c])
    · exact List.forall_mem_singleton.2 (isReadable_ideograph c)
  all_goals exact absurd (by decide) hc

/-- Plain tokens are cut into segments that are read, if the placeholder is. -/
lemma isReadable_segmentsAfter {ts : List Token} (hts : ∀ token ∈ ts, IsPlainToken token)
    (hdot : .char '.' ∈ ts → PinyinSearch.IsReadable t.placeholder) (run : Text) :
    ∀ segment ∈ t.segmentsAfter fuzzy run ts, segment.IsReadable := by
  induction ts generalizing run with
  | nil => exact isReadable_letters run
  | cons token ts ih =>
    rw [List.forall_mem_cons] at hts
    obtain ⟨htoken, hts⟩ := hts
    have ih := ih hts fun hmem => hdot (List.mem_cons_of_mem token hmem)
    cases token with
    | char c =>
      by_cases hc : c = '.'
      · subst hc
        have hcount : ∀ q interior more, ts ≠ .count q interior :: more := by
          rintro q interior more rfl
          exact hts _ List.mem_cons_self
        rw [segmentsAfter_dot hcount, List.forall_mem_append, List.forall_mem_cons]
        refine ⟨isReadable_letters run, ?_, ih []⟩
        split
        case h_4 => exact hdot List.mem_cons_self
        all_goals exact IsReadable.dot
      · cases halpha : c.isAlpha with
        | true =>
          rw [segmentsAfter_letter halpha]
          exact ih _
        | false =>
          rw [segmentsAfter_symbol hc halpha, List.append_assoc, List.forall_mem_append,
            List.forall_mem_append]
          exact ⟨isReadable_letters run, isReadable_symbol htoken, ih []⟩
    | brace c =>
      rw [segmentsAfter, List.forall_mem_append, List.forall_mem_cons]
      refine ⟨isReadable_letters run, ?_, ih []⟩
      rcases htoken with rfl | rfl
      · exact .escaped ['{']
      · exact .escaped ['}']
    | _ => exact htoken.elim

/-- The tokens of a literal pattern are plain, and no dot is among them. -/
lemma isPlainToken_literalToken (hc : c ∉ patternOperators) :
    IsPlainToken (literalToken c) ∧ literalToken c ≠ .char '.' := by
  rw [literalToken]
  split
  · next hbrace => exact ⟨hbrace, Token.noConfusion⟩
  · have hsubset : [')', '*', '+', '?', '|'] ⊆ patternOperators := by decide
    refine ⟨fun hmem => hc (hsubset hmem), fun hdot => ?_⟩
    exact hc (Token.char.inj hdot ▸ by decide)

lemma isReadable_transcribeOne (h : s.IsLiteral) : IsReadable (t.transcribeOne fuzzy s) := by
  have htokens : ∀ token ∈ tokens true s, IsPlainToken token ∧ token ≠ .char '.' := by
    rw [tokens_of_isLiteral true h, List.forall_mem_map]
    exact fun c hc => isPlainToken_literalToken (h.not_mem c hc)
  refine isReadable_write (isReadable_segmentsAfter (fun token ht => (htokens token ht).1) ?_ [])
    false
  exact fun hdot => absurd rfl (htokens _ hdot).2

end Transcriber

/-! ## Variants -/

namespace Text.IsLiteral

/-- The characters of finals mean nothing in patterns, and they belong to no quantifier. -/
lemma of_mem_finals {final : Text} (h : final ∈ Syllable.finals) :
    ∃ c s, final = c :: s ∧ (¬ (c.isDigit = true ∨ c = ',') ∧ c ≠ '}') ∧
      ∀ d ∈ final, d ∉ patternOperators ∧ d ≠ '{' := by
  have hall : (Syllable.finals.all fun final =>
      final.head?.any (fun c => decide (¬ (c.isDigit = true ∨ c = ',') ∧ c ≠ '}')) &&
        final.all fun d => decide (d ∉ patternOperators ∧ d ≠ '{')) = true := by decide
  simp only [List.all_eq_true, Bool.and_eq_true, Option.any_eq_true, decide_eq_true_eq] at hall
  obtain ⟨⟨c, hc, hne⟩, hchars⟩ := hall final h
  obtain ⟨s, rfl⟩ := List.head?_eq_some_iff.1 hc
  exact ⟨c, s, rfl, hne, hchars⟩

lemma append_of_forall {s rest : Text} (hs : ∀ c ∈ s, c ∉ patternOperators ∧ c ≠ '{')
    (h : IsLiteral rest) : IsLiteral (s ++ rest) := by
  induction s with
  | nil => exact h
  | cons c s ih =>
    obtain ⟨⟨hc, hbrace⟩, hs⟩ := List.forall_mem_cons.1 hs
    exact .cons hc (fun heq => absurd heq hbrace) (ih hs)

/-- A literal pattern stays literal if a final takes the place of an `@`. -/
lemma fill {left right final : Text} (hfinal : final ∈ Syllable.finals)
    (h : IsLiteral (left ++ '@' :: right)) : IsLiteral (left ++ (final ++ right)) := by
  obtain ⟨d, more, rfl, ⟨hdigit, hclose⟩, hchars⟩ := of_mem_finals hfinal
  induction left with
  | nil =>
    obtain ⟨-, -, hright⟩ := cons_iff.1 h
    rw [List.nil_append]
    exact append_of_forall hchars hright
  | cons c left ih =>
    obtain ⟨hc, hbrace, hleft⟩ := cons_iff.1 h
    -- a quantifier that began here would have ended before the final
    exact .cons hc (fun heq => Quantifier.read?_eq_none_of_append hdigit hclose (hbrace heq))
      (ih hleft)

/-- The variants of a literal pattern are literal. -/
lemma of_mem_openFinal {v : Text} (h : s.IsLiteral) (hv : v ∈ Syllable.openFinal s) :
    v.IsLiteral := by
  rw [Syllable.openFinal] at hv
  split at hv
  · next left right hsplit =>
    obtain ⟨final, hfinal, rfl⟩ := List.mem_map.1 hv
    have hjoin : ['@'].intercalate (s.splitOn '@') = s := List.intercalate_splitOn '@'
    rw [hsplit, List.intercalate_cons_cons, List.intercalate_singleton, List.append_assoc,
      List.singleton_append] at hjoin
    rw [List.append_assoc]
    exact fill hfinal (hjoin ▸ h)
  · obtain rfl := List.mem_singleton.1 hv
    exact h

end Text.IsLiteral

/-- A pattern has a variant. -/
lemma Syllable.openFinal_ne_nil (pattern : Text) : Syllable.openFinal pattern ≠ [] := by
  rw [openFinal]
  split
  · exact fun hnil => absurd (List.map_eq_nil_iff.1 hnil) (by decide)
  · exact List.cons_ne_nil _ _

/-- The regular expression for plain pronunciations that a literal pattern stands for is read. -/
theorem exists_parse?_transcribe {t : Transcriber} {fuzzy : Bool} (h : s.IsLiteral) :
    ∃ r, Regex.parse? Searcher.plainFlags (t.transcribe fuzzy s) = some r := by
  have hvariants : ∀ v ∈ Syllable.openFinal s, IsReadable (t.transcribeOne fuzzy v) :=
    fun v hv => Transcriber.isReadable_transcribeOne (h.of_mem_openFinal hv)
  rw [Transcriber.transcribe]
  split
  · exact (Transcriber.isReadable_transcribeOne h).exists_parse?
  · obtain ⟨r, hparse, -⟩ := IsReadable.exists_parse?_join
      (fun hnil => Syllable.openFinal_ne_nil s (List.map_eq_nil_iff.1 hnil))
      (List.forall_mem_map.2 hvariants)
    rw [List.map_map] at hparse
    exact ⟨r, hparse⟩

end PinyinSearch
