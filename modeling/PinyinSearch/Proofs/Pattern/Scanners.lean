import Mathlib.Data.List.TakeWhile
import PinyinSearch.Proofs.Pattern.TextSide
import PinyinSearch.Proofs.Pattern.Writings

/-!
# The two scanners of a pattern

The text side goes through a pattern character by character, and takes a class, an escape or a
quantifier at once.  The plain side also takes a run of letters at once, the options of a group and
a `.` with its quantifier.  Here each is a loop of its own over the pattern, which takes one turn
after the other and writes what the side is made of.

In a pattern without options the loops decide alike about all braces: they read the same quantifiers
at the same positions, and take the same braces for literal ones (`scanners_agree`).
-/

namespace PinyinSearch

open Text

/-! ## Turns -/

/-- One turn of a scanner. -/
structure Turn (α : Type) where
  /-- The number of characters taken behind the first one. -/
  more : Nat
  /-- The brace that is decided about, counted from the first character, and the quantifier that it
  opens.  Without a quantifier it is literal. -/
  brace : Option (Nat × Option Quantifier)
  /-- What is written. -/
  output : List α

/-- What a scanner decides about a brace. -/
structure BraceReading (α : Type) where
  position : Nat
  /-- The quantifier that the brace opens, and the position behind it. -/
  quantifier : Option (Quantifier × Nat)
  /-- Where the turn began. -/
  start : Nat
  /-- What is written in the turn. -/
  output : List α

variable {α : Type}

/-- The decision of a turn that begins at `start`. -/
def Turn.reading? (start : Nat) (turn : Turn α) : Option (BraceReading α) :=
  turn.brace.map fun brace =>
    ⟨start + brace.1, brace.2.map fun q => (q, start + turn.more + 1), start, turn.output⟩

/-- The turns of a scanner that begins at `start`, each with the position where it begins. -/
def turns (turn : Char → Text → Turn α) (start : Nat) (s : Text) : List (Nat × Turn α) :=
  match s with
  | [] => []
  | c :: rest =>
    (start, turn c rest) ::
      turns turn (start + (turn c rest).more + 1) (rest.drop (turn c rest).more)
termination_by s.length
decreasing_by
  simp only [List.length_drop, List.length_cons]; omega

/-- What is decided about braces, in order. -/
def readings (turn : Char → Text → Turn α) (start : Nat) (s : Text) : List (BraceReading α) :=
  (turns turn start s).filterMap fun taken => taken.2.reading? taken.1

/-- What is written in all turns. -/
def outputs (turn : Char → Text → Turn α) (start : Nat) (s : Text) : List α :=
  (turns turn start s).flatMap fun taken => taken.2.output

/-- A turn of the text side. -/
def textTurn (c : Char) (rest : Text) : Turn Char :=
  match c with
  | '[' => ⟨(Span.bracket rest).1.length, none, '[' :: (Span.bracket rest).1⟩
  | '\\' => ⟨(Span.escape rest).1.length, none, '\\' :: (Span.escape rest).1⟩
  | '{' =>
    match Quantifier.read? rest with
    | some (q, interior, _) => ⟨interior.length + 1, some (0, some q), q.canonical interior⟩
    | none => ⟨0, some (0, none), ['\\', '{']⟩
  | '}' => ⟨0, some (0, none), ['\\', '}']⟩
  | c => ⟨0, none, [c]⟩

namespace Transcriber

/-- The turn of a `.` on the plain side. -/
def wildcardTurn (t : Transcriber) (rest : Text) : Turn Segment :=
  match rest with
  | '*' :: _ | '+' :: _ | '?' :: _ => ⟨0, none, [.raw ['.']]⟩
  | '{' :: behind =>
    match Quantifier.read? behind with
    | some (q, interior, _) => ⟨interior.length + 2, some (1, some q), t.counted q interior⟩
    | none => ⟨0, none, [.syllable t.placeholder]⟩
  | _ => ⟨0, none, [.syllable t.placeholder]⟩

/-- A turn of the plain side at a character that is no letter. -/
def symbolTurn (t : Transcriber) (fuzzy : Bool) (c : Char) (rest : Text) : Turn Segment :=
  match c with
  | '[' => ⟨(Span.bracket rest).1.length, none, [.raw ('[' :: (Span.bracket rest).1)]⟩
  | '\\' => ⟨(Span.escape rest).1.length, none, [.raw ('\\' :: (Span.escape rest).1)]⟩
  | '.' => t.wildcardTurn rest
  | '{' =>
    match Quantifier.read? rest with
    | some (q, interior, _) =>
      ⟨interior.length + 1, some (0, some q), [.raw (q.canonical interior)]⟩
    | none => ⟨0, some (0, none), [.raw ['\\', '{']]⟩
  | '}' => ⟨0, some (0, none), [.raw ['\\', '}']]⟩
  | '(' =>
    let opener := '(' :: (Span.groupOpener rest).1
    ⟨(Span.groupOpener rest).1.length, none,
      [if opener.getLast? = some ')' then .raw opener else .opener opener]⟩
  | c => ⟨0, none, t.symbol fuzzy c⟩

/-- A turn of the plain side. -/
def plainTurn (t : Transcriber) (fuzzy : Bool) (c : Char) (rest : Text) : Turn Segment :=
  if c.isAlpha then
    ⟨(rest.takeWhile Char.isAlpha).length, none,
      t.letters fuzzy (c :: rest.takeWhile Char.isAlpha)⟩
  else t.symbolTurn fuzzy c rest

end Transcriber

/-! ## Running -/

section

variable {turn : Char → Text → Turn α} {start : Nat} {c : Char} {rest : Text}

lemma turns_nil : turns turn start [] = [] := by
  rw [turns]

lemma readings_nil : readings turn start [] = [] := by
  rw [readings, turns_nil, List.filterMap_nil]

lemma outputs_nil : outputs turn start [] = [] := by
  rw [outputs, turns_nil, List.flatMap_nil]

lemma readings_cons :
    readings turn start (c :: rest) = ((turn c rest).reading? start).toList ++
      readings turn (start + (turn c rest).more + 1) (rest.drop (turn c rest).more) := by
  rw [readings, turns, List.filterMap_cons]
  cases (turn c rest).reading? start <;> rfl

lemma outputs_cons :
    outputs turn start (c :: rest) = (turn c rest).output ++
      outputs turn (start + (turn c rest).more + 1) (rest.drop (turn c rest).more) := by
  rw [outputs, turns, List.flatMap_cons]
  rfl

/-- What is written for a text is determined by one turn and what is left behind it. -/
lemma outputs_eq {f : Text → List α} (hnil : f [] = [])
    (hcons : ∀ c rest, f (c :: rest) = (turn c rest).output ++ f (rest.drop (turn c rest).more))
    (s : Text) : outputs turn start s = f s := by
  induction start, s using turns.induct turn with
  | case1 start => rw [outputs_nil, hnil]
  | case2 start c rest ih => rw [outputs_cons, ih, hcons]

/-- What no turn writes is not written. -/
lemma not_mem_outputs {a : α} (h : ∀ c rest, a ∉ (turn c rest).output) (s : Text) :
    a ∉ outputs turn start s := by
  induction start, s using turns.induct turn with
  | case1 start =>
    rw [outputs_nil]
    exact List.not_mem_nil
  | case2 start c rest ih =>
    rw [outputs_cons, List.mem_append, not_or]
    exact ⟨h c rest, ih⟩

end

lemma drop_of_append {s taken rest : Text} (h : taken ++ rest = s) :
    s.drop taken.length = rest := by
  rw [← h, List.drop_left]

lemma drop_of_read? {s interior rest : Text} {q : Quantifier}
    (h : Quantifier.read? s = some (q, interior, rest)) : s.drop (interior.length + 1) = rest := by
  rw [Quantifier.eq_of_read? h, ← List.drop_drop, List.drop_left]
  rfl

lemma run_append {c : Char} {rest : Text} :
    c :: rest.takeWhile Char.isAlpha ++ rest.dropWhile Char.isAlpha = c :: rest := by
  rw [List.cons_append, List.takeWhile_append_dropWhile]

lemma isAlpha_of_mem_run {c : Char} {rest : Text} (hc : c.isAlpha = true) :
    ∀ d ∈ c :: rest.takeWhile Char.isAlpha, d.isAlpha = true := by
  rw [List.forall_mem_cons]
  exact ⟨hc, fun d hd => List.mem_takeWhile_imp hd⟩

/-- The turns of the text side write the regular expression for texts. -/
lemma outputs_textTurn {start : Nat} (s : Text) : outputs textTurn start s = textPattern s := by
  refine outputs_eq textPattern_nil (fun c rest => ?_) s
  have hturn : (textTurn c rest).output = (Token.read false c rest).1.textForm ∧
      rest.drop (textTurn c rest).more = (Token.read false c rest).2 := by
    rw [Token.read.eq_def, textTurn.eq_def]
    split
    case h_1 => exact ⟨rfl, drop_of_append (Span.bracket_append rest)⟩
    case h_2 => exact ⟨rfl, drop_of_append (Span.escape_append rest)⟩
    case h_3 =>
      cases hread : Quantifier.read? rest with
      | none => exact ⟨rfl, rfl⟩
      | some found => exact ⟨rfl, drop_of_read? hread⟩
    case h_4 => exact ⟨rfl, rfl⟩
    case h_5 hbracket hescape hopen hclose =>
      split
      case h_5 => exact ⟨rfl, rfl⟩
      case h_6 => exact ⟨rfl, rfl⟩
      all_goals contradiction
  rw [textPattern, tokens, List.flatMap_cons, hturn.1, hturn.2]
  rfl

namespace Transcriber

variable {t : Transcriber} {fuzzy : Bool} {start : Nat} {c : Char} {rest : Text}

/-- A dot that an operator repeats is any one character. -/
lemma segments_repeatedDot (hc : c = '*' ∨ c = '+' ∨ c = '?') :
    t.segments fuzzy ('.' :: c :: rest) = .raw ['.'] :: t.segments fuzzy (c :: rest) := by
  have hmarker : c ∉ markers := by
    rcases hc with rfl | rfl | rfl <;> decide
  rw [segments_cons, read_of_not_mem (by decide), segments, tokens, read_of_not_mem hmarker,
    segmentsAfter_dot (by simp)]
  rcases hc with rfl | rfl | rfl <;> rfl

lemma segments_wildcard :
    t.segments fuzzy ('.' :: rest) = (t.wildcardTurn rest).output ++
      t.segments fuzzy (rest.drop (t.wildcardTurn rest).more) := by
  rw [wildcardTurn.eq_def]
  split
  case h_1 => exact segments_repeatedDot (.inl rfl)
  case h_2 => exact segments_repeatedDot (.inr (.inl rfl))
  case h_3 => exact segments_repeatedDot (.inr (.inr rfl))
  case h_4 behind =>
    cases hread : Quantifier.read? behind with
    | none =>
      have hbrace : Token.read true '{' behind = (.brace '{', behind) := by
        rw [Token.read, hread]
      rw [segments_cons, read_of_not_mem (by decide), tokens, hbrace,
        segmentsAfter_dot (by simp)]
      show _ = [Segment.syllable t.placeholder] ++ t.segments fuzzy ('{' :: behind)
      rw [segments_cons, hbrace]
      rfl
    | some found =>
      obtain ⟨q, interior, after⟩ := found
      have htext : '.' :: '{' :: behind = '.' :: Quantifier.braced interior ++ after := by
        rw [Quantifier.eq_of_read? hread]
        simp [Quantifier.braced]
      rw [htext, segments_counted (Quantifier.ofInterior?_of_read? hread)]
      show _ = t.counted q interior ++ t.segments fuzzy (behind.drop (interior.length + 1))
      rw [drop_of_read? hread]
  case h_5 hstar hplus hopt hbrace =>
    apply segments_dot
    intro d hd
    obtain ⟨behind, rfl⟩ := List.head?_eq_some_iff.1 hd
    simp only [List.mem_cons, List.not_mem_nil, or_false, not_or]
    refine ⟨?_, ?_, ?_, ?_⟩
    · exact fun h => hstar behind (h ▸ rfl)
    · exact fun h => hplus behind (h ▸ rfl)
    · exact fun h => hopt behind (h ▸ rfl)
    · exact fun h => hbrace behind (h ▸ rfl)

lemma segments_symbolTurn (hc : c.isAlpha = false) :
    t.segments fuzzy (c :: rest) = (t.symbolTurn fuzzy c rest).output ++
      t.segments fuzzy (rest.drop (t.symbolTurn fuzzy c rest).more) := by
  rw [symbolTurn.eq_def]
  split
  case h_1 =>
    show _ = [Segment.raw _] ++ t.segments fuzzy (rest.drop (Span.bracket rest).1.length)
    rw [drop_of_append (Span.bracket_append rest), segments_cons, Token.read, segmentsAfter]
    rfl
  case h_2 =>
    show _ = [Segment.raw _] ++ t.segments fuzzy (rest.drop (Span.escape rest).1.length)
    rw [drop_of_append (Span.escape_append rest), segments_cons, Token.read, segmentsAfter]
    rfl
  case h_3 => exact segments_wildcard
  case h_4 =>
    rw [segments_cons, Token.read]
    cases hread : Quantifier.read? rest with
    | none =>
      rw [segmentsAfter]
      rfl
    | some found =>
      obtain ⟨q, interior, after⟩ := found
      show _ = [Segment.raw _] ++ t.segments fuzzy (rest.drop (interior.length + 1))
      rw [drop_of_read? hread, segmentsAfter]
      rfl
  case h_5 =>
    rw [segments_cons, Token.read, segmentsAfter]
    rfl
  case h_6 =>
    show _ = [_] ++ t.segments fuzzy (rest.drop (Span.groupOpener rest).1.length)
    rw [drop_of_append (Span.groupOpener_append rest), segments_cons, Token.read, if_pos rfl,
      segmentsAfter]
    rfl
  case h_7 hbracket hescape hdot hopen hclose hgroup =>
    exact segments_symbol (not_mem_markers hbracket hescape hopen hclose hgroup) hdot hc

/-- The turns of the plain side write its segments. -/
lemma outputs_plainTurn (s : Text) : outputs (t.plainTurn fuzzy) start s = t.segments fuzzy s := by
  refine outputs_eq segments_nil (fun c rest => ?_) s
  rw [plainTurn]
  split
  · next hc =>
    have hbehind : ∀ d ∈ (rest.dropWhile Char.isAlpha).head?, d.isAlpha = false := by
      intro d hd
      have hhead := List.head?_dropWhile_not Char.isAlpha rest
      rw [hd] at hhead
      simpa using hhead
    show _ = t.letters fuzzy _ ++ t.segments fuzzy (rest.drop (rest.takeWhile Char.isAlpha).length)
    rw [drop_of_append List.takeWhile_append_dropWhile,
      ← segments_letters (isAlpha_of_mem_run hc) hbehind, run_append]
  · next hc => exact segments_symbolTurn (Bool.eq_false_iff.2 hc)

end Transcriber

/-! ## Agreement -/

/-- Both sides decide alike about a brace.  They write the same for it, unless the plain side takes
a quantifier in the turn of a `.` before it. -/
structure Agrees (pattern : Text) (x : BraceReading Char) (y : BraceReading Segment) : Prop where
  position : x.position = y.position
  quantifier : x.quantifier = y.quantifier
  output : (y.start = y.position ∧ y.output = [.raw x.output]) ∨
    (y.start + 1 = y.position ∧ pattern[y.start]? = some '.' ∧ y.quantifier.isSome)

/-- What the text side may decide about a brace: a closing one by itself is literal, as is an
opening one behind which no quantifier is read. -/
inductive Decides (pattern : Text) : BraceReading Char → Prop where
  | closing {i rest} :
    pattern.drop i = '}' :: rest →
    Decides pattern ⟨i, none, i, ['\\', '}']⟩
  | opening {i rest} :
    pattern.drop i = '{' :: rest →
    Quantifier.read? rest = none →
    Decides pattern ⟨i, none, i, ['\\', '{']⟩
  | quantifier {i stop rest q interior} :
    pattern.drop i = '{' :: rest →
    Quantifier.read? rest = some (q, interior, pattern.drop stop) →
    Decides pattern ⟨i, some (q, stop), i, q.canonical interior⟩

section

variable {t : Transcriber} {fuzzy : Bool} {pattern : Text} {start : Nat} {c : Char} {rest : Text}

/-- A character that no case of the text side is about is copied. -/
lemma textTurn_char (h : c ∉ Transcriber.markers ∨ c = '(') :
    textTurn c rest = ⟨0, none, [c]⟩ := by
  rw [textTurn.eq_def]
  split
  case h_5 => rfl
  all_goals
    rcases h with h | h
    · exact absurd (by decide) h
    · cases h

lemma readings_char (h : c ∉ Transcriber.markers ∨ c = '(') :
    readings textTurn start (c :: rest) = readings textTurn (start + 1) rest := by
  rw [readings_cons, textTurn_char h]
  rfl

/-- Letters are taken one after the other without a decision. -/
lemma readings_letters {run : Text} (hrun : ∀ d ∈ run, d.isAlpha = true) :
    readings textTurn start (run ++ rest) = readings textTurn (start + run.length) rest := by
  induction run generalizing start with
  | nil => rfl
  | cons d run ih =>
    rw [List.forall_mem_cons] at hrun
    rw [List.cons_append, readings_char (.inl (Transcriber.not_marker_of_isAlpha hrun.1)),
      ih hrun.2, List.length_cons, Nat.add_right_comm, Nat.add_assoc]

/-- While the plain side takes a turn, the text side makes the same decisions and comes to the same
position. -/
def Follows (pattern : Text) (start : Nat) (s : Text) (turn : Turn Segment) : Prop :=
  ∃ found, readings textTurn start s =
      found ++ readings textTurn (start + turn.more + 1) (s.drop (turn.more + 1)) ∧
    List.Forall₂ (Agrees pattern) found (turn.reading? start).toList

/-- The text side takes the same characters in one turn. -/
lemma Follows.of_turn {turn : Turn Segment} (hmore : turn.more = (textTurn c rest).more)
    (h : List.Forall₂ (Agrees pattern) ((textTurn c rest).reading? start).toList
      (turn.reading? start).toList) :
    Follows pattern start (c :: rest) turn := by
  refine ⟨_, ?_, h⟩
  rw [readings_cons, hmore, List.drop_succ_cons]

lemma follows_char {output : List Segment} (h : c ∉ Transcriber.markers ∨ c = '(') :
    Follows pattern start (c :: rest) ⟨0, none, output⟩ :=
  ⟨[], readings_char h, .nil⟩

lemma follows_wildcard (hstart : pattern[start]? = some '.') :
    Follows pattern start ('.' :: rest) (t.wildcardTurn rest) := by
  have hdot : '.' ∉ Transcriber.markers ∨ '.' = '(' := .inl (by decide)
  rw [Transcriber.wildcardTurn.eq_def]
  split
  case h_4 behind =>
    cases hread : Quantifier.read? behind with
    | none => exact follows_char hdot
    | some found =>
      obtain ⟨q, interior, after⟩ := found
      have hbrace : textTurn '{' behind =
          ⟨interior.length + 1, some (0, some q), q.canonical interior⟩ := by
        rw [textTurn, hread]
      have hend : start + 1 + (interior.length + 1) + 1 = start + (interior.length + 2) + 1 := by
        omega
      -- the text side takes the dot by itself, and the quantifier in its next turn
      refine ⟨[⟨start + 1, some (q, start + (interior.length + 2) + 1), start + 1,
        q.canonical interior⟩], ?_, .cons ⟨rfl, rfl, .inr ⟨rfl, hstart, rfl⟩⟩ .nil⟩
      rw [readings_char hdot, readings_cons, hbrace, hend, Turn.reading?, Option.map_some,
        Option.map_some, hend]
      rfl
  all_goals exact follows_char hdot

lemma follows_symbol (hstart : pattern[start]? = some c) (hgroup : ¬ ['(', '?'] <+: c :: rest) :
    Follows pattern start (c :: rest) (t.symbolTurn fuzzy c rest) := by
  rw [Transcriber.symbolTurn.eq_def]
  split
  case h_1 => exact .of_turn rfl .nil
  case h_2 => exact .of_turn rfl .nil
  case h_3 => exact follows_wildcard hstart
  case h_4 =>
    cases hread : Quantifier.read? rest with
    | none =>
      apply Follows.of_turn
      · rw [textTurn, hread]
      · rw [textTurn, hread]
        exact .cons ⟨rfl, rfl, .inl ⟨rfl, rfl⟩⟩ .nil
    | some found =>
      apply Follows.of_turn
      · rw [textTurn, hread]
      · rw [textTurn, hread]
        exact .cons ⟨rfl, rfl, .inl ⟨rfl, rfl⟩⟩ .nil
  case h_5 => exact .of_turn rfl (.cons ⟨rfl, rfl, .inl ⟨rfl, rfl⟩⟩ .nil)
  case h_6 =>
    have hopener : Span.groupOpener rest = ([], rest) := by
      rw [Span.groupOpener.eq_def]
      split
      · next options => exact absurd ⟨options, rfl⟩ hgroup
      · rfl
    rw [hopener]
    exact follows_char (.inr rfl)
  case h_7 hbracket hescape hdot hopen hclose hopener =>
    apply follows_char
    exact .inl (Transcriber.not_mem_markers hbracket hescape hopen hclose hopener)

lemma follows_plainTurn (hstart : pattern[start]? = some c) (hgroup : ¬ ['(', '?'] <+: c :: rest) :
    Follows pattern start (c :: rest) (t.plainTurn fuzzy c rest) := by
  rw [Transcriber.plainTurn]
  split
  · next hc =>
    refine ⟨[], ?_, .nil⟩
    rw [List.drop_succ_cons, drop_of_append List.takeWhile_append_dropWhile, ← run_append,
      readings_letters (isAlpha_of_mem_run hc)]
    rfl
  · exact follows_symbol hstart hgroup

lemma getElem?_of_drop (hs : pattern.drop start = c :: rest) : pattern[start]? = some c := by
  rw [← List.head?_drop, hs, List.head?_cons]

lemma drop_of_drop {n : Nat} (hs : pattern.drop start = c :: rest) :
    pattern.drop (start + n + 1) = rest.drop n := by
  rw [Nat.add_assoc, ← List.drop_drop, hs, List.drop_succ_cons]

/-- From any position on, both sides make the same decisions. -/
lemma forall₂_agrees {s : Text} (hs : pattern.drop start = s) (hgroup : ¬ ['(', '?'] <:+: s) :
    List.Forall₂ (Agrees pattern) (readings textTurn start s)
      (readings (t.plainTurn fuzzy) start s) := by
  -- the turns of the plain side are the longer ones
  induction start, s using turns.induct (t.plainTurn fuzzy) with
  | case1 start =>
    rw [readings_nil, readings_nil]
    exact .nil
  | case2 start c rest ih =>
    have hfollows : Follows pattern start (c :: rest) (t.plainTurn fuzzy c rest) :=
      follows_plainTurn (getElem?_of_drop hs) fun h => hgroup h.isInfix
    obtain ⟨found, hfound, hagree⟩ := hfollows
    rw [hfound, readings_cons]
    refine List.rel_append hagree (ih (drop_of_drop hs) fun h => hgroup ?_)
    exact h.trans ((List.drop_suffix _ _).trans (List.suffix_cons c rest)).isInfix

/-! ## Braces -/

lemma decides_textTurn {x : BraceReading Char} (hs : pattern.drop start = c :: rest)
    (hx : (textTurn c rest).reading? start = some x) : Decides pattern x := by
  rw [textTurn.eq_def] at hx
  split at hx
  case h_1 => cases hx
  case h_2 => cases hx
  case h_3 =>
    cases hread : Quantifier.read? rest with
    | none =>
      rw [hread] at hx
      cases hx
      exact .opening hs hread
    | some found =>
      obtain ⟨q, interior, after⟩ := found
      rw [hread] at hx
      cases hx
      refine .quantifier hs ?_
      rw [drop_of_drop hs, drop_of_read? hread, hread]
  case h_4 =>
    cases hx
    exact .closing hs
  case h_5 => cases hx

lemma decides_of_mem {s : Text} (hs : pattern.drop start = s) :
    ∀ x ∈ readings textTurn start s, Decides pattern x := by
  intro x hx
  induction start, s using turns.induct textTurn with
  | case1 start =>
    rw [readings_nil] at hx
    cases hx
  | case2 start c rest ih =>
    rw [readings_cons, List.mem_append, Option.mem_toList] at hx
    rcases hx with hx | hx
    · exact decides_textTurn hs hx
    · exact ih (drop_of_drop hs) hx

/-- The text side takes a position in a turn that begins a class or an escape, or that decides about
a brace. -/
def IsTaken (pattern : Text) (start : Nat) (s : Text) (i : Nat) : Prop :=
  ∃ taken ∈ turns textTurn start s, taken.1 ≤ i ∧ i ≤ taken.1 + taken.2.more ∧
    (pattern[taken.1]? = some '[' ∨ pattern[taken.1]? = some '\\' ∨ taken.2.brace.isSome)

/-- Every brace is taken. -/
lemma isTaken_of_brace {s : Text} {i : Nat} {d : Char} (hs : pattern.drop start = s)
    (hi : s[i]? = some d) (hd : d = '{' ∨ d = '}') : IsTaken pattern start s (start + i) := by
  induction start, s using turns.induct textTurn generalizing i with
  | case1 start => cases hi
  | case2 start c rest ih =>
    rw [IsTaken, turns]
    by_cases hmore : i ≤ (textTurn c rest).more
    · refine ⟨_, List.mem_cons_self, Nat.le_add_right start i, Nat.add_le_add_left hmore start, ?_⟩
      rw [getElem?_of_drop hs]
      rw [textTurn.eq_def] at hmore ⊢
      split at hmore
      case h_1 => exact .inl rfl
      case h_2 => exact .inr (.inl rfl)
      case h_3 => cases hread : Quantifier.read? rest <;> exact .inr (.inr rfl)
      case h_4 => exact .inr (.inr rfl)
      case h_5 hopen hclose =>
        obtain rfl := Nat.le_zero.1 hmore
        obtain rfl := Option.some.inj hi
        rcases hd with hd | hd
        · exact absurd hd hopen
        · exact absurd hd hclose
    · obtain ⟨k, rfl⟩ := Nat.exists_eq_add_of_lt (Nat.lt_of_not_le hmore)
      have hbehind : (rest.drop (textTurn c rest).more)[k]? = some d := by
        rw [List.getElem?_drop, ← hi, List.getElem?_cons_succ]
      obtain ⟨taken, hmem, htaken⟩ := ih (drop_of_drop hs) hbehind
      have hposition : start + (textTurn c rest).more + 1 + k =
          start + ((textTurn c rest).more + k + 1) := by omega
      rw [hposition] at htaken
      exact ⟨taken, List.mem_cons_of_mem _ hmem, htaken⟩

end

/-- In a pattern without options of groups, both sides make the same decisions about braces, one
after the other: the same quantifiers with the same ends, those behind a `.` included, and the same
literal braces.  They write the same for a brace unless its quantifier is taken with a `.`.  All
braces but those in classes and escapes are decided about. -/
theorem scanners_agree (t : Transcriber) (fuzzy : Bool) {pattern : Text}
    (hgroup : ¬ ['(', '?'] <:+: pattern) :
    outputs textTurn 0 pattern = textPattern pattern ∧
    outputs (t.plainTurn fuzzy) 0 pattern = t.segments fuzzy pattern ∧
    List.Forall₂ (Agrees pattern) (readings textTurn 0 pattern)
      (readings (t.plainTurn fuzzy) 0 pattern) ∧
    (∀ x ∈ readings textTurn 0 pattern, Decides pattern x) ∧
    ∀ i c, pattern[i]? = some c → c = '{' ∨ c = '}' → IsTaken pattern 0 pattern i := by
  refine ⟨outputs_textTurn pattern, Transcriber.outputs_plainTurn pattern,
    forall₂_agrees List.drop_zero hgroup, decides_of_mem List.drop_zero, ?_⟩
  intro i c hi hc
  have h := isTaken_of_brace List.drop_zero hi hc
  rwa [Nat.zero_add] at h

/-- A quantifier behind a dot, one behind a letter, a literal brace, braces in a class and in an
escape, and another literal brace. -/
def manyBraces : Text := "a.{2}x{,3}\x7d[\x7b]\\p{2}\x7b".toList

theorem scanners_agree_sample :
    ¬ ['(', '?'] <:+: manyBraces ∧
    (readings textTurn 0 manyBraces).map BraceReading.quantifier =
      [some (.exactly 2, 5), some (.upTo 3, 10), none, none] ∧
    List.Forall₂ (Agrees manyBraces) (readings textTurn 0 manyBraces)
      (readings (Phrase.sampleTranscriber.plainTurn false) 0 manyBraces) := by
  have hgroup : ¬ ['(', '?'] <:+: manyBraces := by decide
  exact ⟨hgroup, by decide +kernel, (scanners_agree Phrase.sampleTranscriber false hgroup).2.2.1⟩

end PinyinSearch
