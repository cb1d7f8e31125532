import PinyinSearch.Proofs.Pattern.QuantifierGrammar
import PinyinSearch.Proofs.Pattern.Scanners
import PinyinSearch.Proofs.Pattern.Spans

/-!
# Spans by positions

The spans of a pattern are found here by positions instead of texts: each function is given the
position where a span begins, looks at characters and slices of the pattern, and returns the
position where the span ends.  Whatever is looked at must be there: a slice beyond the pattern is a
failure, as is a difference below zero, and then there is no result.  The spans end where `Span`
says (`classEnd?_of_drop`, `escapeEnd?_of_drop`, `groupEnd?_of_drop`, `quantifierAt?_of_drop`), so
nothing fails, whatever the pattern.
-/

namespace PinyinSearch

namespace Cursor

/-! ## Checked operations -/

/-- The characters between two positions, which must be in order and within the text. -/
def slice? (s : Text) (start stop : Nat) : Option Text :=
  if start ≤ stop ∧ stop ≤ s.length then some (s.extract start stop) else none

/-- A difference that must not be below zero. -/
def sub? (m n : Nat) : Option Nat := if n ≤ m then some (m - n) else none

/-! ## Ends -/

/-- The quantifier that a brace at a position opens, if any, and the position behind it. -/
def quantifierAt? (s : Text) (opening : Nat) : Option (Option (Quantifier × Nat)) := do
  let behind ← slice? s (opening + 1) s.length
  match behind.idxOf? '}' with
  | none => return none
  | some k =>
    let interior ← slice? s (opening + 1) (opening + 1 + k)
    return (Quantifier.ofInterior? interior).map fun q => (q, opening + 1 + k + 1)

/-- The position behind a character, if it stands at the given one. -/
def skipIf (s : Text) (c : Char) (i : Nat) : Nat := if s[i]? = some c then i + 1 else i

/-- The end of the body of a class, of which a position is reached with some classes open. -/
def classFrom? (s : Text) (depth i : Nat) : Option Nat :=
  if _h : i < s.length then
    match s[i]? with
    | none => none
    | some '\\' => classFrom? s depth (i + 2)
    | some '[' => classFrom? s (depth + 1) (i + 1)
    | some ']' => do
      let outer ← sub? depth 1
      if outer = 0 then return i + 1 else classFrom? s outer (i + 1)
    | some _ => classFrom? s depth (i + 1)
  else some s.length
termination_by s.length - i

/-- The end of the class that opens at a position. -/
def classEnd? (s : Text) (opening : Nat) : Option Nat :=
  classFrom? s 1 (skipIf s ']' (skipIf s '^' (opening + 1)))

/-- The end of the escape that begins at a position. -/
def escapeEnd? (s : Text) (start : Nat) : Option Nat :=
  match s[start + 1]? with
  | none => some s.length
  | some kind =>
    if Span.argumentLength kind ≠ 0 ∧ s[start + 2]? = some '{' then do
      let behind ← slice? s (start + 3) s.length
      match behind.idxOf? '}' with
      | none => return s.length
      | some k => return min (start + 3 + k + 1) s.length
    else some (min (start + 2 + Span.argumentLength kind) s.length)

/-- The end of the options of a group, of which a position is reached. -/
def optionsFrom? (s : Text) (i : Nat) : Option Nat :=
  if _h : i < s.length then
    match s[i]? with
    | none => none
    | some c => if c == ':' || c == '>' || c == ')' then some (i + 1) else optionsFrom? s (i + 1)
  else some i
termination_by s.length - i

/-- The end of the opener of the group that opens at a position. -/
def groupEnd? (s : Text) (opening : Nat) : Option Nat :=
  if s[opening + 1]? = some '?' then optionsFrom? s (opening + 2) else some (opening + 1)

/-! ## Slices -/

variable {s rest taken : Text} {i : Nat} {c : Char}

lemma length_of_drop (h : s.drop i = c :: rest) : i + 1 + rest.length = s.length := by
  have hlength := congrArg List.length h
  rw [List.length_drop, List.length_cons] at hlength
  omega

lemma lt_length_of_drop (h : s.drop i = c :: rest) : i < s.length := by
  have hi := length_of_drop h
  omega

lemma drop_succ (h : s.drop i = c :: rest) : s.drop (i + 1) = rest := by
  rw [← List.drop_drop, h]
  rfl

lemma getElem?_succ (h : s.drop i = c :: rest) : s[i + 1]? = rest.head? := by
  rw [← List.head?_drop, drop_succ h]

/-- What stands at a position is sliced off there. -/
lemma slice?_of_drop (hi : i ≤ s.length) (h : s.drop i = taken ++ rest) :
    slice? s i (i + taken.length) = some taken := by
  have hlength := congrArg List.length h
  rw [List.length_drop, List.length_append] at hlength
  rw [slice?, if_pos ⟨Nat.le_add_right .., by omega⟩, List.extract_eq_take_drop,
    Nat.add_sub_cancel_left, h, List.take_left]

lemma slice?_length (hi : i ≤ s.length) : slice? s i s.length = some (s.drop i) := by
  have h := slice?_of_drop hi (List.append_nil (s.drop i)).symm
  rwa [List.length_drop, Nat.add_sub_of_le hi] at h

lemma sub?_of_le {m n : Nat} (h : n ≤ m) : sub? m n = some (m - n) := if_pos h

/-! ## Quantifiers -/

lemma idxOf?_eq_cutAt (sep : Char) (s : Text) :
    s.idxOf? sep = (Text.cutAt sep s).map fun parts => parts.1.length := by
  induction s with
  | nil => rfl
  | cons c s ih =>
    rw [List.idxOf?_cons, Text.cutAt, ih]
    by_cases hc : c = sep
    · simp [hc]
    · simp [hc, Function.comp_def]

lemma quantifierAt?_of_drop (h : s.drop i = c :: rest) :
    quantifierAt? s i = some (Quantifier.at? s i) := by
  have hi := length_of_drop h
  rw [quantifierAt?, slice?_length (by omega), Quantifier.at?, Quantifier.read?, drop_succ h]
  simp only [Option.bind_eq_bind, Option.bind_some, idxOf?_eq_cutAt]
  cases hcut : Text.cutAt '}' rest with
  | none => rfl
  | some parts =>
    obtain ⟨interior, after⟩ := parts
    have hinterior : slice? s (i + 1) (i + 1 + interior.length) = some interior := by
      apply slice?_of_drop (by omega)
      rw [drop_succ h]
      exact Text.eq_of_cutAt hcut
    simp only [Option.map_some, hinterior, Option.bind_some, Option.map_map, Function.comp_def,
      Option.pure_def, Option.some_inj]
    congr 1
    funext q
    rw [Nat.add_right_comm i 1]

/-! ## Classes -/

section

variable {depth : Nat}

lemma classFrom?_stop (h : s.drop i = []) : classFrom? s depth i = some s.length := by
  rw [classFrom?, dif_neg (Nat.not_lt.2 (List.drop_eq_nil_iff.1 h))]

lemma classFrom?_escaped (h : s.drop i = '\\' :: rest) :
    classFrom? s depth i = classFrom? s depth (i + 2) := by
  rw [classFrom?, dif_pos (lt_length_of_drop h), getElem?_of_drop h]
  rfl

lemma classFrom?_open (h : s.drop i = '[' :: rest) :
    classFrom? s depth i = classFrom? s (depth + 1) (i + 1) := by
  rw [classFrom?, dif_pos (lt_length_of_drop h), getElem?_of_drop h]
  rfl

lemma classFrom?_close_one (h : s.drop i = ']' :: rest) : classFrom? s 1 i = some (i + 1) := by
  rw [classFrom?, dif_pos (lt_length_of_drop h), getElem?_of_drop h]
  rfl

lemma classFrom?_close (h : s.drop i = ']' :: rest) :
    classFrom? s (depth + 2) i = classFrom? s (depth + 1) (i + 1) := by
  rw [classFrom?, dif_pos (lt_length_of_drop h), getElem?_of_drop h]
  rfl

lemma classFrom?_char (h : s.drop i = c :: rest) (hopen : c ≠ '[') (hclose : c ≠ ']')
    (hescape : c ≠ '\\') : classFrom? s depth i = classFrom? s depth (i + 1) := by
  rw [classFrom?, dif_pos (lt_length_of_drop h), getElem?_of_drop h]
  split
  case h_5 => rfl
  all_goals simp_all

/-- The body of a class ends where it is read to end. -/
lemma classFrom?_of_drop (hi : i ≤ s.length) (h : s.drop i = rest) :
    classFrom? s (depth + 1) i = some (i + (Span.classBody depth rest).1.length) := by
  have hlength := congrArg List.length h
  rw [List.length_drop] at hlength
  fun_induction Span.classBody depth rest generalizing i with
  | case1 =>
    rw [classFrom?_stop h]
    simp only [List.length_nil] at hlength ⊢
    exact congrArg some (by omega)
  | case2 =>
    -- the character behind the backslash would stand beyond the end
    rw [classFrom?_escaped h, classFrom?_stop]
    · simp only [List.length_singleton] at hlength ⊢
      exact congrArg some (by omega)
    · rw [← List.drop_drop, h]
      rfl
  | case3 depth c rest taken after heq ih =>
    simp only [heq] at ih
    simp only [List.length_cons] at hlength ⊢
    have hdrop : s.drop (i + 2) = rest := by
      rw [← List.drop_drop, h]
      rfl
    rw [classFrom?_escaped h, ih (by omega) hdrop (by omega)]
    exact congrArg some (by omega)
  | case4 => exact classFrom?_close_one h
  | case5 rest depth taken after heq _ _ ih =>
    simp only [heq] at ih
    simp only [List.length_cons] at hlength ⊢
    rw [classFrom?_close h, ih (by omega) (drop_succ h) (by omega)]
    exact congrArg some (by omega)
  | case6 rest c depth hzero hsucc taken after heq hlone hescape ih =>
    simp only [heq] at ih
    simp only [List.length_cons] at hlength ⊢
    by_cases hopen : c = '['
    · subst hopen
      rw [if_pos rfl] at ih
      rw [classFrom?_open h, ih (by omega) (drop_succ h) (by omega)]
      exact congrArg some (by omega)
    · have hclose : c ≠ ']' := by
        intro hc
        cases depth with
        | zero => exact hzero hc rfl
        | succ depth => exact hsucc depth hc rfl
      have hslash : c ≠ '\\' := by
        intro hc
        cases rest with
        | nil => exact hlone hc rfl
        | cons d rest => exact hescape d rest hc rfl
      rw [if_neg hopen] at ih
      rw [classFrom?_char h hopen hclose hslash, ih (by omega) (drop_succ h) (by omega)]
      exact congrArg some (by omega)

end

/-- A character is skipped where it stands. -/
lemma skipIf_of_drop {stands : Bool} {d : Char}
    (h : s.drop i = (if stands then [d] else []) ++ rest)
    (hrest : stands = false → rest.head? ≠ some d) :
    skipIf s d i = i + (if stands then [d] else [] : Text).length := by
  rw [skipIf, ← List.head?_drop, h]
  cases stands with
  | true => exact if_pos rfl
  | false => exact if_neg (hrest rfl)

/-- A class ends where it is read to end. -/
theorem classEnd?_of_drop (h : s.drop i = c :: rest) :
    classEnd? s i = some (i + 1 + (Span.bracket rest).1.length) := by
  have hi := length_of_drop h
  obtain ⟨negated, leads, body, rfl, hleads⟩ := Span.exists_lead rest
  rw [Span.bracket_lead hleads, classEnd?]
  simp only [Span.lead, List.append_assoc, List.length_append] at h hi ⊢
  have hcaret : skipIf s '^' (i + 1) = i + 1 + (if negated then ['^'] else [] : Text).length := by
    refine skipIf_of_drop (drop_succ h) fun hnegated => ?_
    cases leads with
    | true => exact fun hhead => by cases hhead
    | false => exact hleads.caret hnegated rfl
  have hmember : s.drop (i + 1 + (if negated then ['^'] else [] : Text).length) =
      (if leads then [']'] else []) ++ body := by
    rw [← List.drop_drop, drop_succ h, List.drop_left]
  have hbody : s.drop (i + 1 + (if negated then ['^'] else [] : Text).length +
      (if leads then [']'] else [] : Text).length) = body := by
    rw [← List.drop_drop, hmember, List.drop_left]
  rw [hcaret, skipIf_of_drop hmember hleads.bracket, classFrom?_of_drop (by omega) hbody]
  exact congrArg some (by omega)

/-! ## Escapes and groups -/

lemma length_through (d : Char) (s : Text) :
    (Span.through (· == d) s).1.length = (s.idxOf? d).elim s.length (· + 1) := by
  induction s with
  | nil => rfl
  | cons c s ih =>
    rw [Span.through, List.idxOf?_cons]
    by_cases hc : c == d
    · rw [if_pos hc, if_pos hc]
      rfl
    · rw [if_neg hc, if_neg hc]
      simp only [List.length_cons, ih]
      cases s.idxOf? d <;> rfl

/-- An escape ends where it is read to end. -/
theorem escapeEnd?_of_drop (h : s.drop i = c :: rest) :
    escapeEnd? s i = some (i + 1 + (Span.escape rest).1.length) := by
  have hi := length_of_drop h
  rw [escapeEnd?, getElem?_succ h]
  cases rest with
  | nil =>
    simp only [List.length_nil] at hi
    exact congrArg some hi.symm
  | cons kind behind =>
    simp only [List.length_cons] at hi
    have hbehind := getElem?_succ (drop_succ h)
    rw [List.head?_cons, Span.escape, hbehind]
    by_cases hbraced : Span.argumentLength kind ≠ 0 ∧ behind.head? = some '{'
    · obtain ⟨more, rfl⟩ := List.head?_eq_some_iff.1 hbraced.2
      have hmore : s.drop (i + 3) = more := drop_succ (drop_succ (drop_succ h))
      have hopen : Span.through (· == '}') ('{' :: more) =
          ('{' :: (Span.through (· == '}') more).1, (Span.through (· == '}') more).2) := rfl
      have htaken := congrArg List.length (Span.through_append (· == '}') more)
      rw [List.length_append, length_through] at htaken
      rw [List.length_cons] at hi
      simp only [if_pos hbraced, hopen, slice?_length (by omega : i + 3 ≤ s.length), hmore,
        Option.bind_eq_bind, Option.bind_some, List.length_cons, length_through]
      cases hclose : more.idxOf? '}' with
      | none =>
        simp only [hclose, Option.elim_none] at htaken ⊢
        exact congrArg some (by omega)
      | some k =>
        simp only [hclose, Option.elim_some] at htaken ⊢
        exact congrArg some (by omega)
    · simp only [if_neg hbraced, List.length_cons, List.length_take]
      exact congrArg some (by omega)

lemma optionsFrom?_of_drop (hi : i ≤ s.length) (h : s.drop i = rest) :
    optionsFrom? s i =
      some (i + (Span.through (fun c => c == ':' || c == '>' || c == ')') rest).1.length) := by
  induction rest generalizing i with
  | nil =>
    rw [optionsFrom?, dif_neg (Nat.not_lt.2 (List.drop_eq_nil_iff.1 h))]
    rfl
  | cons c rest ih =>
    have hlt := lt_length_of_drop h
    rw [optionsFrom?, dif_pos hlt, getElem?_of_drop h, Span.through]
    by_cases hc : (c == ':' || c == '>' || c == ')') = true
    · simp only [if_pos hc, List.length_singleton]
    · simp only [if_neg hc, ih (by omega) (drop_succ h), List.length_cons]
      exact congrArg some (by omega)

/-- The opener of a group ends where it is read to end. -/
theorem groupEnd?_of_drop (h : s.drop i = c :: rest) :
    groupEnd? s i = some (i + 1 + (Span.groupOpener rest).1.length) := by
  have hi := length_of_drop h
  rw [groupEnd?, getElem?_succ h]
  by_cases hmark : rest.head? = some '?'
  · obtain ⟨options, rfl⟩ := List.head?_eq_some_iff.1 hmark
    rw [List.length_cons] at hi
    rw [if_pos hmark, optionsFrom?_of_drop (by omega) (drop_succ (drop_succ h)), Span.groupOpener,
      List.length_cons]
    exact congrArg some (by omega)
  · rw [if_neg hmark, Span.groupOpener.eq_def]
    split
    · exact absurd rfl hmark
    · rfl

end Cursor

end PinyinSearch
