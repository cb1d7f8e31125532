import Mathlib.Tactic.Common
import PinyinSearch.Pattern.Span

/-!
# Reading spans back

What a span takes depends on its own characters as long as it is closed: it is read back in front
of any other text.  A span that is not closed is read back where nothing follows.
-/

namespace PinyinSearch.Span

variable {depth : Nat} {c : Char} {s rest : Text}

/-! ## The body of a class -/

lemma classBody_escaped :
    classBody depth ('\\' :: c :: s) =
      ('\\' :: c :: (classBody depth s).1, (classBody depth s).2) := by
  rw [classBody]

lemma classBody_open :
    classBody depth ('[' :: s) =
      ('[' :: (classBody (depth + 1) s).1, (classBody (depth + 1) s).2) := by
  rw [classBody]
  · rfl
  all_goals simp

lemma classBody_close_zero : classBody 0 (']' :: s) = ([']'], s) := by
  rw [classBody]

lemma classBody_close_succ :
    classBody (depth + 1) (']' :: s) = (']' :: (classBody depth s).1, (classBody depth s).2) := by
  rw [classBody]

lemma classBody_char (hopen : c ≠ '[') (hclose : c ≠ ']') (hescape : c ≠ '\\') :
    classBody depth (c :: s) = (c :: (classBody depth s).1, (classBody depth s).2) := by
  rw [classBody]
  · rw [if_neg hopen]
  all_goals simp [hescape, hclose]

/-- The body of a class begins as the text that it is read from. -/
lemma head?_classBody : (classBody depth (c :: s)).1.head? = some c := by
  rw [classBody.eq_def]
  split
  case h_1 h => cases h
  case h_2 h =>
    cases h
    rfl
  case h_3 h =>
    cases h
    rfl
  case h_4 h =>
    cases h
    split <;> rfl

lemma classBody_readBack (h : (classBody depth s).2 = [] → rest = []) :
    classBody depth ((classBody depth s).1 ++ rest) = ((classBody depth s).1, rest) := by
  fun_induction classBody depth s with
  | case1 =>
    obtain rfl := h rfl
    rw [List.append_nil, classBody]
  | case2 =>
    obtain rfl := h rfl
    rw [List.append_nil, classBody]
  | case3 depth c s taken after heq ih =>
    rw [heq] at ih
    rw [List.cons_append, List.cons_append, classBody_escaped, ih h]
  | case4 => exact classBody_close_zero
  | case5 s depth taken after heq _ _ ih =>
    rw [heq] at ih
    rw [List.cons_append, classBody_close_succ, ih h]
  | case6 s c depth hzero hsucc taken after heq hlone hescape ih =>
    rw [heq] at ih
    rw [List.cons_append]
    by_cases hopen : c = '['
    · subst hopen
      rw [if_pos rfl] at ih
      rw [classBody_open, ih h]
    · have hclose : c ≠ ']' := by
        intro hc
        cases depth with
        | zero => exact hzero hc rfl
        | succ depth => exact hsucc depth hc rfl
      have hslash : c ≠ '\\' := by
        intro hc
        cases s with
        | nil => exact hlone hc rfl
        | cons d s => exact hescape d s hc rfl
      rw [if_neg hopen] at ih
      rw [classBody_char hopen hclose hslash, ih h]

/-! ## Classes -/

/-- What may come before the members of a class: a caret, and a closing bracket that is a member. -/
def lead (negated leads : Bool) : Text :=
  (if negated then ['^'] else []) ++ (if leads then [']'] else [])

/-- The text behind an opening bracket begins with no lead but the given one. -/
structure IsLead (negated leads : Bool) (s : Text) : Prop where
  bracket : leads = false → s.head? ≠ some ']'
  caret : negated = false → leads = false → s.head? ≠ some '^'

variable {negated leads : Bool}

lemma bracket_lead (h : IsLead negated leads s) :
    bracket (lead negated leads ++ s) =
      (lead negated leads ++ (classBody 0 s).1, (classBody 0 s).2) := by
  cases leads with
  | true => cases negated <;> rfl
  | false =>
    cases s with
    | nil => cases negated <;> rfl
    | cons c s =>
      have hclose : c ≠ ']' := by
        intro hc
        exact h.bracket rfl (hc ▸ rfl)
      cases negated with
      | true => simp [bracket, lead, hclose]
      | false =>
        have hcaret : c ≠ '^' := by
          intro hc
          exact h.caret rfl rfl (hc ▸ rfl)
        simp [bracket, lead, hclose, hcaret]

lemma exists_lead (s : Text) :
    ∃ negated leads body, s = lead negated leads ++ body ∧ IsLead negated leads body := by
  have hmember : ∀ negated s, (negated = false → s.head? ≠ some '^') →
      ∃ leads body, lead negated false ++ s = lead negated leads ++ body ∧
        IsLead negated leads body := by
    intro negated s hcaret
    by_cases hclose : s.head? = some ']'
    · obtain ⟨body, rfl⟩ := List.head?_eq_some_iff.1 hclose
      refine ⟨true, body, ?_, by simp, by simp⟩
      cases negated <;> rfl
    · exact ⟨false, s, rfl, fun _ => hclose, fun hnegated _ => hcaret hnegated⟩
  by_cases hcaret : s.head? = some '^'
  · obtain ⟨s, rfl⟩ := List.head?_eq_some_iff.1 hcaret
    exact ⟨true, hmember true s (by simp)⟩
  · exact ⟨false, hmember false s fun _ => hcaret⟩

lemma bracket_readBack (h : (bracket s).2 = [] → rest = []) :
    bracket ((bracket s).1 ++ rest) = ((bracket s).1, rest) := by
  obtain ⟨negated, leads, body, rfl, hleads⟩ := exists_lead s
  rw [bracket_lead hleads] at h ⊢
  have hhead : ((classBody 0 body).1 ++ rest).head? = body.head? := by
    cases body with
    | nil =>
      obtain rfl := h rfl
      rfl
    | cons c body => rw [List.head?_append, head?_classBody, Option.some_or, List.head?_cons]
  have hleads' : IsLead negated leads ((classBody 0 body).1 ++ rest) :=
    ⟨hhead ▸ hleads.bracket, hhead ▸ hleads.caret⟩
  rw [List.append_assoc, bracket_lead hleads', classBody_readBack h]

/-! ## Escapes -/

lemma head?_through {p : Char → Bool} : (through p (c :: s)).1.head? = some c := by
  rw [through]
  split <;> rfl

lemma through_readBack {p : Char → Bool} (h : (through p s).2 = [] → rest = []) :
    through p ((through p s).1 ++ rest) = ((through p s).1, rest) := by
  fun_induction through p s with
  | case1 =>
    obtain rfl := h rfl
    rfl
  | case2 c s hc =>
    rw [List.singleton_append, through, if_pos hc]
  | case3 c s hc taken after heq ih =>
    rw [heq] at ih
    rw [List.cons_append, through, if_neg hc, ih h]

lemma escape_readBack (h : (escape s).2 = [] → rest = []) :
    escape ((escape s).1 ++ rest) = ((escape s).1, rest) := by
  cases s with
  | nil =>
    obtain rfl := h rfl
    rfl
  | cons kind s =>
    rw [escape] at h ⊢
    split at h
    · next hbraced =>
      rw [if_pos hbraced]
      obtain ⟨s, rfl⟩ := List.head?_eq_some_iff.1 hbraced.2
      have hhead : ((through (· == '}') ('{' :: s)).1 ++ rest).head? = some '{' := by
        rw [List.head?_append, head?_through, Option.some_or]
      rw [List.cons_append, escape, if_pos ⟨hbraced.1, hhead⟩, through_readBack h]
    · next hplain =>
      rw [if_neg hplain]
      have hplain' : ¬ (argumentLength kind ≠ 0 ∧
          (s.take (argumentLength kind) ++ rest).head? = some '{') := by
        intro hbraced
        apply hplain
        refine ⟨hbraced.1, ?_⟩
        cases s with
        | nil =>
          obtain rfl := h (List.drop_nil)
          rw [List.take_nil] at hbraced
          exact hbraced.2
        | cons d s =>
          obtain ⟨n, hn⟩ := Nat.exists_eq_succ_of_ne_zero hbraced.1
          rw [hn] at hbraced
          exact hbraced.2
      rw [List.cons_append, escape, if_neg hplain']
      by_cases hlength : argumentLength kind ≤ s.length
      · rw [List.take_left' (List.length_take_of_le hlength),
          List.drop_left' (List.length_take_of_le hlength)]
      · have hshort : s.length ≤ argumentLength kind := Nat.le_of_not_le hlength
        obtain rfl := h (List.drop_of_length_le hshort)
        rw [List.append_nil, List.take_take, Nat.min_self, List.take_of_length_le hshort,
          List.drop_of_length_le hshort]

end PinyinSearch.Span
