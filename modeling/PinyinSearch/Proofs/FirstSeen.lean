import Mathlib.Tactic.Common
import PinyinSearch.FirstSeen

/-!
# The order of first appearance

Repetitions may be dropped before a list is mapped or behind another list, and what is left is the
same as if they are dropped at the end.  The images of an ordered list are kept in the order of the
first members that lead to them (`pairwise_ofList_map`).
-/

namespace PinyinSearch.FirstSeen

section Repetitions

variable {α β : Type} [DecidableEq α] [DecidableEq β] {xs ys : List α}

/-- A list without repetition stays as it is. -/
lemma ofList_of_nodup (h : xs.Nodup) : ofList xs = xs := by
  induction xs with
  | nil => rfl
  | cons x xs ih =>
    rw [List.nodup_cons] at h
    have hothers : ∀ y ∈ xs, decide (y ≠ x) = true := by
      intro y hy
      exact decide_eq_true fun heq => h.1 (heq ▸ hy)
    rw [ofList_cons, ih h.2, List.filter_eq_self.2 hothers]

lemma filter_ofList (p : α → Bool) : (ofList xs).filter p = ofList (xs.filter p) := by
  induction xs with
  | nil => rfl
  | cons x xs ih =>
    rw [ofList_cons]
    cases hx : p x with
    | true =>
      rw [List.filter_cons_of_pos hx, List.filter_cons_of_pos hx, ofList_cons, ← ih,
        List.filter_filter, List.filter_filter]
      simp only [Bool.and_comm]
    | false =>
      have hx' : ¬p x = true := by rw [hx]; exact Bool.false_ne_true
      rw [List.filter_cons_of_neg hx', List.filter_cons_of_neg hx', ← ih, List.filter_filter]
      apply List.filter_congr
      intro y _
      cases hy : p y with
      | true => exact decide_eq_true fun heq => hx' (heq ▸ hy)
      | false => rfl

lemma ofList_append : ofList (xs ++ ys) = ofList xs ++ (ofList ys).filter (· ∉ xs) := by
  induction xs with
  | nil => simp [List.filter_eq_self.2]
  | cons x xs ih =>
    rw [List.cons_append, ofList_cons, ofList_cons, ih, List.filter_append, List.filter_filter,
      List.cons_append]
    simp only [List.mem_cons, not_or, Bool.decide_and]

lemma ofList_map_of_injective {f : α → β} (hf : Function.Injective f) :
    ofList (xs.map f) = (ofList xs).map f := by
  induction xs with
  | nil => rfl
  | cons x xs ih =>
    rw [List.map_cons, ofList_cons, ofList_cons, ih, List.map_cons, List.filter_map]
    simp only [Function.comp_def, hf.ne_iff]

/-- A list may be mapped before or after its repetitions are dropped, if they are dropped again. -/
lemma ofList_map_ofList (f : α → β) : ofList ((ofList xs).map f) = ofList (xs.map f) := by
  induction xs with
  | nil => rfl
  | cons x xs ih =>
    rw [ofList_cons, List.map_cons, List.map_cons, ofList_cons, ofList_cons, ← ih]
    generalize ofList xs = zs
    rw [filter_ofList, filter_ofList, List.filter_map, List.filter_map, List.filter_filter]
    congr 3
    apply List.filter_congr
    intro y _
    -- what is mapped elsewhere than `x` is not `x`
    by_cases hxy : f y = f x
    · simp [hxy]
    · have hne : y ≠ x := fun heq => hxy (congrArg f heq)
      simp [hxy, hne]

lemma ofList_flatMap {f : α → List β} (h : ∀ x y, ∀ z ∈ f x, z ∈ f y → x = y) :
    ofList (xs.flatMap f) = (ofList xs).flatMap fun x => ofList (f x) := by
  induction xs with
  | nil => rfl
  | cons x xs ih =>
    rw [List.flatMap_cons, ofList_append, ih, ofList_cons, List.flatMap_cons]
    congr 1
    -- of what the others lead to, nothing is lost but what `x` leads to
    generalize ofList xs = others
    induction others with
    | nil => rfl
    | cons y others ih =>
      rw [List.flatMap_cons, List.filter_append, ih]
      by_cases hy : y = x
      · have hgone : ∀ z ∈ ofList (f y), ¬decide (z ∉ f x) = true := by
          intro z hz hnot
          rw [mem_ofList, hy] at hz
          exact of_decide_eq_true hnot hz
        rw [List.filter_eq_nil_iff.2 hgone, List.filter_cons_of_neg (by simpa using hy)]
        rfl
      · have hkept : ∀ z ∈ ofList (f y), decide (z ∉ f x) = true := by
          intro z hz
          rw [mem_ofList] at hz
          exact decide_eq_true fun hx => hy (h y x z hz hx)
        rw [List.filter_eq_self.2 hkept, List.filter_cons_of_pos (by simpa using hy),
          List.flatMap_cons]

end Repetitions

/-! ## Ordered lists -/

section Order

variable {α β : Type} {R : α → α → Prop} {xs : List α} {f : α → β} {v : β} {x : α}

/-- The first of the members of an ordered list that are mapped to `v`. -/
structure IsFirst (R : α → α → Prop) (xs : List α) (f : α → β) (v : β) (x : α) : Prop where
  mem : x ∈ xs
  image : f x = v
  first : ∀ y ∈ xs, f y = v → y = x ∨ R x y

lemma isFirst_head (h : (x :: xs).Pairwise R) : IsFirst R (x :: xs) f (f x) x where
  mem := List.mem_cons_self
  image := rfl
  first y hy _ := by
    rcases List.mem_cons.1 hy with rfl | hy
    · exact .inl rfl
    · exact .inr (List.rel_of_pairwise_cons h hy)

lemma IsFirst.cons {a : α} (hx : IsFirst R xs f v x) (hne : f a ≠ v) :
    IsFirst R (a :: xs) f v x where
  mem := List.mem_cons_of_mem a hx.mem
  image := hx.image
  first y hy hv := by
    rcases List.mem_cons.1 hy with rfl | hy
    · exact absurd hv hne
    · exact hx.first y hy hv

lemma exists_isFirst [DecidableEq β] (h : xs.Pairwise R) (hv : v ∈ xs.map f) :
    ∃ x, IsFirst R xs f v x := by
  induction xs with
  | nil => cases hv
  | cons a xs ih =>
    by_cases ha : f a = v
    · exact ⟨a, ha ▸ isFirst_head h⟩
    · have hrest : v ∈ xs.map f := (List.mem_cons.1 hv).resolve_left fun heq => ha heq.symm
      obtain ⟨x, hx⟩ := ih h.of_cons hrest
      exact ⟨x, hx.cons ha⟩

/-- The images of an ordered list come in the order of the first members that lead to them. -/
theorem pairwise_ofList_map [DecidableEq β] (h : xs.Pairwise R) :
    (ofList (xs.map f)).Pairwise fun v w =>
      ∃ x y, IsFirst R xs f v x ∧ IsFirst R xs f w y ∧ R x y := by
  induction xs with
  | nil => exact .nil
  | cons a xs ih =>
    rw [List.map_cons, ofList_cons, List.pairwise_cons]
    constructor
    · intro w hw
      rw [List.mem_filter, mem_ofList, decide_eq_true_eq] at hw
      obtain ⟨y, hy⟩ := exists_isFirst h.of_cons hw.1
      exact ⟨a, y, isFirst_head h, hy.cons hw.2.symm, List.rel_of_pairwise_cons h hy.mem⟩
    · rw [List.pairwise_filter]
      apply (ih h.of_cons).imp
      intro v w ⟨x, y, hx, hy, hxy⟩ hv hw
      rw [decide_eq_true_eq] at hv hw
      exact ⟨x, y, hx.cons hv.symm, hy.cons hw.symm, hxy⟩

end Order

end PinyinSearch.FirstSeen
