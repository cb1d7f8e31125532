import Mathlib.Data.List.Forall2
import PinyinSearch.Combinations
import PinyinSearch.Proofs.FirstSeen

/-!
# The order of combinations

The combinations of lists choose one member of each list.  They are in lexicographic order of the
ranks of the members, if each list is in order of the ranks (`pairwise_rank_combinations`).  So none
of them is there twice, if no list repeats a member, and repetitions in the lists may be dropped
before the combinations are made or after (`combinations_map_ofList`).
-/

namespace PinyinSearch

variable {α : Type} {lists : List (List α)} {xs : List α}

/-- A combination chooses a member of each list. -/
lemma mem_combinations :
    xs ∈ combinations lists ↔ List.Forall₂ (fun choices x => x ∈ choices) lists xs := by
  induction lists generalizing xs with
  | nil => simp
  | cons choices lists ih =>
    rw [combinations_cons, List.mem_flatMap, List.forall₂_cons_left_iff]
    constructor
    · intro ⟨x, hx, hxs⟩
      obtain ⟨rest, hrest, rfl⟩ := List.mem_map.1 hxs
      exact ⟨x, rest, hx, ih.1 hrest, rfl⟩
    · intro ⟨x, rest, hx, hrest, heq⟩
      exact ⟨x, hx, List.mem_map.2 ⟨rest, ih.2 hrest, heq.symm⟩⟩

/-- The first members of the lists make up the first combination. -/
lemma head?_combinations_map {β : Type} {choices : β → List α} {first : β → α}
    (h : ∀ y, (choices y).head? = some (first y)) (ys : List β) :
    (combinations (ys.map choices)).head? = some (ys.map first) := by
  induction ys with
  | nil => rfl
  | cons y ys ih =>
    obtain ⟨others, hothers⟩ := List.head?_eq_some_iff.1 (h y)
    obtain ⟨further, hfurther⟩ := List.head?_eq_some_iff.1 ih
    rw [List.map_cons, combinations_cons, hothers, List.flatMap_cons, hfurther]
    rfl

lemma head?_combinations {choices : α → List α} (h : ∀ x, (choices x).head? = some x) :
    (combinations (xs.map choices)).head? = some xs := by
  rw [head?_combinations_map h, List.map_id']

/-- Members may be mapped before the combinations are made or after. -/
lemma combinations_map_map {β : Type} (f : α → β) (lists : List (List α)) :
    combinations (lists.map (List.map f)) = (combinations lists).map (List.map f) := by
  induction lists with
  | nil => rfl
  | cons choices lists ih =>
    rw [List.map_cons, combinations_cons, combinations_cons, ih, List.flatMap_map,
      List.map_flatMap]
    apply List.flatMap_congr
    intro x _
    rw [List.map_map, List.map_map]
    rfl

/-! ## Lexicographic order -/

/-- Combinations are in lexicographic order of the ranks of their members, if the members of each
list are in order of their ranks. -/
lemma pairwise_rank_combinations (rank : List α → α → Nat)
    (h : ∀ choices ∈ lists, choices.Pairwise fun x y => rank choices x < rank choices y) :
    (combinations lists).Pairwise fun xs ys =>
      List.Lex (· < ·) (List.zipWith rank lists xs) (List.zipWith rank lists ys) := by
  induction lists with
  | nil => exact List.pairwise_singleton _ _
  | cons choices lists ih =>
    rw [List.forall_mem_cons] at h
    rw [combinations_cons, List.pairwise_flatMap]
    constructor
    · intro x _
      rw [List.pairwise_map]
      exact (ih h.2).imp fun hlex => .cons hlex
    · apply h.1.imp
      intro x y hxy xs hxs ys hys
      obtain ⟨xs, -, rfl⟩ := List.mem_map.1 hxs
      obtain ⟨ys, -, rfl⟩ := List.mem_map.1 hys
      exact .rel hxy

lemma zipWith_snd {lists : List (List (α × Nat))} {ps : List (α × Nat)}
    (h : ps ∈ combinations lists) : List.zipWith (fun _ p => p.2) lists ps = ps.map Prod.snd := by
  rw [mem_combinations] at h
  induction h with
  | nil => rfl
  | cons _ _ ih => rw [List.zipWith_cons_cons, List.map_cons, ih]

/-- Combinations of members that carry their places are in lexicographic order of the places. -/
lemma pairwise_combinations_zipIdx (lists : List (List α)) :
    (combinations (lists.map fun choices => choices.zipIdx)).Pairwise fun ps qs =>
      List.Lex (· < ·) (ps.map Prod.snd) (qs.map Prod.snd) := by
  have hranks : ∀ choices ∈ lists.map fun choices => choices.zipIdx,
      choices.Pairwise fun p q : α × Nat => p.2 < q.2 := by
    intro choices hchoices
    obtain ⟨members, -, rfl⟩ := List.mem_map.1 hchoices
    rw [List.pairwise_iff_getElem]
    intro i j hi hj hij
    simpa using hij
  apply (pairwise_rank_combinations (fun _ p => p.2) hranks).imp_of_mem
  intro ps qs hps hqs hlex
  rwa [zipWith_snd hps, zipWith_snd hqs] at hlex

variable [DecidableEq α]

/-- The places that the members of a combination have in their lists. -/
def ranks (lists : List (List α)) (xs : List α) : List Nat :=
  List.zipWith (fun choices x => choices.idxOf x) lists xs

lemma pairwise_idxOf {choices : List α} (h : choices.Nodup) :
    choices.Pairwise fun x y => choices.idxOf x < choices.idxOf y := by
  rw [List.pairwise_iff_getElem]
  intro i j hi hj hij
  rw [h.idxOf_getElem, h.idxOf_getElem]
  exact hij

lemma pairwise_combinations (h : ∀ choices ∈ lists, choices.Nodup) :
    (combinations lists).Pairwise fun xs ys =>
      List.Lex (· < ·) (ranks lists xs) (ranks lists ys) :=
  pairwise_rank_combinations _ fun choices hchoices => pairwise_idxOf (h choices hchoices)

lemma nodup_combinations (h : ∀ choices ∈ lists, choices.Nodup) : (combinations lists).Nodup := by
  apply (pairwise_combinations h).imp
  intro xs ys hlex heq
  rw [heq] at hlex
  exact List.lex_irrefl Nat.lt_irrefl _ hlex

/-! ## Repetitions -/

/-- Repetitions in the lists may be dropped before the combinations are made or after. -/
lemma combinations_map_ofList (lists : List (List α)) :
    combinations (lists.map FirstSeen.ofList) = FirstSeen.ofList (combinations lists) := by
  induction lists with
  | nil => rfl
  | cons choices lists ih =>
    have hfirst : ∀ x y, ∀ xs ∈ (combinations lists).map (x :: ·),
        xs ∈ (combinations lists).map (y :: ·) → x = y := by
      intro x y xs hx hy
      obtain ⟨rest, -, rfl⟩ := List.mem_map.1 hx
      obtain ⟨other, -, heq⟩ := List.mem_map.1 hy
      exact (List.head_eq_of_cons_eq heq).symm
    rw [List.map_cons, combinations_cons, combinations_cons, ih, FirstSeen.ofList_flatMap hfirst]
    apply List.flatMap_congr
    intro x _
    exact (FirstSeen.ofList_map_of_injective List.cons_injective).symm

end PinyinSearch
