import Mathlib.Tactic.Common
import PinyinSearch.Table

/-!
# Tables as finite maps

A table that is made by changing the values of keys has one row for each key (`nodup_keys_alter`).
What such a table holds under a key is a matter of its rows alone, so that a look-up does not depend
on their order (`get?_of_perm`).
-/

namespace PinyinSearch.Table

variable {κ α : Type} [DecidableEq κ] {t u : Table κ α}

/-- A change adds its key to the keys. -/
lemma mem_keys_alter {k j : κ} {f : Option α → α} :
    j ∈ (alter k f t).keys ↔ j = k ∨ j ∈ t.keys := by
  induction t with
  | nil => simp [alter, keys]
  | cons row rest ih =>
    obtain ⟨k', a⟩ := row
    simp only [keys, List.mem_map] at ih
    by_cases h : k' = k
    · subst h
      simp [alter, keys]
    · simp only [alter, if_neg h, keys, List.map_cons, List.mem_cons, List.mem_map, ih]
      exact or_left_comm

/-- A change leaves one row for each key. -/
lemma nodup_keys_alter (k : κ) (f : Option α → α) (h : t.keys.Nodup) :
    (alter k f t).keys.Nodup := by
  induction t with
  | nil => simp [alter, keys]
  | cons row rest ih =>
    obtain ⟨k', a⟩ := row
    obtain ⟨hnew, hrest⟩ := List.nodup_cons.1 h
    by_cases hk : k' = k
    · rw [alter, if_pos hk]
      exact h
    · rw [alter, if_neg hk]
      refine List.nodup_cons.2 ⟨fun hmem => ?_, ih hrest⟩
      exact (mem_keys_alter.1 hmem).elim hk hnew

lemma mem_of_get? {k : κ} {a : α} (h : t.get? k = some a) : (k, a) ∈ t := by
  induction t with
  | nil => cases h
  | cons row t ih =>
    rw [get?_cons] at h
    split at h
    · next hk =>
      obtain rfl := Option.some.inj h
      exact hk ▸ List.mem_cons_self
    · exact List.mem_cons_of_mem row (ih h)

/-- With one row for each key, a look-up finds the row of the key. -/
lemma get?_eq_some_iff (h : t.keys.Nodup) {k : κ} {a : α} : t.get? k = some a ↔ (k, a) ∈ t := by
  induction t with
  | nil => simp
  | cons row rest ih =>
    obtain ⟨k', b⟩ := row
    obtain ⟨hnew, hrest⟩ := List.nodup_cons.1 h
    rw [get?_cons, List.mem_cons, Prod.mk.injEq]
    by_cases hk : k' = k
    · subst hk
      have hnot : (k', a) ∉ rest := fun hmem => hnew (List.mem_map.2 ⟨_, hmem, rfl⟩)
      simp [hnot, eq_comm]
    · simp [hk, Ne.symm hk, ih hrest]

lemma contains_iff {k : κ} : t.contains k = true ↔ k ∈ t.keys := by
  rw [contains]
  induction t with
  | nil => simp [keys]
  | cons row rest ih =>
    obtain ⟨k', a⟩ := row
    by_cases hk : k' = k
    · simp [get?_cons, keys, hk]
    · simpa [get?_cons, keys, hk, Ne.symm hk] using ih

/-- A look-up does not depend on the order of the rows. -/
theorem get?_of_perm (h : t.Perm u) (hu : u.keys.Nodup) (k : κ) : t.get? k = u.get? k := by
  have ht : t.keys.Nodup := (h.map Prod.fst).nodup_iff.2 hu
  refine Option.ext fun a => ?_
  rw [get?_eq_some_iff ht, get?_eq_some_iff hu]
  exact h.mem_iff

end PinyinSearch.Table
