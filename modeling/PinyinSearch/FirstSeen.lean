/-!
# Lists without repetition

`FirstSeen.ofList` keeps the first copy of every member of a list and drops the later ones, so the
order of first appearance stays.
-/

namespace PinyinSearch.FirstSeen

variable {α : Type} [DecidableEq α]

/-- The members of a list in the order of their first appearance, each once. -/
def ofList : List α → List α
  | [] => []
  | x :: rest => x :: (ofList rest).filter (· ≠ x)

@[simp] theorem ofList_nil : ofList ([] : List α) = [] := rfl

theorem ofList_cons (x : α) (rest : List α) :
    ofList (x :: rest) = x :: (ofList rest).filter (· ≠ x) := rfl

/-- Dropping repetitions loses no member and adds none. -/
@[simp] theorem mem_ofList {x : α} {xs : List α} : x ∈ ofList xs ↔ x ∈ xs := by
  induction xs with
  | nil => simp
  | cons y rest ih => by_cases h : x = y <;> simp [ofList_cons, ih, h]

/-- No member is left twice. -/
theorem nodup_ofList (xs : List α) : (ofList xs).Nodup := by
  induction xs with
  | nil => simp
  | cons y rest ih =>
    rw [ofList_cons, List.nodup_cons]
    exact ⟨by simp, ih.filter _⟩

end PinyinSearch.FirstSeen
