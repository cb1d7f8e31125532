/-!
# Ascending lists

Finite sets as strictly ascending lists.  `Ascending.insert` puts a member at its place and keeps
one copy of it; `Ascending.ofList` collects the members of any list.  The main statements are that
this loses no member (`mem_ofList`) and that the result ascends (`pairwise_ofList`).
-/

namespace PinyinSearch.Ascending

variable {α : Type} [LT α] [DecidableLT α]

/-- Puts `x` at its place in an ascending list that may hold it already. -/
def insert (x : α) : List α → List α
  | [] => [x]
  | y :: rest =>
    if x < y then x :: y :: rest else if y < x then y :: insert x rest else y :: rest

/-- The members of a list in ascending order, each once. -/
def ofList (xs : List α) : List α := xs.foldr insert []

@[simp] theorem insert_nil (x : α) : insert x [] = [x] := rfl

theorem insert_cons (x y : α) (rest : List α) :
    insert x (y :: rest) =
      if x < y then x :: y :: rest else if y < x then y :: insert x rest else y :: rest := rfl

@[simp] theorem ofList_nil : ofList ([] : List α) = [] := rfl

@[simp] theorem ofList_cons (x : α) (xs : List α) : ofList (x :: xs) = insert x (ofList xs) := rfl

/-- Putting a member at its place adds this member only. -/
theorem mem_insert [Std.Trichotomous (· < · : α → α → Prop)] {x z : α} {ys : List α} :
    z ∈ insert x ys ↔ z = x ∨ z ∈ ys := by
  induction ys with
  | nil => simp
  | cons y rest ih =>
    rw [insert_cons]
    split
    · simp
    · next hxy =>
      split
      · simp only [List.mem_cons, ih]
        exact or_left_comm
      · next hyx =>
        obtain rfl : x = y := Std.Trichotomous.trichotomous x y hxy hyx
        simp

/-- A list that ascends still does with one more member. -/
theorem pairwise_insert [Std.Trichotomous (· < · : α → α → Prop)]
    [Trans (· < · : α → α → Prop) (· < ·) (· < ·)] (x : α) {ys : List α}
    (h : ys.Pairwise (· < ·)) : (insert x ys).Pairwise (· < ·) := by
  induction ys with
  | nil => simp
  | cons y rest ih =>
    obtain ⟨hy, hrest⟩ := List.pairwise_cons.1 h
    rw [insert_cons]
    split
    · next hxy =>
      refine List.pairwise_cons.2 ⟨fun z hz => ?_, h⟩
      rcases List.mem_cons.1 hz with rfl | hz
      · exact hxy
      · exact Trans.trans hxy (hy z hz)
    · split
      · next hyx =>
        refine List.pairwise_cons.2 ⟨fun z hz => ?_, ih hrest⟩
        rcases mem_insert.1 hz with rfl | hz
        · exact hyx
        · exact hy z hz
      · exact h

/-- Collecting the members of a list loses none and adds none. -/
@[simp] theorem mem_ofList [Std.Trichotomous (· < · : α → α → Prop)] {z : α} {xs : List α} :
    z ∈ ofList xs ↔ z ∈ xs := by
  induction xs with
  | nil => simp
  | cons x xs ih => simp [mem_insert, ih]

/-- What is collected ascends. -/
theorem pairwise_ofList [Std.Trichotomous (· < · : α → α → Prop)]
    [Trans (· < · : α → α → Prop) (· < ·) (· < ·)] (xs : List α) :
    (ofList xs).Pairwise (· < ·) := by
  induction xs with
  | nil => simp
  | cons x xs ih => exact pairwise_insert x ih

end PinyinSearch.Ascending
