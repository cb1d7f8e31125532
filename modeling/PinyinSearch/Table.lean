/-!
# Tables

A table holds one value for each of its keys, in the order in which the keys were first written.
The two laws at the end say what a change does to a look-up.
-/

namespace PinyinSearch

/-- Rows of a key and its value, in the order in which the keys were first written. -/
abbrev Table (κ α : Type) := List (κ × α)

namespace Table

variable {κ α : Type} [DecidableEq κ]

/-- The value of a key. -/
def get? (t : Table κ α) (k : κ) : Option α :=
  match t with
  | [] => none
  | (k', a) :: rest => if k' = k then some a else get? rest k

/-- Changes the value of a key, or adds the key at the end. -/
def alter (k : κ) (f : Option α → α) : Table κ α → Table κ α
  | [] => [(k, f none)]
  | (k', a) :: rest => if k' = k then (k', f (some a)) :: rest else (k', a) :: alter k f rest

/-- The table with some rows, of which the last one for a key counts. -/
def ofRows (rows : List (κ × α)) : Table κ α :=
  rows.foldl (fun t (k, a) => t.alter k fun _ => a) []

/-- Whether a key has a value. -/
def contains (t : Table κ α) (k : κ) : Bool := (t.get? k).isSome

/-- The keys, in the order of their first writing. -/
def keys (t : Table κ α) : List κ := t.map (·.1)

@[simp] theorem get?_nil (k : κ) : get? ([] : Table κ α) k = none := rfl

theorem get?_cons (k' : κ) (a : α) (t : Table κ α) (k : κ) :
    get? ((k', a) :: t) k = if k' = k then some a else get? t k := rfl

/-- A changed key has the new value. -/
@[simp] theorem get?_alter_self (t : Table κ α) (k : κ) (f : Option α → α) :
    get? (alter k f t) k = some (f (t.get? k)) := by
  induction t with
  | nil => simp [alter, get?]
  | cons row rest ih =>
    obtain ⟨k', a⟩ := row
    by_cases h : k' = k <;> simp [alter, get?, h, ih]

/-- Every other key keeps its value. -/
theorem get?_alter_of_ne (t : Table κ α) {k k' : κ} (f : Option α → α) (h : k ≠ k') :
    get? (alter k f t) k' = t.get? k' := by
  induction t with
  | nil => simp [alter, get?, h]
  | cons row rest ih =>
    obtain ⟨j, a⟩ := row
    by_cases hj : j = k
    · subst hj; simp [alter, get?, h]
    · simp [alter, get?, hj, ih]

end Table

end PinyinSearch
