import PinyinSearch.Table

/-!
# Postings

An inverted map: for every key, the positions of the items that have it.  The positions of a key
are collected in the order of the items, so they ascend, and an item that has a key several times
is listed once.
-/

namespace PinyinSearch

/-- The place of an item in its list, counted from 0. -/
abbrev Position := Nat

/-- For each key the positions of the items that have it. -/
abbrev Postings (κ : Type) := Table κ (List Position)

namespace Postings

variable {κ α : Type} [DecidableEq κ]

/-- Adds a position behind a list of positions, unless it is the last of them already. -/
def extend (known : List Position) (position : Position) : List Position :=
  if known.getLast? = some position then known else known ++ [position]

/-- Adds a position to those of a key. -/
def register (t : Postings κ) (position : Position) (key : κ) : Postings κ :=
  t.alter key fun known => extend (known.getD []) position

/-- Adds a position to every key of a list. -/
def registerAll (t : Postings κ) (position : Position) (keys : List κ) : Postings κ :=
  keys.foldl (fun t key => t.register position key) t

/-- The postings of a list of items, of which each may have any number of keys. -/
def build (keysOf : α → List κ) (items : List α) : Postings κ :=
  items.zipIdx.foldl (fun t (item, position) => t.registerAll position (keysOf item)) []

/-- The positions of the items that have a key, none for a key that no item has. -/
def positions (t : Postings κ) (key : κ) : List Position := (t.get? key).getD []

@[simp] theorem positions_nil (key : κ) : positions ([] : Postings κ) key = [] := rfl

/-- Registering extends the positions of the key. -/
theorem positions_register_self (t : Postings κ) (position : Position) (key : κ) :
    (t.register position key).positions key = extend (t.positions key) position := by
  simp [register, positions]

/-- Registering leaves every other key alone. -/
theorem positions_register_of_ne (t : Postings κ) (position : Position) {key other : κ}
    (h : key ≠ other) : (t.register position key).positions other = t.positions other := by
  simp [register, positions, Table.get?_alter_of_ne _ _ h]

end Postings

end PinyinSearch
