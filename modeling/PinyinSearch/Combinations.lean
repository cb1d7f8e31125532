/-!
# Combinations

The ways to choose one member from each of some lists, in lexicographic order of the choices.
-/

namespace PinyinSearch

/-- One member of each list, the member of the last list varying fastest. -/
def combinations {α : Type} : List (List α) → List (List α)
  | [] => [[]]
  | choices :: rest => choices.flatMap fun choice => (combinations rest).map (choice :: ·)

@[simp] theorem combinations_nil {α : Type} : combinations ([] : List (List α)) = [[]] := rfl

theorem combinations_cons {α : Type} (choices : List α) (rest : List (List α)) :
    combinations (choices :: rest) =
      choices.flatMap fun choice => (combinations rest).map (choice :: ·) := rfl

end PinyinSearch
