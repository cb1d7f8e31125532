import Mathlib.Tactic.Common
import PinyinSearch.Corpus.Postings

/-!
# Exactness of postings

The postings of a list of items hold, under every key, the positions of exactly the items that have
the key (`mem_positions_build`), in strictly ascending order (`pairwise_positions_build`).  One step
of the build appends a position at most once, because a position that is registered again is still
the last of its list; the run lemma `positions_registerItems` carries this through all items.
-/

namespace PinyinSearch.Postings

variable {κ α : Type} [DecidableEq κ]

/-- The positions, counted from `start`, of the items that have a key. -/
def holders (keysOf : α → List κ) (key : κ) (start : Position) : List α → List Position
  | [] => []
  | item :: rest =>
    (if key ∈ keysOf item then [start] else []) ++ holders keysOf key (start + 1) rest

lemma extend_extend (known : List Position) (p : Position) :
    extend (extend known p) p = extend known p := by
  by_cases h : known.getLast? = some p <;> simp [extend, h]

lemma extend_of_lt {known : List Position} {p : Position} (h : ∀ q ∈ known, q < p) :
    extend known p = known ++ [p] := by
  rw [extend, if_neg]
  intro hlast
  exact absurd (h p (List.mem_of_getLast? hlast)) (Nat.lt_irrefl p)

/-- Registering all keys of an item extends the positions of each of them once. -/
lemma positions_registerAll (t : Postings κ) (p : Position) (keys : List κ) (key : κ) :
    (t.registerAll p keys).positions key =
      if key ∈ keys then extend (t.positions key) p else t.positions key := by
  induction keys generalizing t with
  | nil => simp [registerAll]
  | cons k keys ih =>
    change ((t.register p k).registerAll p keys).positions key = _
    rw [ih]
    by_cases hk : k = key
    · subst hk
      rw [positions_register_self]
      by_cases hmem : k ∈ keys <;> simp [hmem, extend_extend]
    · rw [positions_register_of_ne t p hk]
      simp [Ne.symm hk]

/-- Registering items one after the other appends the positions of those that have the key. -/
lemma positions_registerItems (keysOf : α → List κ) (key : κ) (items : List α) (start : Position)
    (t : Postings κ) (h : ∀ q ∈ t.positions key, q < start) :
    ((items.zipIdx start).foldl (fun t (item, p) => t.registerAll p (keysOf item)) t).positions
        key = t.positions key ++ holders keysOf key start items := by
  -- the positions listed so far lie before the next one, so `extend` never takes it for a repeat
  induction items generalizing start t with
  | nil => simp [holders]
  | cons item rest ih =>
    have hstep := positions_registerAll t start (keysOf item) key
    rw [List.zipIdx_cons, List.foldl_cons]
    by_cases hmem : key ∈ keysOf item
    · rw [if_pos hmem, extend_of_lt h] at hstep
      rw [ih, hstep, holders, if_pos hmem, List.append_assoc]
      intro q hq
      rw [hstep, List.mem_append, List.mem_singleton] at hq
      rcases hq with hq | rfl
      · exact Nat.lt_succ_of_lt (h q hq)
      · exact Nat.lt_succ_self q
    · rw [if_neg hmem] at hstep
      rw [ih, hstep, holders, if_neg hmem, List.nil_append]
      intro q hq
      rw [hstep] at hq
      exact Nat.lt_succ_of_lt (h q hq)

/-- The positions of a key are those of the items that have it. -/
lemma positions_build (keysOf : α → List κ) (items : List α) (key : κ) :
    (build keysOf items).positions key = holders keysOf key 0 items := by
  rw [build, positions_registerItems keysOf key items 0 [] (by simp), positions_nil,
    List.nil_append]

/-- The holders of a key are found at their distance from the start. -/
lemma mem_holders {keysOf : α → List κ} {key : κ} {start p : Position} {items : List α} :
    p ∈ holders keysOf key start items ↔
      ∃ i item, items[i]? = some item ∧ p = start + i ∧ key ∈ keysOf item := by
  induction items generalizing start with
  | nil => simp [holders]
  | cons item rest ih =>
    rw [holders, List.mem_append, ih]
    constructor
    · rintro (h | ⟨i, b, hb, rfl, hkey⟩)
      · split at h
        · next hkey => exact ⟨0, item, rfl, List.mem_singleton.1 h, hkey⟩
        · cases h
      · exact ⟨i + 1, b, hb, Nat.add_right_comm start 1 i, hkey⟩
    · rintro ⟨i, b, hb, rfl, hkey⟩
      cases i with
      | zero =>
        obtain rfl : item = b := by simpa using hb
        exact .inl (by simp [hkey])
      | succ i => exact .inr ⟨i, b, hb, (Nat.add_right_comm start 1 i).symm, hkey⟩

lemma le_of_mem_holders {keysOf : α → List κ} {key : κ} {start p : Position} {items : List α}
    (h : p ∈ holders keysOf key start items) : start ≤ p := by
  obtain ⟨i, _, _, rfl, _⟩ := mem_holders.1 h
  exact Nat.le_add_right start i

/-- The holders of a key ascend. -/
lemma pairwise_holders (keysOf : α → List κ) (key : κ) (start : Position) (items : List α) :
    (holders keysOf key start items).Pairwise (· < ·) := by
  induction items generalizing start with
  | nil => simp [holders]
  | cons item rest ih =>
    rw [holders]
    split
    · exact List.pairwise_cons.2 ⟨fun p hp => le_of_mem_holders hp, ih (start + 1)⟩
    · exact ih (start + 1)

/-- A position is listed under a key exactly if its item has the key. -/
theorem mem_positions_build {keysOf : α → List κ} {items : List α} {key : κ} {p : Position} :
    p ∈ (build keysOf items).positions key ↔ ∃ item, items[p]? = some item ∧ key ∈ keysOf item := by
  rw [positions_build, mem_holders]
  simp

/-- The positions of a key ascend strictly, so none is listed twice. -/
theorem pairwise_positions_build (keysOf : α → List κ) (items : List α) (key : κ) :
    ((build keysOf items).positions key).Pairwise (· < ·) := by
  rw [positions_build]
  exact pairwise_holders keysOf key 0 items

end PinyinSearch.Postings
