import PinyinSearch.Corpus.Basic
import PinyinSearch.Proofs.Table

/-!
# The syllables of a corpus

The table of syllables gathers, under each plain syllable, the ideographs that are pronounced so.
It is made glyph by glyph; `Gathers` says what it holds after some of them, one more glyph preserves
that (`Gathers.add`), and so the whole table gathers the ideographs of all glyphs
(`gathers_charsBySyllable`).
-/

namespace PinyinSearch

/-- A table has a row for the syllables of some glyphs and no others; the row of a syllable holds
the characters of the glyphs with this syllable in ascending order. -/
structure Gathers (t : Table Text (List Char)) (glyphs : List Glyph) : Prop where
  nodup : t.keys.Nodup
  pairwise : ∀ {s cs}, t.get? s = some cs → cs.Pairwise (· < ·)
  mem_iff : ∀ {s c}, (∃ cs, t.get? s = some cs ∧ c ∈ cs) ↔ ∃ g ∈ glyphs, g.plain = s ∧ g.char = c
  ne_nil : ∀ {s}, t.get? s ≠ some []

namespace Gathers

variable {t : Table Text (List Char)} {glyphs : List Glyph}

lemma nil : Gathers [] [] where
  nodup := List.nodup_nil
  pairwise h := by cases h
  mem_iff := by simp
  ne_nil := by simp

/-- One more glyph adds its character to the row of its syllable. -/
lemma add (h : Gathers t glyphs) (g : Glyph) :
    Gathers (t.alter g.plain fun known => Ascending.insert g.char (known.getD []))
      (glyphs ++ [g]) where
  nodup := Table.nodup_keys_alter _ _ h.nodup
  pairwise {s cs} hcs := by
    by_cases hs : g.plain = s
    · subst hs
      rw [Table.get?_alter_self] at hcs
      obtain rfl := Option.some.inj hcs
      refine Ascending.pairwise_insert _ ?_
      cases hget : t.get? g.plain with
      | none => exact .nil
      | some known => exact h.pairwise hget
    · rw [Table.get?_alter_of_ne _ _ hs] at hcs
      exact h.pairwise hcs
  mem_iff {s c} := by
    have hbefore := h.mem_iff (s := s) (c := c)
    by_cases hs : g.plain = s
    · subst hs
      have hknown : (c ∈ (t.get? g.plain).getD []) ↔ ∃ cs, t.get? g.plain = some cs ∧ c ∈ cs := by
        cases t.get? g.plain <;> simp
      simp only [Table.get?_alter_self, Option.some.injEq, exists_eq_left', Ascending.mem_insert,
        hknown, hbefore, List.mem_append, List.mem_singleton, or_and_right, exists_or,
        exists_eq_left, true_and]
      rw [or_comm, eq_comm]
    · simp only [Table.get?_alter_of_ne _ _ hs, hbefore, List.mem_append, List.mem_singleton,
        or_and_right, exists_or, exists_eq_left, hs, false_and, or_false]
  ne_nil {s} := by
    by_cases hs : g.plain = s
    · subst hs
      rw [Table.get?_alter_self]
      intro hnil
      have hmem : g.char ∈ Ascending.insert g.char ((t.get? g.plain).getD []) :=
        Ascending.mem_insert.2 (.inl rfl)
      rw [Option.some.inj hnil] at hmem
      exact absurd hmem List.not_mem_nil
    · rw [Table.get?_alter_of_ne _ _ hs]
      exact h.ne_nil

/-- Any number of glyphs are gathered one after the other. -/
lemma foldl (h : Gathers t glyphs) (more : List Glyph) :
    Gathers (more.foldl
      (fun t g => t.alter g.plain fun known => Ascending.insert g.char (known.getD [])) t)
      (glyphs ++ more) := by
  induction more generalizing t glyphs with
  | nil => rwa [List.append_nil]
  | cons g more ih =>
    have hstep := ih (h.add g)
    rwa [List.append_assoc] at hstep

end Gathers

/-- The table of syllables gathers the ideographs among some glyphs. -/
theorem gathers_charsBySyllable (glyphs : List Glyph) :
    Gathers (charsBySyllable glyphs) (glyphs.filter fun g => Unicode.isIdeograph g.char) :=
  Gathers.nil.foldl _

end PinyinSearch
