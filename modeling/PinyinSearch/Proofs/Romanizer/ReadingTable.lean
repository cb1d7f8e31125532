import Mathlib.Tactic.Common
import PinyinSearch.Proofs.Unicode.Lowercase
import PinyinSearch.Proofs.Words
import PinyinSearch.Romanizer

/-!
# Readings from a table

The readings that a table has for a character are those of the spellings in the rows of the
character (`mem_readings_ofRows`).  A reading is nothing only if its spelling is blank
(`plain_ofToned_eq_nil_iff`), and it is spelled by itself, unless there is white space in it
(`ofToned_toned`).
-/

namespace PinyinSearch

open Text

namespace Unicode

lemma lowercase_eq_nil_iff {s : List Char} : lowercase s = [] ↔ s = [] := by
  constructor
  · intro h
    cases s with
    | nil => rfl
    | cons c s =>
      rw [lowercase, lowerAfter, List.append_eq_nil_iff] at h
      have hsome : ∀ c, lowerChar c ≠ [] := by
        intro c
        rw [lowerChar]
        split
        · exact List.cons_ne_nil _ _
        · split <;> exact List.cons_ne_nil _ _
      have hhead := h.1
      split at hhead
      · split at hhead <;> cases hhead
      · exact absurd hhead (hsome c)
  · rintro rfl
    rfl

end Unicode

namespace Reading

variable {spelling : Text}

lemma plain_ofToned_eq_nil_iff : (ofToned spelling).plain = [] ↔ spelling.trim = [] := by
  rw [← List.length_eq_zero_iff, length_plain_ofToned, List.length_eq_zero_iff, ofToned,
    Unicode.lowercase_eq_nil_iff]

/-- The letters with marks. -/
def markedLetters : Text := "āáǎàēéěèīíǐìōóǒòūúǔùǖǘǚǜüńňǹḿ".toList

lemma mem_markedLetters {c : Char} (h : (toneMark? c).isSome = true) : c ∈ markedLetters := by
  unfold toneMark? at h
  split at h
  all_goals first | decide | cases h

set_option maxRecDepth 100000 in
/-- None of them is white space or a character that has another lower-case form. -/
lemma all_markedLetters : (markedLetters.all fun c =>
    !Unicode.isBlank c && Unicode.movingRuns.all fun t => !t.holds c.toNat) = true := by
  have htable : Unicode.lowercaseTable.toList = _ := String.toList_ofList
  unfold Unicode.movingRuns Unicode.lowercaseRuns Unicode.Shift.ofTable
  rw [htable]
  decide +kernel

lemma of_mem_markedLetters {c : Char} (h : c ∈ markedLetters) :
    Unicode.IsLowered c ∧ Unicode.isBlank c = false := by
  have hall := List.all_eq_true.1 all_markedLetters c h
  simp only [Bool.and_eq_true, Bool.not_eq_true', List.all_eq_true] at hall
  exact ⟨Unicode.isLowered_of_not_holds hall.2, hall.1⟩

/-- A spelling of small letters, some of them with marks, is taken as it stands. -/
lemma toned_ofToned (h : (spelling.all fun c => c.isLower || (toneMark? c).isSome) = true) :
    (ofToned spelling).toned = spelling ∧ ∀ c ∈ spelling, Unicode.isBlank c = false := by
  have hletters : ∀ c ∈ spelling, Unicode.IsLowered c ∧ Unicode.isBlank c = false := by
    intro c hc
    rcases Bool.or_eq_true_iff.1 (List.all_eq_true.1 h c hc) with hlower | hmark
    · have hrange := Unicode.isLower_iff.1 hlower
      exact ⟨Unicode.isLowered_of_ascii (by omega) (Unicode.not_isUpper_of_isLower hlower),
        Unicode.not_isBlank_of_isAlpha (Bool.or_eq_true_iff.2 (.inr hlower))⟩
    · exact of_mem_markedLetters (mem_markedLetters hmark)
  have hsolid : ∀ c ∈ spelling, Unicode.isBlank c = false := fun c hc => (hletters c hc).2
  refine ⟨?_, hsolid⟩
  rw [ofToned, trim_of_noBlank hsolid]
  exact Unicode.lowerAfter_of_isLowered fun c hc => (hletters c hc).1

/-- A marked spelling without white space spells its own reading. -/
lemma ofToned_toned (h : ∀ c ∈ (ofToned spelling).toned, Unicode.isBlank c = false) :
    ofToned (ofToned spelling).toned = ofToned spelling := by
  have htoned : Unicode.lowercase (ofToned spelling).toned.trim = (ofToned spelling).toned := by
    rw [trim_of_noBlank h]
    exact Unicode.lowercase_lowercase spelling.trim
  rw [ofToned, htoned]
  rfl

end Reading

namespace ReadingTable

variable {t : ReadingTable} {rows : List (Char × List Text)} {c d : Char} {reading : Reading}

/-- A row adds the readings of its spellings to those of its character. -/
lemma mem_readings_insert {spellings : List Text} :
    reading ∈ (t.insert c spellings).romanizer.readings d ↔
      reading ∈ t.romanizer.readings d ∨
        c = d ∧ ∃ spelling ∈ spellings, reading = Reading.ofToned spelling := by
  by_cases hc : c = d
  · subst hc
    simp only [romanizer, insert, Table.get?_alter_self, Option.getD_some, FirstSeen.mem_ofList,
      List.mem_append, List.mem_map, true_and, eq_comm]
  · simp only [romanizer, insert, Table.get?_alter_of_ne _ _ hc, hc, false_and, or_false]

lemma mem_readings_foldl :
    reading ∈ (rows.foldl (fun t (c, spellings) => t.insert c spellings) t).romanizer.readings d ↔
      reading ∈ t.romanizer.readings d ∨
        ∃ row ∈ rows, row.1 = d ∧ ∃ spelling ∈ row.2, reading = Reading.ofToned spelling := by
  induction rows generalizing t with
  | nil => simp
  | cons row rows ih =>
    rw [List.foldl_cons, ih, mem_readings_insert, or_assoc]
    simp only [List.mem_cons, exists_eq_or_imp]

/-- The readings of a character are those of the spellings in its rows. -/
theorem mem_readings_ofRows :
    reading ∈ (ofRows rows).romanizer.readings d ↔
      ∃ row ∈ rows, row.1 = d ∧ ∃ spelling ∈ row.2, reading = Reading.ofToned spelling := by
  have hempty : reading ∉ (romanizer []).readings d := List.not_mem_nil
  rw [ofRows, mem_readings_foldl]
  simp only [hempty, false_or]

end ReadingTable

end PinyinSearch
