import Mathlib.Tactic.Common
import PinyinSearch.Regex.Escape

/-!
# Names of character classes

No class has a name with a backslash in it, so a name in braces that reaches into another escape
names nothing.
-/

namespace PinyinSearch

namespace Unicode

/-- What counts of a name with a backslash still holds it. -/
lemma backslash_mem_normalName {name : Text} (h : '\\' ∈ name) :
    '\\' ∈ Unicode.normalName name := by
  have hkeep : ∀ {s : Text}, '\\' ∈ s → '\\' ∈
      (s.filter fun c => c.toNat < 128 && c != ' ' && c != '_' && c != '-').map Char.toLower := by
    intro s hs
    exact List.mem_map.2 ⟨'\\', List.mem_filter.2 ⟨hs, by decide⟩, by decide⟩
  rw [Unicode.normalName.eq_def]
  split
  · next i s rest =>
    split
    · next his =>
      rw [Bool.and_eq_true, beq_iff_eq, beq_iff_eq] at his
      have hrest : '\\' ∈ rest := by
        simp only [List.mem_cons] at h
        obtain rfl | rfl | h := h
        · exact absurd his.1 (by decide)
        · exact absurd his.2 (by decide)
        · exact h
      have hmem := hkeep hrest
      dsimp only
      split
      · next hshort =>
        rw [beq_iff_eq] at hshort
        rw [hshort] at hmem
        exact absurd hmem (by decide)
      · exact hmem
    · exact hkeep h
  · exact hkeep h

/-- Whether no row of a table is listed under a name with a backslash, of which the byte is 92. -/
def lacksBackslash {β : Type} (rows : List (List String × β)) : Bool :=
  rows.all fun row => row.1.all fun name => !name.toByteArray.data.toList.contains 92

lemma not_contains_of_lacksBackslash {β : Type} {rows : List (List String × β)} {n : Text}
    (hrows : lacksBackslash rows = true) (hn : '\\' ∈ n) {row : List String × β}
    (hrow : row ∈ rows) :
    row.1.contains (String.ofList n) = false := by
  rw [Bool.eq_false_iff, Ne, List.contains_iff_mem]
  intro hmem
  have hname := List.all_eq_true.1 (List.all_eq_true.1 hrows row hrow) _ hmem
  have hbytes : (String.ofList n).toByteArray.data.toList = n.flatMap String.utf8EncodeChar := by
    simp [List.utf8Encode]
  rw [hbytes, Bool.not_eq_true', Bool.eq_false_iff, Ne, List.contains_iff_mem] at hname
  exact hname (List.mem_flatMap.2 ⟨'\\', hn, by decide⟩)

lemma find?_eq_none_of_lacksBackslash {β : Type} {rows : List (List String × β)} {n : Text}
    (hrows : lacksBackslash rows = true) (hn : '\\' ∈ n) :
    rows.find? (·.1.contains (String.ofList n)) = none := by
  rw [List.find?_eq_none]
  intro row hrow
  rw [not_contains_of_lacksBackslash hrows hn hrow]
  exact Bool.false_ne_true

lemma findTable?_eq_none {rows : List (List String × String)} {n : Text}
    (hrows : lacksBackslash rows = true) (hn : '\\' ∈ n) :
    findTable? rows (String.ofList n) = none := by
  rw [findTable?, find?_eq_none_of_lacksBackslash hrows hn, Option.map_none]

lemma ofList_ne {n : Text} {name : String} (hn : '\\' ∈ n)
    (hname : '\\' ∉ name.toList) : String.ofList n ≠ name := by
  rintro rfl
  exact hname (by simpa using hn)

/-! ## Classes -/

variable {n : Text}

lemma categoryClass?_eq_none (hn : '\\' ∈ n) : categoryClass? (String.ofList n) = none := by
  rw [categoryClass?.eq_def]
  split
  case h_8 =>
    rw [findTable?_eq_none (by decide +kernel) hn]
    have hgroups : lacksBackslash GeneralCategory.groups = true := by decide +kernel
    simp only [find?_eq_none_of_lacksBackslash hgroups hn, Option.map_none]
  all_goals
    next heq => exact absurd heq (ofList_ne hn (by decide))

lemma scriptClass?_eq_none (hn : '\\' ∈ n) : scriptClass? (String.ofList n) = none := by
  rw [scriptClass?, findTable?_eq_none (by decide +kernel) hn, Option.map_none]

lemma propertyClass?_eq_none (hn : '\\' ∈ n) : propertyClass? (String.ofList n) = none := by
  rw [propertyClass?, findTable?_eq_none (by decide +kernel) hn, Option.map_none]

lemma scriptExtensionClass?_eq_none (hn : '\\' ∈ n) :
    scriptExtensionClass? (String.ofList n) = none := by
  rw [scriptExtensionClass?, findTable?_eq_none (by decide +kernel) hn]
  exact scriptClass?_eq_none hn

lemma ageClass?_eq_none (hn : '\\' ∈ n) : ageClass? (String.ofList n) = none := by
  have hnone : ∀ {rows}, lacksBackslash rows = true →
      Age.tablesUpTo? (String.ofList n) rows = none := by
    intro rows hrows
    induction rows with
    | nil => rfl
    | cons row rows ih =>
      have hrow := not_contains_of_lacksBackslash hrows hn List.mem_cons_self
      rw [lacksBackslash, List.all_cons, Bool.and_eq_true] at hrows
      rw [Age.tablesUpTo?, if_neg (Bool.eq_false_iff.1 hrow), ih hrows.2, Option.map_none]
  rw [ageClass?, hnone (by decide +kernel), Option.map_none]

/-- Nothing goes by a name with a backslash. -/
lemma classNamed?_eq_none {name : Text} (h : '\\' ∈ name) : classNamed? name = none := by
  have hn := backslash_mem_normalName h
  simp only [classNamed?, propertyClass?_eq_none hn, categoryClass?_eq_none hn,
    scriptClass?_eq_none hn, ite_self, Option.orElse_none]

/-- No property and no value goes by a name with a backslash. -/
lemma classWithValue?_eq_none {property value : Text} (h : '\\' ∈ property ∨ '\\' ∈ value) :
    classWithValue? property value = none := by
  rw [classWithValue?]
  obtain h | h := h
  · have hn := backslash_mem_normalName h
    split
    all_goals first
      | exact absurd ‹String.ofList _ = _› (ofList_ne hn (by decide))
      | rfl
  · have hn := backslash_mem_normalName h
    have htable : ∀ {rows}, lacksBackslash rows = true →
        (findTable? rows (String.ofList (normalName value))).map
          (fun table => NamedClass.ofTables [table]) = none := fun hrows => by
      rw [findTable?_eq_none hrows hn, Option.map_none]
    split
    · exact categoryClass?_eq_none hn
    · exact categoryClass?_eq_none hn
    · exact scriptClass?_eq_none hn
    · exact scriptClass?_eq_none hn
    · exact scriptExtensionClass?_eq_none hn
    · exact scriptExtensionClass?_eq_none hn
    · exact ageClass?_eq_none hn
    all_goals first | rfl | exact htable (by decide +kernel)

end Unicode

/-- No class of ASCII has a name with a backslash. -/
lemma CharSet.asciiClass?_eq_none {n : Text} (hn : '\\' ∈ n) :
    CharSet.asciiClass? (String.ofList n) = Option.none := by
  rw [CharSet.asciiClass?.eq_def]
  split
  case h_15 => rfl
  all_goals
    next heq => exact absurd heq (Unicode.ofList_ne hn (by decide))

namespace Escape

/-- The parts of a text around the first `!=`. -/
lemma eq_of_cutAtUnequal {s before after : Text} (h : cutAtUnequal s = some (before, after)) :
    s = before ++ '!' :: '=' :: after := by
  fun_induction cutAtUnequal s generalizing before with
  | case1 rest =>
    cases h
    rfl
  | case2 c rest _ ih =>
    obtain ⟨⟨b, r⟩, hrest, heq⟩ := Option.map_eq_some_iff.1 h
    obtain ⟨rfl, rfl⟩ := Prod.mk.inj heq
    rw [ih hrest]
    rfl
  | case3 => cases h

/-- No class has a name with a backslash. -/
lemma classOfName?_eq_none {name : Text} (h : '\\' ∈ name) : classOfName? name = none := by
  have hparts : ∀ {before after sep : Text}, name = before ++ sep ++ after → '\\' ∉ sep →
      Unicode.classWithValue? before after = none := by
    rintro before after sep rfl hsep
    refine Unicode.classWithValue?_eq_none ?_
    simpa [hsep] using h
  rw [classOfName?]
  split
  · next before after hcut =>
    have heq : name = before ++ ['!', '='] ++ after := by simp [eq_of_cutAtUnequal hcut]
    rw [hparts heq (by decide), Option.map_none]
  · split
    · next before after hcut =>
      cases hcolon : name.cutAt ':' with
      | some parts =>
        rw [hcolon] at hcut
        obtain rfl := Option.some.inj hcut
        have heq : name = before ++ [':'] ++ after := by simp [Text.eq_of_cutAt hcolon]
        rw [hparts heq (by decide), Option.map_none]
      | none =>
        rw [hcolon] at hcut
        have heq : name = before ++ ['='] ++ after := by simp [Text.eq_of_cutAt hcut]
        rw [hparts heq (by decide), Option.map_none]
    · rw [Unicode.classNamed?_eq_none h, Option.map_none]

/-- A name that stands for a set holds no backslash. -/
theorem not_mem_of_namedClass? {f : Flags} {negated : Bool} {name : Text} {k : CharSet}
    (h : namedClass? f negated name = some k) : '\\' ∉ name := by
  intro hmem
  rw [namedClass?, classOfName?_eq_none hmem] at h
  split at h <;> cases h

end Escape

end PinyinSearch
