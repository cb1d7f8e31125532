import PinyinSearch.Entry
import PinyinSearch.Proofs.Romanizer.ReadingTable

/-!
# One syllable, one tone and one initial for each character

The characters of an entry have one syllable and one tone each, and one initial unless the syllable
is empty (`isAligned_of_make`).  Initials are missing exactly if a character has an empty reading
(`length_initials_lt_iff`), which a table gives to a character whose first spelling is blank; with a
table without blank spellings no entry misses an initial (`length_initials_of_ofRows`).
-/

namespace PinyinSearch

open Text

namespace Entry

variable {e : Entry} {r : Romanizer} {k : Category} {raw : Text}

/-- The attributes of an entry that are made up character by character are as long as the entry. -/
structure IsAligned (e : Entry) : Prop where
  one_le : 1 ≤ e.length
  chars : e.text.length = e.length
  syllables : e.syllables.length = e.length
  tones : (e.tones.splitOn ',').length = e.length
  /-- Only the empty syllables have no initial. -/
  initials : e.initials.length + e.syllables.count [] = e.length

lemma sound_of_make (h : make r k raw = .ok e) : e.sound = r.romanize (normalize raw) := by
  rw [make] at h
  split at h
  · cases h
  · cases h
    rfl

lemma initials_eq_flatMap (e : Entry) : e.initials = e.syllables.flatMap (·.take 1) := by
  rw [syllables, Romanization.syllables, List.flatMap_map]
  rfl

lemma length_initials_add (e : Entry) : e.initials.length + e.syllables.count [] = e.length := by
  rw [initials_eq_flatMap, ← length_syllables]
  induction e.syllables with
  | nil => rfl
  | cons s rest ih =>
    rw [List.flatMap_cons, List.length_append, List.length_cons]
    cases s with
    | nil =>
      rw [List.count_cons_self]
      simp only [List.take_nil, List.length_nil]
      omega
    | cons c s =>
      rw [List.count_cons_of_ne (List.cons_ne_nil c s)]
      simp only [List.take_succ_cons, List.take_zero, List.length_singleton]
      omega

lemma length_initials_le (e : Entry) : e.initials.length ≤ e.length := by
  have := e.length_initials_add
  omega

lemma length_splitOn_tones (h : e.text ≠ []) : (e.tones.splitOn ',').length = e.length := by
  have hglyphs : e.sound.glyphs ≠ [] := by simpa [text, Romanization.text] using h
  have hdigit : ∀ t : Tone, ',' ≠ t.digit := by decide
  have hcomma : ∀ part ∈ e.sound.glyphs.map fun g => [g.tone.digit], ',' ∉ part := by
    intro part hpart
    obtain ⟨g, -, rfl⟩ := List.mem_map.1 hpart
    rw [List.mem_singleton]
    exact hdigit g.tone
  rw [tones, Romanization.tones, join, List.splitOn_intercalate _ hcomma (by simpa using hglyphs),
    length, text, Romanization.text, List.length_map, List.length_map]

/-- An entry that is made has one character at least, for each character one syllable and one tone,
and for each syllable that is not empty one initial. -/
theorem isAligned_of_make (h : make r k raw = .ok e) : e.IsAligned where
  one_le := List.length_pos_iff.2 (text_ne_nil_of_make h)
  chars := rfl
  syllables := length_syllables e
  tones := length_splitOn_tones (text_ne_nil_of_make h)
  initials := length_initials_add e

/-! ## Blank spellings -/

lemma plain_glyph_eq_nil_iff {c : Char} : (r.glyph c).plain = [] ↔ r.firstPlain? c = some [] := by
  rw [Glyph.plain, Romanizer.glyph, Romanizer.firstPlain?]
  cases (r.readings c).head? with
  | none => simp
  | some reading => simp

lemma nil_mem_syllables_iff (h : make r k raw = .ok e) :
    [] ∈ e.syllables ↔ ∃ c ∈ normalize raw, r.firstPlain? c = some [] := by
  rw [syllables, Romanization.syllables, sound_of_make h, Romanizer.romanize, List.map_map,
    List.mem_map]
  simp only [Function.comp_apply, plain_glyph_eq_nil_iff]

lemma length_initials_eq_iff (e : Entry) : e.initials.length = e.length ↔ [] ∉ e.syllables := by
  rw [← List.count_eq_zero]
  have := e.length_initials_add
  omega

/-- There are fewer initials than characters exactly if a character has an empty reading. -/
theorem length_initials_lt_iff (h : make r k raw = .ok e) :
    e.initials.length < e.length ↔ ∃ c ∈ normalize raw, r.firstPlain? c = some [] := by
  rw [← nil_mem_syllables_iff h, Nat.lt_iff_le_and_ne, Ne, length_initials_eq_iff, not_not]
  exact and_iff_right e.length_initials_le

/-- A blank spelling leaves a character without an initial. -/
theorem length_initials_lt_iff_sample :
    ∃ e, make (ReadingTable.ofRows [('-', [[' ']])]).romanizer .word ['-'] = .ok e ∧
      e.initials.length < e.length := by
  have hmade : make (ReadingTable.ofRows [('-', [[' ']])]).romanizer .word ['-'] = .ok _ := rfl
  exact ⟨_, hmade, (length_initials_lt_iff hmade).2 ⟨'-', by decide, by decide⟩⟩

/-- With a table none of whose spellings is blank, there is one initial for each character. -/
theorem length_initials_of_ofRows {rows : List (Char × List Text)}
    (hrows : ∀ row ∈ rows, ∀ spelling ∈ row.2, spelling.trim ≠ [])
    (h : make (ReadingTable.ofRows rows).romanizer k raw = .ok e) :
    e.initials.length = e.length := by
  rw [length_initials_eq_iff, nil_mem_syllables_iff h]
  rintro ⟨c, -, hplain⟩
  obtain ⟨reading, hfirst, hnil⟩ := Option.map_eq_some_iff.1 hplain
  obtain ⟨row, hrow, -, spelling, hspelling, rfl⟩ :=
    ReadingTable.mem_readings_ofRows.1 (List.mem_of_mem_head? hfirst)
  exact hrows row hrow spelling hspelling (Reading.plain_ofToned_eq_nil_iff.1 hnil)

end Entry

end PinyinSearch
