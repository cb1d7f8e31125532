import Mathlib.Data.List.Basic
import PinyinSearch.Proofs.Romanizer.ReadingTable

/-!
# Texts romanized in parts

What a text sounds like is put together from what its parts sound like, and its rhyme is that of its
last character.  The tones can also be read off the marked spelling, if that has one word for each
character (`romanize_agrees`).
-/

namespace PinyinSearch

open Text

/-- What a text sounds like if its two parts are read one after the other. -/
structure Romanization.IsConcat (whole first second : Romanization) : Prop where
  syllables : whole.syllables = first.syllables ++ second.syllables
  toned : whole.toned = first.toned ++ [' '] ++ second.toned
  plain : whole.plain = first.plain ++ [' '] ++ second.plain
  tones : whole.tones = first.tones ++ [','] ++ second.tones
  initials : whole.initials = first.initials ++ second.initials
  rhyme : whole.rhyme = second.rhyme

lemma Romanization.isConcat_of_glyphs {whole first second : Romanization}
    (h : whole.glyphs = first.glyphs ++ second.glyphs) (hfirst : first.glyphs ≠ [])
    (hsecond : second.glyphs ≠ []) : whole.IsConcat first second := by
  have hjoin : ∀ (sep : Text) (f : Glyph → Text), join sep (whole.glyphs.map f) =
      join sep (first.glyphs.map f) ++ sep ++ join sep (second.glyphs.map f) := by
    intro sep f
    rw [h, List.map_append]
    exact join_append_join (by simpa using hfirst) (by simpa using hsecond)
  constructor
  case syllables => rw [syllables, h, List.map_append, ← syllables, ← syllables]
  case toned => exact hjoin _ _
  case plain => exact hjoin _ _
  case tones => exact hjoin _ _
  case initials => rw [initials, h, List.flatMap_append, ← initials, ← initials]
  case rhyme => rw [rhyme, h, List.getLast?_append_of_ne_nil _ hsecond, ← rhyme]

namespace Romanizer

variable {r : Romanizer} {s t : Text} {c : Char}

/-- Every reading is that of a marked spelling. -/
def IsSpelled (r : Romanizer) : Prop :=
  ∀ c, ∀ reading ∈ r.readings c, ∃ spelling, reading = Reading.ofToned spelling

/-- The character is read as one word. -/
def ReadsAsWord (r : Romanizer) (c : Char) : Prop :=
  ∃ reading, (r.readings c).head? = some reading ∧ reading.toned ≠ [] ∧
    ∀ d ∈ reading.toned, Unicode.isBlank d = false

/-- A character is read as one word if its first reading is spelled with small letters, with marks
or without. -/
lemma readsAsWord_of_letters {spelling : Text}
    (hfirst : (r.readings c).head? = some (.ofToned spelling)) (hne : spelling ≠ [])
    (hletters : (spelling.all fun d => d.isLower || (toneMark? d).isSome) = true) :
    r.ReadsAsWord c := by
  obtain ⟨htoned, hsolid⟩ := Reading.toned_ofToned hletters
  rw [← htoned] at hne hsolid
  exact ⟨_, hfirst, hne, hsolid⟩

lemma rhyme_romanize (hs : s ≠ []) : (r.romanize s).rhyme = r.finalOf (s.getLast hs) := by
  rw [Romanization.rhyme, romanize, List.getLast?_map, List.getLast?_eq_getLast_of_ne_nil hs]
  rfl

/-- The word that a character is read as has the tone of the character. -/
lemma tone_toned_glyph (hr : r.IsSpelled) (hc : r.ReadsAsWord c) :
    (Reading.ofToned (r.glyph c).toned).tone = (r.glyph c).tone := by
  obtain ⟨reading, hfirst, -, hsolid⟩ := hc
  obtain ⟨spelling, rfl⟩ := hr c reading (List.mem_of_mem_head? hfirst)
  rw [Glyph.toned, Glyph.tone, glyph, hfirst, Option.elim_some, Option.elim_some,
    Reading.ofToned_toned hsolid]

/-- The tones are read off the marked spelling, word by word. -/
lemma tonesOfSpelling_toned (hr : r.IsSpelled) (hs : ∀ c ∈ s, r.ReadsAsWord c) :
    tonesOfSpelling (r.romanize s).toned = (r.romanize s).tones := by
  have hwords : words (r.romanize s).toned = (s.map r.glyph).map (·.toned) := by
    apply words_join
    intro part hpart
    rw [romanize, List.map_map] at hpart
    obtain ⟨c, hc, rfl⟩ := List.mem_map.1 hpart
    obtain ⟨reading, hfirst, hreading⟩ := hs c hc
    rw [Function.comp_apply, Glyph.toned, glyph, hfirst]
    exact hreading
  rw [tonesOfSpelling, hwords, Romanization.tones, romanize, List.map_map, List.map_map,
    List.map_map]
  congr 1
  apply List.map_congr_left
  intro c hc
  rw [Function.comp_apply, Function.comp_apply, Function.comp_apply, tone_toned_glyph hr (hs c hc)]

/-- Two texts one after the other sound like one and then the other, the last character gives the
rhyme, and the tones can be read off the marked spelling if every character is read as one word. -/
theorem romanize_agrees (hr : r.IsSpelled) (hs : s ≠ []) (ht : t ≠ []) :
    (r.romanize (s ++ t)).IsConcat (r.romanize s) (r.romanize t) ∧
    (r.romanize s).rhyme = r.finalOf (s.getLast hs) ∧
    ((∀ c ∈ s, r.ReadsAsWord c) →
      tonesOfSpelling (r.romanize s).toned = (r.romanize s).tones) := by
  have hglyphs : ∀ {s : Text}, s ≠ [] → (r.romanize s).glyphs ≠ [] := fun hs => by
    simpa [romanize] using hs
  exact ⟨Romanization.isConcat_of_glyphs (glyphs_romanize_append r s t) (hglyphs hs) (hglyphs ht),
    rhyme_romanize hs, tonesOfSpelling_toned hr⟩

/-! ## A table -/

lemma isSpelled_ofRows (rows : List (Char × List Text)) :
    (ReadingTable.ofRows rows).romanizer.IsSpelled := by
  intro c reading hreading
  obtain ⟨-, -, -, spelling, -, rfl⟩ := ReadingTable.mem_readings_ofRows.1 hreading
  exact ⟨spelling, rfl⟩

/-- A table for two characters, each of a tone of its own. -/
def sampleTable : ReadingTable :=
  .ofRows [('中', ["zhōng".toList]), ('国', ["guó".toList])]

lemma readsAsWord_sampleTable : ∀ c ∈ ['中', '国'], sampleTable.romanizer.ReadsAsWord c := by
  rw [List.forall_mem_cons, List.forall_mem_singleton]
  constructor
  · exact @readsAsWord_of_letters _ '中' "zhōng".toList rfl (by decide) (by decide)
  · exact @readsAsWord_of_letters _ '国' "guó".toList rfl (by decide) (by decide)

/-- The table with a text of two characters and one of a single character. -/
theorem romanize_agrees_sampleTable :
    sampleTable.romanizer.IsSpelled ∧ (∀ c ∈ ['中', '国'], sampleTable.romanizer.ReadsAsWord c) ∧
    (sampleTable.romanizer.romanize ['中', '国', '国']).IsConcat
      (sampleTable.romanizer.romanize ['中', '国']) (sampleTable.romanizer.romanize ['国']) ∧
    (sampleTable.romanizer.romanize ['中', '国']).rhyme = sampleTable.romanizer.finalOf '国' ∧
    tonesOfSpelling (sampleTable.romanizer.romanize ['中', '国']).toned =
      (sampleTable.romanizer.romanize ['中', '国']).tones := by
  have hspelled := isSpelled_ofRows [('中', ["zhōng".toList]), ('国', ["guó".toList])]
  obtain ⟨hconcat, hrhyme, htones⟩ := romanize_agrees (s := ['中', '国']) (t := ['国']) hspelled
    (List.cons_ne_nil _ _) (List.cons_ne_nil _ _)
  exact ⟨hspelled, readsAsWord_sampleTable, hconcat, hrhyme, htones readsAsWord_sampleTable⟩

end Romanizer

end PinyinSearch
