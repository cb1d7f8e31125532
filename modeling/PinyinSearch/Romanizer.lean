import PinyinSearch.Combinations
import PinyinSearch.FirstSeen
import PinyinSearch.Reading
import PinyinSearch.Syllable
import PinyinSearch.Table

/-!
# Romanizers

A romanizer knows the readings of single characters.  What a text sounds like is derived from them
character by character, so a text and its romanization always have the same number of glyphs.
-/

namespace PinyinSearch

/-- The readings of each character, the most common one first. -/
structure Romanizer where
  readings : Char → List Reading

/-- A character with the reading that represents it, if it has one. -/
structure Glyph where
  char : Char
  reading : Option Reading
deriving DecidableEq, Repr, Inhabited

namespace Glyph

/-- The marked syllable; a character without reading stands for itself. -/
def toned (g : Glyph) : Text := g.reading.elim [g.char] (·.toned)

/-- The plain syllable; a character without reading stands for itself. -/
def plain (g : Glyph) : Text := g.reading.elim [g.char] (·.plain)

/-- The first letter of the plain syllable. -/
def initial (g : Glyph) : Text := g.plain.take 1

/-- The tone, neutral for a character without reading. -/
def tone (g : Glyph) : Tone := g.reading.elim .neutral (·.tone)

/-- The strict final, empty for a character without reading. -/
def final (g : Glyph) : Text := g.reading.elim [] fun r => Syllable.strictFinal r.plain

end Glyph

/-- A text together with the reading of each of its characters. -/
structure Romanization where
  glyphs : List Glyph
deriving DecidableEq, Repr, Inhabited

namespace Romanization

/-- The text that is romanized. -/
def text (r : Romanization) : Text := r.glyphs.map (·.char)

/-- The plain syllable of each character. -/
def syllables (r : Romanization) : List Text := r.glyphs.map (·.plain)

/-- The marked pronunciation, one syllable a character with spaces between them. -/
def toned (r : Romanization) : Text := Text.join [' '] (r.glyphs.map (·.toned))

/-- The plain pronunciation, one syllable a character with spaces between them. -/
def plain (r : Romanization) : Text := Text.join [' '] r.syllables

/-- The first letters of the syllables. -/
def initials (r : Romanization) : Text := r.glyphs.flatMap (·.initial)

/-- The digits of the tones, with commas between them. -/
def tones (r : Romanization) : Text := Text.join [','] (r.glyphs.map fun g => [g.tone.digit])

/-- The strict final of the last character. -/
def rhyme (r : Romanization) : Text := r.glyphs.getLast?.elim [] (·.final)

end Romanization

namespace Romanizer

/-- The plain spelling of the first reading of a character. -/
def firstPlain? (r : Romanizer) (c : Char) : Option Text := (r.readings c).head?.map (·.plain)

/-- The character with its first reading. -/
def glyph (r : Romanizer) (c : Char) : Glyph := ⟨c, (r.readings c).head?⟩

/-- The strict final of the first reading of a character, empty if there is none. -/
def finalOf (r : Romanizer) (c : Char) : Text := (r.glyph c).final

/-- The romanization of a text by the first reading of each character. -/
def romanize (r : Romanizer) (text : Text) : Romanization := ⟨text.map r.glyph⟩

/-! ## All readings of a text -/

/-- What the readings of a character look like under `render`; the character itself if it has no
reading. -/
def alternatives (r : Romanizer) (render : Reading → Text) (c : Char) : List Text :=
  match r.readings c with
  | [] => [[c]]
  | readings => FirstSeen.ofList (readings.map render)

/-- Every rendering of a text with `sep` between the characters, in order of first appearance. -/
def variants (r : Romanizer) (render : Reading → Text) (sep text : Text) : List Text :=
  FirstSeen.ofList ((combinations (text.map (r.alternatives render))).map (Text.join sep))

/-- Every marked pronunciation of a text. -/
def tonedVariants (r : Romanizer) : Text → List Text := r.variants (·.toned) [' ']

/-- Every plain pronunciation of a text. -/
def plainVariants (r : Romanizer) : Text → List Text := r.variants (·.plain) [' ']

/-- Every string of initials of a text. -/
def initialsVariants (r : Romanizer) : Text → List Text := r.variants (·.plain.take 1) []

@[simp] theorem text_romanize (r : Romanizer) (t : Text) : (r.romanize t).text = t := by
  simp [romanize, Romanization.text, glyph, Function.comp_def]

@[simp] theorem length_glyphs_romanize (r : Romanizer) (t : Text) :
    (r.romanize t).glyphs.length = t.length := by
  simp [romanize]

@[simp] theorem glyphs_romanize_append (r : Romanizer) (s t : Text) :
    (r.romanize (s ++ t)).glyphs = (r.romanize s).glyphs ++ (r.romanize t).glyphs := by
  simp [romanize]

end Romanizer

/-! ## Romanizers from a table -/

/-- The readings written down for some characters. -/
abbrev ReadingTable := Table Char (List Reading)

namespace ReadingTable

/-- Adds readings to those of a character, behind them and each once. -/
def insert (t : ReadingTable) (c : Char) (spellings : List Text) : ReadingTable :=
  t.alter c fun known => FirstSeen.ofList (known.getD [] ++ spellings.map Reading.ofToned)

/-- The romanizer that knows the readings of the table and no others. -/
def romanizer (t : ReadingTable) : Romanizer := ⟨fun c => (t.get? c).getD []⟩

/-- The table with the given rows inserted one after the other. -/
def ofRows (rows : List (Char × List Text)) : ReadingTable :=
  rows.foldl (fun t (c, spellings) => t.insert c spellings) []

end ReadingTable

/-! ## Romanizers from a dictionary -/

/-- The marked spellings of the characters that a dictionary has, the most common one first. -/
structure Dictionary where
  spellings? : Char → Option (List Text)

namespace Dictionary

/-- The romanizer that reads characters by a dictionary, each distinct reading once.  A character
that the dictionary does not have has no reading. -/
def romanizer (d : Dictionary) : Romanizer :=
  ⟨fun c => FirstSeen.ofList (((d.spellings? c).getD []).map Reading.ofToned)⟩

end Dictionary

end PinyinSearch
