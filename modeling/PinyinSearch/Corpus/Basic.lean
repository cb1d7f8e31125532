import PinyinSearch.Corpus.Frequency
import PinyinSearch.Corpus.Postings
import PinyinSearch.Entry
import PinyinSearch.Similarity
import PinyinSearch.SyllableTrie

/-!
# Corpora

The entries of a corpus in order, with postings for every attribute that a query may ask for, the
syllables that occur with the characters pronounced so and the syllables they are confused with,
and counts of first, last and all characters.
-/

namespace PinyinSearch

/-- The entries of a corpus with their inverted maps. -/
structure CorpusTables where
  entries : List Entry
  byFirst : Postings Char
  byLast : Postings Char
  byChar : Postings Char
  byInitials : Postings Text
  byPlain : Postings Text
  byRhyme : Postings Text
  byTones : Postings Text
  byLength : Postings Nat
  byCategory : Postings Category
  byShape : Postings Shape
  /-- The ideographs of the corpus by their plain syllable, in ascending order. -/
  charsBySyllable : Table Text (List Char)
  /-- The syllables that a known syllable may be confused with, where there are any. -/
  similarBySyllable : Table Text (List Text)
  firstFrequency : Frequency
  lastFrequency : Frequency
  charFrequency : Frequency
deriving DecidableEq, Repr, Inhabited

/-- A corpus with its inverted maps and, derived from them, its syllables as a trie. -/
structure Corpus extends CorpusTables where
  trie : SyllableTrie
deriving Inhabited

/-- The places whose characters are counted. -/
inductive Place where
  | first
  | last
  | anywhere
deriving DecidableEq, Repr

/-- The ideographs of a list of glyphs, each under its plain syllable. -/
def charsBySyllable (glyphs : List Glyph) : Table Text (List Char) :=
  (glyphs.filter fun g => Unicode.isIdeograph g.char).foldl
    (fun t g => t.alter g.plain fun known => Ascending.insert g.char (known.getD [])) []

/-- The confusable syllables of each syllable that has some. -/
def similarBySyllable (similarity : Similarity) (syllables : List Text) : Table Text (List Text) :=
  syllables.filterMap fun s =>
    match similarity.similarSyllables s with
    | [] => none
    | similar => some (s, similar)

/-- The inverted maps of a list of entries. -/
def CorpusTables.build (similarity : Similarity) (entries : List Entry) : CorpusTables :=
  let syllables := PinyinSearch.charsBySyllable (entries.flatMap (·.sound.glyphs))
  { entries
    byFirst := .build (·.first?.toList) entries
    byLast := .build (·.last?.toList) entries
    byChar := .build (·.text) entries
    byInitials := .build (fun e => [e.initials]) entries
    byPlain := .build (fun e => [e.plain]) entries
    byRhyme := .build (fun e => [e.rhyme]) entries
    byTones := .build (fun e => [e.tones]) entries
    byLength := .build (fun e => [e.length]) entries
    byCategory := .build (fun e => [e.category]) entries
    byShape := .build (·.shape?.toList) entries
    charsBySyllable := syllables
    similarBySyllable := PinyinSearch.similarBySyllable similarity syllables.keys
    firstFrequency := .ofChars (entries.filterMap (·.first?))
    lastFrequency := .ofChars (entries.filterMap (·.last?))
    charFrequency := .ofChars (entries.flatMap (·.text)) }

namespace Corpus

/-- The corpus with the given maps. -/
def ofTables (t : CorpusTables) : Corpus := { t with trie := .ofWords t.charsBySyllable.keys }

/-- The corpus of a list of entries. -/
def build (similarity : Similarity) (entries : List Entry) : Corpus :=
  ofTables (.build similarity entries)

/-- The corpus of those entries whose text holds more than white space. -/
def buildFiltered (similarity : Similarity) (entries : List Entry) : Corpus :=
  build similarity (entries.filter fun e => e.text.trim ≠ [])

/-! ## Look-ups -/

/-- The number of entries. -/
def size (c : Corpus) : Nat := c.entries.length

/-- The entry at a position. -/
def entry? (c : Corpus) (p : Position) : Option Entry := c.entries[p]?

/-- The ideographs with a plain syllable, `none` for a syllable that is not known. -/
def charsFor? (c : Corpus) (syllable : Text) : Option (List Char) := c.charsBySyllable.get? syllable

/-- The syllables that a known syllable may be confused with, `none` where there are none. -/
def similarTo? (c : Corpus) (syllable : Text) : Option (List Text) :=
  c.similarBySyllable.get? syllable

/-- Whether some ideograph of the corpus has this plain syllable. -/
def knows (c : Corpus) (syllable : Text) : Bool := c.charsBySyllable.contains syllable

/-- Whether some known syllable begins with the given letters. -/
def knowsFrom (c : Corpus) (letters : Text) : Bool := c.trie.hasWordFrom letters

/-- The number of known syllables. -/
def syllableCount (c : Corpus) : Nat := c.charsBySyllable.length

/-- The counts of the characters at a place. -/
def frequency (c : Corpus) : Place → Frequency
  | .first => c.firstFrequency
  | .last => c.lastFrequency
  | .anywhere => c.charFrequency

/-- The number of entries of each category that has some. -/
def categoryCounts (c : Corpus) : List (Category × Nat) :=
  (Category.all.map fun k => (k, (c.byCategory.positions k).length)).filter fun (_, n) => 0 < n

@[simp] theorem toCorpusTables_build (similarity : Similarity) (entries : List Entry) :
    (build similarity entries).toCorpusTables = .build similarity entries := rfl

end Corpus

end PinyinSearch
