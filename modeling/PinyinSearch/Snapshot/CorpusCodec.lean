import PinyinSearch.Corpus.Basic
import PinyinSearch.Snapshot.Codec

/-!
# Writing corpora

The layout in which the maps of a corpus are written.  An `IndexRecord` holds what can be said in
this layout: there every attribute of an entry is a field of its own, and nothing makes the fields
agree; the rows of a map stand in any order, and several of them may be for one key.  Every record
is written and read back (`lawful_indexRecord`).

The maps of a corpus are written as their record, and told from a record whose entries have the
attributes of their texts.  The trie of syllables is not written: it follows from the syllables.
-/

namespace PinyinSearch

open Codec (Word Sequence BoundedText)

/-! ## Entries -/

/-- An entry as it is written. -/
structure EntryRecord where
  text : BoundedText
  chars : Sequence Char
  toned : BoundedText
  plain : BoundedText
  syllables : Sequence BoundedText
  initials : BoundedText
  tones : BoundedText
  rhyme : BoundedText
  category : Category
  shape : Option Shape
  definition : Option BoundedText
  source : Option BoundedText
  usage : Option BoundedText
deriving DecidableEq

/-- The tone that a digit writes, neutral for any other character. -/
def Tone.ofDigit (c : Char) : Tone :=
  ((List.finRange 5).find? fun t => Tone.digit t = c).getD Tone.neutral

namespace EntryRecord

/-- The record of an entry. -/
def ofEntry (e : Entry) : EntryRecord where
  text := .ofText e.text
  chars := .ofList e.text
  toned := .ofText e.toned
  plain := .ofText e.plain
  syllables := .ofList (e.syllables.map .ofText)
  initials := .ofText e.initials
  tones := .ofText e.tones
  rhyme := .ofText e.rhyme
  category := e.category
  shape := e.shape?
  definition := e.definition.map .ofText
  source := e.source.map .ofText
  usage := e.usage.map .ofText

/-- The glyphs with some characters and plain syllables, where the marked syllables and the digits
of the tones stand one behind the other.  A marked syllable has the length of the plain one.  A
character that stands for itself has no reading, except at the end of a text with a rhyme. -/
def glyphs (rhyme : Text) : Text → List Text → Text → Text → List Glyph
  | c :: chars, plain :: syllables, toned, tones =>
    let reading : Reading := ⟨toned.take plain.length, plain, .ofDigit (tones.headD '0')⟩
    let silent : Bool := reading = ⟨[c], [c], Tone.neutral⟩ ∧ (chars ≠ [] ∨ rhyme = [])
    ⟨c, if silent then none else some reading⟩ ::
      glyphs rhyme chars syllables (toned.drop (plain.length + 1)) (tones.drop 2)
  | _, _, _, _ => []

/-- The entry of a record, `none` if the record is that of no entry. -/
def entry? (r : EntryRecord) : Option Entry :=
  let e : Entry :=
    { sound :=
        ⟨glyphs r.rhyme.val r.chars.val (r.syllables.val.map (·.val)) r.toned.val r.tones.val⟩
      category := r.category
      definition := r.definition.map (·.val)
      source := r.source.map (·.val)
      usage := r.usage.map (·.val) }
  if ofEntry e = r then some e else none

end EntryRecord

/-! ## Maps -/

/-- A map as it is written. -/
abbrev Rows (κ α : Type) := Sequence (κ × α)

namespace Rows

variable {κ κ' α β : Type}

/-- The rows of a table, with keys and values as they are written. -/
def ofTable (key : κ → κ') (value : α → β) (t : Table κ α) : Rows κ' β :=
  .ofList (t.map fun (k, a) => (key k, value a))

/-- The table with some rows that were written. -/
def table [DecidableEq κ] (key : κ' → κ) (value : β → α) (rows : Rows κ' β) : Table κ α :=
  .ofRows (rows.val.map fun (k, b) => (key k, value b))

end Rows

/-- The maps of a corpus as they are written. -/
structure IndexRecord where
  entries : Sequence EntryRecord
  byFirst : Rows Char (Sequence (Word 8))
  byLast : Rows Char (Sequence (Word 8))
  byChar : Rows Char (Sequence (Word 8))
  byInitials : Rows BoundedText (Sequence (Word 8))
  byPlain : Rows BoundedText (Sequence (Word 8))
  byRhyme : Rows BoundedText (Sequence (Word 8))
  byTones : Rows BoundedText (Sequence (Word 8))
  byLength : Rows (Word 8) (Sequence (Word 8))
  byCategory : Rows Category (Sequence (Word 8))
  byShape : Rows Shape (Sequence (Word 8))
  charsBySyllable : Rows BoundedText (Sequence Char)
  similarBySyllable : Rows BoundedText (Sequence BoundedText)
  firstFrequency : Rows Char (Word 8)
  lastFrequency : Rows Char (Word 8)
  charFrequency : Rows Char (Word 8)
deriving DecidableEq

/-- The record of the maps of a corpus. -/
def CorpusTables.record (t : CorpusTables) : IndexRecord :=
  let positions (ps : List Position) : Sequence (Word 8) := .ofList (ps.map .ofNat)
  { entries := .ofList (t.entries.map .ofEntry)
    byFirst := .ofTable id positions t.byFirst
    byLast := .ofTable id positions t.byLast
    byChar := .ofTable id positions t.byChar
    byInitials := .ofTable .ofText positions t.byInitials
    byPlain := .ofTable .ofText positions t.byPlain
    byRhyme := .ofTable .ofText positions t.byRhyme
    byTones := .ofTable .ofText positions t.byTones
    byLength := .ofTable .ofNat positions t.byLength
    byCategory := .ofTable id positions t.byCategory
    byShape := .ofTable id positions t.byShape
    charsBySyllable := .ofTable .ofText .ofList t.charsBySyllable
    similarBySyllable := .ofTable .ofText (fun ss => .ofList (ss.map .ofText)) t.similarBySyllable
    firstFrequency := .ofTable id .ofNat t.firstFrequency
    lastFrequency := .ofTable id .ofNat t.lastFrequency
    charFrequency := .ofTable id .ofNat t.charFrequency }

namespace IndexRecord

/-- The maps of a record, `none` if it holds an entry that is none.  Sets are put in order. -/
def tables? (r : IndexRecord) : Option CorpusTables :=
  let positions (ps : Sequence (Word 8)) : List Position := ps.val.map (·.val)
  (r.entries.val.mapM EntryRecord.entry?).map fun entries =>
    { entries
      byFirst := r.byFirst.table id positions
      byLast := r.byLast.table id positions
      byChar := r.byChar.table id positions
      byInitials := r.byInitials.table (·.val) positions
      byPlain := r.byPlain.table (·.val) positions
      byRhyme := r.byRhyme.table (·.val) positions
      byTones := r.byTones.table (·.val) positions
      byLength := r.byLength.table (·.val) positions
      byCategory := r.byCategory.table id positions
      byShape := r.byShape.table id positions
      charsBySyllable := r.charsBySyllable.table (·.val) fun cs => Ascending.ofList cs.val
      similarBySyllable := r.similarBySyllable.table (·.val) fun ss =>
        Ascending.ofList (ss.val.map (·.val))
      firstFrequency := r.firstFrequency.table id (·.val)
      lastFrequency := r.lastFrequency.table id (·.val)
      charFrequency := r.charFrequency.table id (·.val) }

/-- A record with a trie of its syllables. -/
def withTrie (r : IndexRecord) : IndexRecord × SyllableTrie :=
  (r, .ofWords (r.charsBySyllable.val.map (·.1.val)))

end IndexRecord

/-! ## Codecs -/

namespace Codec

/-- Categories. -/
def category : Codec Category := member Category.all

/-- Word shapes. -/
def shape : Codec Shape := member Shape.all

/-- Entries. -/
def entryRecord : Codec EntryRecord :=
  (pair text <| pair char.list <| pair text <| pair text <| pair text.list <| pair text <|
    pair text <| pair text <| pair category <| pair shape.option <| pair text.option <|
    pair text.option text.option).map
    (fun r => (r.text, r.chars, r.toned, r.plain, r.syllables, r.initials, r.tones, r.rhyme,
      r.category, r.shape, r.definition, r.source, r.usage))
    fun (text, chars, toned, plain, syllables, initials, tones, rhyme, category, shape, definition,
        source, usage) =>
      some { text, chars, toned, plain, syllables, initials, tones, rhyme, category, shape,
             definition, source, usage }

/-- Maps. -/
def rows {κ α : Type} (k : Codec κ) (a : Codec α) : Codec (Rows κ α) := (k.pair a).list

/-- Inverted maps. -/
def postings {κ : Type} (k : Codec κ) : Codec (Rows κ (Sequence (Word 8))) := rows k (word 8).list

/-- The maps of a corpus, one behind the other. -/
def indexRecord : Codec IndexRecord :=
  (pair entryRecord.list <| pair (postings char) <| pair (postings char) <| pair (postings char) <|
    pair (postings text) <| pair (postings text) <| pair (postings text) <| pair (postings text) <|
    pair (postings (word 8)) <| pair (postings category) <| pair (postings shape) <|
    pair (rows text char.list) <| pair (rows text text.list) <|
    pair (rows char (word 8)) <| pair (rows char (word 8)) (rows char (word 8))).map
    (fun r => (r.entries, r.byFirst, r.byLast, r.byChar, r.byInitials, r.byPlain, r.byRhyme,
      r.byTones, r.byLength, r.byCategory, r.byShape, r.charsBySyllable, r.similarBySyllable,
      r.firstFrequency, r.lastFrequency, r.charFrequency))
    fun (entries, byFirst, byLast, byChar, byInitials, byPlain, byRhyme, byTones, byLength,
        byCategory, byShape, charsBySyllable, similarBySyllable, firstFrequency, lastFrequency,
        charFrequency) =>
      some { entries, byFirst, byLast, byChar, byInitials, byPlain, byRhyme, byTones, byLength,
             byCategory, byShape, charsBySyllable, similarBySyllable, firstFrequency,
             lastFrequency, charFrequency }

/-- The maps of a corpus, as their record. -/
def corpusTables : Codec CorpusTables :=
  indexRecord.map CorpusTables.record IndexRecord.tables?

/-! ## Laws -/

theorem lawful_category : category.Lawful :=
  lawful_member Category.mem_all (by decide) (by decide)

theorem lawful_shape : shape.Lawful := lawful_member Shape.mem_all (by decide) (by decide)

theorem lawful_entryRecord : entryRecord.Lawful := by
  refine Lawful.map ?_ (fun _ => rfl) fun _ _ h => by cases h; rfl
  exact lawful_text.pair <| lawful_char.list.pair <| lawful_text.pair <| lawful_text.pair <|
    lawful_text.list.pair <| lawful_text.pair <| lawful_text.pair <| lawful_text.pair <|
    lawful_category.pair <| lawful_shape.option.pair <| lawful_text.option.pair <|
    lawful_text.option.pair lawful_text.option

theorem lawful_rows {κ α : Type} {k : Codec κ} {a : Codec α} (keys : k.Lawful)
    (values : a.Lawful) : (rows k a).Lawful :=
  (keys.pair values).list

theorem lawful_postings {κ : Type} {k : Codec κ} (keys : k.Lawful) : (postings k).Lawful :=
  lawful_rows keys (lawful_word 8).list

theorem lawful_indexRecord : indexRecord.Lawful := by
  have count := lawful_rows lawful_char (lawful_word 8)
  refine Lawful.map ?_ (fun _ => rfl) fun _ _ h => by cases h; rfl
  exact lawful_entryRecord.list.pair <| (lawful_postings lawful_char).pair <|
    (lawful_postings lawful_char).pair <| (lawful_postings lawful_char).pair <|
    (lawful_postings lawful_text).pair <| (lawful_postings lawful_text).pair <|
    (lawful_postings lawful_text).pair <| (lawful_postings lawful_text).pair <|
    (lawful_postings (lawful_word 8)).pair <| (lawful_postings lawful_category).pair <|
    (lawful_postings lawful_shape).pair <| (lawful_rows lawful_text lawful_char.list).pair <|
    (lawful_rows lawful_text lawful_text.list).pair <| count.pair <| count.pair count

/-- The maps of a corpus are read back if they are told from their record. -/
theorem decode?_corpusTables {t : CorpusTables} (told : t.record.tables? = some t) (rest : Bytes) :
    corpusTables.decode? (corpusTables.encode t ++ rest) = some (t, rest) := by
  simp [corpusTables, map, lawful_indexRecord.decode_encode, told]

end Codec

end PinyinSearch
