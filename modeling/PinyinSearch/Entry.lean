import PinyinSearch.Category
import PinyinSearch.Romanizer
import PinyinSearch.Shape
import PinyinSearch.Unicode.Ideograph
import PinyinSearch.Unicode.Normalization

/-!
# Entries

An entry is one item of a corpus: a text with the reading of each of its characters, a category
and up to three notes.  Every other attribute is computed from these.
-/

namespace PinyinSearch

/-- The canonical composition of a text, without surrounding white space. -/
def normalize (s : Text) : Text := Text.trim (Unicode.normalForm s)

/-- One item of a corpus. -/
structure Entry where
  sound : Romanization
  category : Category
  definition : Option Text := none
  source : Option Text := none
  usage : Option Text := none
deriving DecidableEq, Repr, Inhabited

namespace Entry

/-- The entry whose text is the given one as it stands. -/
def ofText (r : Romanizer) (category : Category) (text : Text) : Entry :=
  { sound := r.romanize text, category }

/-- The entry of a text, which is normalized; a text of nothing but white space is refused. -/
def make (r : Romanizer) (category : Category) (raw : Text) : Except InputError Entry :=
  match normalize raw with
  | [] => .error .emptyText
  | text => .ok (ofText r category text)

/-! ## Attributes -/

def text (e : Entry) : Text := e.sound.text

def length (e : Entry) : Nat := e.text.length

def first? (e : Entry) : Option Char := e.text.head?

def last? (e : Entry) : Option Char := e.text.getLast?

def toned (e : Entry) : Text := e.sound.toned

def plain (e : Entry) : Text := e.sound.plain

def syllables (e : Entry) : List Text := e.sound.syllables

def initials (e : Entry) : Text := e.sound.initials

def tones (e : Entry) : Text := e.sound.tones

def rhyme (e : Entry) : Text := e.sound.rhyme

def shape? (e : Entry) : Option Shape := Shape.ofText? e.text

/-! ## Notes -/

/-- A note without surrounding white space; a note of nothing else is no note. -/
def note? (s : Text) : Option Text :=
  match s.trim with
  | [] => none
  | trimmed => some trimmed

/-- Attaches a definition, with single spaces for its runs of white space. -/
def withDefinition (e : Entry) (s : Text) : Entry :=
  { e with definition := note? (Text.join [' '] s.words) }

/-- Attaches the source of an entry. -/
def withSource (e : Entry) (s : Text) : Entry := { e with source := note? s }

/-- Attaches an example of use. -/
def withUsage (e : Entry) (s : Text) : Entry := { e with usage := note? s }

/-! ## Laws -/

@[simp] theorem text_ofText (r : Romanizer) (k : Category) (t : Text) :
    (ofText r k t).text = t := by
  simp [ofText, text]

/-- An entry that is made has a text. -/
theorem text_ne_nil_of_make {r : Romanizer} {k : Category} {raw : Text} {e : Entry}
    (h : make r k raw = .ok e) : e.text ≠ [] := by
  rw [make] at h
  split at h
  · cases h
  · next hn => cases h; simpa using hn

/-- There is one syllable for every character. -/
theorem length_syllables (e : Entry) : e.syllables.length = e.length := by
  simp [syllables, length, text, Romanization.syllables, Romanization.text]

end Entry

end PinyinSearch
