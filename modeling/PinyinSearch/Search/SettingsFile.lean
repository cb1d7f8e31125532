import PinyinSearch.Search.Settings
import PinyinSearch.Snapshot.FileTree
import PinyinSearch.Toml.Document
import PinyinSearch.Toml.Printer

/-!
# Settings as TOML

Settings are read from TOML documents.  What a document leaves out keeps its usual value, and keys
that stand for nothing are ignored whatever their value is.  The settings of sounds can also be
written, and kept in a file.
-/

namespace PinyinSearch

/-- Reads the value of a key, or takes the usual one if the key is missing. -/
def Toml.setting {α : Type} (rows : Toml.Rows) (key : String) (read? : Toml.Value → Option α)
    (usual : α) : Option α :=
  match rows.get? key.toList with
  | none => some usual
  | some v => read? v

namespace SoundSettings

/-- The settings of sounds among the rows of a document. -/
def ofRows? (rows : Toml.Rows) : Option SoundSettings := do
  let usual : SoundSettings := {}
  let initialRules ← Toml.setting rows "similar_initials" Toml.Value.texts? usual.initialRules
  let finalRules ← Toml.setting rows "similar_finals" Toml.Value.texts? usual.finalRules
  let maxSyllableLength ←
    Toml.setting rows "max_syllable_len" Toml.Value.natural? usual.maxSyllableLength
  pure { initialRules, finalRules, maxSyllableLength }

/-- Reads the settings of sounds from a document, `none` if it is malformed or a value is not of the
right kind. -/
def ofToml? (s : Text) : Option SoundSettings := (Toml.read? s).bind ofRows?

/-- Writes the settings of sounds as a document. -/
def toToml (s : SoundSettings) : Text :=
  Toml.row "similar_initials" (Toml.strings s.initialRules) ++
  Toml.row "similar_finals" (Toml.strings s.finalRules) ++
  Toml.row "max_syllable_len" (Text.decimal s.maxSyllableLength)

/-- Reads the settings of sounds from a file. -/
def load? (t : FileTree) (path : Text) : Option SoundSettings :=
  ((t.read? path).bind Bytes.toText?).bind ofToml?

/-- Writes the settings of sounds to a file, `none` if the file cannot be written. -/
def save? (s : SoundSettings) (t : FileTree) (path : Text) : Option FileTree :=
  t.replace? path (Bytes.ofText s.toToml)

end SoundSettings

namespace SearchSettings

/-- Reads the settings of a search from a document, `none` if it is malformed or a value is not of
the right kind. -/
def ofToml? (s : Text) : Option SearchSettings := do
  let rows ← Toml.read? s
  let sounds ← SoundSettings.ofRows? rows
  let usual : SearchSettings := {}
  let defaultPageSize ←
    Toml.setting rows "default_page_size" Toml.Value.natural? usual.defaultPageSize
  let maxInitialsLength ←
    Toml.setting rows "max_initials_len" Toml.Value.natural? usual.maxInitialsLength
  let placeholder ← Toml.setting rows "syllable_placeholder" Toml.Value.text? usual.placeholder
  pure { sounds with defaultPageSize, maxInitialsLength, placeholder }

end SearchSettings

end PinyinSearch
