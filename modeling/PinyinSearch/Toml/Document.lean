import PinyinSearch.Toml.Number

/-!
# TOML documents

Reads documents of TOML 1.0.  A document is read line by line, save that strings in three quotes and
arrays go over several lines; the lines are then gathered into sections, and the sections added to
the document one after the other.
-/

namespace PinyinSearch.Toml

open Reader

/-- The greatest number of arrays and tables in braces around one another, and of parts of a key. -/
def maxNesting : Nat := 79

/-- A remark, up to the end of its line. -/
def comment : Reader Text := char '#' *> run isInline

/-! ## Keys and values -/

/-- A key without dots. -/
def simpleKey : Reader Text :=
  basicString <|> literalString <|> do
    let isBare := fun c : Char => c.isAlphanum || c = '_' || c = '-'
    let first ← charIf isBare
    let others ← run isBare
    pure (first :: others)

/-- A key of one part or more, the last part apart. -/
def key : Reader (List Text × Text) := do
  let parts ← separated (spaces *> simpleKey <* spaces) (char '.')
  match parts.getLast? with
  | some last => if parts.length ≤ maxNesting then pure (parts.dropLast, last) else failure
  | none => failure

/-- A key, an equals sign and a value. -/
def assignment (value : Reader Value) : Reader Rows.Assignment := do
  let (path, key) ← key
  let _ ← char '='
  let _ ← spaces
  let value ← value
  let _ ← spaces
  pure { path, key, value }

/-- White space, line breaks and comments. -/
def gap : Reader Unit := do
  let _ ← many (((fun _ => ()) <$> charIf isSpace) <|> ((fun _ => ()) <$> lineBreak) <|>
    ((fun _ => ()) <$> comment))

/-- An array. -/
def array (value : Reader Value) : Reader Value := do
  let _ ← char '['
  let items ← (separated (gap *> value <* gap) (char ',') <* optional (char ',')) <|> pure []
  gap
  let _ ← char ']'
  pure (.array items)

/-- A table in braces. -/
def inlineTable (value : Reader Value) : Reader Value := do
  let _ ← char '{'
  let assignments ← separated (assignment value) (char ',') <|> pure []
  let _ ← spaces
  let _ ← char '}'
  match Rows.assignAll? [] assignments with
  | some rows => pure (.table .braces rows)
  | none => failure

/-- A value that holds no others. -/
def atom : Reader Value :=
  (.string <$> string) <|> moment <|> float <|> integer <|>
  ((fun _ => .boolean true) <$> word "true".toList) <|>
  ((fun _ => .boolean false) <$> word "false".toList)

/-- A value with at most `nesting` arrays and tables in braces around one another. -/
def value : (nesting : Nat) → Reader Value
  | 0 => atom
  | nesting + 1 => atom <|> array (value nesting) <|> inlineTable (value nesting)

/-! ## Lines -/

/-- What a line says. -/
inductive Line where
  | empty
  | assignment (a : Rows.Assignment)
  | header (isRepeatable : Bool) (path : List Text) (key : Text)

/-- The header of a section. -/
def header : Reader Line :=
  (do
    word ['[', '[']
    let (path, key) ← key
    word [']', ']']
    pure (.header true path key)) <|>
  (do
    let _ ← char '['
    let (path, key) ← key
    let _ ← char ']'
    pure (.header false path key))

/-- A line up to its end. -/
def line : Reader Line := do
  let _ ← spaces
  let l ← header <|> (.assignment <$> assignment (value maxNesting)) <|> pure .empty
  let _ ← spaces
  let _ ← optional comment
  pure l

/-- The lines of a document, before which a byte order mark may stand. -/
def lines : Reader (List Line) := do
  let _ ← optional (char '\uFEFF')
  let ls ← many (line <* lineBreak)
  let last ← line
  pure (ls ++ [last])

/-! ## Documents -/

/-- Puts a line before the assignments without a header and the sections that follow it. -/
def prepend (l : Line) (parts : List Rows.Assignment × List Section) :
    List Rows.Assignment × List Section :=
  match l with
  | .empty => parts
  | .assignment a => (a :: parts.1, parts.2)
  | .header isRepeatable path key =>
    ([], { isRepeatable, path, key, assignments := parts.1 } :: parts.2)

/-- The rows of a document, `none` if it is malformed. -/
def read? (s : Text) : Option Rows := do
  let ls ← lines.readAll? s
  let (assignments, sections) := ls.foldr prepend ([], [])
  let rows ← Rows.assignAll? [] assignments
  sections.foldlM (fun rows part => part.add? rows) rows

end PinyinSearch.Toml
