import PinyinSearch.Table
import PinyinSearch.Text

/-!
# TOML values

The values of a TOML document.  A table knows how it came to be, because that decides what may
still be added to it.
-/

namespace PinyinSearch.Toml

/-- How a table came to be. -/
inductive Origin where
  /-- It is the document or it has a header of its own. -/
  | direct
  /-- It was written in braces and holds all that it ever will. -/
  | braces
  /-- It was passed by the header of another table. -/
  | passed
  /-- It was passed by the dotted key of a value. -/
  | dotted
deriving DecidableEq, Repr

/-- A value of a document. -/
inductive Value where
  | string (text : Text)
  | integer (number : Int)
  /-- A number with a fraction or an exponent, as it is spelled. -/
  | float (spelling : Text)
  | boolean (value : Bool)
  /-- A date, a time or both, as it is spelled. -/
  | moment (spelling : Text)
  | array (items : List Value)
  | table (origin : Origin) (rows : List (Text × Value))
  /-- Tables with headers in double brackets; more can be added to the last of them. -/
  | tables (earlier : List (List (Text × Value))) (last : List (Text × Value))
deriving Inhabited

/-- The values of a table by their keys. -/
abbrev Rows := Table Text Value

namespace Value

/-- The text of a string. -/
def text? : Value → Option Text
  | string s => some s
  | _ => none

/-- The number of an integer that is not negative. -/
def natural? : Value → Option Nat
  | integer (.ofNat n) => some n
  | _ => none

/-- The texts of an array of strings. -/
def texts? : Value → Option (List Text)
  | array items => items.mapM text?
  | _ => none

end Value

namespace Rows

/-- Changes the table at the end of a path of keys.  The tables on the way are entered only if their
origin allows it; those that are missing are made with the origin `made`. -/
def alterAt (mayEnter : Origin → Bool) (made : Origin) (change : Origin → Rows → Option Rows)
    (path : List Text) (origin : Origin) (rows : Rows) : Option Rows :=
  match path with
  | [] => change origin rows
  | key :: path =>
    let put := fun v => rows.alter key fun _ => v
    match rows.get? key with
    | none => (alterAt mayEnter made change path made []).map fun below => put (.table made below)
    | some (.table origin below) =>
      if mayEnter origin then
        (alterAt mayEnter made change path origin below).map fun below => put (.table origin below)
      else none
    | some (.tables earlier last) =>
      (alterAt mayEnter made change path .direct last).map fun last => put (.tables earlier last)
    | some _ => none

/-- A key with a value; the keys before the last are those of the tables around it. -/
structure Assignment where
  path : List Text
  key : Text
  value : Value
deriving Inhabited

/-- Adds a value.  Its key has to be new, and dotted keys add to no table but those that dotted keys
have made. -/
def assign? (rows : Rows) (a : Assignment) : Option Rows :=
  rows.alterAt (fun origin => origin = .passed ∨ origin = .dotted) .dotted
    (fun origin rows =>
      if rows.contains a.key then none
      else if a.path ≠ [] ∧ origin ≠ .dotted then none
      else some (rows.alter a.key fun _ => a.value))
    a.path .direct

/-- Adds values in order. -/
def assignAll? (rows : Rows) (as : List Assignment) : Option Rows := as.foldlM assign? rows

end Rows

/-- A part of a document below a header. -/
structure Section where
  /-- Whether the header has double brackets. -/
  isRepeatable : Bool
  path : List Text
  key : Text
  assignments : List Rows.Assignment
deriving Inhabited

namespace Section

/-- The value of the key of a section, from the value that the key had before. -/
def value? (s : Section) (before : Option Value) : Option Value :=
  if s.isRepeatable then
    let rows := Rows.assignAll? [] s.assignments
    match before with
    | none => rows.map (.tables [])
    | some (.tables earlier last) => rows.map (.tables (earlier ++ [last]))
    | some _ => none
  else
    match before with
    | none => (Rows.assignAll? [] s.assignments).map (.table .direct)
    | some (.table .passed rows) => (Rows.assignAll? rows s.assignments).map (.table .direct)
    | some _ => none

/-- Adds a section to the rows of a document.  Nothing is added to a table in braces. -/
def add? (s : Section) (rows : Rows) : Option Rows :=
  rows.alterAt (· ≠ .braces) .passed
    (fun _ rows => (s.value? (rows.get? s.key)).map fun v => rows.alter s.key fun _ => v)
    s.path .direct

end Section

end PinyinSearch.Toml
