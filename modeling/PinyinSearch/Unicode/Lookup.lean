import PinyinSearch.Unicode.Age
import PinyinSearch.Unicode.GeneralCategory
import PinyinSearch.Unicode.GraphemeBreak
import PinyinSearch.Unicode.Property
import PinyinSearch.Unicode.Script
import PinyinSearch.Unicode.ScriptExtension
import PinyinSearch.Unicode.SentenceBreak
import PinyinSearch.Unicode.WordBreak

/-!
# Character classes by name

Looks up a set of characters by the name of a property, of a general category or of a script, or by
a property and its value.  Names are compared without regard to case, blanks, underscores, hyphens
and a leading `is`.
-/

namespace PinyinSearch.Unicode

/-- A set of characters: those in some of the ranges, or with `complement` those in none. -/
structure NamedClass where
  members : List Ranges
  complement : Bool := false
deriving DecidableEq, Repr, Inhabited

namespace NamedClass

/-- Whether a character belongs to the class. -/
def contains (k : NamedClass) (c : Char) : Bool := k.members.any (·.contains c) != k.complement

/-- The class of every character. -/
def any : NamedClass := ⟨[], true⟩

/-- The class of the characters below 128. -/
def ascii : NamedClass := ⟨[⟨#[(0, 127)]⟩], false⟩

/-- Reads the tables of a class. -/
def ofTables (tables : List String) : NamedClass := ⟨tables.map .ofGaps, false⟩

end NamedClass

/-- The part of a name that counts: ASCII characters in lower case, without blanks, underscores and
hyphens, and without a leading `is` (but the name `isc` stays whole). -/
def normalName (name : List Char) : List Char :=
  let keep := fun (s : List Char) =>
    (s.filter fun c => c.toNat < 128 && c != ' ' && c != '_' && c != '-').map Char.toLower
  match name with
  | i :: s :: rest =>
    if i.toLower == 'i' && s.toLower == 's' then
      let short := keep rest
      if short == ['c'] then ['i', 's', 'c'] else short
    else keep name
  | _ => keep name

/-- The table listed under a normalised name. -/
def findTable? (rows : List (List String × String)) (name : String) : Option String :=
  (rows.find? (·.1.contains name)).map (·.2)

/-- The categories that stand for one code point or another, that is all but the unassigned. -/
def assignedTables : List String := GeneralCategory.rows.map (·.2)

/-- The general category with a normalised name. -/
def categoryClass? (name : String) : Option NamedClass :=
  match name with
  | "any" => some .any
  | "ascii" => some .ascii
  | "assigned" => some (.ofTables assignedTables)
  | "cn" | "unassigned" => some { NamedClass.ofTables assignedTables with complement := true }
  | "c" | "other" =>
    let others := [GeneralCategory.control, GeneralCategory.format, GeneralCategory.privateUse]
    some { NamedClass.ofTables (assignedTables.filter (! others.contains ·)) with
           complement := true }
  | _ =>
    match findTable? GeneralCategory.rows name with
    | some table => some (.ofTables [table])
    | none => ((GeneralCategory.groups.find? (·.1.contains name)).map (·.2)).map .ofTables

/-- The script with a normalised name. -/
def scriptClass? (name : String) : Option NamedClass :=
  (findTable? Script.rows name).map fun table => .ofTables [table]

/-- The yes-or-no property with a normalised name. -/
def propertyClass? (name : String) : Option NamedClass :=
  (findTable? Property.rows name).map fun table => .ofTables [table]

/-- The class with a name: a property, else a general category, else a script.  The names `cf`,
`sc` and `lc` are categories. -/
def classNamed? (name : List Char) : Option NamedClass :=
  let n := String.ofList (normalName name)
  let property := if n == "cf" || n == "sc" || n == "lc" then none else propertyClass? n
  (property.orElse fun _ => categoryClass? n).orElse fun _ => scriptClass? n

/-- The characters that are used in the script with a normalised name. -/
def scriptExtensionClass? (name : String) : Option NamedClass :=
  match findTable? ScriptExtension.rows name with
  | some table => some (.ofTables [table])
  | none => scriptClass? name

/-- The characters that the version with a normalised name has. -/
def ageClass? (name : String) : Option NamedClass :=
  (Age.tablesUpTo? name Age.rows).map .ofTables

/-- The class of the characters for which a property with values has the given value. -/
def classWithValue? (property value : List Char) : Option NamedClass :=
  let v := String.ofList (normalName value)
  match String.ofList (normalName property) with
  | "gc" | "generalcategory" => categoryClass? v
  | "sc" | "script" => scriptClass? v
  | "scx" | "scriptextensions" => scriptExtensionClass? v
  | "age" => ageClass? v
  | "gcb" | "graphemeclusterbreak" =>
    (findTable? GraphemeBreak.rows v).map fun table => .ofTables [table]
  | "wb" | "wordbreak" => (findTable? WordBreak.rows v).map fun table => .ofTables [table]
  | "sb" | "sentencebreak" => (findTable? SentenceBreak.rows v).map fun table => .ofTables [table]
  | _ => none

end PinyinSearch.Unicode
