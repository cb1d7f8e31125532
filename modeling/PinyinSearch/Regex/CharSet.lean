import PinyinSearch.Unicode.CaseFold
import PinyinSearch.Unicode.Lookup
import PinyinSearch.Unicode.Word
import PinyinSearch.Unicode.Blank

/-!
# Sets of characters

The sets that a regular expression can ask a character to belong to, built from ranges and named
classes by the operations of bracket classes.
-/

namespace PinyinSearch

/-- A set of characters. -/
inductive CharSet where
  /-- The characters from one to another, both included. -/
  | range (first last : Char)
  /-- The characters of a named class. -/
  | named (k : Unicode.NamedClass)
  /-- The word characters. -/
  | word
  /-- The decimal digits. -/
  | digit
  /-- White space. -/
  | blank
  | compl (s : CharSet)
  | union (s t : CharSet)
  | inter (s t : CharSet)
  | diff (s t : CharSet)
  | symDiff (s t : CharSet)
  /-- The characters with a case variant in a set. -/
  | folded (s : CharSet)
  /-- The characters that are in a set in one of the two cases of ASCII. -/
  | foldedAscii (s : CharSet)
deriving DecidableEq, Repr

namespace CharSet

/-- Whether a character belongs to a set. -/
def contains : CharSet → Char → Bool
  | range first last, c => first ≤ c && c ≤ last
  | named k, c => k.contains c
  | word, c => Unicode.isWord c
  | digit, c => Unicode.isDecimalDigit c
  | blank, c => Unicode.isBlank c
  | compl s, c => !s.contains c
  | union s t, c => s.contains c || t.contains c
  | inter s t, c => s.contains c && t.contains c
  | diff s t, c => s.contains c && !t.contains c
  | symDiff s t, c => s.contains c != t.contains c
  | folded s, c => (Unicode.caseVariants c).any fun d => s.contains d
  | foldedAscii s, c => s.contains c.toLower || s.contains c.toUpper

/-- The set of one character. -/
def single (c : Char) : CharSet := range c c

/-- The set of no characters. -/
def none : CharSet := named ⟨[], false⟩

/-- The set of all characters. -/
def all : CharSet := compl none

/-- The union of a list of sets. -/
def unions (sets : List CharSet) : CharSet := sets.foldl union none

/-- The set of the characters of a text. -/
def ofChars (cs : List Char) : CharSet := unions (cs.map single)

/-! ## Case -/

/-- Whether a set was built so that it holds the case variants of its members; with `ascii`, those
of ASCII. -/
def isFolded (ascii : Bool) : CharSet → Bool
  | folded _ => !ascii
  | foldedAscii _ => ascii
  | named k => k.members.isEmpty
  | compl s => s.isFolded ascii
  | union s t | inter s t | diff s t | symDiff s t => s.isFolded ascii && t.isFolded ascii
  | _ => false

/-- A set with the case variants of its members; with `ascii`, those of ASCII.  Variants are added
to the parts of a union one by one, and only where they are not there yet. -/
def fold (ascii : Bool) (s : CharSet) : CharSet :=
  match s with
  | union s t => union (s.fold ascii) (t.fold ascii)
  | s => if s.isFolded ascii then s else if ascii then foldedAscii s else folded s

/-! ## Classes of ASCII -/

def asciiDigit : CharSet := range '0' '9'

def asciiLower : CharSet := range 'a' 'z'

def asciiUpper : CharSet := range 'A' 'Z'

def asciiAlpha : CharSet := union asciiUpper asciiLower

def asciiAlnum : CharSet := union asciiDigit asciiAlpha

def asciiWord : CharSet := union asciiAlnum (single '_')

def asciiBlank : CharSet := union (range '\t' '\r') (single ' ')

/-- The class of ASCII with a name in brackets and colons. -/
def asciiClass? (name : String) : Option CharSet :=
  match name with
  | "alnum" => some asciiAlnum
  | "alpha" => some asciiAlpha
  | "ascii" => some (range '\x00' '\x7F')
  | "blank" => some (ofChars ['\t', ' '])
  | "cntrl" => some (union (range '\x00' '\x1F') (single '\x7F'))
  | "digit" => some asciiDigit
  | "graph" => some (range '!' '~')
  | "lower" => some asciiLower
  | "print" => some (range ' ' '~')
  | "punct" => some (diff (range '!' '~') asciiAlnum)
  | "space" => some asciiBlank
  | "upper" => some asciiUpper
  | "word" => some asciiWord
  | "xdigit" => some (unions [asciiDigit, range 'A' 'F', range 'a' 'f'])
  | _ => Option.none

/-! ## Membership -/

@[simp] theorem contains_single (c d : Char) : (single c).contains d = (c == d) := by
  rw [Bool.eq_iff_iff]
  simp only [single, contains, Bool.and_eq_true, decide_eq_true_eq, beq_iff_eq]
  exact ⟨fun ⟨h₁, h₂⟩ => Char.le_antisymm h₁ h₂, fun h => h ▸ ⟨Char.le_refl c, Char.le_refl c⟩⟩

@[simp] theorem contains_none (c : Char) : none.contains c = false := rfl

@[simp] theorem contains_all (c : Char) : all.contains c = true := rfl

@[simp] theorem contains_compl (s : CharSet) (c : Char) :
    (compl s).contains c = !s.contains c := rfl

@[simp] theorem contains_union (s t : CharSet) (c : Char) :
    (union s t).contains c = (s.contains c || t.contains c) := rfl

end CharSet

end PinyinSearch
