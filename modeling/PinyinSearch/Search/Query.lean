import PinyinSearch.Category
import PinyinSearch.FirstSeen
import PinyinSearch.Shape

/-!
# Queries

A query asks for entries with certain attributes.  What it leaves open does not constrain.
-/

namespace PinyinSearch

/-- The attributes asked for. -/
structure Query where
  category : Option Category := none
  length : Option Nat := none
  shape : Option Shape := none
  rhyme : Option Text := none
  tones : Option Text := none
  initials : Option Text := none
  /-- A regular expression for the text. -/
  pattern : Option Text := none
  /-- The characters that may come first. -/
  firstIn : Option (List Char) := none
  /-- The characters that may come last. -/
  lastIn : Option (List Char) := none
  /-- The characters that all have to occur. -/
  containing : Option (List Char) := none
  /-- Whether the pattern may also match the plain pronunciation. -/
  phonetic : Bool := false
  /-- Whether sounds may be taken for those they are confused with. -/
  homophone : Bool := false
deriving DecidableEq, Repr, Inhabited

namespace Query

/-- The characters of a text other than white space, each once; none at all is no constraint. -/
def distinctChars (s : Text) : Option (List Char) :=
  match FirstSeen.ofList (s.filter fun c => !Unicode.isBlank c) with
  | [] => none
  | cs => some cs

/-- Asks for a final of the last character; white space around it and case do not count. -/
def withRhyme (q : Query) (s : Text) : Query := { q with rhyme := some s.trim.lowerAscii }

/-- Asks for a sequence of tones; white space does not count. -/
def withTones (q : Query) (s : Text) : Query :=
  { q with tones := some (s.filter fun c => !Unicode.isBlank c) }

/-- Asks for a string of initials; white space around it and case do not count. -/
def withInitials (q : Query) (s : Text) : Query := { q with initials := some s.trim.lowerAscii }

/-- Asks for one of some characters at the start. -/
def withFirstIn (q : Query) (s : Text) : Query := { q with firstIn := distinctChars s }

/-- Asks for one of some characters at the end. -/
def withLastIn (q : Query) (s : Text) : Query := { q with lastIn := distinctChars s }

/-- Asks for all of some characters. -/
def withContaining (q : Query) (s : Text) : Query := { q with containing := distinctChars s }

/-- Whether a query leaves everything open. -/
def isEmpty (q : Query) : Bool :=
  q.category.isNone && q.length.isNone && q.shape.isNone && q.rhyme.isNone && q.tones.isNone &&
    q.initials.isNone && q.pattern.isNone && q.firstIn.isNone && q.lastIn.isNone &&
    q.containing.isNone

end Query

end PinyinSearch
