import PinyinSearch.Ascending
import PinyinSearch.FirstSeen
import PinyinSearch.Syllable
import PinyinSearch.Table

/-!
# Confusable sounds

Rules say which initials and which finals are taken for one another: `an>ang` in one direction,
`zh=z` in both.  From them follow the syllables that a syllable may be confused with, and the first
letters that a letter of a string of initials may stand for.
-/

namespace PinyinSearch

/-- Each sound with the sounds it may be confused with, in the order of the rules. -/
abbrev Confusions := Table Text (List Text)

namespace Confusions

/-- Adds `b` to the sounds that `a` may be confused with; letters of ASCII count without case. -/
def addOneWay (t : Confusions) (a b : Text) : Confusions :=
  t.alter a.lowerAscii fun known => FirstSeen.ofList (known.getD [] ++ [b.lowerAscii])

/-- Adds both directions. -/
def addBothWays (t : Confusions) (a b : Text) : Confusions := (t.addOneWay a b).addOneWay b a

/-- The two sides of a rule, unless one is empty. -/
def sides? (cut : Option (Text × Text)) : Option (Text × Text) :=
  cut.bind fun (a, b) => if a.trim ≠ [] ∧ b.trim ≠ [] then some (a.trim, b.trim) else none

/-- Adds a rule.  It is cut at its first `>`, or else at its first `=`; a rule that has neither, or
an empty side, adds nothing. -/
def addRule (t : Confusions) (rule : Text) : Confusions :=
  match rule.cutAt '>' with
  | some cut => (sides? (some cut)).elim t fun (a, b) => t.addOneWay a b
  | none => (sides? (rule.cutAt '=')).elim t fun (a, b) => t.addBothWays a b

/-- The confusions that a list of rules describes. -/
def ofRules (rules : List Text) : Confusions := rules.foldl addRule []

/-- The sounds that a sound, written in lower case, may be confused with. -/
def alternatives (t : Confusions) (sound : Text) : List Text := (t.get? sound).getD []

/-- Whether two sounds are equal or the first may be confused with the second. -/
def relates (t : Confusions) (a b : Text) : Bool := a = b || (t.alternatives a).contains b

end Confusions

/-- The confusable initials and the confusable finals. -/
structure Similarity where
  initials : Confusions
  finals : Confusions
deriving DecidableEq, Repr, Inhabited

namespace Similarity

/-- The confusions that two lists of rules describe. -/
def ofRules (initialRules finalRules : List Text) : Similarity :=
  ⟨.ofRules initialRules, .ofRules finalRules⟩

/-- The rules for initials that are used where no others are given. -/
def defaultInitialRules : List Text :=
  ["zh>z", "z>zh", "ch>c", "sh>s", "c>ch", "s>sh", "n>l", "l>n", "f>h", "h>f"].map String.toList

/-- The rules for finals that are used where no others are given. -/
def defaultFinalRules : List Text :=
  ["an>ang", "an>en", "ang>an", "ang>eng", "en>an", "en>eng", "en>in", "eng>ang", "eng>en",
    "eng>ing", "in>ing", "in>en", "ing>in", "ing>eng", "ian>iang", "ian>uan", "ian>yan",
    "iang>ian", "iang>uang", "iang>yang", "uan>uang", "uan>ian", "uan>wan", "uang>uan",
    "uang>iang", "uang>wang", "ao>ou", "ou>ao", "ai>ei", "ei>ai", "ui>ei", "ui>ue", "ue>ui",
    "ue>ie", "ie>ue", "ie>ei", "uo>ou", "uo>o", "o>uo", "o>ou"].map String.toList

/-- The confusions that are used where no others are given. -/
def default : Similarity := ofRules defaultInitialRules defaultFinalRules

/-- The syllables that replacing the initial, the final or both makes of a syllable, in ascending
order and without the syllable itself. -/
def similarSyllables (t : Similarity) (syllable : Text) : List Text :=
  let s := syllable.trim.lowerAscii
  let (initial, final) := Syllable.split s
  let initials := t.initials.alternatives initial
  let finals := t.finals.alternatives final
  let replaced := initials.map (· ++ final) ++
    finals.flatMap fun f => (initial ++ f) :: initials.map (· ++ f)
  (Ascending.ofList replaced).filter (· ≠ s)

/-- A letter followed by the first letters of the initials that it may be confused with. -/
def letterVariants (t : Similarity) (letter : Char) : List Char :=
  FirstSeen.ofList (letter :: (t.initials.alternatives [letter]).filterMap List.head?)

end Similarity

end PinyinSearch
