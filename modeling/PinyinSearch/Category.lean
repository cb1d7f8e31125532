import PinyinSearch.InputError

/-!
# Categories

The part of the corpus that an entry belongs to.
-/

namespace PinyinSearch

/-- The parts of a corpus. -/
inductive Category where
  /-- Fixed phrases, mostly of four characters. -/
  | idiom
  /-- Compound words. -/
  | word
  /-- Riddles with an answer; the text of the entry is the riddle. -/
  | riddle
deriving DecidableEq, Repr, Inhabited

namespace Category

/-- The categories in order. -/
def all : List Category := [idiom, word, riddle]

/-- The name of a category. -/
def label : Category → Text
  | idiom => "idiom".toList
  | word => "word".toList
  | riddle => "riddle".toList

/-- The Chinese name of a category. -/
def chineseLabel : Category → Text
  | idiom => "成语".toList
  | word => "词语".toList
  | riddle => "歇后语".toList

/-- Reads a label, without regard to surrounding white space and to the case of ASCII letters. -/
def parse (s : Text) : Except InputError Category :=
  let trimmed := s.trim
  match all.find? fun k => trimmed.lowerAscii = k.label || trimmed = k.chineseLabel with
  | some k => .ok k
  | none => .error (.unknownCategory trimmed)

theorem mem_all (k : Category) : k ∈ all := by cases k <;> decide

end Category

end PinyinSearch
