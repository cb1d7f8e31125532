import PinyinSearch.Corpus.Basic

/-!
# Syllabification

Splits letters typed without separators into the syllables that a corpus knows.  At each position
the longest known syllable is taken; letters that begin none are left as fragments.
-/

namespace PinyinSearch

/-- A piece of a run of letters. -/
inductive Piece where
  /-- A known syllable. -/
  | syllable (letters : Text)
  /-- Letters that make up no known syllable. -/
  | fragment (letters : Text)
deriving DecidableEq, Repr

namespace Piece

/-- The letters of a piece. -/
def letters : Piece → Text
  | syllable s => s
  | fragment s => s

/-- Whether a piece is a known syllable. -/
def isKnown : Piece → Bool
  | syllable _ => true
  | fragment _ => false

/-- What a piece adds to a string of initials: a syllable its first letter, a fragment all of its
letters. -/
def initials : Piece → Text
  | syllable s => s.take 1
  | fragment s => s

end Piece

namespace Corpus

/-- Whether the letters begin a known syllable without being one. -/
def isUnfinished (corpus : Corpus) (letters : Text) : Bool :=
  !corpus.knows letters && corpus.knowsFrom letters

/-- Splits lower-case letters from left to right.  If what remains begins a known syllable without
being one it is left whole, as one fragment. -/
def splitGreedy (corpus : Corpus) (maxLength : Nat) (s : Text) : List Piece :=
  match s with
  | [] => []
  | c :: rest =>
    if corpus.isUnfinished (c :: rest) then [.fragment (c :: rest)]
    else
      match _h : corpus.trie.longestAt? (c :: rest) 0 maxLength with
      | some (stop, word) =>
        .syllable word :: corpus.splitGreedy maxLength ((c :: rest).drop stop)
      | none => .fragment [c] :: corpus.splitGreedy maxLength rest
termination_by s.length
decreasing_by
  · have := SyllableTrie.lt_of_longestAt? _h
    simp only [List.length_drop, List.length_cons]
    omega
  · simp

/-- Splits a run of letters, which is trimmed and put in lower case.  A run that is a known syllable
stays whole; otherwise no syllable is longer than `maxLength`, nor than one letter if that is 0. -/
def split (corpus : Corpus) (maxLength : Nat) (run : Text) : List Piece :=
  match run.trim.lowerAscii with
  | [] => []
  | s => if corpus.knows s then [.syllable s] else corpus.splitGreedy (max maxLength 1) s

end Corpus

end PinyinSearch
