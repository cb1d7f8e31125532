import PinyinSearch.Regex.CharSet

/-!
# Regular expressions

The abstract syntax of the regular expressions in which patterns are matched.  Groups leave no
trace in it, because only the existence of a match counts; for the same reason a repetition does
not say whether it is greedy.
-/

namespace PinyinSearch

/-- The kinds of boundaries between word characters and others. -/
inductive Boundary where
  /-- A word begins or ends. -/
  | either
  /-- No word begins or ends. -/
  | neither
  /-- A word begins. -/
  | start
  /-- A word ends. -/
  | stop
  /-- No word character stands before. -/
  | startHalf
  /-- No word character stands after. -/
  | stopHalf
deriving DecidableEq, Repr

/-- A condition on the place between two characters. -/
inductive Assertion where
  /-- The text begins. -/
  | textStart
  /-- The text ends. -/
  | textEnd
  /-- A line begins; with `crlf` a carriage return ends lines, too. -/
  | lineStart (crlf : Bool)
  /-- A line ends; with `crlf` a carriage return ends lines, too. -/
  | lineEnd (crlf : Bool)
  /-- A boundary of words, whose characters are of ASCII or of every script. -/
  | boundary (kind : Boundary) (ascii : Bool)
deriving DecidableEq, Repr

namespace Assertion

/-- Whether a boundary lies between what is said of the characters before and after. -/
def boundaryHolds (kind : Boundary) (before after : Bool) : Bool :=
  match kind with
  | .either => before != after
  | .neither => before == after
  | .start => !before && after
  | .stop => before && !after
  | .startHalf => !before
  | .stopHalf => !after

/-- Whether a condition holds between two characters; `none` stands for the end of the text. -/
def holds (a : Assertion) (before after : Option Char) : Bool :=
  match a with
  | textStart => before.isNone
  | textEnd => after.isNone
  | lineStart false => before.isNone || before == some '\n'
  | lineStart true =>
    before.isNone || before == some '\n' || (before == some '\r' && after != some '\n')
  | lineEnd false => after.isNone || after == some '\n'
  | lineEnd true =>
    after.isNone || after == some '\r' || (after == some '\n' && before != some '\r')
  | boundary kind ascii =>
    let isWord := if ascii then Unicode.isAsciiWord else Unicode.isWord
    boundaryHolds kind (before.any isWord) (after.any isWord)

end Assertion

/-- A regular expression. -/
inductive Regex where
  /-- The empty text. -/
  | empty
  /-- One character of a set. -/
  | set (s : CharSet)
  /-- The empty text at a place where a condition holds. -/
  | assert (a : Assertion)
  /-- One after the other. -/
  | seq (r s : Regex)
  /-- One or the other. -/
  | alt (r s : Regex)
  /-- A number of times, at least `least` and at most `most` if there is such a bound. -/
  | times (r : Regex) (least : Nat) (most : Option Nat)
deriving DecidableEq, Repr

namespace Regex

/-- Regular expressions one after the other. -/
def seqs (rs : List Regex) : Regex := rs.foldr seq empty

end Regex

end PinyinSearch
