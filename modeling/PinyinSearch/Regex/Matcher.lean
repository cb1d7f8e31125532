import PinyinSearch.Regex.Basic

/-!
# Matching

A set of positions of a text is a number whose bit `i` says whether position `i` belongs to it.
`Regex.reach` takes the positions at which a regular expression may begin to those at which it may
end; a text is matched if some position can be reached.  As ends never lie before beginnings, the
repetition of an expression is complete after as many rounds as the text has positions.  An
expression that is repeated and repeats others itself is followed from every position once, before
it is repeated, so that the work does not multiply with every repetition around another.
-/

namespace PinyinSearch

/-- A set of positions of a text. -/
abbrev PositionSet := Nat

namespace PositionSet

/-- The set of the positions at which a list holds `true`. -/
def ofBits : List Bool → PositionSet
  | [] => 0
  | b :: rest => 2 * ofBits rest + b.toNat

/-- The positions before the characters of a text that belong to a set. -/
def before (s : CharSet) (text : List Char) : PositionSet := ofBits (text.map s.contains)

/-- For every position of a text, whether a condition holds there; `prior` is the character before
the text. -/
def holdingAfter (a : Assertion) (prior : Option Char) : List Char → List Bool
  | [] => [a.holds prior none]
  | c :: rest => a.holds prior (some c) :: holdingAfter a (some c) rest

/-- The positions of a text at which a condition holds. -/
def holding (a : Assertion) (text : List Char) : PositionSet := ofBits (holdingAfter a none text)

/-- The positions of a text of `n` characters. -/
def upTo (n : Nat) : PositionSet := (1 <<< (n + 1)) - 1

/-- What is reached from some positions, given what is reached from each. -/
def image : List PositionSet → PositionSet → PositionSet
  | [], _ => 0
  | row :: rows, x => (if x % 2 = 1 then row else 0) ||| image rows (x / 2)

/-- Applies a step a number of times. -/
def iterate (step : PositionSet → PositionSet) : Nat → PositionSet → PositionSet
  | 0, x => x
  | n + 1, x => iterate step n (step x)

/-- Adds what a step reaches, for a number of rounds or until nothing is added. -/
def close (step : PositionSet → PositionSet) : Nat → PositionSet → PositionSet
  | 0, x => x
  | n + 1, x =>
    let y := x ||| step x
    if y = x then x else close step n y

end PositionSet

/-- A regular expression for one text, with the positions that matter in place of its sets and
conditions. -/
inductive Route where
  /-- Stay. -/
  | stay
  /-- Move over the character behind one of the positions. -/
  | move (places : PositionSet)
  /-- Stay at one of the positions. -/
  | check (places : PositionSet)
  /-- Go from each position to the positions in its row. -/
  | follow (rows : List PositionSet)
  | seq (r s : Route)
  | alt (r s : Route)
  | times (r : Route) (least : Nat) (most : Option Nat)

/-- The positions at which a route may end if it begins at one of the given positions, in a text
with as many positions as there are rounds. -/
def Route.reach (rounds : Nat) : Route → PositionSet → PositionSet
  | stay, x => x
  | move m, x => (x &&& m) <<< 1
  | check m, x => x &&& m
  | follow rows, x => PositionSet.image rows x
  | seq r s, x => s.reach rounds (r.reach rounds x)
  | alt r s, x => r.reach rounds x ||| s.reach rounds x
  | times r least most, x =>
    let begun := PositionSet.iterate (r.reach rounds) (min least rounds) x
    match most with
    | none => PositionSet.close (r.reach rounds) rounds begun
    | some most => PositionSet.close (r.reach rounds) (min (most - least) rounds) begun

/-- Whether a part of a route is repeated. -/
def Route.repeats : Route → Bool
  | seq r s | alt r s => r.repeats || s.repeats
  | times _ _ _ => true
  | _ => false

/-- A route that leads to the same positions and repeats nothing. -/
def Route.flatten (rounds : Nat) (r : Route) : Route :=
  if r.repeats then .follow ((List.range rounds).map fun p => r.reach rounds (1 <<< p)) else r

namespace Regex

/-- The route of an expression in a text. -/
def route (text : List Char) : Regex → Route
  | empty => .stay
  | set s => .move (PositionSet.before s text)
  | assert a => .check (PositionSet.holding a text)
  | seq r s => .seq (r.route text) (s.route text)
  | alt r s => .alt (r.route text) (s.route text)
  | times r least most => .times ((r.route text).flatten (text.length + 1)) least most

/-- The positions at which an expression may end if it begins at one of the given positions. -/
def reach (text : List Char) (r : Regex) (x : PositionSet) : PositionSet :=
  (r.route text).reach (text.length + 1) x

/-- Whether an expression matches some part of a text. -/
def isMatch (r : Regex) (text : List Char) : Bool :=
  r.reach text (PositionSet.upTo text.length) != 0

variable (text : List Char) (x : PositionSet)

@[simp] theorem reach_empty : empty.reach text x = x := rfl

@[simp] theorem reach_set (s : CharSet) :
    (set s).reach text x = (x &&& PositionSet.before s text) <<< 1 := rfl

@[simp] theorem reach_assert (a : Assertion) :
    (assert a).reach text x = x &&& PositionSet.holding a text := rfl

@[simp] theorem reach_seq (r s : Regex) :
    (seq r s).reach text x = s.reach text (r.reach text x) := rfl

@[simp] theorem reach_alt (r s : Regex) :
    (alt r s).reach text x = r.reach text x ||| s.reach text x := rfl

end Regex

end PinyinSearch
