import PinyinSearch.Regex.Basic

/-!
# Limits

An expression is measured while it is read: by the levels of its notation, by the size of the
automaton that it stands for, and by the counts of its repetitions.  Expressions that go beyond the
limits are refused, however well they are formed.

Which automaton is built is up to the engine, so the sizes are estimates: 32 bytes for a state and 4
for a further way out of one, and for sets of characters beyond ASCII, which take many states, what
the number of their ranges suggests.  The limits are a parameter of all that depends on them.
-/

namespace PinyinSearch

/-! ## Sets of characters -/

/-- What the size of a set is estimated from. -/
structure CharSet.Spread where
  /-- The number of ranges. -/
  ranges : Nat
  /-- Whether all members are of ASCII. -/
  isAscii : Bool := false
  /-- Whether the set was complemented. -/
  isComplement : Bool := false
deriving DecidableEq, Repr

namespace CharSet

/-- The number of ranges that are left of ascending ones when those that touch are joined; a range
that begins before `reach` touches one before it. -/
def countJoined (reach : Nat) : List (Nat × Nat) → Nat
  | [] => 0
  | (first, last) :: rest =>
    (if first < reach then 0 else 1) + countJoined (max reach (last + 2)) rest

/-- The spread of some ranges of code points. -/
def Spread.ofRanges (rs : List Unicode.Ranges) : Spread :=
  { ranges := countJoined 0 <|
      rs.foldl (fun bounds r => bounds.merge r.bounds.toList fun a b => a.1 ≤ b.1) []
    isAscii := rs.all fun r => r.bounds.all fun bound => bound.2 < 128 }

/-- The spread of two sets together. -/
def Spread.join (a b : Spread) : Spread :=
  { ranges := a.ranges + b.ranges
    isAscii := a.isAscii && b.isAscii
    isComplement := a.isComplement || b.isComplement }

/-- The spread of the complement of a set. -/
def Spread.complement (a : Spread) : Spread := { ranges := a.ranges + 1, isComplement := true }

/-- The spread of a set with its case variants, which in large sets mostly fall between members. -/
def Spread.addVariants (a : Spread) : Spread :=
  { a with ranges := min (2 * a.ranges) (a.ranges + 64) }

/-- The spread of a set. -/
def spread : CharSet → Spread
  | range _ last => { ranges := 1, isAscii := last.toNat < 128 }
  | named k => if k.complement then (Spread.ofRanges k.members).complement else .ofRanges k.members
  | word => .ofRanges [Unicode.wordRanges]
  | digit => .ofRanges [Unicode.digitRanges]
  | blank => { ranges := 10 }
  | compl s => s.spread.complement
  | union s t | inter s t | diff s t | symDiff s t => s.spread.join t.spread
  | folded (range first last) =>
    if first = last then
      let variants := (Unicode.caseVariants first).eraseDups
      { ranges := variants.length, isAscii := variants.all (·.toNat < 128) }
    else (spread (range first last)).addVariants
  | folded s | foldedAscii s => s.spread.addVariants

/-- The size of the states for one character of a set. -/
def size (s : CharSet) : Nat :=
  match s with
  | range first last =>
    if first = last then 32 * first.utf8Size
    else if last.toNat < 128 then 72
    else 128
  | s =>
    let spread := s.spread
    if spread.isAscii then 64 + 8 * spread.ranges
    else (if spread.isComplement then 900 else 64) + 64 * spread.ranges

end CharSet

namespace Regex

/-- Whether an expression can match nothing but the empty text. -/
def isBlank : Regex → Bool
  | empty | assert _ => true
  | set _ => false
  | seq r s | alt r s => r.isBlank && s.isBlank
  | times r _ most => r.isBlank || most == some 0

/-! ## Extents -/

/-- The measures of an expression. -/
structure Extent where
  /-- The number of levels: of groups, repetitions, alternatives, sequences and classes around one
  another. -/
  depth : Nat := 0
  /-- The size of the automaton. -/
  size : Nat := 0
  /-- The greatest count of a repetition. -/
  count : Nat := 0
deriving DecidableEq, Repr

namespace Extent

/-- The size of a state. -/
def state : Nat := 32

/-- The size of a way out of a state. -/
def way : Nat := 4

/-- One level more. -/
def nest (e : Extent) : Extent := { e with depth := e.depth + 1 }

/-- The extent of two parts of one expression. -/
def join (a b : Extent) : Extent :=
  ⟨max a.depth b.depth, a.size + b.size, max a.count b.count⟩

/-- The extent of some parts of one expression. -/
def joinAll (es : List Extent) : Extent := es.foldl join {}

/-- The extent of parts one after the other.  A part that stands alone is no level of its own. -/
def ofSequence : List Extent → Extent
  | [] => { size := state }
  | [e] => e
  | es => (joinAll es).nest

/-- The extent of alternatives. -/
def ofAlternatives : List Extent → Extent
  | [] => { size := state }
  | [e] => e
  | es =>
    let e := (joinAll es).nest
    { e with size := e.size + 2 * state + way * es.length }

/-- The extent of a group, which may have to note where it begins and ends. -/
def ofGroup (captures : Bool) (e : Extent) : Extent :=
  { e with depth := e.depth + 1, size := e.size + if captures then 2 * state else 0 }

/-- The extent of a repetition of `r`, which has the extent `e`.  Nothing is gained by repeating the
empty text. -/
def ofTimes (r : Regex) (least : Nat) (most : Option Nat) (e : Extent) : Extent :=
  let count := max e.count (max least (most.getD 0))
  let least := if r.isBlank then min least 1 else least
  let most := if r.isBlank then some (min (most.getD 1) 1) else most
  { depth := e.depth + 1
    count
    size :=
      match most with
      | none => max least 1 * e.size + 3 * state
      | some most => state + most * e.size + (most - least) * (state + 2 * way) }

end Extent

/-! ## Limits -/

/-- What expressions may measure at most, as far as there are limits. -/
structure Limits where
  depth : Option Nat
  size : Option Nat
  count : Option Nat
deriving DecidableEq, Repr

namespace Limits

/-- The limits that are usually kept: 250 levels, ten mebibytes, and counts of 32 bits.  Since sizes
are estimates, an expression whose size is close to the limit may be judged otherwise by an engine
that builds its automaton. -/
def standard : Limits := ⟨some 250, some 10485760, some 0xFFFFFFFF⟩

/-- No limits. -/
def unlimited : Limits := ⟨none, none, none⟩

/-- Whether an extent is within the limits. -/
def allow (l : Limits) (e : Extent) : Bool :=
  l.depth.all (e.depth ≤ ·) && l.size.all (e.size ≤ ·) && l.count.all (e.count ≤ ·)

@[simp] theorem allow_unlimited (e : Extent) : unlimited.allow e = true := rfl

end Limits

end Regex

end PinyinSearch
