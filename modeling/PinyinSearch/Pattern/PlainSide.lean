import PinyinSearch.Pattern.Token
import PinyinSearch.Corpus.Syllabification

/-!
# The plain side of a pattern

The regular expression that a pattern stands for on plain pronunciations, in which the syllables of
a text are separated by single spaces.  Letters are split into syllables, an ideograph stands for
the syllable of its first reading, and a `.` for any one syllable, so that quantifiers behind it
count syllables.  All else keeps its meaning.

The pattern is first cut into segments; the segments are then written one after the other, with a
space wherever two syllables meet.
-/

namespace PinyinSearch

/-- A part of the regular expression for plain pronunciations. -/
inductive Segment where
  /-- One syllable or more, whole. -/
  | syllable (regex : Text)
  /-- Letters that make up no whole syllable. -/
  | fragment (regex : Text)
  /-- Any number of syllables up to a maximum, if there is one. -/
  | optional (maximum : Option Nat)
  /-- The opening of a group. -/
  | opener (regex : Text)
  /-- The end of a group. -/
  | closer
  /-- Anything else, which is copied. -/
  | raw (regex : Text)
deriving DecidableEq, Repr

namespace Segment

/-- Whether a syllable may begin where the segment begins. -/
def startsSyllable : Segment → Bool
  | syllable _ | fragment _ | opener _ => true
  | _ => false

/-- Whether a syllable may end where the segment ends. -/
def endsSyllable : Segment → Bool
  | syllable _ | fragment _ | closer => true
  | _ => false

/-- Whether the segment is an operator that repeats what stands before it. -/
def isRepetition : Segment → Bool
  | raw (c :: _) => c == '*' || c == '+' || c == '?' || c == '{'
  | _ => false

end Segment

/-- The characters that mean something in a regular expression. -/
def isMeta (c : Char) : Bool := "\\.+*?()|[]^$#&-~".toList.contains c || c == '{' || c == '}'

/-- The regular expression that matches a text and nothing else. -/
def escapeMeta (s : Text) : Text := s.flatMap fun c => if isMeta c then ['\\', c] else [c]

/-- A group that captures nothing around a regular expression. -/
def grouped (regex : Text) : Text := '(' :: '?' :: ':' :: regex ++ [')']

/-- What the plain side of a pattern depends on. -/
structure Transcriber where
  corpus : Corpus
  romanizer : Romanizer
  /-- The longest syllable that letters are split into. -/
  maxSyllableLength : Nat
  /-- The regular expression for any one syllable. -/
  placeholder : Text

namespace Transcriber

/-! ## Segments -/

/-- The regular expression for a syllable; with `fuzzy` also for those it may be confused with. -/
def syllable (t : Transcriber) (fuzzy : Bool) (s : Text) : Text :=
  match if fuzzy then (t.corpus.similarTo? s).getD [] else [] with
  | [] => escapeMeta s
  | similar => grouped (Text.join ['|'] ((s :: similar).map escapeMeta))

/-- The segments of the pieces of a run of letters.  Neighbouring fragments are put together, behind
the letters of `fragment`. -/
def piecesAfter (t : Transcriber) (fuzzy : Bool) (fragment : Text) : List Piece → List Segment
  | [] => if fragment = [] then [] else [.fragment (escapeMeta fragment)]
  | .fragment s :: rest => t.piecesAfter fuzzy (fragment ++ s) rest
  | .syllable s :: rest =>
    (if fragment = [] then [] else [.fragment (escapeMeta fragment)]) ++
      .syllable (t.syllable fuzzy s) :: t.piecesAfter fuzzy [] rest

/-- The segments of a run of letters. -/
def letters (t : Transcriber) (fuzzy : Bool) (run : Text) : List Segment :=
  t.piecesAfter fuzzy [] (t.corpus.split t.maxSyllableLength run)

/-- The segment of a character beyond ASCII: its first syllable, or the character itself if it has
no reading. -/
def ideograph (t : Transcriber) (fuzzy : Bool) (c : Char) : Segment :=
  match t.romanizer.firstPlain? c with
  | none | some [] => .raw (escapeMeta [c])
  | some s => .syllable (t.syllable fuzzy s)

/-- The placeholder, repeated with spaces between.  Memory is idealized: there are as many copies as
are asked for, where a machine would have no room for very many. -/
def placeholders (t : Transcriber) (n : Nat) : Text :=
  Text.join [' '] (List.replicate n t.placeholder)

/-- One more syllable with the space before it, as a group. -/
def further (t : Transcriber) : Text := grouped (' ' :: t.placeholder)

/-- A quantifier that allows up to `n`. -/
def upTo (n : Nat) : Text := Quantifier.braced ('0' :: ',' :: Text.decimal n)

/-- The segments of a `.` with a quantifier, which counts syllables.  Bounds in the wrong order are
left for the regular expression to refuse, and a missing minimum counts characters. -/
def counted (t : Transcriber) (q : Quantifier) (interior : Text) : List Segment :=
  match q with
  | .exactly 0 => []
  | .exactly n => [.syllable (t.placeholders n)]
  | .between m n =>
    if n < m then [.raw ('.' :: Quantifier.braced interior)]
    else if n = 0 then []
    else if m = 0 then [.optional (some n)]
    else if m = n then [.syllable (t.placeholders m)]
    else [.syllable (t.placeholders m ++ t.further ++ upTo (n - m))]
  | .atLeast 0 => [.optional none]
  | .atLeast m => [.syllable (t.placeholders m ++ t.further ++ ['*'])]
  | .upTo n => [.raw ('.' :: upTo n)]

/-- The segments of a character that is no letter, no `.` and no brace. -/
def symbol (t : Transcriber) (fuzzy : Bool) (c : Char) : List Segment :=
  match c with
  | ')' => [.closer]
  | '^' | '$' | '*' | '+' | '?' | '|' => [.raw [c]]
  | '\'' => []
  | c => if c.toNat < 128 then [.raw (escapeMeta [c])] else [t.ideograph fuzzy c]

/-- The segments of the tokens of a pattern; `run` holds the letters read last. -/
def segmentsAfter (t : Transcriber) (fuzzy : Bool) (run : Text) : List Token → List Segment
  | [] => t.letters fuzzy run
  | .char '.' :: .count q interior :: rest =>
    t.letters fuzzy run ++ t.counted q interior ++ t.segmentsAfter fuzzy [] rest
  | .char '.' :: rest =>
    let dot := match rest with
      | .char '*' :: _ | .char '+' :: _ | .char '?' :: _ => .raw ['.']
      | _ => .syllable t.placeholder
    t.letters fuzzy run ++ dot :: t.segmentsAfter fuzzy [] rest
  | .char c :: rest =>
    if c.isAlpha then t.segmentsAfter fuzzy (run ++ [c]) rest
    else t.letters fuzzy run ++ t.symbol fuzzy c ++ t.segmentsAfter fuzzy [] rest
  | .count q interior :: rest =>
    t.letters fuzzy run ++ .raw (q.canonical interior) :: t.segmentsAfter fuzzy [] rest
  | .brace c :: rest => t.letters fuzzy run ++ .raw ['\\', c] :: t.segmentsAfter fuzzy [] rest
  | .opener s :: rest =>
    let segment := if s.getLast? = some ')' then .raw s else .opener s
    t.letters fuzzy run ++ segment :: t.segmentsAfter fuzzy [] rest
  | .bracket s :: rest | .escape s :: rest =>
    t.letters fuzzy run ++ .raw s :: t.segmentsAfter fuzzy [] rest

/-- The segments of a pattern. -/
def segments (t : Transcriber) (fuzzy : Bool) (pattern : Text) : List Segment :=
  t.segmentsAfter fuzzy [] (tokens true pattern)

/-! ## Writing -/

/-- A repetition of a group: up to a maximum, or without one. -/
def repeated (group : Text) : Option Nat → Text
  | some n => group ++ upTo n
  | none => group ++ ['*']

/-- Optional syllables.  They bring the space before each of them along if a syllable stands before
them, else the space after each if one follows, else only the spaces between them. -/
def optionalForm (t : Transcriber) (afterSyllable : Bool) (next : Option Segment)
    (maximum : Option Nat) : Text :=
  if afterSyllable then repeated t.further maximum
  else if next.any Segment.startsSyllable then repeated (grouped (t.placeholder ++ [' '])) maximum
  else
    match maximum with
    | some 1 => grouped t.placeholder ++ ['?']
    | some n => grouped (t.placeholder ++ t.further ++ upTo (n - 1)) ++ ['?']
    | none => grouped (t.placeholder ++ t.further ++ ['*']) ++ ['?']

/-- A word boundary. -/
def boundary : Text := ['\\', 'b']

/-- A segment as it is written before the segment `next`.  A syllable ends at a word boundary unless
an operator follows, which then binds to its last letter; a fragment only begins at one. -/
def form (t : Transcriber) (afterSyllable : Bool) (next : Option Segment) : Segment → Text
  | .syllable s =>
    if next.any Segment.isRepetition then boundary ++ s else boundary ++ s ++ boundary
  | .fragment s => boundary ++ s
  | .optional maximum => t.optionalForm afterSyllable next maximum
  | .opener s => s
  | .closer => [')']
  | .raw s => s

/-- Whether a syllable may have ended behind a segment; optional syllables leave that as it was. -/
def endsAfter (afterSyllable : Bool) : Segment → Bool
  | .optional _ => afterSyllable
  | segment => segment.endsSyllable

/-- Writes segments one after the other, with a space wherever two syllables meet. -/
def write (t : Transcriber) (afterSyllable : Bool) : List Segment → Text
  | [] => []
  | segment :: rest =>
    (if afterSyllable && segment.startsSyllable then [' '] else []) ++
      t.form afterSyllable rest.head? segment ++ t.write (endsAfter afterSyllable segment) rest

/-- The regular expression of a pattern in which `@` is a character like any other. -/
def transcribeOne (t : Transcriber) (fuzzy : Bool) (pattern : Text) : Text :=
  t.write false (t.segments fuzzy pattern)

/-- The regular expression that a pattern stands for on plain pronunciations.  A pattern with a
single `@` stands for its variants with every final in this place. -/
def transcribe (t : Transcriber) (fuzzy : Bool) (pattern : Text) : Text :=
  match Syllable.openFinal pattern with
  | [_] => t.transcribeOne fuzzy pattern
  | variants => Text.join ['|'] (variants.map fun v => grouped (t.transcribeOne fuzzy v))

end Transcriber

end PinyinSearch
