import PinyinSearch.Pattern.PlainSide
import PinyinSearch.Pattern.TextSide
import PinyinSearch.Regex.Engine
import PinyinSearch.Search.Pagination
import PinyinSearch.Search.Query
import PinyinSearch.Search.Settings

/-!
# Search

A searcher answers queries on a corpus.  Every attribute that a query asks for is looked up in the
maps of the corpus, the positions found are intersected, and what remains is matched with the
pattern of the query, if it has one.
-/

namespace PinyinSearch

/-- A corpus with all that a search of it depends on. -/
structure Searcher where
  corpus : Corpus
  romanizer : Romanizer
  /-- The confusions by which strings of initials are widened. -/
  similarity : Similarity
  settings : SearchSettings
  /-- What regular expressions are read and matched by. -/
  engine : RegexEngine := .standard

/-- What a pattern asks of texts and of plain pronunciations. -/
structure PatternMatcher where
  text : Option (Text → Bool)
  plain : Option (Text → Bool)

namespace PatternMatcher

/-- Whether an entry is matched by its plain pronunciation or by its text. -/
def accepts (m : PatternMatcher) (e : Entry) : Bool :=
  m.plain.any (· e.plain) || m.text.any (· e.text)

end PatternMatcher

/-- A page of the entries that answer a query. -/
structure SearchPage where
  entries : List Entry
  /-- The number of the entries on all pages. -/
  total : Nat
  page : Nat
  size : Nat
deriving DecidableEq, Repr

namespace Searcher

/-- A searcher for a corpus that exists already. -/
def ofCorpus (corpus : Corpus) (romanizer : Romanizer) (settings : SearchSettings) : Searcher :=
  { corpus, romanizer, similarity := settings.similarity, settings }

/-- A searcher for a list of entries, whose corpus has the confusions of the settings. -/
def build (entries : List Entry) (romanizer : Romanizer) (settings : SearchSettings) : Searcher :=
  ofCorpus (.build settings.similarity entries) romanizer settings

/-- A searcher that reads characters by a dictionary and has the usual settings. -/
def withDictionary (dictionary : Dictionary) (corpus : Corpus) : Searcher :=
  ofCorpus corpus dictionary.romanizer {}

/-! ## Initials -/

/-- Splits letters by the syllables of the corpus. -/
def split (s : Searcher) (run : Text) : List Piece :=
  s.corpus.split s.settings.maxSyllableLength run

/-- The strings of initials that a string stands for: itself, or with `@` the initials of every way
to put a final in its place. -/
def initialsBases (s : Searcher) (initials : Text) : List Text :=
  if '@' ∈ initials then
    (Syllable.openFinal initials).map fun spelled => (s.split spelled).flatMap Piece.initials
  else [initials]

/-- A string of initials, and with `homophone` all strings that it may be confused with unless it is
too long for that. -/
def widen (s : Searcher) (homophone : Bool) (base : Text) : List Text :=
  if homophone ∧ base.length ≤ s.settings.maxInitialsLength then
    combinations (base.map s.similarity.letterVariants)
  else [base]

/-- The strings of initials to look up for a string. -/
def initialsVariants (s : Searcher) (initials : Text) (homophone : Bool) : List Text :=
  FirstSeen.ofList ((s.initialsBases initials).flatMap (s.widen homophone))

/-! ## Patterns -/

/-- What the plain side of patterns depends on. -/
def transcriber (s : Searcher) : Transcriber :=
  { corpus := s.corpus
    romanizer := s.romanizer
    maxSyllableLength := s.settings.maxSyllableLength
    placeholder := s.settings.placeholder }

/-- The flags for plain pronunciations, in which case is ignored. -/
def plainFlags : Flags := { ignoreCase := true }

/-- What a pattern asks for.  For texts alone, the engine has to take the regular expression for
texts; otherwise that for plain pronunciations, and that for texts is left out if it is refused. -/
def matcher (s : Searcher) (pattern : Text) (phonetic homophone : Bool) :
    Except SearchError PatternMatcher :=
  let text := s.engine.compile? {} (textPattern pattern)
  if phonetic then
    let transcribed := s.transcriber.transcribe homophone pattern
    match s.engine.compile? plainFlags transcribed with
    | some plain => .ok ⟨text, some plain⟩
    | none => .error (.invalidPattern pattern (some transcribed))
  else
    match text with
    | some text => .ok ⟨some text, none⟩
    | none => .error (.invalidPattern pattern none)

/-! ## Queries -/

/-- The positions in ascending order, each once, of the entries that have one of some keys. -/
def anyOf {κ : Type} [DecidableEq κ] (postings : Postings κ) (keys : List κ) : List Position :=
  Ascending.ofList (keys.flatMap postings.positions)

/-- For each attribute asked for, the positions of the entries that have it. -/
def lookups (s : Searcher) (q : Query) : List (List Position) :=
  let c := s.corpus
  (q.category.map c.byCategory.positions).toList ++
  (q.length.map c.byLength.positions).toList ++
  (q.shape.map c.byShape.positions).toList ++
  (q.rhyme.map c.byRhyme.positions).toList ++
  (q.tones.map c.byTones.positions).toList ++
  (q.initials.map fun t => anyOf c.byInitials (s.initialsVariants t q.homophone)).toList ++
  (q.firstIn.map (anyOf c.byFirst)).toList ++
  (q.lastIn.map (anyOf c.byLast)).toList ++
  (q.containing.getD []).map c.byChar.positions

/-- The members that two ascending lists share.  The smaller of two first members that differ can
be in one list only. -/
def intersect : List Position → List Position → List Position
  | [], _ => []
  | _, [] => []
  | p :: ps, q :: qs =>
    if p < q then intersect ps (q :: qs)
    else if q < p then intersect (p :: ps) qs
    else p :: intersect ps qs
termination_by ps qs => ps.length + qs.length

/-- The positions that belong to each of some lists, `none` for no lists, which do not constrain. -/
def candidates : List (List Position) → Option (List Position)
  | [] => none
  | first :: rest => some (rest.foldl intersect first)

/-- The positions of the entries that answer a query, in ascending order.  The pattern is read only
if some entry has all the other attributes, or if none of them is asked for. -/
def matchingPositions (s : Searcher) (q : Query) : Except SearchError (List Position) :=
  match candidates (s.lookups q) with
  | some [] => .ok []
  | found =>
    let positions := found.getD (List.range s.corpus.size)
    match q.pattern with
    | none => .ok positions
    | some pattern =>
      (s.matcher pattern q.phonetic q.homophone).map fun m =>
        positions.filter fun p => (s.corpus.entry? p).any m.accepts

/-- A page of the entries that answer a query. -/
def searchPage (s : Searcher) (q : Query) (p : Pagination) : Except SearchError SearchPage :=
  (s.matchingPositions q).map fun positions =>
    { entries := (p.window positions).filterMap s.corpus.entry?
      total := positions.length
      page := p.page
      size := p.size }

/-- The page with a number and a size of the entries that answer a query.  What is wrong with the
page is found before the query is looked at. -/
def search (s : Searcher) (q : Query) (page size : Int) : Except SearchError SearchPage :=
  (Pagination.make page size).bind (s.searchPage q)

/-- The greatest size of a page that can be asked for. -/
def maxPageSize : Nat := 0x7FFFFFFFFFFFFFFF

/-- The first page, of the usual size. -/
def searchFirstPage (s : Searcher) (q : Query) : Except SearchError SearchPage :=
  s.search q 1 (min s.settings.defaultPageSize maxPageSize : Nat)

/-- All entries that answer a query. -/
def searchAll (s : Searcher) (q : Query) : Except SearchError (List Entry) :=
  (s.searchPage q .everything).map (·.entries)

/-- The first entry with a text, which is normalized. -/
def lookup (s : Searcher) (raw : Text) : Option Entry :=
  match normalize raw with
  | [] => none
  | c :: rest =>
    ((s.corpus.byFirst.positions c).filterMap s.corpus.entry?).find? fun entry =>
      entry.text = c :: rest

/-- The entries that begin with a character, for going on from the last character of another. -/
def continuations (s : Searcher) (c : Char) : List Entry :=
  match s.searchAll (Query.withFirstIn {} [c]) with
  | .ok entries => entries
  | .error _ => []

end Searcher

end PinyinSearch
