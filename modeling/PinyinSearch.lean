import PinyinSearch.Unicode.Blank
import PinyinSearch.Unicode.Ideograph
import PinyinSearch.Unicode.Ranges
import PinyinSearch.Unicode.GeneralCategory
import PinyinSearch.Unicode.Script
import PinyinSearch.Unicode.ScriptExtension
import PinyinSearch.Unicode.Property
import PinyinSearch.Unicode.Age
import PinyinSearch.Unicode.GraphemeBreak
import PinyinSearch.Unicode.WordBreak
import PinyinSearch.Unicode.SentenceBreak
import PinyinSearch.Unicode.Alphanumeric
import PinyinSearch.Unicode.Word
import PinyinSearch.Unicode.Shift
import PinyinSearch.Unicode.Lowercase
import PinyinSearch.Unicode.CaseFold
import PinyinSearch.Unicode.Normalization
import PinyinSearch.Unicode.Lookup
import PinyinSearch.Text
import PinyinSearch.Table
import PinyinSearch.Ascending
import PinyinSearch.FirstSeen
import PinyinSearch.Combinations
import PinyinSearch.InputError
import PinyinSearch.Reading
import PinyinSearch.Syllable
import PinyinSearch.Romanizer
import PinyinSearch.Category
import PinyinSearch.Shape
import PinyinSearch.Entry
import PinyinSearch.Similarity
import PinyinSearch.SyllableTrie
import PinyinSearch.Corpus.Postings
import PinyinSearch.Corpus.Frequency
import PinyinSearch.Corpus.Basic
import PinyinSearch.Corpus.Syllabification
import PinyinSearch.Regex.CharSet
import PinyinSearch.Regex.Basic
import PinyinSearch.Regex.Limits
import PinyinSearch.Regex.Matcher
import PinyinSearch.Regex.Flags
import PinyinSearch.Regex.Escape
import PinyinSearch.Regex.Bracket
import PinyinSearch.Regex.Parser
import PinyinSearch.Regex.Engine
import PinyinSearch.Pattern.Quantifier
import PinyinSearch.Pattern.Span
import PinyinSearch.Pattern.Token
import PinyinSearch.Pattern.TextSide
import PinyinSearch.Pattern.PlainSide
import PinyinSearch.Toml.Reader
import PinyinSearch.Toml.Value
import PinyinSearch.Toml.Quoted
import PinyinSearch.Toml.Number
import PinyinSearch.Toml.Document
import PinyinSearch.Toml.Printer
import PinyinSearch.Search.Settings
import PinyinSearch.Search.SettingsFile
import PinyinSearch.Search.Error
import PinyinSearch.Search.Pagination
import PinyinSearch.Search.Query
import PinyinSearch.Search.Searcher
import PinyinSearch.Snapshot.Bytes
import PinyinSearch.Snapshot.Digest
import PinyinSearch.Snapshot.Codec
import PinyinSearch.Snapshot.CorpusCodec
import PinyinSearch.Snapshot.FileTree
import PinyinSearch.Snapshot.SnapshotFile
import PinyinSearch.Proofs.Table
import PinyinSearch.Proofs.SyllableTrie
import PinyinSearch.Proofs.Corpus.Postings
import PinyinSearch.Proofs.Corpus.Syllables
import PinyinSearch.Proofs.Corpus.Exactness
import PinyinSearch.Proofs.Corpus.Reordering
import PinyinSearch.Proofs.Unicode.Case
import PinyinSearch.Proofs.Unicode.Lowercase
import PinyinSearch.Proofs.Words
import PinyinSearch.Proofs.Spelling
import PinyinSearch.Proofs.Regex.Language
import PinyinSearch.Proofs.Regex.Matcher
import PinyinSearch.Proofs.Regex.Notation
import PinyinSearch.Proofs.Regex.Anchors
import PinyinSearch.Proofs.Regex.Widening
import PinyinSearch.Proofs.Regex.ClassNames
import PinyinSearch.Proofs.Regex.Words
import PinyinSearch.Proofs.Regex.WordRuns
import PinyinSearch.Proofs.Pattern.Quantifier
import PinyinSearch.Proofs.Pattern.Cutting
import PinyinSearch.Proofs.Pattern.Transcription
import PinyinSearch.Proofs.Pattern.TextSide
import PinyinSearch.Proofs.Pattern.EscapedText
import PinyinSearch.Proofs.Pattern.Twins
import PinyinSearch.Proofs.Pattern.TwinClasses
import PinyinSearch.Proofs.Pattern.TwinReading
import PinyinSearch.Proofs.Pattern.Confusions
import PinyinSearch.Proofs.Pattern.Ideographs
import PinyinSearch.Proofs.Pattern.Wildcards
import PinyinSearch.Proofs.Pattern.Phrase
import PinyinSearch.Proofs.Pattern.WildcardRuns
import PinyinSearch.Proofs.Pattern.RepeatedGroups
import PinyinSearch.Proofs.Pattern.Writings
import PinyinSearch.Proofs.Search.Scan
import PinyinSearch.Proofs.Search.Phonetic
import PinyinSearch.Proofs.Search.Homophones
import PinyinSearch.Proofs.Search.Lengths
import PinyinSearch.Proofs.Search.Refusals
import PinyinSearch.Proofs.Search.Widening
import PinyinSearch.Proofs.Search.OwnAttributes
import PinyinSearch.Proofs.Search.Pages
import PinyinSearch.Proofs.Snapshot.FileTree
import PinyinSearch.Proofs.Snapshot.Loading
import PinyinSearch.Proofs.Snapshot.Storing
import PinyinSearch.Proofs.Snapshot.Digest
import PinyinSearch.Proofs.Snapshot.History
import PinyinSearch.Proofs.Corpus.Syllabification
import PinyinSearch.Proofs.Corpus.BuildOrder
import PinyinSearch.Proofs.Search.EntryOrder
import PinyinSearch.Proofs.Search.ConfusedInitials
import PinyinSearch.Proofs.Pattern.Literals
import PinyinSearch.Proofs.Search.LiteralPatterns
import PinyinSearch.Proofs.Pattern.Spans
import PinyinSearch.Proofs.Pattern.ClassGrammar
import PinyinSearch.Proofs.Pattern.TextFixedPoints
import PinyinSearch.Proofs.Pattern.Scanners
import PinyinSearch.Proofs.FirstSeen
import PinyinSearch.Proofs.Combinations
import PinyinSearch.Proofs.Search.InitialsVariants
import PinyinSearch.Proofs.Romanizer.Variants
import PinyinSearch.Proofs.Romanizer.ReadingTable
import PinyinSearch.Proofs.Romanizer.Alignment
import PinyinSearch.Proofs.Romanizer.Concatenation
import PinyinSearch.Proofs.Search.TextLookup
import PinyinSearch.Proofs.ConfusableSyllables
import PinyinSearch.Proofs.Search.Continuations
import PinyinSearch.Proofs.Search.Beginnings
import PinyinSearch.Proofs.Pattern.OpenFinals
import PinyinSearch.Proofs.Corpus.Frequency
import PinyinSearch.Proofs.Pattern.Cursors
import PinyinSearch.Proofs.Pattern.CheckedScans
