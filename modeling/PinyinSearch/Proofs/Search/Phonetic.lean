import PinyinSearch.Proofs.Corpus.Exactness
import PinyinSearch.Proofs.Search.Scan

/-!
# Search by sound

A query for a pattern alone, which may match plain pronunciations.  With an engine without limits,
all that counts is what the two regular expressions of the pattern match.
-/

namespace PinyinSearch

open Regex

/-- Asks for a pattern alone, which may match the plain pronunciation. -/
def Query.bySound (pattern : Text) (homophone : Bool) : Query where
  pattern := some pattern
  phonetic := true
  homophone := homophone

namespace Searcher

variable {s : Searcher} {pattern : Text} {homophone : Bool} {similarity : Similarity}
  {entries : List Entry} {plain text : Regex}

/-- Where nothing but a pattern is asked for, every entry is matched with it. -/
lemma matchingPositions_of_lookups_eq_nil {q : Query} {m : PatternMatcher} (h : s.lookups q = [])
    (hpattern : q.pattern = some pattern)
    (hm : s.matcher pattern q.phonetic q.homophone = .ok m) :
    s.matchingPositions q =
      .ok ((List.range s.corpus.size).filter fun p => (s.corpus.entry? p).any m.accepts) := by
  rw [matchingPositions, h]
  simp only [candidates, hpattern, hm, Option.getD_none, Except.map]

/-- Both sides of a pattern are matched with if both are read. -/
lemma matcher_of_parse? (hengine : s.engine = .unlimited)
    (hplain : parse? plainFlags (s.transcriber.transcribe homophone pattern) = some plain)
    (htext : parse? {} (textPattern pattern) = some text) :
    s.matcher pattern true homophone = .ok ⟨some text.isMatch, some plain.isMatch⟩ := by
  simp only [matcher, hengine, RegexEngine.compile?_unlimited, hplain, htext, Option.map_some,
    if_true]

/-- A search by sound finds the entries that one side of the pattern matches. -/
lemma exists_matchingPositions_bySound (hcorpus : s.corpus = .build similarity entries)
    (hengine : s.engine = .unlimited)
    (hplain : parse? plainFlags (s.transcriber.transcribe homophone pattern) = some plain)
    (htext : parse? {} (textPattern pattern) = some text) :
    ∃ found, s.matchingPositions (.bySound pattern homophone) = .ok found ∧
      found.Pairwise (· < ·) ∧ ∀ p, p ∈ found ↔ ∃ e, entries[p]? = some e ∧
        (plain.isMatch e.plain = true ∨ text.isMatch e.text = true) := by
  have hlocates := locates_filter_range s.corpus.entries
    (PatternMatcher.accepts ⟨some text.isMatch, some plain.isMatch⟩)
  have hentries : s.corpus.entries = entries := by
    rw [hcorpus]
    rfl
  refine ⟨_, matchingPositions_of_lookups_eq_nil rfl rfl (matcher_of_parse? hengine hplain htext),
    hlocates.1, fun p => (hlocates.2 p).trans ?_⟩
  rw [hentries]
  exact exists_congr fun e => and_congr_right' Bool.or_eq_true_iff

/-- A searcher for three entries, without limits on regular expressions. -/
def sample : Searcher := { build Entry.samples .sample {} with engine := .unlimited }

end Searcher

end PinyinSearch
