import PinyinSearch.Proofs.Pattern.Literals
import PinyinSearch.Proofs.Search.EntryOrder
import PinyinSearch.Proofs.Search.Phonetic

/-!
# Searches for literal patterns

A search for a literal pattern succeeds whatever else is asked for, as both its regular expressions
are read.  If the pattern is all that is asked for, and only texts count, the entries found are
those that hold the pattern as it stands (`searchAll_literal`).
-/

namespace PinyinSearch

open Regex

/-- Asks for a pattern alone, which has to match the text. -/
def Query.byText (pattern : Text) (homophone : Bool) : Query where
  pattern := some pattern
  homophone := homophone

namespace Searcher

variable {s : Searcher} {p : Text} {q : Query} {m : PatternMatcher}

/-- Where a pattern is all that is asked for, every entry is tried. -/
lemma searchAll_of_asksNothing (hasks : q.AsksNothing) (hpattern : q.pattern = some p)
    (hm : s.matcher p q.phonetic q.homophone = .ok m) :
    s.searchAll q = .ok (s.corpus.entries.filter m.accepts) := by
  have hentries := filterMap_of_locates (locates_filter_range s.corpus.entries m.accepts)
  simp only [Bool.decide_eq_true] at hentries
  rw [searchAll, searchPage,
    matchingPositions_of_lookups_eq_nil (lookups_eq_nil_iff.2 hasks) hpattern hm]
  exact congrArg Except.ok hentries

/-- The expression that decides about a literal pattern is read. -/
lemma deciding?_literal (hengine : s.engine = .unlimited) (hp : p.IsLiteral)
    (phonetic homophone : Bool) : s.deciding? p phonetic homophone ≠ none := by
  rw [deciding?, hengine]
  split
  · obtain ⟨plain, hplain⟩ :
        ∃ r, parse? plainFlags (s.transcriber.transcribe homophone p) = some r :=
      exists_parse?_transcribe hp
    rw [RegexEngine.compile?_unlimited, hplain]
    exact Option.some_ne_none _
  · obtain ⟨text, htext, -⟩ := exists_parse?_textPattern hp
    rw [RegexEngine.compile?_unlimited, htext]
    exact Option.some_ne_none _

/-- A search for a literal pattern succeeds, also by sound and with whatever else is asked for. -/
lemma exists_searchPage_literal (hengine : s.engine = .unlimited) (hp : p.IsLiteral)
    (hpattern : q.pattern = some p) (page : Pagination) :
    ∃ found, s.searchPage q page = .ok found := by
  cases hsearch : s.searchPage q page with
  | ok found => exact ⟨found, rfl⟩
  | error err =>
    obtain ⟨pattern, hpattern', -, hmatcher⟩ :=
      matchingPositions_eq_error_iff.1 (searchPage_eq_error_iff.1 hsearch)
    obtain rfl := Option.some.inj (hpattern.symm.trans hpattern')
    exact absurd (matcher_eq_error_iff.1 hmatcher).1 (deciding?_literal hengine hp _ _)

/-- A search for a literal pattern succeeds, and by text alone it finds the entries whose texts hold
the pattern as it stands. -/
theorem searchAll_literal (hengine : s.engine = .unlimited) (hp : p.IsLiteral) :
    (∀ q page, q.pattern = some p → ∃ found, s.searchPage q page = .ok found) ∧
      ∀ homophone, s.searchAll (.byText p homophone) =
        .ok (s.corpus.entries.filter fun e => p <:+: e.text) := by
  refine ⟨fun q page hpattern => exists_searchPage_literal hengine hp hpattern page, ?_⟩
  intro homophone
  obtain ⟨text, htext, hmatch⟩ := exists_parse?_textPattern hp
  have hm : s.matcher p false homophone = .ok ⟨some text.isMatch, none⟩ := by
    simp only [matcher, hengine, RegexEngine.compile?_unlimited, htext, Option.map_some,
      Bool.false_eq_true, if_false]
  have hasks : (Query.byText p homophone).AsksNothing := by
    constructor <;> rfl
  rw [searchAll_of_asksNothing hasks rfl hm]
  refine congrArg Except.ok (List.filter_congr fun e _ => ?_)
  have haccepts : PatternMatcher.accepts ⟨some text.isMatch, none⟩ e = text.isMatch e.text := rfl
  rw [haccepts, ← Bool.coe_iff_coe, hmatch, decide_eq_true_eq]

/-- A searcher for texts with braces. -/
def braced : Searcher :=
  { build (["国]{1,@中}", "国]{1,}中"].map (.ofText .sample .word ·.toList)) .sample {} with
    engine := .unlimited }

/-- A closing bracket, a brace that is not closed and a wildcard for finals are looked for as they
stand. -/
theorem searchAll_literal_sample :
    (∃ found, braced.searchPage (.bySound "]\x7b1,@".toList true) .everything = .ok found) ∧
      braced.searchAll (.byText "]\x7b1,@".toList false) =
        .ok [.ofText .sample .word "国]{1,@中}".toList] := by
  have hp : Text.IsLiteral "]\x7b1,@".toList := by decide
  constructor
  · exact (searchAll_literal (s := braced) rfl hp).1 _ _ rfl
  · rw [(searchAll_literal (s := braced) rfl hp).2 false]
    decide +kernel

end Searcher

end PinyinSearch
