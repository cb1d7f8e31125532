import PinyinSearch.Proofs.Pattern.Literals
import PinyinSearch.Proofs.Pattern.Phrase

/-!
# Open finals

The `@` of a pattern leaves a final open.  A pattern of letters, ideographs, dots, apostrophes and
anchors with one `@` is found where it is found with some final in this place, although each of them
splits the letters around it in its own way.  With several, an `@` is a character like any other:
what stands between them is transcribed part by part (`isMatch_transcribe_openFinal`).
-/

namespace PinyinSearch

open Text Regex

/-! ## Patterns -/

namespace Text

/-- Letters of ASCII, characters beyond ASCII, dots, apostrophes, anchors and open finals. -/
def IsOpenPattern (s : Text) : Prop :=
  ∀ c ∈ s, c.isAlpha = true ∨ 128 ≤ c.toNat ∨ c ∈ ['.', '\'', '^', '$', '@']

instance (s : Text) : Decidable s.IsOpenPattern := List.decidableBAll _ s

/-- A pattern with a final in the place of every `@`. -/
def fill (final : Text) (s : Text) : Text := s.flatMap fun c => if c = '@' then final else [c]

lemma fill_of_not_mem {final s : Text} (h : '@' ∉ s) : fill final s = s := by
  have hsame : ∀ c ∈ s, (if c = '@' then final else [c]) = [c] := fun c hc => by
    refine if_neg ?_
    rintro rfl
    exact h hc
  rw [fill, List.flatMap_congr hsame, List.flatMap_singleton']

lemma fill_of_single {final left right : Text} (hleft : '@' ∉ left) (hright : '@' ∉ right) :
    fill final (left ++ '@' :: right) = left ++ final ++ right := by
  have hcons : fill final ('@' :: right) = final ++ fill final right := rfl
  have happend : fill final (left ++ '@' :: right) = fill final left ++ fill final ('@' :: right) :=
    List.flatMap_append
  rw [happend, hcons, fill_of_not_mem hleft, fill_of_not_mem hright, List.append_assoc]

/-- There is one more part than there are separators. -/
lemma length_splitOn {c : Char} {s : Text} : (s.splitOn c).length = s.count c + 1 := by
  induction s with
  | nil => rfl
  | cons d s ih =>
    rw [List.splitOn_cons_eq_if_modifyHead, List.count_cons]
    split <;> simp [ih]

/-- A part holds what the text holds, but no separator. -/
lemma of_mem_splitOn {c d : Char} {s part : Text} (hpart : part ∈ s.splitOn c) (hd : d ∈ part) :
    d ∈ s ∧ d ≠ c := by
  induction s generalizing part with
  | nil =>
    rw [List.splitOn_nil, List.mem_singleton] at hpart
    exact absurd (hpart ▸ hd) List.not_mem_nil
  | cons e s ih =>
    obtain ⟨first, others, hparts⟩ := List.exists_cons_of_ne_nil (List.splitOn_ne_nil c s)
    rw [hparts] at ih
    rw [List.splitOn_cons_eq_if_modifyHead, hparts] at hpart
    split at hpart
    · rcases List.mem_cons.1 hpart with rfl | hpart
      · exact absurd hd List.not_mem_nil
      · exact (ih hpart hd).imp_left (List.mem_cons_of_mem e)
    · next hne =>
      rw [List.modifyHead_cons] at hpart
      rcases List.mem_cons.1 hpart with rfl | hpart
      · rcases List.mem_cons.1 hd with rfl | hd
        · exact ⟨List.mem_cons_self, fun heq => hne (beq_iff_eq.2 heq)⟩
        · exact (ih List.mem_cons_self hd).imp_left (List.mem_cons_of_mem e)
      · exact (ih (List.mem_cons_of_mem first hpart) hd).imp_left (List.mem_cons_of_mem e)

end Text

namespace Syllable

variable {p final : Text}

/-- A pattern with one open final has a variant for each final. -/
lemma openFinal_of_count (h : p.count '@' = 1) : openFinal p = finals.map (fill · p) := by
  have hmem : '@' ∈ p := List.count_pos_iff.1 (by omega)
  obtain ⟨left, right, rfl⟩ := List.append_of_mem hmem
  rw [List.count_append, List.count_cons_self] at h
  have hleft : '@' ∉ left := List.count_eq_zero.1 (by omega)
  have hright : '@' ∉ right := List.count_eq_zero.1 (by omega)
  have hsplit : (left ++ '@' :: right).splitOn '@' = [left, right] := by
    rw [List.splitOn_append_cons_self_of_not_mem hleft, List.splitOn_eq_singleton hright]
  rw [openFinal, hsplit]
  exact List.map_congr_left fun final _ => (fill_of_single hleft hright).symm

/-- A pattern without an open final, or with several, stands alone. -/
lemma openFinal_of_count_ne (h : p.count '@' ≠ 1) : openFinal p = [p] := by
  rw [openFinal]
  split
  · next left right hsplit =>
    have hlength : (p.splitOn '@').length = p.count '@' + 1 := length_splitOn
    rw [hsplit, List.length_cons, List.length_singleton] at hlength
    omega
  · rfl

/-- Finals are written in letters. -/
lemma isAlpha_of_mem_finals (h : final ∈ finals) : ∀ c ∈ final, c.isAlpha = true := by
  have hall : (finals.all fun final => final.all Char.isAlpha) = true := by decide
  exact List.all_eq_true.1 (List.all_eq_true.1 hall final h)

lemma mem_fill_finals (h : final ∈ finals) {c : Char} (hc : c ∈ fill final p) :
    c.isAlpha = true ∨ c ∈ p ∧ c ≠ '@' := by
  obtain ⟨d, hd, hc⟩ := List.mem_flatMap.1 hc
  split at hc
  · exact .inl (isAlpha_of_mem_finals h c hc)
  · next hne =>
    obtain rfl := List.mem_singleton.1 hc
    exact .inr ⟨hd, hne⟩

/-- With a final in its place, no final is open. -/
lemma not_mem_fill (h : final ∈ finals) : '@' ∉ fill final p := fun hmem =>
  (mem_fill_finals h hmem).elim (by decide) fun hp => hp.2 rfl

lemma isOpenPattern_fill (h : final ∈ finals) (hp : p.IsOpenPattern) :
    (fill final p).IsOpenPattern := fun c hc =>
  (mem_fill_finals h hc).elim .inl fun hmem => hp c hmem.1

end Syllable

namespace Transcriber

variable {t : Transcriber} {fuzzy : Bool} {p left right : Text}

/-! ## Cutting at an open final -/

/-- An open pattern is cut into its characters, all of which are plain. -/
lemma tokens_of_isOpenPattern (hp : p.IsOpenPattern) :
    tokens true p = p.map Token.char ∧ ∀ c ∈ p, c ∉ [')', '*', '+', '?', '|'] := by
  have hchar : ∀ c ∈ p, c ∉ markers ++ [')', '*', '+', '?', '|'] := by
    intro c hc hmem
    have hall : (markers ++ [')', '*', '+', '?', '|']).all (fun d => !d.isAlpha &&
        decide (d.toNat < 128 ∧ d ∉ ['.', '\'', '^', '$', '@'])) = true := by decide
    have hnot := List.all_eq_true.1 hall c hmem
    rw [Bool.and_eq_true, Bool.not_eq_true', decide_eq_true_eq] at hnot
    rcases hp c hc with halpha | hbeyond | hsymbol
    · rw [halpha] at hnot
      exact Bool.noConfusion hnot.1
    · omega
    · exact hnot.2.2 hsymbol
  refine ⟨?_, fun c hc hmem => hchar c hc (List.mem_append_right _ hmem)⟩
  clear hp
  induction p with
  | nil => rw [tokens, List.map_nil]
  | cons c p ih =>
    rw [List.forall_mem_cons] at hchar
    rw [tokens, read_of_not_mem fun hmem => hchar.1 (List.mem_append_left _ hmem), ih hchar.2,
      List.map_cons]

/-- An open pattern is transcribed to an expression that is read, if the placeholder for its dots
is. -/
lemma isReadable_of_isOpenPattern (hp : p.IsOpenPattern)
    (hplaceholder : '.' ∈ p → IsReadable t.placeholder) : IsReadable (t.transcribeOne fuzzy p) := by
  obtain ⟨htokens, hplain⟩ := tokens_of_isOpenPattern hp
  refine isReadable_write (isReadable_segmentsAfter ?_ (fun hdot => hplaceholder ?_) []) false
  · rw [htokens, List.forall_mem_map]
    exact hplain
  · rw [htokens] at hdot
    obtain ⟨c, hc, heq⟩ := List.mem_map.1 hdot
    exact Token.char.inj heq ▸ hc

/-- A dot that no operator follows is a syllable. -/
lemma segmentsAfter_dot_char {run : Text} (hp : ∀ c ∈ p, c ∉ [')', '*', '+', '?', '|']) :
    t.segmentsAfter fuzzy run (.char '.' :: p.map Token.char) =
      t.letters fuzzy run ++ .syllable t.placeholder ::
        t.segmentsAfter fuzzy [] (p.map Token.char) := by
  cases p with
  | nil => exact segmentsAfter_dot (by simp)
  | cons c p =>
    rw [List.map_cons, segmentsAfter_dot (by simp)]
    have hc := hp c List.mem_cons_self
    split
    case h_4 => rfl
    all_goals
      next heq =>
      obtain rfl := Token.char.inj (List.cons.inj heq).1
      exact absurd (by decide) hc

/-- An open final that stands for itself is a segment of its own. -/
lemma segmentsAfter_at {run : Text}
    (hp : ∀ c ∈ left ++ '@' :: right, c ∉ [')', '*', '+', '?', '|']) :
    t.segmentsAfter fuzzy run ((left ++ '@' :: right).map Token.char) =
      t.segmentsAfter fuzzy run (left.map Token.char) ++
        .raw ['@'] :: t.segmentsAfter fuzzy [] (right.map Token.char) := by
  induction left generalizing run with
  | nil =>
    rw [List.nil_append, List.map_cons, segmentsAfter_symbol (by decide) (by decide),
      List.append_assoc]
    rfl
  | cons c left ih =>
    rw [List.cons_append, List.forall_mem_cons] at hp
    have hleft : ∀ d ∈ left, d ∉ [')', '*', '+', '?', '|'] := fun d hd =>
      hp.2 d (List.mem_append_left _ hd)
    rw [List.cons_append, List.map_cons, List.map_cons]
    by_cases hdot : c = '.'
    · subst hdot
      rw [segmentsAfter_dot_char hp.2, segmentsAfter_dot_char hleft, ih hp.2]
      simp
    · cases halpha : c.isAlpha with
      | true => rw [segmentsAfter_letter halpha, segmentsAfter_letter halpha, ih hp.2]
      | false =>
        rw [segmentsAfter_symbol hdot halpha, segmentsAfter_symbol hdot halpha, ih hp.2]
        simp

/-! ## Writing around an open final -/

/-- How a segment is written depends on what begins behind it. -/
lemma form_congr {after : Bool} {next next' : Option Segment} {segment : Segment}
    (hrepeats : next.any Segment.isRepetition = next'.any Segment.isRepetition)
    (hstarts : next.any Segment.startsSyllable = next'.any Segment.startsSyllable) :
    t.form after next segment = t.form after next' segment := by
  cases segment <;> simp [form, optionalForm, hrepeats, hstarts]

/-- Before an open final segments are written as at the end, and behind it as at the start. -/
lemma write_at {segs rest : List Segment} {after : Bool} :
    t.write after (segs ++ .raw ['@'] :: rest) =
      t.write after segs ++ '@' :: t.write false rest := by
  induction segs generalizing after with
  | nil => cases after <;> rfl
  | cons segment segs ih =>
    have hform : t.form after (segs ++ .raw ['@'] :: rest).head? segment =
        t.form after segs.head? segment := by
      cases segs with
      | nil => exact form_congr rfl rfl
      | cons next segs => rfl
    rw [List.cons_append, write, write, ih, hform]
    simp

lemma transcribeOne_at (hp : (left ++ '@' :: right).IsOpenPattern) :
    t.transcribeOne fuzzy (left ++ '@' :: right) =
      t.transcribeOne fuzzy left ++ '@' :: t.transcribeOne fuzzy right := by
  have hleft : left.IsOpenPattern := fun c hc => hp c (List.mem_append_left _ hc)
  have hright : right.IsOpenPattern := fun c hc =>
    hp c (List.mem_append_right _ (List.mem_cons_of_mem _ hc))
  obtain ⟨htokens, hplain⟩ := tokens_of_isOpenPattern hp
  rw [transcribeOne, segments, htokens, segmentsAfter_at hplain, write_at, transcribeOne, segments,
    (tokens_of_isOpenPattern hleft).1, transcribeOne, segments,
    (tokens_of_isOpenPattern hright).1]

/-- Parts with `@` between them are transcribed one by one. -/
lemma transcribeOne_join {parts : List Text} (hne : parts ≠ [])
    (hparts : ∀ part ∈ parts, part.IsOpenPattern) :
    t.transcribeOne fuzzy (join ['@'] parts) =
      join ['@'] (parts.map (t.transcribeOne fuzzy)) := by
  induction parts with
  | nil => exact absurd rfl hne
  | cons part parts ih =>
    cases parts with
    | nil => simp only [join_singleton, List.map_cons, List.map_nil]
    | cons next parts =>
      have hopen : (join ['@'] (part :: next :: parts)).IsOpenPattern :=
        forall_mem_join (List.forall_mem_singleton.2 (.inr (.inr (by decide)))) hparts
      rw [List.forall_mem_cons] at hparts
      rw [join_cons_of_ne_nil (List.cons_ne_nil next parts), List.append_assoc,
        List.singleton_append] at hopen ⊢
      have hjoin : join ['@'] ((part :: next :: parts).map (t.transcribeOne fuzzy)) =
          t.transcribeOne fuzzy part ++ ['@'] ++
            join ['@'] ((next :: parts).map (t.transcribeOne fuzzy)) :=
        join_cons_of_ne_nil (List.cons_ne_nil _ _)
      rw [transcribeOne_at hopen, ih (List.cons_ne_nil next parts) hparts.2, hjoin,
        List.append_assoc, List.singleton_append]

/-! ## Reading around an open final -/

/-- The set of `@`, where case is ignored. -/
def atSet : CharSet := Escape.foldSet Searcher.plainFlags (.single '@')

lemma contains_atSet (c : Char) :
    atSet.contains c = true ↔ (CharSet.single '@').contains c = true := by
  have hsame : '@' ∈ Unicode.caseVariants c ↔ c = '@' :=
    Unicode.mem_caseVariants_of_not_isAlpha (by decide) (by decide) (by decide)
  rw [atSet, contains_foldSet, hsame, CharSet.contains_single, beq_iff_eq]
  exact eq_comm

/-- Expressions with `@` between them are read one by one. -/
lemma reads_join_at {ss : List Text} {rss : List (List Regex)}
    (h : List.Forall₂ (Reads Searcher.plainFlags) ss rss) :
    Reads Searcher.plainFlags (join ['@'] ss) ([.set atSet].intercalate rss) := by
  have hat : Reads Searcher.plainFlags ['@'] [.set atSet] :=
    (readsUnit_literal (by decide) rfl rfl).reads
  induction h with
  | nil => exact .nil
  | @cons s rs ss rss hs hss ih =>
    cases hss with
    | nil =>
      rw [join_singleton, List.intercalate_singleton]
      exact hs
    | cons =>
      rw [join_cons_of_ne_nil (List.cons_ne_nil _ _), List.intercalate_cons_cons]
      exact (hs.append hat).append ih

/-- They match one after the other, with an `@` between them. -/
lemma matches_intercalate_at {rss : List (List Regex)} {before mid after : Text} :
    (seqs ([.set atSet].intercalate rss)).Matches before mid after ↔
      (seqs ((rss.map seqs).intersperse (.set (.single '@')))).Matches before mid after := by
  induction rss generalizing before mid with
  | nil => exact Iff.rfl
  | cons rs rss ih =>
    cases rss with
    | nil =>
      rw [List.intercalate_singleton, List.map_singleton, List.intersperse_singleton,
        matches_seqs_singleton]
    | cons rs' rss =>
      have hat : ∀ {before mid after : Text}, (set atSet).Matches before mid after ↔
          (set (.single '@')).Matches before mid after :=
        exists_congr fun c => and_congr_right fun _ => contains_atSet c
      rw [List.intercalate_cons_cons, List.append_assoc, matches_seqs_append, List.map_cons,
        List.map_cons, List.intersperse_cons_cons, ← List.map_cons]
      refine exists_congr fun first => exists_congr fun rest => and_congr_right fun _ =>
        and_congr_right fun _ => ?_
      exact exists_congr fun _ => exists_congr fun _ => and_congr_right fun _ =>
        and_congr hat ih

/-! ## Patterns with one open final -/

lemma transcribe_of_count (h : p.count '@' = 1) : t.transcribe fuzzy p =
    join ['|'] (((Syllable.finals.map (fill · p)).map (t.transcribeOne fuzzy)).map grouped) := by
  rw [transcribe, Syllable.openFinal_of_count h, List.map_map]
  rfl

/-- One open final is found where one of the finals is found in its place. -/
lemma exists_parse?_of_count (hp : p.IsOpenPattern)
    (hplaceholder : '.' ∈ p → IsReadable t.placeholder) (h : p.count '@' = 1) :
    ∃ r, ∃ variant : Text → Regex,
      Regex.parse? Searcher.plainFlags (t.transcribe fuzzy p) = some r ∧
      (∀ final ∈ Syllable.finals, Regex.parse? Searcher.plainFlags
        (t.transcribe fuzzy (fill final p)) = some (variant final)) ∧
      ∀ text, r.isMatch text = true ↔
        ∃ final ∈ Syllable.finals, (variant final).isMatch text = true := by
  have hreadable : ∀ final ∈ Syllable.finals,
      IsReadable (t.transcribeOne fuzzy (fill final p)) := fun final hfinal =>
    isReadable_of_isOpenPattern (Syllable.isOpenPattern_fill hfinal hp) fun hdot =>
      hplaceholder ((Syllable.mem_fill_finals hfinal hdot).resolve_left (by decide)).1
  have hne : (Syllable.finals.map (fill · p)).map (t.transcribeOne fuzzy) ≠ [] :=
    List.cons_ne_nil _ _
  obtain ⟨r, hparse, hmatch⟩ := IsReadable.exists_parse?_join hne
    (List.forall_mem_map.2 (List.forall_mem_map.2 hreadable))
  choose! rs hrs using hreadable
  have hvariant : ∀ final ∈ Syllable.finals, Regex.parse? Searcher.plainFlags
      (t.transcribeOne fuzzy (fill final p)) = some (seqs (rs final)) := fun final hfinal =>
    (hrs final hfinal).parse? rfl
  refine ⟨r, fun final => seqs (rs final), by rw [transcribe_of_count h, hparse],
    fun final hfinal => ?_, fun text => ?_⟩
  · rw [transcribe_of_noVariants (Syllable.not_mem_fill hfinal), hvariant final hfinal]
  · simp only [hmatch, List.mem_map, exists_exists_and_eq_and]
    refine exists_congr fun final => and_congr_right fun hfinal => ?_
    simp [hvariant final hfinal]

/-! ## Patterns with several open finals -/

lemma transcribe_of_count_ne (h : p.count '@' ≠ 1) :
    t.transcribe fuzzy p = t.transcribeOne fuzzy p := by
  rw [transcribe, Syllable.openFinal_of_count_ne h]

/-- Where several finals are open, the parts between are transcribed one by one. -/
lemma transcribe_splitOn (hp : p.IsOpenPattern) (h : p.count '@' ≠ 1) :
    t.transcribe fuzzy p = join ['@'] ((p.splitOn '@').map (t.transcribe fuzzy)) := by
  have hjoin : join ['@'] (p.splitOn '@') = p := List.intercalate_splitOn '@'
  have hparts : ∀ part ∈ p.splitOn '@', t.transcribe fuzzy part = t.transcribeOne fuzzy part :=
    fun part hpart => transcribe_of_noVariants fun hat => (of_mem_splitOn hpart hat).2 rfl
  rw [List.map_congr_left hparts, transcribe_of_count_ne h, ← transcribeOne_join
    (List.splitOn_ne_nil '@' p) fun part hpart c hc => hp c (of_mem_splitOn hpart hc).1, hjoin]

/-- Several open finals are found where the parts between them are found with an `@` between. -/
lemma exists_parse?_of_count_ne (hp : p.IsOpenPattern)
    (hplaceholder : '.' ∈ p → IsReadable t.placeholder) (h : p.count '@' ≠ 1) :
    ∃ r, ∃ rs, Regex.parse? Searcher.plainFlags (t.transcribe fuzzy p) = some r ∧
      List.Forall₂ (fun part r =>
        Regex.parse? Searcher.plainFlags (t.transcribe fuzzy part) = some r) (p.splitOn '@') rs ∧
      ∀ text, r.isMatch text = true ↔
        (seqs (rs.intersperse (.set (.single '@')))).isMatch text = true := by
  have hreadable : ∀ part ∈ p.splitOn '@', IsReadable (t.transcribe fuzzy part) := by
    intro part hpart
    rw [transcribe_of_noVariants fun hat => (of_mem_splitOn hpart hat).2 rfl]
    exact isReadable_of_isOpenPattern (fun c hc => hp c (of_mem_splitOn hpart hc).1) fun hdot =>
      hplaceholder (of_mem_splitOn hpart hdot).1
  choose! rss hrss using hreadable
  have hreads : List.Forall₂ (Reads Searcher.plainFlags)
      ((p.splitOn '@').map (t.transcribe fuzzy)) ((p.splitOn '@').map rss) := by
    rw [List.forall₂_map_left_iff, List.forall₂_map_right_iff, List.forall₂_same]
    exact hrss
  have hparse : Regex.parse? Searcher.plainFlags (t.transcribe fuzzy p) =
      some (seqs ([.set atSet].intercalate ((p.splitOn '@').map rss))) := by
    rw [transcribe_splitOn hp h]
    exact (reads_join_at hreads).parse? rfl
  refine ⟨_, ((p.splitOn '@').map rss).map seqs, hparse, ?_, fun text => ?_⟩
  · rw [List.forall₂_map_right_iff, List.forall₂_map_right_iff, List.forall₂_same]
    exact fun part hpart => (hrss part hpart).parse? rfl
  · simp only [isMatch_iff, matches_intercalate_at]

/-! ## Open finals in patterns -/

/-- A pattern with one open final is found exactly where one of its variants is, each of which has a
final in its place.  With several, what stands between them is transcribed part by part and found
with an `@` between. -/
theorem isMatch_transcribe_openFinal (hp : p.IsOpenPattern)
    (hplaceholder : '.' ∈ p → IsReadable t.placeholder) :
    (p.count '@' = 1 → ∃ isMatch, ∃ isMatchOf : Text → Text → Bool,
      RegexEngine.unlimited.compile? Searcher.plainFlags (t.transcribe fuzzy p) = some isMatch ∧
      (∀ final ∈ Syllable.finals, RegexEngine.unlimited.compile? Searcher.plainFlags
        (t.transcribe fuzzy (fill final p)) = some (isMatchOf final)) ∧
      ∀ text, isMatch text = true ↔ ∃ final ∈ Syllable.finals, isMatchOf final text = true) ∧
    (2 ≤ p.count '@' →
      t.transcribe fuzzy p = join ['@'] ((p.splitOn '@').map (t.transcribe fuzzy)) ∧
      ∃ isMatch, ∃ rs,
        RegexEngine.unlimited.compile? Searcher.plainFlags (t.transcribe fuzzy p) = some isMatch ∧
        List.Forall₂ (fun part r => Regex.parse? Searcher.plainFlags (t.transcribe fuzzy part) =
          some r) (p.splitOn '@') rs ∧
        ∀ text, isMatch text = true ↔
          (seqs (rs.intersperse (.set (.single '@')))).isMatch text = true) := by
  refine ⟨fun hone => ?_, fun hmany => ⟨transcribe_splitOn hp (by omega), ?_⟩⟩
  · obtain ⟨r, variant, hparse, hvariants, hmatch⟩ := exists_parse?_of_count hp hplaceholder hone
    refine ⟨r.isMatch, fun final => (variant final).isMatch, ?_, fun final hfinal => ?_, hmatch⟩
    · rw [RegexEngine.compile?_unlimited, hparse, Option.map_some]
    · rw [RegexEngine.compile?_unlimited, hvariants final hfinal, Option.map_some]
  · obtain ⟨r, rs, hparse, hparts, hmatch⟩ := exists_parse?_of_count_ne hp hplaceholder (by omega)
    refine ⟨r.isMatch, rs, ?_, hparts, hmatch⟩
    rw [RegexEngine.compile?_unlimited, hparse, Option.map_some]

/-- An open final between a part of a syllable and a dot, and two of them behind letters. -/
theorem isMatch_transcribe_openFinal_sample :
    IsOpenPattern "^zh@.$".toList ∧ IsOpenPattern "zhong@g@".toList ∧
      IsReadable Phrase.sampleTranscriber.placeholder ∧
      (∃ isMatch, RegexEngine.unlimited.compile? Searcher.plainFlags
          (Phrase.sampleTranscriber.transcribe false "^zh@.$".toList) = some isMatch ∧
        isMatch "zhong guo".toList = true) ∧
      Phrase.sampleTranscriber.transcribe false "zhong@g@".toList =
        "\\bzhong\\b@\\bg@".toList := by
  have hone : IsOpenPattern "^zh@.$".toList := by decide
  have htwo : IsOpenPattern "zhong@g@".toList := by decide
  have hreadable : IsReadable Phrase.sampleTranscriber.placeholder := ⟨_, reads_word rfl rfl⟩
  have hfound := @isMatch_transcribe_openFinal Phrase.sampleTranscriber false _ hone fun _ =>
    hreadable
  obtain ⟨isMatch, isMatchOf, hcompile, hvariants, hmatch⟩ := hfound.1 (by decide)
  have hong : (RegexEngine.unlimited.compile? Searcher.plainFlags
      (Phrase.sampleTranscriber.transcribe false "^zhong.$".toList)).any (· "zhong guo".toList) =
        true := by decide +kernel
  have hfinal : "ong".toList ∈ Syllable.finals := by decide
  have hfill : fill "ong".toList "^zh@.$".toList = "^zhong.$".toList := by decide
  rw [← hfill, hvariants _ hfinal] at hong
  have hparts := @isMatch_transcribe_openFinal Phrase.sampleTranscriber false _ htwo fun _ =>
    hreadable
  exact ⟨hone, htwo, hreadable, ⟨isMatch, hcompile, (hmatch _).2 ⟨_, hfinal, hong⟩⟩,
    (hparts.2 (by decide)).1.trans (by decide +kernel)⟩

end Transcriber

end PinyinSearch
