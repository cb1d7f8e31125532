import PinyinSearch.Corpus.Syllabification
import PinyinSearch.Proofs.SyllableTrie
import PinyinSearch.Proofs.Table

/-!
# Pieces of a run of letters

A run of letters is split from left to right.  `Corpus.Places` says which piece may stand in front
of which letters; every piece of a split is placed so (`places_splitGreedy`), and no letter is lost
or added (`letters_splitGreedy`).  From this follows what holds of a split as a whole
(`isGreedySplit_split`), whatever syllables a corpus knows, the empty one included.
-/

namespace PinyinSearch.Corpus

/-- Some letters begin a known syllable without being all of it. -/
def HasBeginning (corpus : Corpus) (letters : Text) : Prop :=
  ∃ s, corpus.knows s = true ∧ letters <+: s ∧ letters ≠ s

/-- A piece may stand in front of some letters: a syllable if it is the longest within the bound,
and a fragment if it is a letter where no syllable within the bound begins.  In both cases piece and
letters together are not left whole; else they are one fragment. -/
inductive Places (corpus : Corpus) (bound : Nat) : Piece → Text → Prop where
  | syllable {s rest} :
    s ≠ [] →
    corpus.knows s = true →
    s.length ≤ bound →
    (∀ v, v <+: s ++ rest → corpus.knows v = true → v.length ≤ bound → v.length ≤ s.length) →
    (corpus.HasBeginning (s ++ rest) → corpus.knows (s ++ rest) = true) →
    Places corpus bound (.syllable s) rest
  | tail {s} :
    s ≠ [] →
    corpus.knows s = false →
    corpus.HasBeginning s →
    Places corpus bound (.fragment s) []
  | letter {c rest} :
    (∀ v, v ≠ [] → v <+: c :: rest → corpus.knows v = true → bound < v.length) →
    (corpus.HasBeginning (c :: rest) → corpus.knows (c :: rest) = true) →
    Places corpus bound (.fragment [c]) rest

/-- What holds of the pieces of lower-case letters. -/
structure IsGreedySplit (corpus : Corpus) (bound : Nat) (letters : Text) (pieces : List Piece) :
    Prop where
  /-- The pieces make up the letters, and none of them is empty. -/
  complete : pieces.flatMap Piece.letters = letters ∧ ∀ p ∈ pieces, p.letters ≠ []
  /-- The syllables are the pieces that are known. -/
  known : ∀ s, .syllable s ∈ pieces → corpus.knows s = true
  unknown : ∀ s, .fragment s ∈ pieces → corpus.knows s = false
  /-- Letters that are a known syllable are one piece. -/
  whole : letters ≠ [] → corpus.knows letters = true → pieces = [.syllable letters]
  /-- Otherwise a syllable is the longest within the bound, and the letters from there on were not
  left whole. -/
  greedy : ¬ (letters ≠ [] ∧ corpus.knows letters = true) →
    ∀ before s after, pieces = before ++ .syllable s :: after → s.length ≤ bound ∧
      (∀ v, v <+: s ++ after.flatMap Piece.letters → corpus.knows v = true → v.length ≤ bound →
        v.length ≤ s.length) ∧
      (corpus.HasBeginning (s ++ after.flatMap Piece.letters) →
        corpus.knows (s ++ after.flatMap Piece.letters) = true)
  /-- A fragment of several letters is left whole at the end. -/
  last : ∀ before s after, pieces = before ++ .fragment s :: after → 1 < s.length →
    after = [] ∧ corpus.HasBeginning s
  /-- Where a fragment is one letter no syllable within the bound begins, and if more letters follow
  they were not left whole with it. -/
  letter : ∀ before c after, pieces = before ++ .fragment [c] :: after →
    (∀ v, v ≠ [] → v <+: c :: after.flatMap Piece.letters → corpus.knows v = true →
      bound < v.length) ∧
    (after ≠ [] → corpus.HasBeginning (c :: after.flatMap Piece.letters) →
      corpus.knows (c :: after.flatMap Piece.letters) = true)

/-! ## Known syllables -/

variable {t : CorpusTables} {bound : Nat} {s : Text}

/-- The trie of a corpus holds its known syllables. -/
lemma contains_trie_ofTables : (ofTables t).trie.contains s = true ↔ (ofTables t).knows s = true :=
  SyllableTrie.contains_ofWords.trans Table.contains_iff.symm

lemma knowsFrom_ofTables :
    (ofTables t).knowsFrom s = true ↔ s = [] ∨ ∃ v, (ofTables t).knows v = true ∧ s <+: v := by
  refine SyllableTrie.hasWordFrom_ofWords.trans (or_congr_right (exists_congr fun v => ?_))
  exact and_congr_left' Table.contains_iff.symm

/-- Letters are left whole if they begin a known syllable without being one. -/
lemma isUnfinished_ofTables (hs : s ≠ []) : (ofTables t).isUnfinished s = true ↔
    (ofTables t).knows s = false ∧ (ofTables t).HasBeginning s := by
  rw [isUnfinished, Bool.and_eq_true, Bool.not_eq_true', knowsFrom_ofTables, or_iff_right hs]
  refine and_congr_right fun hunknown => exists_congr fun v => and_congr_right fun hv => ?_
  refine (and_iff_left ?_).symm
  rintro rfl
  rw [hv] at hunknown
  cases hunknown

/-- Letters that are not left whole and begin a known syllable are one. -/
lemma knows_of_hasBeginning (hs : s ≠ []) (hfinished : ¬ (ofTables t).isUnfinished s = true)
    (hbegins : (ofTables t).HasBeginning s) : (ofTables t).knows s = true := by
  by_contra hunknown
  exact hfinished ((isUnfinished_ofTables hs).2 ⟨Bool.eq_false_iff.2 hunknown, hbegins⟩)

/-! ## One piece after the other -/

lemma letters_splitGreedy (corpus : Corpus) (bound : Nat) (s : Text) :
    (corpus.splitGreedy bound s).flatMap Piece.letters = s := by
  fun_induction splitGreedy corpus bound s with
  | case1 => rfl
  | case2 c rest _ => simp [Piece.letters]
  | case3 c rest _ stop word hlongest ih =>
    rw [List.flatMap_cons, ih]
    exact (SyllableTrie.longestAt?_spec hlongest).1.1.2.2.1
  | case4 c rest _ _ ih =>
    rw [List.flatMap_cons, ih]
    rfl

lemma letters_split (corpus : Corpus) (maxLength : Nat) (run : Text) :
    (corpus.split maxLength run).flatMap Piece.letters = run.trim.lowerAscii := by
  rw [split]
  split
  · next hempty => exact hempty.symm
  · split
    · rw [List.flatMap_singleton]
      rfl
    · exact letters_splitGreedy _ _ _

/-- Each piece is placed in front of the letters of the pieces behind it. -/
lemma places_splitGreedy (before : List Piece) (p : Piece) (after : List Piece)
    (h : (ofTables t).splitGreedy bound s = before ++ p :: after) :
    (ofTables t).Places bound p (after.flatMap Piece.letters) := by
  fun_induction splitGreedy (ofTables t) bound s generalizing before with
  | case1 => simp at h
  | case2 c rest hunfinished =>
    obtain ⟨hunknown, hbegins⟩ := (isUnfinished_ofTables (List.cons_ne_nil c rest)).1 hunfinished
    cases before with
    | nil =>
      obtain ⟨rfl, rfl⟩ := List.cons.inj h
      exact .tail (List.cons_ne_nil c rest) hunknown hbegins
    | cons _ before => simp at h
  | case3 c rest hfinished stop word hlongest ih =>
    cases before with
    | cons _ before => exact ih before (List.cons.inj h).2
    | nil =>
      obtain ⟨rfl, rfl⟩ := List.cons.inj h
      obtain ⟨⟨⟨hne, -, happend, hword⟩, hlength⟩, hmax⟩ :=
        SyllableTrie.longestAt?_spec hlongest
      rw [List.drop_zero] at happend hmax
      rw [letters_splitGreedy]
      refine .syllable hne (contains_trie_ofTables.1 hword) hlength ?_ ?_
      · rw [happend]
        exact fun v hv hknown => hmax v hv (contains_trie_ofTables.2 hknown)
      · rw [happend]
        exact knows_of_hasBeginning (List.cons_ne_nil c rest) hfinished
  | case4 c rest hfinished hnone ih =>
    cases before with
    | cons _ before => exact ih before (List.cons.inj h).2
    | nil =>
      obtain ⟨rfl, rfl⟩ := List.cons.inj h
      rw [letters_splitGreedy]
      refine .letter ?_ (knows_of_hasBeginning (List.cons_ne_nil c rest) hfinished)
      intro v hne hv hknown
      exact SyllableTrie.longestAt?_eq_none_iff.1 hnone v hne hv (contains_trie_ofTables.2 hknown)

/-! ## The split as a whole -/

section

variable {corpus : Corpus} {p : Piece} {rest : Text}

lemma Places.ne_nil (h : corpus.Places bound p rest) : p.letters ≠ [] := by
  cases h with
  | syllable hne => exact hne
  | tail hne => exact hne
  | letter => exact List.cons_ne_nil _ _

lemma Places.known (h : corpus.Places bound (.syllable s) rest) : corpus.knows s = true := by
  cases h with
  | syllable _ hknown => exact hknown

lemma Places.unknown (h : corpus.Places bound (.fragment s) rest) (hbound : 1 ≤ bound) :
    corpus.knows s = false := by
  cases h with
  | tail _ hunknown => exact hunknown
  | @letter c rest hlong _ =>
    -- a known letter is short enough to have been taken
    rw [Bool.eq_false_iff]
    intro hknown
    have hlength := hlong [c] (List.cons_ne_nil c []) ⟨rest, rfl⟩ hknown
    rw [List.length_singleton] at hlength
    omega

end

lemma isGreedySplit_splitGreedy (hbound : 1 ≤ bound)
    (hpart : ¬ (s ≠ [] ∧ (ofTables t).knows s = true)) :
    (ofTables t).IsGreedySplit bound s ((ofTables t).splitGreedy bound s) := by
  have hplaces : ∀ before p after, (ofTables t).splitGreedy bound s = before ++ p :: after →
      (ofTables t).Places bound p (after.flatMap Piece.letters) := places_splitGreedy
  -- no piece is empty, so where no letters follow no pieces do
  have hempties : ∀ before p after,
      (ofTables t).splitGreedy bound s = before ++ p :: after →
      after.flatMap Piece.letters = [] → after = [] := by
    intro before p after hsplit hletters
    cases after with
    | nil => rfl
    | cons q after =>
      have hq := hplaces (before ++ [p]) q after (by rw [hsplit]; simp)
      exact absurd (List.append_eq_nil_iff.1 hletters).1 hq.ne_nil
  constructor
  case complete =>
    refine ⟨letters_splitGreedy _ _ _, fun p hp => ?_⟩
    obtain ⟨before, after, hsplit⟩ := List.append_of_mem hp
    exact (hplaces before p after hsplit).ne_nil
  case known =>
    intro v hv
    obtain ⟨before, after, hsplit⟩ := List.append_of_mem hv
    exact (hplaces before _ after hsplit).known
  case unknown =>
    intro v hv
    obtain ⟨before, after, hsplit⟩ := List.append_of_mem hv
    exact (hplaces before _ after hsplit).unknown hbound
  case whole => exact fun hne hknown => absurd ⟨hne, hknown⟩ hpart
  case greedy =>
    intro _ before v after hsplit
    cases hplaces before _ after hsplit with
    | syllable _ _ hlength hmax hwhole => exact ⟨hlength, hmax, hwhole⟩
  case last =>
    intro before v after hsplit hlength
    have hplace := hplaces before _ after hsplit
    have hempty := hempties before _ after hsplit
    generalize after.flatMap Piece.letters = letters at hplace hempty
    cases hplace with
    | tail _ _ hbegins => exact ⟨hempty rfl, hbegins⟩
    | letter => exact absurd hlength (by simp)
  case letter =>
    intro before c after hsplit
    have hplace := hplaces before _ after hsplit
    have hempty := hempties before (.fragment [c]) after hsplit
    generalize after.flatMap Piece.letters = letters at hplace hempty
    cases hplace with
    | letter hlong hwhole => exact ⟨hlong, fun _ => hwhole⟩
    | tail _ hunknown =>
      refine ⟨fun v hne hv hknown => ?_, fun hne => absurd (hempty rfl) hne⟩
      -- the letter alone is all that a known syllable could be
      obtain rfl := List.IsPrefix.eq_of_length hv (by
        have := hv.length_le
        have := List.length_pos_iff.2 hne
        simp only [List.length_singleton] at *
        omega)
      rw [hunknown] at hknown
      cases hknown

/-- A run of letters is split into pieces greedily. -/
theorem isGreedySplit_split (t : CorpusTables) (maxLength : Nat) (run : Text) :
    (ofTables t).IsGreedySplit (max maxLength 1) run.trim.lowerAscii
      ((ofTables t).split maxLength run) := by
  rw [split]
  generalize run.trim.lowerAscii = s
  split
  · constructor <;> simp
  · next hne =>
    split
    · next hknown =>
      constructor
      case complete => simpa [Piece.letters] using hne
      case known => simpa using hknown
      case unknown => simp
      case whole => exact fun _ _ => rfl
      case greedy => exact fun hpart => absurd ⟨hne, hknown⟩ hpart
      case last => simp [List.singleton_eq_append_iff]
      case letter => simp [List.singleton_eq_append_iff]
    · next hunknown =>
      exact isGreedySplit_splitGreedy (Nat.le_max_right _ _) fun h => hunknown h.2

end PinyinSearch.Corpus
