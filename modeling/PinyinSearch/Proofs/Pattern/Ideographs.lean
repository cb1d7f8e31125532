import PinyinSearch.Proofs.Pattern.Transcription
import PinyinSearch.Proofs.Spelling

/-!
# Transcribing ideographs

An ideograph is transcribed to the syllable of its first reading, or to a group of this syllable and
those that it may be confused with.  What matches is a word that folds to one of them.
-/

namespace PinyinSearch

open Text Regex

namespace Transcriber

variable {t : Transcriber} {fuzzy : Bool} {s : Text}

/-- The syllables that a character stands for: that of its first reading, and with `fuzzy` those
that it may be confused with. -/
def sounds (t : Transcriber) (fuzzy : Bool) (c : Char) : List Text :=
  match t.romanizer.firstPlain? c with
  | none => []
  | some r => r :: if fuzzy then (t.corpus.similarTo? r).getD [] else []

/-- Spellings may be confused with spellings alone. -/
def Spelled (t : Transcriber) : Prop := ∀ {s similar a}, IsSpelling s →
  t.corpus.similarTo? s = some similar → a ∈ similar → IsSpelling a

/-- Where rules are about letters, spellings may be confused with spellings alone. -/
lemma spelled_of_rules {initialRules finalRules : List Text} {entries : List Entry}
    (hrules : ∀ rule ∈ initialRules ++ finalRules, Confusions.IsLettered rule)
    (hcorpus : t.corpus = .build (.ofRules initialRules finalRules) entries) : t.Spelled := by
  intro s similar a hs hsimilar ha
  rw [hcorpus] at hsimilar
  exact Corpus.isSpelling_of_similarTo? (Similarity.spelled_ofRules hrules) hs hsimilar ha

/-- With `fuzzy` or without, a spelling is confused with spellings alone. -/
lemma isSpelling_of_mem_similar (ht : t.Spelled) {r : Text} (hr : IsSpelling r) :
    ∀ a ∈ (if fuzzy then (t.corpus.similarTo? r).getD [] else []), IsSpelling a := by
  intro a ha
  cases fuzzy with
  | false => exact absurd ha List.not_mem_nil
  | true =>
    cases hs : t.corpus.similarTo? r with
    | none => simp [hs] at ha
    | some similar => exact ht hr hs (by simpa [hs] using ha)

/-- A character beyond ASCII that is read as a spelling. -/
def IsIdeograph (t : Transcriber) (c : Char) : Prop :=
  128 ≤ c.toNat ∧ ∃ r, t.romanizer.firstPlain? c = some r ∧ IsSpelling r

/-- The expressions for the letters of a spelling, where case is ignored. -/
def lettersRegex (s : Text) : List Regex :=
  s.map fun c => .set (Escape.foldSet Searcher.plainFlags (.single c))

/-- A lower-case letter has no meaning of its own in a regular expression. -/
lemma not_special_of_isLower {c : Char} (hc : c.isLower = true) :
    isMeta c = false ∧ c ∉ operators := by
  have hascii : ∀ n < 128, (Char.ofNat n).isLower = true →
      isMeta (Char.ofNat n) = false ∧ Char.ofNat n ∉ operators := by decide +kernel
  have hlower := Unicode.isLower_iff.1 hc
  have h := hascii c.toNat (by omega)
  rw [Char.ofNat_toNat] at h
  exact h hc

lemma escapeMeta_of_isSpelling (hs : IsSpelling s) : escapeMeta s = s := by
  have hchars : ∀ c ∈ s, (if isMeta c then ['\\', c] else [c]) = [c] := fun c hc => by
    rw [(not_special_of_isLower (hs.2 c hc)).1]
    rfl
  rw [escapeMeta, List.flatMap_congr hchars, List.flatMap_singleton']

lemma reads_spelling (hs : IsSpelling s) :
    Reads Searcher.plainFlags (escapeMeta s) (lettersRegex s) := by
  rw [escapeMeta_of_isSpelling hs]
  exact reads_literals (fun c hc => (not_special_of_isLower (hs.2 c hc)).2) rfl rfl

lemma matches_lettersRegex {before mid after : Text} :
    (seqs (lettersRegex s)).Matches before mid after ↔ FoldsTo mid s := by
  rw [lettersRegex, matches_seqs_sets, FoldsTo]
  simp only [contains_foldSet]

/-- The lists of one word that folds to one of some spellings. -/
def foldsToOne (sounds : List Text) : Language Text :=
  {ws | ∃ w, ws = [w] ∧ ∃ r ∈ sounds, FoldsTo w r}

/-- The expression for a syllable matches what folds to it or, with `fuzzy`, to what it may be
confused with. -/
lemma reads_syllable {r : Text}
    (hall : ∀ a ∈ r :: if fuzzy then (t.corpus.similarTo? r).getD [] else [], IsSpelling a) :
    ∃ rs, Reads Searcher.plainFlags (t.syllable fuzzy r) rs ∧
      Joins rs (foldsToOne (r :: if fuzzy then (t.corpus.similarTo? r).getD [] else [])) := by
  rw [syllable]
  generalize (if fuzzy then (t.corpus.similarTo? r).getD [] else []) = similar at *
  cases similar with
  | nil =>
    refine ⟨lettersRegex r, reads_spelling (hall r List.mem_cons_self),
      ⟨fun {before mid after} => ?_⟩⟩
    rw [matches_lettersRegex]
    constructor
    · exact fun h => ⟨[mid], ⟨mid, rfl, r, List.mem_singleton_self r, h⟩, by simp [join]⟩
    · rintro ⟨_, ⟨w, rfl, r', hr', hw⟩, rfl⟩
      obtain rfl := List.mem_singleton.1 hr'
      simpa [join] using hw
  | cons a similar =>
    have hreads : List.Forall₂ (Reads Searcher.plainFlags) ((r :: a :: similar).map escapeMeta)
        ((r :: a :: similar).map lettersRegex) := by
      rw [List.forall₂_map_left_iff, List.forall₂_map_right_iff, List.forall₂_same]
      exact fun s hs => reads_spelling (hall s hs)
    refine ⟨[_], (readsUnit_group hreads (List.cons_ne_nil _ _)).reads,
      ⟨fun {before mid after} => ?_⟩⟩
    refine matches_seqs_singleton.trans ((matches_alts (by simp)).trans ?_)
    rw [List.map_map]
    simp only [List.mem_map, Function.comp_apply]
    constructor
    · rintro ⟨_, ⟨s, hs, rfl⟩, hmatch⟩
      exact ⟨[mid], ⟨mid, rfl, s, hs, matches_lettersRegex.1 hmatch⟩, by simp [join]⟩
    · rintro ⟨_, ⟨w, rfl, s, hs, hw⟩, rfl⟩
      exact ⟨_, ⟨s, hs, rfl⟩, matches_lettersRegex.2 (by simpa [join] using hw)⟩

lemma isWord_of_mem_foldsToOne {sounds : List Text} (hs : ∀ r ∈ sounds, IsSpelling r)
    {ws : List Text} (hws : ws ∈ foldsToOne sounds) : ws ≠ [] ∧ ∀ w ∈ ws, IsWord w := by
  obtain ⟨w, rfl, r, hr, hw⟩ := hws
  exact ⟨List.cons_ne_nil _ _, by simpa using hw.isWord (hs r hr)⟩

/-- The sounds of an ideograph are spellings. -/
lemma isSpelling_of_mem_sounds (ht : t.Spelled) {c : Char} (hc : t.IsIdeograph c) {r : Text}
    (hr : r ∈ t.sounds fuzzy c) : IsSpelling r := by
  obtain ⟨_, r', hfirst, hr'⟩ := hc
  rw [sounds, hfirst] at hr
  rcases List.mem_cons.1 hr with rfl | hr
  · exact hr'
  · exact isSpelling_of_mem_similar ht hr' r hr

/-- A character beyond ASCII is cut off by itself, for its first reading. -/
lemma segments_ideograph {c : Char} {r rest : Text} (hc : 128 ≤ c.toNat)
    (hr : t.romanizer.firstPlain? c = some r) (hne : r ≠ []) :
    t.segments fuzzy (c :: rest) = .syllable (t.syllable fuzzy r) :: t.segments fuzzy rest := by
  have hascii : ∀ d : Char, d.toNat < 128 → c ≠ d := fun d hd => by
    rintro rfl
    omega
  have hmarkers : c ∉ markers := by
    simp [markers, hascii]
  rw [segments_symbol hmarkers (hascii '.' (by decide)) (Unicode.isAlpha_of_le hc)]
  have hsymbol : t.symbol fuzzy c = [t.ideograph fuzzy c] := by
    rw [symbol.eq_def]
    split
    case h_9 => rw [if_neg (by omega)]
    all_goals exact absurd (by decide) (Nat.not_lt.2 hc)
  have hideograph : t.ideograph fuzzy c = .syllable (t.syllable fuzzy r) := by
    obtain ⟨d, r, rfl⟩ := List.exists_cons_of_ne_nil hne
    rw [ideograph, hr]
  rw [hsymbol, hideograph]
  rfl

/-- Without confusable syllables, an ideograph sounds like its first reading alone. -/
lemma isSpelling_of_mem_sounds_false {c : Char} (hc : t.IsIdeograph c) :
    ∀ r ∈ t.sounds false c, IsSpelling r := by
  obtain ⟨_, r, hfirst, hr⟩ := hc
  rw [sounds, hfirst]
  exact List.forall_mem_singleton.2 hr

/-- An ideograph whose sounds are spellings stands for the syllables of its sounds. -/
lemma exact_ideograph {c : Char} (hc : t.IsIdeograph c)
    (hspelled : ∀ r ∈ t.sounds fuzzy c, IsSpelling r) :
    t.Exact fuzzy [c] (foldsToOne (t.sounds fuzzy c)) := by
  obtain ⟨hascii, r, hfirst, hr⟩ := hc
  have hsounds : t.sounds fuzzy c = r :: if fuzzy then (t.corpus.similarTo? r).getD [] else [] := by
    rw [sounds, hfirst]
  rw [hsounds] at hspelled ⊢
  obtain ⟨rs, hreads, hjoins⟩ := reads_syllable hspelled
  have hne : ∀ d : Char, d.toNat < 128 → c ≠ d := fun d hd => by
    rintro rfl
    omega
  refine exact_syllable ⟨fun _ => ends_cons ?_, fun _ => ?_⟩ ?_ hreads hjoins ?_
  · simp [hne]
  · exact segments_ideograph hascii hfirst hr.1
  · simpa using (hne '@' (by decide)).symm
  · exact fun ws hws => isWord_of_mem_foldsToOne hspelled hws

/-- An ideograph stands for the syllables of its sounds. -/
lemma solid_ideograph (ht : t.Spelled) {c : Char} (hc : t.IsIdeograph c) :
    t.Solid fuzzy [c] (foldsToOne (t.sounds fuzzy c)) :=
  (exact_ideograph hc fun _ hr => isSpelling_of_mem_sounds ht hc hr).solid

/-! ## Words of ideographs -/

/-- A word folds to a sound of a character. -/
def SoundsLike (t : Transcriber) (fuzzy : Bool) (c : Char) (w : Text) : Prop :=
  ∃ r ∈ t.sounds fuzzy c, FoldsTo w r

/-- The lists of words that sound like the characters of a text. -/
def soundsOf (t : Transcriber) (fuzzy : Bool) (cs : Text) : Language Text :=
  {ws | List.Forall₂ (t.SoundsLike fuzzy) cs ws}

/-- The characters of a text sound one after the other. -/
lemma soundsOf_cons {c : Char} {cs : Text} :
    t.soundsOf fuzzy (c :: cs) = foldsToOne (t.sounds fuzzy c) * t.soundsOf fuzzy cs := by
  ext ws
  constructor
  · rintro (_ | ⟨hw, hws⟩)
    exact ⟨_, ⟨_, rfl, hw⟩, _, hws, rfl⟩
  · rintro ⟨_, ⟨w, rfl, hw⟩, ws, hws, rfl⟩
    exact .cons hw hws

lemma soundsOf_nil : t.soundsOf fuzzy [] = 1 := by
  ext ws
  exact List.forall₂_nil_left_iff

/-- What sounds like ideographs whose sounds are spellings is made of words. -/
lemma isWord_of_mem_soundsOf {cs : Text} {ws : List Text}
    (hspelled : ∀ c ∈ cs, ∀ r ∈ t.sounds fuzzy c, IsSpelling r) (h : ws ∈ t.soundsOf fuzzy cs) :
    ∀ w ∈ ws, IsWord w := by
  induction h with
  | nil => exact List.forall_mem_nil _
  | cons hw _ ih =>
    rw [List.forall_mem_cons] at hspelled ⊢
    obtain ⟨r, hr, hfold⟩ := hw
    exact ⟨hfold.isWord (hspelled.1 r hr), ih hspelled.2⟩

/-- Ideographs whose sounds are spellings are transcribed one by one. -/
lemma exact_ideographs {c : Char} {cs : Text} (hcs : ∀ d ∈ c :: cs, t.IsIdeograph d)
    (hspelled : ∀ d ∈ c :: cs, ∀ r ∈ t.sounds fuzzy d, IsSpelling r) :
    t.Exact fuzzy (c :: cs) (t.soundsOf fuzzy (c :: cs)) := by
  induction cs generalizing c with
  | nil =>
    rw [soundsOf_cons, soundsOf_nil, mul_one]
    exact exact_ideograph (hcs c List.mem_cons_self) (hspelled c List.mem_cons_self)
  | cons d cs ih =>
    rw [List.forall_mem_cons] at hcs hspelled
    rw [soundsOf_cons]
    exact (exact_ideograph hcs.1 hspelled.1).append (ih hcs.2 hspelled.2)

/-- Without confusable syllables, ideographs are transcribed to an expression for their first
readings. -/
lemma exact_firstReadings {cs : Text} (hne : cs ≠ []) (hcs : ∀ c ∈ cs, t.IsIdeograph c) :
    t.Exact false cs (t.soundsOf false cs) := by
  obtain ⟨c, cs, rfl⟩ := List.exists_cons_of_ne_nil hne
  exact exact_ideographs hcs fun d hd => isSpelling_of_mem_sounds_false (hcs d hd)

/-- Behind a syllable, they are transcribed to an expression for further words. -/
lemma goesOn_firstReadings {cs : Text} (hcs : ∀ c ∈ cs, t.IsIdeograph c) :
    t.GoesOn false cs (t.soundsOf false cs) := by
  cases cs with
  | nil => exact soundsOf_nil (t := t) ▸ .nil
  | cons c cs => exact (exact_firstReadings (List.cons_ne_nil c cs) hcs).solid.goesOn

/-- The transcription of a word between anchors matches what is joined from words that sound like
its characters. -/
lemma exists_parse?_ideographs (ht : t.Spelled) {cs : Text} (hcs : ∀ c ∈ cs, t.IsIdeograph c) :
    ∃ r, Regex.parse? Searcher.plainFlags (t.transcribe fuzzy (framed true true cs)) = some r ∧
      ∀ text, r.isMatch text = true ↔ ∃ ws ∈ t.soundsOf fuzzy cs, text = join [' '] ws := by
  cases cs with
  | nil =>
    -- the anchors alone match the empty text, which is what no words are joined to
    refine ⟨_, parse?_framed .nil List.not_mem_nil rfl .nil, fun text => ?_⟩
    rw [isMatch_anchored_nil]
    constructor
    · rintro rfl
      exact ⟨[], .nil, rfl⟩
    · rintro ⟨ws, hws, rfl⟩
      rw [List.forall₂_nil_left_iff.1 hws]
      rfl
  | cons c cs =>
    have hexact : t.Exact fuzzy (c :: cs) (t.soundsOf fuzzy (c :: cs)) :=
      exact_ideographs hcs fun d hd _ hr => isSpelling_of_mem_sounds ht (hcs d hd) hr
    obtain ⟨rs, hparse, hspells⟩ := hexact.solid.begins.parse? true true
    exact ⟨_, hparse, fun text => hspells.isMatch_whole⟩

/-! ## Sounds of a word -/

/-- The plain syllable of an ideograph is that of its first reading. -/
lemma firstPlain?_eq {c : Char} (hc : t.IsIdeograph c) :
    t.romanizer.firstPlain? c = some (t.romanizer.glyph c).plain := by
  obtain ⟨_, r, hfirst, _⟩ := hc
  obtain ⟨reading, hreading, rfl⟩ := Option.map_eq_some_iff.1 hfirst
  rw [hfirst, Romanizer.glyph, Glyph.plain, hreading]
  rfl

lemma mem_sounds_glyph {c : Char} (hc : t.IsIdeograph c) :
    (t.romanizer.glyph c).plain ∈ t.sounds fuzzy c := by
  rw [sounds, firstPlain?_eq hc]
  exact List.mem_cons_self

/-- Where sounds are not confused, an ideograph has one sound. -/
lemma sounds_false {c : Char} (hc : t.IsIdeograph c) :
    t.sounds false c = [(t.romanizer.glyph c).plain] := by
  rw [sounds, firstPlain?_eq hc]
  rfl

/-- Words sound like the characters of a text if they fold to sounds of them. -/
lemma mem_soundsOf {cs : Text} {ws : List Text} :
    ws ∈ t.soundsOf fuzzy cs ↔
      ∃ rs, List.Forall₂ (fun c r => r ∈ t.sounds fuzzy c) cs rs ∧ List.Forall₂ FoldsTo ws rs := by
  constructor
  · intro h
    induction h with
    | nil => exact ⟨[], .nil, .nil⟩
    | cons hw _ ih =>
      obtain ⟨r, hr, hfold⟩ := hw
      obtain ⟨rs, hrs, hfolds⟩ := ih
      exact ⟨r :: rs, .cons hr hrs, .cons hfold hfolds⟩
  · rintro ⟨rs, hrs, hfolds⟩
    induction hrs generalizing ws with
    | nil =>
      rw [List.forall₂_nil_right_iff.1 hfolds]
      exact .nil
    | cons hr _ ih =>
      cases hfolds with
      | cons hfold hfolds => exact .cons ⟨_, hr, hfold⟩ (ih hfolds)

/-- Joined words that sound like a text are what folds to joined sounds of its characters. -/
lemma exists_mem_soundsOf {cs text : Text} :
    (∃ ws ∈ t.soundsOf fuzzy cs, text = join [' '] ws) ↔
      ∃ rs, List.Forall₂ (fun c r => r ∈ t.sounds fuzzy c) cs rs ∧
        FoldsTo text (join [' '] rs) := by
  simp only [mem_soundsOf, foldsTo_join]
  constructor
  · rintro ⟨ws, ⟨rs, hrs, hws⟩, rfl⟩
    exact ⟨rs, hrs, ws, hws, rfl⟩
  · rintro ⟨rs, hrs, ws, hws, rfl⟩
    exact ⟨ws, ⟨rs, hrs, hws⟩, rfl⟩

lemma syllables_romanize {r : Romanizer} {cs : Text} :
    (r.romanize cs).syllables = cs.map fun c => (r.glyph c).plain := List.map_map

lemma forall₂_sounds_syllables {cs : Text} (hcs : ∀ c ∈ cs, t.IsIdeograph c) :
    List.Forall₂ (fun c r => r ∈ t.sounds fuzzy c) cs (t.romanizer.romanize cs).syllables := by
  rw [syllables_romanize, List.forall₂_map_right_iff, List.forall₂_same]
  exact fun c hc => mem_sounds_glyph (hcs c hc)

/-- Where sounds are not confused, the syllables of a word are its only sounds. -/
lemma eq_syllables_of_forall₂ {cs : Text} {rs : List Text} (hcs : ∀ c ∈ cs, t.IsIdeograph c)
    (h : List.Forall₂ (fun c r => r ∈ t.sounds false c) cs rs) :
    rs = (t.romanizer.romanize cs).syllables := by
  rw [syllables_romanize]
  induction h with
  | nil => rfl
  | @cons c r cs rs hr _ ih =>
    rw [List.forall_mem_cons] at hcs
    rw [sounds_false hcs.1, List.mem_singleton] at hr
    rw [List.map_cons, hr, ih hcs.2]

/-- The syllables of a word of ideographs are spellings. -/
lemma isSpelling_of_mem_syllables {cs : Text} (hcs : ∀ c ∈ cs, t.IsIdeograph c) :
    ∀ r ∈ (t.romanizer.romanize cs).syllables, IsSpelling r := by
  rw [syllables_romanize, List.forall_mem_map]
  exact fun c hc => isSpelling_of_mem_sounds_false (hcs c hc) _ (mem_sounds_glyph (hcs c hc))

/-- Among spellings, the syllables of a word are all that it stands for without confusable
syllables. -/
lemma mem_soundsOf_false_iff {cs : Text} {ws : List Text} (hcs : ∀ c ∈ cs, t.IsIdeograph c)
    (hws : ∀ w ∈ ws, IsSpelling w) :
    ws ∈ t.soundsOf false cs ↔ ws = (t.romanizer.romanize cs).syllables := by
  rw [mem_soundsOf, ← forall₂_foldsTo_iff_eq hws (isSpelling_of_mem_syllables hcs)]
  constructor
  · rintro ⟨rs, hrs, hfolds⟩
    rwa [← eq_syllables_of_forall₂ hcs hrs]
  · exact fun hfolds => ⟨_, forall₂_sounds_syllables hcs, hfolds⟩

end Transcriber

end PinyinSearch
