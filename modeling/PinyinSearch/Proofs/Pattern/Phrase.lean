import PinyinSearch.Proofs.Pattern.Ideographs
import PinyinSearch.Proofs.Pattern.Wildcards

/-!
# Phrases

A phrase is a pattern of ideographs, wildcards and groups.  It stands for lists of syllables: an
ideograph for its sounds, a dot for any one syllable, a counted dot for any syllables as many as its
quantifier allows, a group for what its branches stand for, and a sequence for syllables one after
the other.

The main statement, `isMatch_transcribe_iff`, says that the transcription of a phrase is a regular
expression that is found in the plain pronunciation of some syllables exactly where neighbours among
them are such a list.
-/

namespace PinyinSearch

open Text Regex

/-- An item of a phrase. -/
inductive Phrase.Item where
  /-- A character beyond ASCII. -/
  | ideograph (c : Char)
  /-- A dot. -/
  | any
  /-- A dot with a quantifier, and what is written between its braces. -/
  | counted (q : Quantifier) (interior : Text)
  /-- A group, which captures what it matches or nothing. -/
  | group (captures : Bool) (branches : List (List Phrase.Item))

/-- A sequence of items between two anchors that may be there. -/
structure Phrase where
  /-- Whether the phrase has to begin the text. -/
  start : Bool
  items : List Phrase.Item
  /-- Whether the phrase has to end the text. -/
  stop : Bool

namespace Phrase

/-! ## What is written -/

mutual

/-- An item as it is written. -/
def Item.text : Item → Text
  | .ideograph c => [c]
  | .any => ['.']
  | .counted _ interior => '.' :: Quantifier.braced interior
  | .group captures branches =>
    Transcriber.groupOpener captures ++ join ['|'] (branchTexts branches) ++ [')']

/-- Items one after the other, as they are written. -/
def sequenceText : List Item → Text
  | [] => []
  | item :: items => item.text ++ sequenceText items

/-- The branches of a group, as they are written. -/
def branchTexts : List (List Item) → List Text
  | [] => []
  | branch :: branches => sequenceText branch :: branchTexts branches

end

/-- A phrase as it is written. -/
def text (p : Phrase) : Text := framed p.start p.stop (sequenceText p.items)

/-! ## What is meant -/

section

variable (sound : Char → Text → Prop) (syllable : Text → Prop)

mutual

/-- The lists of syllables that an item stands for, given the sounds of the ideographs and what
counts as a syllable. -/
def Item.language : Item → Language Text
  | .ideograph c => {ws | ∃ w, ws = [w] ∧ sound c w}
  | .any => {ws | ∃ w, ws = [w] ∧ syllable w}
  | .counted q _ => {ws | q.Allows ws.length ∧ ∀ w ∈ ws, syllable w}
  | .group _ branches => (branchLanguages branches).sum

/-- The lists of syllables that items stand for one after the other. -/
def sequenceLanguage : List Item → Language Text
  | [] => 1
  | item :: items => item.language * sequenceLanguage items

/-- The lists of syllables that each branch of a group stands for. -/
def branchLanguages : List (List Item) → List (Language Text)
  | [] => []
  | branch :: branches => sequenceLanguage branch :: branchLanguages branches

end

end

/-! ## Well-formed phrases -/

/-- An item is a wildcard with the minimum 0. -/
def Item.IsOptional : Item → Prop
  | .counted q _ => q.least = 0
  | _ => False

lemma Item.IsOptional.exists_eq {item : Item} (h : item.IsOptional) :
    ∃ q interior, item = .counted q interior := by
  cases item with
  | counted q interior => exact ⟨q, interior, rfl⟩
  | _ => exact h.elim

/-- Some item is no wildcard with the minimum 0, and of two neighbours at least one is not. -/
def IsArranged (items : List Item) : Prop :=
  (∃ item ∈ items, ¬item.IsOptional) ∧
    items.IsChain fun item next => ¬(item.IsOptional ∧ next.IsOptional)

mutual

/-- Ideographs have a spelled first reading, bounds are in order, minimums are written down, and
groups have branches that are arranged in turn. -/
def Item.IsWellFormed (t : Transcriber) : Item → Prop
  | .ideograph c => t.IsIdeograph c
  | .any => True
  | .counted q interior =>
    Quantifier.ofInterior? interior = some q ∧ q.IsOrdered ∧ q.HasMinimum
  | .group _ branches => branches ≠ [] ∧ AreWellFormedBranches t branches

/-- All items of a sequence are well-formed. -/
def AreWellFormed (t : Transcriber) : List Item → Prop
  | [] => True
  | item :: items => item.IsWellFormed t ∧ AreWellFormed t items

/-- All branches of a group are arranged and made of well-formed items. -/
def AreWellFormedBranches (t : Transcriber) : List (List Item) → Prop
  | [] => True
  | branch :: branches =>
    (IsArranged branch ∧ AreWellFormed t branch) ∧ AreWellFormedBranches t branches

end

/-- A phrase is arranged and made of well-formed items. -/
def IsWellFormed (t : Transcriber) (p : Phrase) : Prop :=
  IsArranged p.items ∧ AreWellFormed t p.items

/-! ## Transcription

The three ways a sequence can be transcribed are told apart by what stands before it: an item that
stands for some syllable may stand anywhere, a sequence that goes on needs a syllable before it, and
one that begins needs an item that is not optional.
-/

variable {t : Transcriber} {fuzzy : Bool}

lemma branchTexts_ne_nil {branches : List (List Item)} (h : branches ≠ []) :
    branchTexts branches ≠ [] := by
  obtain ⟨branch, branches, rfl⟩ := List.exists_cons_of_ne_nil h
  rw [branchTexts]
  exact List.cons_ne_nil _ _

mutual

/-- Every item but a wildcard with the minimum 0 is transcribed to an expression for words. -/
lemma Item.solid (ht : t.Spelled) (hp : t.placeholder = ['\\', 'w', '+']) :
    ∀ item : Item, item.IsWellFormed t → ¬item.IsOptional →
      t.Solid fuzzy item.text (item.language (t.SoundsLike fuzzy) IsWord)
  | .ideograph c, hitem, _ => by
    rw [Item.text, Item.language]
    exact Transcriber.solid_ideograph ht hitem
  | .any, _, _ => by
    have hlanguage : Item.any.language (t.SoundsLike fuzzy) IsWord = wordsOf 1 := by
      ext ws
      rw [Item.language, mem_wordsOf, List.length_eq_one_iff]
      constructor
      · rintro ⟨w, rfl, hw⟩
        exact ⟨⟨w, rfl⟩, by simpa using hw⟩
      · rintro ⟨⟨w, rfl⟩, hw⟩
        exact ⟨w, rfl, by simpa using hw⟩
    rw [Item.text, hlanguage]
    exact Transcriber.solid_any hp
  | .counted q interior, hitem, hoptional => by
    rw [Item.text, Item.language]
    exact Transcriber.solid_counted hp hitem.1 hitem.2.1 hitem.2.2 (Nat.pos_of_ne_zero hoptional)
  | .group captures branches, hitem, _ => by
    rw [Item.text, Item.language]
    rw [Item.IsWellFormed] at hitem
    exact Transcriber.solid_group (begins_branches ht hp branches hitem.2)
      (branchTexts_ne_nil hitem.1)

/-- Behind a syllable, items are transcribed to an expression for further words. -/
lemma goesOn_items (ht : t.Spelled) (hp : t.placeholder = ['\\', 'w', '+']) :
    ∀ items : List Item, AreWellFormed t items →
      t.GoesOn fuzzy (sequenceText items) (sequenceLanguage (t.SoundsLike fuzzy) IsWord items)
  | [], _ => .nil
  | item :: items, hitems => by
    rw [AreWellFormed] at hitems
    rw [sequenceText, sequenceLanguage]
    refine Transcriber.GoesOn.append ?_ (goesOn_items ht hp items hitems.2)
    -- behind a syllable, an optional item needs no neighbour
    by_cases hoptional : item.IsOptional
    · obtain ⟨q, interior, rfl⟩ := hoptional.exists_eq
      rw [Item.text, Item.language]
      exact Transcriber.goesOn_counted hp hitems.1.1 hitems.1.2.1 hitems.1.2.2
    · exact (Item.solid ht hp item hitems.1 hoptional).goesOn

/-- Arranged items are transcribed to an expression for words. -/
lemma begins_items (ht : t.Spelled) (hp : t.placeholder = ['\\', 'w', '+']) :
    ∀ items : List Item, IsArranged items → AreWellFormed t items →
      t.Begins fuzzy (sequenceText items) (sequenceLanguage (t.SoundsLike fuzzy) IsWord items)
  | [], harranged, _ => by
    obtain ⟨item, hitem, _⟩ := harranged.1
    exact absurd hitem List.not_mem_nil
  | [item], harranged, hitems => by
    have hsolid : ¬item.IsOptional := by simpa using harranged.1
    rw [AreWellFormed] at hitems
    rw [sequenceText, sequenceLanguage]
    exact (Item.solid ht hp item hitems.1 hsolid).begins.append .nil
  | item :: next :: items, harranged, hitems => by
    rw [AreWellFormed] at hitems
    by_cases hoptional : item.IsOptional
    · -- nothing stands before an optional item that begins the sequence, so it is written in front
      -- of the next one, which is not optional
      have hnext : ¬next.IsOptional := fun h =>
        (List.isChain_cons_cons.1 harranged.2).1 ⟨hoptional, h⟩
      have hrest := hitems.2
      rw [AreWellFormed] at hrest
      obtain ⟨q, interior, rfl⟩ := hoptional.exists_eq
      have hbegins := Transcriber.begins_counted hp hitems.1.1 hitems.1.2.2 hoptional
        (Item.solid ht hp next hrest.1 hnext)
      have hall := hbegins.append (goesOn_items ht hp items hrest.2)
      rw [mul_assoc, List.append_assoc] at hall
      rw [sequenceText, sequenceText, sequenceLanguage, sequenceLanguage, Item.text, Item.language]
      exact hall
    · rw [sequenceText, sequenceLanguage]
      exact (Item.solid ht hp item hitems.1 hoptional).begins.append
        (goesOn_items ht hp (next :: items) hitems.2)

/-- Branches are transcribed to expressions for words. -/
lemma begins_branches (ht : t.Spelled) (hp : t.placeholder = ['\\', 'w', '+']) :
    ∀ branches : List (List Item), AreWellFormedBranches t branches →
      List.Forall₂ (t.Begins fuzzy) (branchTexts branches)
        (branchLanguages (t.SoundsLike fuzzy) IsWord branches)
  | [], _ => .nil
  | branch :: branches, hbranches => by
    rw [AreWellFormedBranches] at hbranches
    exact .cons (begins_items ht hp branch hbranches.1.1 hbranches.1.2)
      (begins_branches ht hp branches hbranches.2)

end

/-! ## Syllables that are spelled -/

/-- Two languages have the same lists of spellings. -/
def Agree (L K : Language Text) : Prop := ∀ ws, (∀ w ∈ ws, IsSpelling w) → (ws ∈ L ↔ ws ∈ K)

lemma Agree.refl {L : Language Text} : Agree L L := fun _ _ => Iff.rfl

lemma Agree.mul {L L' K K' : Language Text} (h : Agree L L') (h' : Agree K K') :
    Agree (L * K) (L' * K') := by
  have hmul : ∀ {L L' K K' : Language Text}, Agree L L' → Agree K K' →
      ∀ ws, (∀ w ∈ ws, IsSpelling w) → ws ∈ L * K → ws ∈ L' * K' := by
    rintro L L' K K' h h' _ hws ⟨us, hus, vs, hvs, rfl⟩
    rw [List.forall_mem_append] at hws
    exact ⟨us, (h us hws.1).1 hus, vs, (h' vs hws.2).1 hvs, rfl⟩
  have hsymm : ∀ {L L' : Language Text}, Agree L L' → Agree L' L := fun h ws hws =>
    (h ws hws).symm
  exact fun ws hws => ⟨hmul h h' ws hws, hmul (hsymm h) (hsymm h') ws hws⟩

lemma Agree.add {L L' K K' : Language Text} (h : Agree L L') (h' : Agree K K') :
    Agree (L + K) (L' + K') := fun ws hws => or_congr (h ws hws) (h' ws hws)

/-- A spelling sounds like a character if it is one of its sounds. -/
lemma soundsLike_iff (ht : t.Spelled) {c : Char} (hc : t.IsIdeograph c) {w : Text}
    (hw : IsSpelling w) : t.SoundsLike fuzzy c w ↔ w ∈ t.sounds fuzzy c := by
  constructor
  · rintro ⟨r, hr, hfold⟩
    have hspelled : IsSpelling r := Transcriber.isSpelling_of_mem_sounds ht hc hr
    obtain rfl := (foldsTo_iff_eq hw.2 hspelled.2).1 hfold
    exact hr
  · exact fun h => ⟨w, h, hw.foldsTo_self⟩

mutual

/-- Among spellings an item stands for the sounds as they are spelled. -/
lemma Item.agree (ht : t.Spelled) : ∀ item : Item, item.IsWellFormed t →
    Agree (item.language (t.SoundsLike fuzzy) IsWord)
      (item.language (fun c w => w ∈ t.sounds fuzzy c) IsSpelling)
  | .ideograph c, hc => by
    intro ws hws
    rw [Item.language, Item.language]
    refine exists_congr fun w => and_congr_right ?_
    rintro rfl
    exact soundsLike_iff ht hc (hws w List.mem_cons_self)
  | .any, _ => by
    intro ws hws
    rw [Item.language, Item.language]
    refine exists_congr fun w => and_congr_right ?_
    rintro rfl
    have hw := hws w List.mem_cons_self
    exact ⟨fun _ => hw, fun _ => hw.isWord⟩
  | .counted q interior, _ => by
    intro ws hws
    rw [Item.language, Item.language]
    exact and_congr_right' ⟨fun _ => hws, fun _ w hw => (hws w hw).isWord⟩
  | .group captures branches, hitem => by
    rw [Item.IsWellFormed] at hitem
    rw [Item.language, Item.language]
    exact agree_branches ht branches hitem.2

/-- Among spellings items stand for the sounds as they are spelled. -/
lemma agree_items (ht : t.Spelled) : ∀ items : List Item, AreWellFormed t items →
    Agree (sequenceLanguage (t.SoundsLike fuzzy) IsWord items)
      (sequenceLanguage (fun c w => w ∈ t.sounds fuzzy c) IsSpelling items)
  | [], _ => .refl
  | item :: items, hitems => by
    rw [AreWellFormed] at hitems
    rw [sequenceLanguage, sequenceLanguage]
    exact (Item.agree ht item hitems.1).mul (agree_items ht items hitems.2)

/-- Among spellings branches stand for the sounds as they are spelled. -/
lemma agree_branches (ht : t.Spelled) : ∀ branches : List (List Item),
    AreWellFormedBranches t branches →
      Agree (branchLanguages (t.SoundsLike fuzzy) IsWord branches).sum
        (branchLanguages (fun c w => w ∈ t.sounds fuzzy c) IsSpelling branches).sum
  | [], _ => .refl
  | branch :: branches, hbranches => by
    rw [AreWellFormedBranches] at hbranches
    rw [branchLanguages, branchLanguages, List.sum_cons, List.sum_cons]
    exact (agree_items ht branch hbranches.1.2).add (agree_branches ht branches hbranches.2)

end

/-! ## Matching -/

/-- The lists of syllables that a phrase stands for. -/
def denotation (t : Transcriber) (fuzzy : Bool) (p : Phrase) : Language Text :=
  sequenceLanguage (fun c w => w ∈ t.sounds fuzzy c) IsSpelling p.items

/-- The transcription of a phrase is a regular expression, which is found in the plain pronunciation
of some syllables if and only if the phrase stands for neighbours among them, which are the first or
the last of them where the phrase is anchored. -/
theorem isMatch_transcribe_iff {initialRules finalRules : List Text} {entries : List Entry}
    {p : Phrase} {ws : List Text}
    (hrules : ∀ rule ∈ initialRules ++ finalRules, Confusions.IsLettered rule)
    (hcorpus : t.corpus = .build (.ofRules initialRules finalRules) entries)
    (hplaceholder : t.placeholder = ['\\', 'w', '+']) (hphrase : p.IsWellFormed t)
    (hws : ∀ w ∈ ws, IsSpelling w) :
    ∃ isMatch, RegexEngine.unlimited.compile? Searcher.plainFlags (t.transcribe fuzzy p.text) =
        some isMatch ∧
      (isMatch (join [' '] ws) = true ↔ ∃ before found after, ws = before ++ found ++ after ∧
        found ∈ p.denotation t fuzzy ∧ (p.start = true → before = []) ∧
          (p.stop = true → after = [])) := by
  have hspelled : t.Spelled := Transcriber.spelled_of_rules hrules hcorpus
  have hbegins : t.Begins fuzzy (sequenceText p.items)
      (sequenceLanguage (t.SoundsLike fuzzy) IsWord p.items) :=
    begins_items hspelled hplaceholder p.items hphrase.1 hphrase.2
  obtain ⟨rs, hparse, hspells⟩ := hbegins.parse? p.start p.stop
  refine ⟨_, by rw [RegexEngine.compile?_unlimited, text, hparse, Option.map_some], ?_⟩
  rw [hspells.isMatch_join fun w hw => (hws w hw).isWord]
  -- the words that are found are spellings, and among these both readings of the phrase agree
  refine exists_congr fun before => exists_congr fun found => exists_congr fun after =>
    and_congr_right ?_
  rintro rfl
  rw [List.forall_mem_append, List.forall_mem_append] at hws
  exact and_congr_left' (agree_items hspelled p.items hphrase.2 found hws.1.2)

/-- A transcriber for three characters, with the usual rules. -/
def sampleTranscriber : Transcriber where
  corpus := .build (.ofRules Similarity.defaultInitialRules Similarity.defaultFinalRules)
    Entry.samples
  romanizer := .sample
  maxSyllableLength := 6
  placeholder := "\\w+".toList

/-- One of two characters, the other with up to two syllables behind it, and then any syllables. -/
def sample : Phrase where
  start := true
  items := [.group false [[.ideograph '中'], [.ideograph '国', .counted (.between 0 2) "0,2".toList]],
    .counted (.atLeast 1) "1,".toList]
  stop := false

theorem isMatch_transcribe_sample :
    sample.text = "^(?:中|国.{0,2}).{1,}".toList ∧ sample.IsWellFormed sampleTranscriber ∧
      ∃ isMatch, RegexEngine.unlimited.compile? Searcher.plainFlags
          (sampleTranscriber.transcribe true sample.text) = some isMatch ∧
        isMatch "zong guo".toList = true := by
  have hfirst : sampleTranscriber.IsIdeograph '中' := ⟨by decide, "zhong".toList, rfl, by decide⟩
  have hsecond : sampleTranscriber.IsIdeograph '国' := ⟨by decide, "guo".toList, rfl, by decide⟩
  have hphrase : sample.IsWellFormed sampleTranscriber := by
    simp [IsWellFormed, sample, IsArranged, Item.IsOptional, Item.IsWellFormed, AreWellFormed,
      AreWellFormedBranches, Quantifier.least, Quantifier.IsOrdered, Quantifier.HasMinimum, hfirst,
      hsecond]
    decide
  have hws : ∀ w ∈ ["zong".toList, "guo".toList], IsSpelling w := by decide
  obtain ⟨isMatch, hcompile, hmatch⟩ :=
    isMatch_transcribe_iff (t := sampleTranscriber) (by decide +kernel) rfl rfl hphrase hws
  refine ⟨by decide, hphrase, isMatch, hcompile, hmatch.2 ?_⟩
  refine ⟨[], ["zong".toList, "guo".toList], [], rfl, ?_, fun _ => rfl,
    fun h => absurd h Bool.false_ne_true⟩
  have hzong : "zong".toList ∈ sampleTranscriber.sounds true '中' := by decide +kernel
  exact ⟨["zong".toList], .inl ⟨_, ⟨_, rfl, hzong⟩, [], rfl, rfl⟩, ["guo".toList],
    ⟨["guo".toList], ⟨by decide, by decide⟩, [], rfl, rfl⟩, rfl⟩

end Phrase

end PinyinSearch
