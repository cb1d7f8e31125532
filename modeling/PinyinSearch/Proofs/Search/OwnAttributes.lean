import PinyinSearch.Proofs.Search.Widening

/-!
# Searching by own attributes

A query may ask for what an entry has itself.  Such a query finds the entry, whichever of its
attributes are asked for (`mem_matchingPositions_own`).  The plain readings have to be without white
space, as a final is asked for without the white space around it; and of a string of initials the
query builder keeps neither capital letters nor white space around it, and takes `@` for a wildcard.
-/

namespace PinyinSearch

open Text

/-- The attributes of an entry that a query may ask for. -/
inductive Attribute where
  | category
  | length
  | shape
  | rhyme
  | tones
  | initials
  | first
  | last
  | containing
deriving DecidableEq

namespace Attribute

/-- The attributes in the order of the look-ups. -/
def all : List Attribute :=
  [category, length, shape, rhyme, tones, initials, first, last, containing]

end Attribute

namespace Query

/-- Asks for one of the attributes of an entry; for what the entry does not have, nothing is
asked. -/
def askOwn (e : Entry) (q : Query) : Attribute → Query
  | .category => { q with category := some e.category }
  | .length => { q with length := some e.length }
  | .shape => e.shape?.elim q fun k => { q with shape := some k }
  | .rhyme => q.withRhyme e.rhyme
  | .tones => q.withTones e.tones
  | .initials => q.withInitials e.initials
  | .first => e.first?.elim q fun c => q.withFirstIn [c]
  | .last => e.last?.elim q fun c => q.withLastIn [c]
  | .containing => q.withContaining e.text

/-- The query for some of the attributes of an entry. -/
def ofOwn (e : Entry) (homophone : Bool) (asked : List Attribute) : Query :=
  asked.foldl (askOwn e) { homophone }

end Query

/-- The plain readings in an entry hold no white space. -/
def Entry.HasSolidReadings (e : Entry) : Prop :=
  ∀ g ∈ e.sound.glyphs, ∀ r ∈ g.reading, ∀ c ∈ r.plain, Unicode.isBlank c = false

instance (e : Entry) : Decidable e.HasSolidReadings :=
  decidable_of_iff (e.sound.glyphs.all fun g => g.reading.all fun r =>
    r.plain.all fun c => !Unicode.isBlank c) <| by
    simp only [Entry.HasSolidReadings, List.all_eq_true, Option.all_eq_true, Bool.not_eq_true',
      Option.mem_def]

/-- A string of initials that a query asks for as it stands. -/
structure Text.IsAskedAsIs (initials : Text) : Prop where
  noWildcard : '@' ∉ initials
  noUpper : ∀ c ∈ initials, c.isUpper = false
  first : ∀ c ∈ initials.head?, Unicode.isBlank c = false
  last : ∀ c ∈ initials.getLast?, Unicode.isBlank c = false

instance (initials : Text) : Decidable initials.IsAskedAsIs :=
  decidable_of_iff ('@' ∉ initials ∧ (initials.all fun c => !c.isUpper) = true ∧
      (initials.head?.all fun c => !Unicode.isBlank c) = true ∧
        (initials.getLast?.all fun c => !Unicode.isBlank c) = true) <| by
    simp only [List.all_eq_true, Option.all_eq_true, Bool.not_eq_true']
    exact ⟨fun h => ⟨h.1, h.2.1, h.2.2.1, h.2.2.2⟩, fun h => ⟨h.1, h.2, h.3, h.4⟩⟩

/-! ## Finals and tones -/

/-- Neither white space nor a capital letter of ASCII. -/
def IsKept (c : Char) : Prop := Unicode.isBlank c = false ∧ c.isUpper = false

instance (c : Char) : Decidable (IsKept c) := inferInstanceAs (Decidable (_ ∧ _))

lemma isKept_of_all {s : Text} (h : s.all (fun c => decide (IsKept c)) = true) :
    ∀ c ∈ s, IsKept c := fun c hc => of_decide_eq_true (List.all_eq_true.1 h c hc)

/-- What is asked for without white space and in lower case is kept. -/
lemma trim_lowerAscii_of_isKept {s : Text} (h : ∀ c ∈ s, IsKept c) : s.trim.lowerAscii = s := by
  rw [trim_of_noBlank fun c hc => (h c hc).1, lowerAscii_of_noUpper fun c hc => (h c hc).2]

lemma isKept_toLower {c : Char} (hc : Unicode.isBlank c = false) : IsKept c.toLower := by
  cases hupper : c.isUpper with
  | false =>
    rw [Unicode.toLower_of_not_isUpper hupper]
    exact ⟨hc, hupper⟩
  | true =>
    have hlower := Unicode.isLower_toLower hupper
    exact ⟨Unicode.not_isBlank_of_isAlpha (Bool.or_eq_true_iff.2 (.inr hlower)),
      Unicode.not_isUpper_of_isLower hlower⟩

namespace Syllable

lemma isKept_restoreUmlaut {initial final : Text} (h : ∀ c ∈ final, IsKept c) :
    ∀ c ∈ restoreUmlaut initial final, IsKept c := by
  rw [restoreUmlaut.eq_def]
  split
  · split
    · rw [List.forall_mem_cons] at h ⊢
      exact ⟨by decide, h.2⟩
    · exact h
  · exact h

lemma isKept_fullFinal {final : Text} (h : ∀ c ∈ final, IsKept c) :
    ∀ c ∈ fullFinal final, IsKept c := by
  rw [fullFinal.eq_def]
  split
  case h_4 => exact h
  all_goals exact isKept_of_all (by decide)

lemma isKept_strictFinal {plain : Text} (h : ∀ c ∈ plain, Unicode.isBlank c = false) :
    ∀ c ∈ strictFinal plain, IsKept c := by
  have hkept : ∀ c ∈ plain.trim.lowerAscii, IsKept c := by
    rw [lowerAscii, List.forall_mem_map]
    exact fun c hc => isKept_toLower (h c (mem_of_mem_trim hc))
  rw [strictFinal]
  generalize plain.trim.lowerAscii = s at hkept
  split
  case h_4 => exact isKept_of_all (by decide)
  case h_6 =>
    have hparts := splitWith_append strictInitials s
    rw [← hparts, List.forall_mem_append] at hkept
    exact isKept_fullFinal (isKept_restoreUmlaut hkept.2)
  -- a spelling of a medial vowel is replaced, and the rest of the syllable follows
  all_goals
    simp only [List.forall_mem_cons] at hkept ⊢
    exact ⟨by decide, by tauto⟩

end Syllable

namespace Entry

variable {e : Entry}

lemma isKept_rhyme (h : e.HasSolidReadings) : ∀ c ∈ e.rhyme, IsKept c := by
  rw [rhyme, Romanization.rhyme]
  cases hlast : e.sound.glyphs.getLast? with
  | none => simp
  | some g =>
    have hg := h g (List.mem_of_getLast? hlast)
    rw [Option.elim_some, Glyph.final]
    cases hr : g.reading with
    | none => simp
    | some r => exact Syllable.isKept_strictFinal (hg r hr)

/-- The digits of tones and the commas between them are no white space. -/
lemma not_isBlank_tones : ∀ c ∈ e.tones, Unicode.isBlank c = false := by
  have hdigit : ∀ t : Tone, Unicode.isBlank t.digit = false := by decide
  refine forall_mem_join (List.forall_mem_singleton.2 (by decide)) ?_
  simp only [List.forall_mem_map, List.forall_mem_singleton, hdigit, implies_true]

end Entry

lemma Query.mem_of_mem_distinctChars {s cs : Text} (h : cs ∈ distinctChars s) :
    ∀ c ∈ cs, c ∈ s := by
  rw [distinctChars] at h
  split at h
  · cases h
  · cases h
    intro c hc
    rw [FirstSeen.mem_ofList] at hc
    exact (List.mem_filter.1 hc).1

lemma Query.mem_distinctChars_singleton {c : Char} {cs : Text} (h : cs ∈ distinctChars [c]) :
    c ∈ cs := by
  rw [distinctChars] at h
  split at h
  · cases h
  · next hne =>
    cases h
    rw [FirstSeen.mem_ofList, List.mem_filter]
    refine ⟨List.mem_singleton_self c, ?_⟩
    by_contra hblank
    simp [hblank] at hne

namespace Searcher

variable {s : Searcher} {similarity : Similarity} {entries : List Entry} {e : Entry} {q : Query}
  {homophone : Bool} {asked : List Attribute} {i : Position}

/-- What a string of initials without a wildcard stands for includes the string. -/
lemma mem_initialsVariants {initials : Text} (h : '@' ∉ initials) :
    initials ∈ s.initialsVariants initials homophone := by
  simp only [initialsVariants, initialsBases, if_neg h, FirstSeen.mem_ofList, List.mem_flatMap,
    List.mem_singleton]
  exact ⟨initials, rfl, mem_widen homophone initials⟩

/-- An entry that has the attributes asked for has them if one of its own is asked for, too. -/
lemma HasAttributes.askOwn {a : Attribute} (hreadings : e.HasSolidReadings)
    (hinitials : a = .initials → e.initials.IsAskedAsIs) (h : s.HasAttributes q e) :
    s.HasAttributes (q.askOwn e a) e := by
  cases a with
  | category => exact { h with category := by rintro k ⟨⟩; rfl }
  | length => exact { h with length := by rintro n ⟨⟩; rfl }
  | shape =>
    cases hshape : e.shape? with
    | none => simpa [Query.askOwn, hshape] using h
    | some k =>
      rw [Query.askOwn, hshape]
      exact { h with shape := by rintro k ⟨⟩; exact hshape }
  | rhyme =>
    refine { h with rhyme := ?_ }
    rintro t ⟨⟩
    exact (trim_lowerAscii_of_isKept (Entry.isKept_rhyme hreadings)).symm
  | tones =>
    refine { h with tones := ?_ }
    rintro t ⟨⟩
    exact (List.filter_eq_self.2 fun c hc => by rw [Entry.not_isBlank_tones c hc]; rfl).symm
  | initials =>
    have hasked := hinitials rfl
    refine { h with initials := ?_ }
    rintro t ⟨⟩
    rw [trim_of_ends hasked.first hasked.last, lowerAscii_of_noUpper hasked.noUpper]
    exact mem_initialsVariants hasked.noWildcard
  | first =>
    cases hfirst : e.first? with
    | none => simpa [Query.askOwn, hfirst] using h
    | some c =>
      rw [Query.askOwn, hfirst]
      exact { h with firstIn := fun cs hcs => ⟨c, Query.mem_distinctChars_singleton hcs, hfirst⟩ }
  | last =>
    cases hlast : e.last? with
    | none => simpa [Query.askOwn, hlast] using h
    | some c =>
      rw [Query.askOwn, hlast]
      exact { h with lastIn := fun cs hcs => ⟨c, Query.mem_distinctChars_singleton hcs, hlast⟩ }
  | containing =>
    exact { h with containing := fun cs hcs => Query.mem_of_mem_distinctChars hcs }

lemma hasAttributes_ofOwn (hreadings : e.HasSolidReadings)
    (hinitials : .initials ∈ asked → e.initials.IsAskedAsIs) :
    s.HasAttributes (.ofOwn e homophone asked) e := by
  have hnone : s.HasAttributes { homophone } e := by constructor <;> simp
  rw [Query.ofOwn]
  generalize ({ homophone } : Query) = q at hnone ⊢
  induction asked generalizing q with
  | nil => exact hnone
  | cons a asked ih =>
    refine ih (fun hmem => hinitials (List.mem_cons_of_mem a hmem)) _
      (hnone.askOwn hreadings ?_)
    rintro rfl
    exact hinitials List.mem_cons_self

lemma pattern_ofOwn : (Query.ofOwn e homophone asked).pattern = none := by
  have hstep : ∀ q a, (Query.askOwn e q a).pattern = q.pattern := fun q a => by
    cases a with
    | shape => cases hshape : e.shape? <;> simp [Query.askOwn, hshape]
    | first => cases hfirst : e.first? <;> simp [Query.askOwn, hfirst, Query.withFirstIn]
    | last => cases hlast : e.last? <;> simp [Query.askOwn, hlast, Query.withLastIn]
    | _ => rfl
  have hnone : ({ homophone } : Query).pattern = none := rfl
  rw [Query.ofOwn]
  generalize ({ homophone } : Query) = q at hnone ⊢
  induction asked generalizing q with
  | nil => exact hnone
  | cons a asked ih => exact ih _ ((hstep q a).trans hnone)

/-- A search for some of the attributes of an entry succeeds and finds the entry, with homophones
and without. -/
theorem mem_matchingPositions_own (hs : s.corpus = .build similarity entries)
    (he : entries[i]? = some e) (hreadings : e.HasSolidReadings)
    (hinitials : .initials ∈ asked → e.initials.IsAskedAsIs) :
    ∃ found, s.matchingPositions (.ofOwn e homophone asked) = .ok found ∧ i ∈ found := by
  cases hfound : s.matchingPositions (.ofOwn e homophone asked) with
  | ok found =>
    refine ⟨found, rfl, (mem_matchingPositions hs hfound).2 ⟨e, he, ?_⟩⟩
    exact {
      toHasAttributes := hasAttributes_ofOwn hreadings hinitials
      pattern := by simp [pattern_ofOwn] }
  | error err =>
    obtain ⟨pattern, hpattern, -⟩ := matchingPositions_eq_error_iff.1 hfound
    rw [pattern_ofOwn] at hpattern
    cases hpattern

/-- Readings of a character and of one that is read as nothing. -/
def quietRomanizer : Romanizer where
  readings
    | '中' => [⟨"zhong".toList, "zhong".toList, .neutral⟩]
    | '空' => [⟨[], [], .neutral⟩]
    | _ => []

/-- Entries of characters with letters, marks and spaces between them. -/
def mixedEntries : List Entry :=
  ["a中! 中", "A中", "@", "空 中"].map fun s => .ofText quietRomanizer .word s.toList

theorem mem_matchingPositions_own_sample :
    ∃ found, (build mixedEntries quietRomanizer {}).matchingPositions
        (.ofOwn (.ofText quietRomanizer .word "a中! 中".toList) true Attribute.all) = .ok found ∧
      0 ∈ found :=
  mem_matchingPositions_own rfl rfl (by decide) fun _ => by decide

/-- The initials of an entry, and all its attributes together, do not find it if a capital letter or
the wildcard is among the initials, or if white space stands at their ends; with homophones or
without. -/
theorem not_mem_matchingPositions_own :
    (mixedEntries.all fun e => decide e.HasSolidReadings) = true ∧
      (mixedEntries.map fun e => [false, true].flatMap fun homophone =>
        [[.initials], Attribute.all].map fun asked =>
          (build mixedEntries quietRomanizer {}).matchingPositions (.ofOwn e homophone asked)) =
        [.replicate 4 (.ok [0]), .replicate 4 (.ok []), .replicate 4 (.ok []),
          .replicate 4 (.ok [])] := by
  decide +kernel

end Searcher

end PinyinSearch
