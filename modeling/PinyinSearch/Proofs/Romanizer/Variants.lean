import PinyinSearch.Proofs.Combinations
import PinyinSearch.Proofs.Words
import PinyinSearch.Romanizer

/-!
# The readings of a text

To read a text is to choose a reading for each of its characters.  The variants of a text are what
the choices come to, each once and in the order of the first choice that comes to it; the first of
them comes from the first readings, by which the text is romanized (`variants_enumerate`).
-/

namespace PinyinSearch.Romanizer

variable {r : Romanizer} {render : Reading → Text} {sep text v : Text} {c : Char}
  {places : List Nat} {parts : List Text}

/-- What a character looks like with the reading at a place; a character without readings stands for
itself. -/
inductive RendersAt (r : Romanizer) (render : Reading → Text) (c : Char) : Nat → Text → Prop where
  | reading {i reading} :
    (r.readings c)[i]? = some reading →
    RendersAt r render c i (render reading)
  | bare :
    r.readings c = [] →
    RendersAt r render c 0 [c]

/-- A choice of a reading for each character of a text, with the places of the readings and what the
characters look like. -/
inductive Chooses (r : Romanizer) (render : Reading → Text) :
    Text → List Nat → List Text → Prop where
  | nil :
    Chooses r render [] [] []
  | cons {c text i places part parts} :
    r.RendersAt render c i part →
    Chooses r render text places parts →
    Chooses r render (c :: text) (i :: places) (part :: parts)

/-- The choice of the readings at some places comes to a string. -/
def ComesTo (r : Romanizer) (render : Reading → Text) (sep text : Text) (places : List Nat)
    (v : Text) : Prop :=
  ∃ parts, r.Chooses render text places parts ∧ v = Text.join sep parts

/-- The first choice that comes to a string, in lexicographic order of the places of readings. -/
structure IsFirstChoice (r : Romanizer) (render : Reading → Text) (sep text : Text)
    (places : List Nat) (v : Text) : Prop where
  comesTo : r.ComesTo render sep text places v
  first : ∀ others, r.ComesTo render sep text others v →
    others = places ∨ List.Lex (· < ·) places others

/-- What the choices come to, each string once and in the order of its first choice. -/
structure Enumerates (r : Romanizer) (render : Reading → Text) (sep text : Text)
    (found : List Text) : Prop where
  nodup : found.Nodup
  mem : ∀ v, v ∈ found ↔ ∃ places, r.ComesTo render sep text places v
  ordered : found.Pairwise fun v w => ∃ ps qs, r.IsFirstChoice render sep text ps v ∧
    r.IsFirstChoice render sep text qs w ∧ List.Lex (· < ·) ps qs

/-! ## Repetitions -/

/-- What a character looks like with each of its readings, repetitions included. -/
def renderings (r : Romanizer) (render : Reading → Text) (c : Char) : List Text :=
  match r.readings c with
  | [] => [[c]]
  | readings => readings.map render

lemma alternatives_eq (c : Char) :
    r.alternatives render c = FirstSeen.ofList (r.renderings render c) := by
  rw [alternatives, renderings]
  cases r.readings c <;> rfl

/-- Only the strings have to be freed from repetitions: those among what a single character looks
like make no difference. -/
lemma variants_eq (text : Text) :
    r.variants render sep text =
      FirstSeen.ofList ((combinations (text.map (r.renderings render))).map (Text.join sep)) := by
  have halternatives : text.map (r.alternatives render) =
      (text.map (r.renderings render)).map FirstSeen.ofList := by
    rw [List.map_map]
    exact List.map_congr_left fun c _ => alternatives_eq c
  rw [variants, halternatives, combinations_map_ofList, FirstSeen.ofList_map_ofList]

/-! ## Choices -/

/-- The choices for a text: what each character looks like, with the place of the reading. -/
def choices (r : Romanizer) (render : Reading → Text) (text : Text) : List (List (Text × Nat)) :=
  combinations ((text.map (r.renderings render)).map fun shown => shown.zipIdx)

lemma variants_eq_choices (text : Text) :
    r.variants render sep text =
      FirstSeen.ofList ((r.choices render text).map fun ps => Text.join sep (ps.map Prod.fst)) := by
  have hparts : combinations (text.map (r.renderings render)) =
      (r.choices render text).map (List.map Prod.fst) := by
    rw [choices, ← combinations_map_map, List.map_map, List.map_map]
    congr 1
    exact List.map_congr_left fun c _ => (List.zipIdx_map_fst 0 _).symm
  rw [variants_eq, hparts, List.map_map]
  rfl

lemma rendersAt_iff {i : Nat} {part : Text} :
    r.RendersAt render c i part ↔ (part, i) ∈ (r.renderings render c).zipIdx := by
  rw [List.mk_mem_zipIdx_iff_getElem?, renderings]
  constructor
  · intro h
    cases h with
    | @reading _ reading h =>
      split
      · next hnone => simp [hnone] at h
      · rw [List.getElem?_map, h, Option.map_some]
    | bare h =>
      rw [h]
      rfl
  · intro h
    cases hreadings : r.readings c with
    | nil =>
      rw [hreadings, List.getElem?_singleton] at h
      split at h
      · next hi =>
        cases h
        rw [hi]
        exact .bare hreadings
      · cases h
    | cons first others =>
      rw [hreadings] at h
      obtain ⟨reading, hreading, rfl⟩ := Option.map_eq_some_iff.1 (List.getElem?_map ▸ h)
      exact .reading (hreadings ▸ hreading)

lemma chooses_iff :
    r.Chooses render text places parts ↔
      ∃ ps ∈ r.choices render text, ps.map Prod.snd = places ∧ ps.map Prod.fst = parts := by
  simp only [choices, mem_combinations, List.forall₂_map_left_iff]
  constructor
  · intro h
    induction h with
    | nil => exact ⟨[], .nil, rfl, rfl⟩
    | @cons c text i places part parts hpart _ ih =>
      obtain ⟨ps, hps, rfl, rfl⟩ := ih
      exact ⟨(part, i) :: ps, .cons (rendersAt_iff.1 hpart) hps, rfl, rfl⟩
  · rintro ⟨ps, hps, rfl, rfl⟩
    induction hps with
    | nil => exact .nil
    | cons hp _ ih => exact .cons (rendersAt_iff.2 hp) ih

lemma comesTo_iff :
    r.ComesTo render sep text places v ↔
      ∃ ps ∈ r.choices render text, ps.map Prod.snd = places ∧
        Text.join sep (ps.map Prod.fst) = v := by
  simp only [ComesTo, chooses_iff]
  constructor
  · rintro ⟨_, ⟨ps, hps, rfl, rfl⟩, rfl⟩
    exact ⟨ps, hps, rfl, rfl⟩
  · rintro ⟨ps, hps, rfl, rfl⟩
    exact ⟨_, ⟨ps, hps, rfl, rfl⟩, rfl⟩

lemma isFirstChoice_of_isFirst {ps : List (Text × Nat)}
    (h : FirstSeen.IsFirst (fun ps qs => List.Lex (· < ·) (ps.map Prod.snd) (qs.map Prod.snd))
      (r.choices render text) (fun ps => Text.join sep (ps.map Prod.fst)) v ps) :
    r.IsFirstChoice render sep text (ps.map Prod.snd) v where
  comesTo := comesTo_iff.2 ⟨ps, h.mem, rfl, h.image⟩
  first others hothers := by
    obtain ⟨qs, hqs, rfl, hv⟩ := comesTo_iff.1 hothers
    rcases h.first qs hqs hv with rfl | hlex
    · exact .inl rfl
    · exact .inr hlex

lemma enumerates_variants (r : Romanizer) (render : Reading → Text) (sep text : Text) :
    r.Enumerates render sep text (r.variants render sep text) := by
  rw [variants_eq_choices]
  constructor
  case nodup => exact FirstSeen.nodup_ofList _
  case mem =>
    intro v
    rw [FirstSeen.mem_ofList, List.mem_map]
    constructor
    · rintro ⟨ps, hps, hv⟩
      exact ⟨_, comesTo_iff.2 ⟨ps, hps, rfl, hv⟩⟩
    · rintro ⟨places, hplaces⟩
      obtain ⟨ps, hps, -, hv⟩ := comesTo_iff.1 hplaces
      exact ⟨ps, hps, hv⟩
  case ordered =>
    apply (FirstSeen.pairwise_ofList_map (pairwise_combinations_zipIdx _)).imp
    rintro v w ⟨ps, qs, hps, hqs, hlex⟩
    exact ⟨_, _, isFirstChoice_of_isFirst hps, isFirstChoice_of_isFirst hqs, hlex⟩

/-- The first variant comes from the first readings. -/
lemma head?_variants (text : Text) :
    (r.variants render sep text).head? =
      some (Text.join sep (text.map fun c => (r.readings c).head?.elim [c] render)) := by
  have hfirst : ∀ c, (r.renderings render c).head? =
      some ((r.readings c).head?.elim [c] render) := by
    intro c
    rw [renderings]
    cases r.readings c <;> rfl
  have hhead := head?_combinations_map hfirst text
  obtain ⟨others, hothers⟩ := List.head?_eq_some_iff.1 hhead
  rw [variants_eq, hothers, List.map_cons, FirstSeen.ofList_cons, List.head?_cons]

/-- The marked, the plain and the initials variants of a text are what the choices of readings come
to, each once and in the order of the first choices; and the first variant is what the text is
romanized to. -/
theorem variants_enumerate (r : Romanizer) (text : Text) :
    (r.Enumerates (·.toned) [' '] text (r.tonedVariants text) ∧
      (r.tonedVariants text).head? = some (r.romanize text).toned) ∧
    (r.Enumerates (·.plain) [' '] text (r.plainVariants text) ∧
      (r.plainVariants text).head? = some (r.romanize text).plain) ∧
    r.Enumerates (·.plain.take 1) [] text (r.initialsVariants text) ∧
      (r.initialsVariants text).head? = some (r.romanize text).initials := by
  have hinitials : (r.romanize text).initials =
      Text.join [] (text.map fun c => (r.readings c).head?.elim [c] (·.plain.take 1)) := by
    have hinitial : ∀ c, (r.glyph c).initial = (r.readings c).head?.elim [c] (·.plain.take 1) := by
      intro c
      rw [glyph, Glyph.initial, Glyph.plain]
      cases (r.readings c).head? <;> rfl
    rw [Text.join_nil_left, Romanization.initials, romanize, List.flatMap_map, List.flatMap]
    simp only [hinitial]
  refine ⟨⟨enumerates_variants .., ?_⟩, ⟨enumerates_variants .., ?_⟩, enumerates_variants .., ?_⟩
  · rw [tonedVariants, head?_variants, Romanization.toned, romanize, List.map_map]
    rfl
  · rw [plainVariants, head?_variants, Romanization.plain, Romanization.syllables, romanize,
      List.map_map]
    rfl
  · rw [initialsVariants, head?_variants, hinitials]

/-- Two choices may come to one string, which is listed at the place of the first. -/
example :
    let reading (s : String) : Reading := ⟨s.toList, s.toList, .neutral⟩
    let r : Romanizer :=
      ⟨fun c => (if c = '甲' then ["a", "a b"] else ["b c", "c"]).map reading⟩
    r.plainVariants "甲乙".toList = ["a b c", "a c", "a b b c"].map String.toList := by
  decide

end PinyinSearch.Romanizer
