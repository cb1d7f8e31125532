import PinyinSearch.Proofs.Pattern.Spans
import PinyinSearch.Proofs.Pattern.Phrase

/-!
# The grammar of bracket classes

A class is an opening bracket, perhaps a caret, a body that is not empty, and a closing bracket.
Its body is made of classes, of escaped characters and of other characters, and may begin with a
closing bracket, which is then a member.  The scanner looks for such a bracket in the outermost
class only: it ends exactly behind a class if and only if no class nested in it has one
(`bracket_eq_iff`), and then the class is copied (`copies_class`).
-/

namespace PinyinSearch

open PinyinSearch.Span

/-- A class, written out. -/
def bracketed (negated leads : Bool) (items : Text) : Text :=
  '[' :: (lead negated leads ++ items ++ [']'])

/-- The items may make up a class with what comes before them: the body is not empty, and a caret
right behind the opening bracket negates. -/
structure IsClassBody (negated leads : Bool) (items : Text) : Prop where
  ne_nil : leads = false → items ≠ []
  caret : negated = false → leads = false → items.head? ≠ some '^'

/-- The items of a class.  Of the classes among them, `n` have a closing bracket for their first
member. -/
inductive ClassItems : Nat → Text → Prop where
  | nil :
    ClassItems 0 []
  | char {n c s} :
    c ≠ '[' → c ≠ ']' → c ≠ '\\' →
    ClassItems n s →
    ClassItems n (c :: s)
  | escaped {n c s} :
    ClassItems n s →
    ClassItems n ('\\' :: c :: s)
  | nested {negated leads k n items s} :
    IsClassBody negated leads items →
    ClassItems k items →
    ClassItems n s →
    ClassItems (leads.toNat + k + n) (bracketed negated leads items ++ s)

/-- A class.  Of the classes nested in it, `n` have a closing bracket for their first member. -/
inductive IsClass : Nat → Text → Prop where
  | intro {negated leads n items} :
    IsClassBody negated leads items →
    ClassItems n items →
    IsClass n (bracketed negated leads items)

lemma ClassItems.plain {s : Text} (hs : ∀ c ∈ s, c ≠ '[' ∧ c ≠ ']' ∧ c ≠ '\\') :
    ClassItems 0 s := by
  induction s with
  | nil => exact .nil
  | cons c s ih =>
    rw [List.forall_mem_cons] at hs
    exact .char hs.1.1 hs.1.2.1 hs.1.2.2 (ih hs.2)

namespace Span

/-! ## Passing over items -/

/-- The scanner goes over some text and leaves `depth'` open classes of `depth`. -/
def Passes (depth : Nat) (s : Text) (depth' : Nat) : Prop :=
  ∀ rest, classBody depth (s ++ rest) =
    (s ++ (classBody depth' rest).1, (classBody depth' rest).2)

variable {d d' d'' n : Nat} {c : Char} {s s' rest : Text} {negated leads : Bool}

lemma Passes.nil : Passes d [] d := fun _ => rfl

lemma Passes.append (h : Passes d s d') (h' : Passes d' s' d'') : Passes d (s ++ s') d'' := by
  intro rest
  rw [List.append_assoc, h, h', List.append_assoc]

lemma passes_char (hopen : c ≠ '[') (hclose : c ≠ ']') (hescape : c ≠ '\\') : Passes d [c] d :=
  fun _ => classBody_char hopen hclose hescape

lemma passes_escaped : Passes d ['\\', c] d := fun _ => classBody_escaped

lemma passes_close : Passes (d + 1) [']'] d := fun _ => classBody_close_succ

/-- Behind an opening bracket a caret is passed over, and a closing bracket closes the class. -/
lemma passes_lead : Passes d ('[' :: lead negated leads) (d + 1 - leads.toNat) := by
  have hopen : Passes d ['['] (d + 1) := fun _ => classBody_open
  have hcaret : Passes d ('[' :: lead negated false) (d + 1) := by
    cases negated with
    | false => exact hopen
    | true => exact hopen.append (passes_char (by decide) (by decide) (by decide))
  cases leads with
  | false => exact hcaret
  | true =>
    have hlead : '[' :: lead negated true = '[' :: lead negated false ++ [']'] := by
      cases negated <;> rfl
    rw [hlead]
    exact hcaret.append passes_close

lemma passes_bracketed (h : Passes (d + 1 - leads.toNat) s (d' + 1)) :
    Passes d (bracketed negated leads s) d' :=
  (passes_lead.append h).append passes_close

end Span

/-- A class nested `d` deep is passed over.  Its first member and those of classes in it close
classes around them, as long as there are any. -/
lemma ClassItems.passes {n d : Nat} {s : Text} (h : ClassItems n s) (hn : n ≤ d) :
    Passes d s (d - n) := by
  induction h generalizing d with
  | nil => exact .nil
  | char hopen hclose hescape _ ih => exact (passes_char hopen hclose hescape).append (ih hn)
  | escaped _ ih => exact passes_escaped.append (ih hn)
  | @nested negated leads k n items s _ _ _ ihItems ih =>
    have hdepth : d + 1 - leads.toNat - k = d - leads.toNat - k + 1 := by omega
    have hitems : Passes (d + 1 - leads.toNat) items (d - leads.toNat - k + 1) :=
      hdepth ▸ ihItems (by omega)
    have hrest : Passes (d - leads.toNat - k) s (d - leads.toNat - k - n) := ih (by omega)
    rw [Nat.sub_add_eq, Nat.sub_add_eq]
    exact (passes_bracketed hitems).append hrest

/-- With more such members than open classes, the scanner ends among the items. -/
lemma ClassItems.exists_passes {n d : Nat} {s : Text} (h : ClassItems n s) (hn : d < n) :
    ∃ taken left, s = taken ++ ']' :: left ∧ Passes d taken 0 := by
  induction h generalizing d with
  | nil => exact absurd hn (Nat.not_lt_zero d)
  | @char n c s hopen hclose hescape _ ih =>
    obtain ⟨taken, left, rfl, hpasses⟩ := ih hn
    exact ⟨c :: taken, left, rfl, (passes_char hopen hclose hescape).append hpasses⟩
  | @escaped n c s _ ih =>
    obtain ⟨taken, left, rfl, hpasses⟩ := ih hn
    exact ⟨'\\' :: c :: taken, left, rfl, passes_escaped.append hpasses⟩
  | @nested negated leads k n items s _ hitems _ ihItems ih =>
    rcases Nat.lt_trichotomy (d + 1 - leads.toNat) k with hlt | heq | hgt
    · -- the scanner ends among the items of the nested class
      obtain ⟨taken, left, rfl, hpasses⟩ := ihItems hlt
      refine ⟨'[' :: lead negated leads ++ taken, left ++ ']' :: s, ?_, passes_lead.append hpasses⟩
      simp [bracketed]
    · -- it ends where the nested class does
      have hpasses : Passes (d + 1 - leads.toNat) items 0 := by
        rw [heq]
        exact Nat.sub_self k ▸ hitems.passes (Nat.le_refl k)
      refine ⟨'[' :: lead negated leads ++ items, s, ?_, passes_lead.append hpasses⟩
      simp [bracketed]
    · -- it goes on behind the nested class
      have hdepth : d + 1 - leads.toNat - k = d - leads.toNat - k + 1 := by omega
      have hpasses : Passes (d + 1 - leads.toNat) items (d - leads.toNat - k + 1) :=
        hdepth ▸ hitems.passes (Nat.le_of_lt hgt)
      obtain ⟨taken, left, rfl, hrest⟩ := ih (d := d - leads.toNat - k) (by omega)
      refine ⟨bracketed negated leads items ++ taken, left, ?_,
        (passes_bracketed hpasses).append hrest⟩
      rw [List.append_assoc]

/-! ## Classes -/

variable {n : Nat} {c rest : Text} {negated leads : Bool} {items : Text}

lemma ClassItems.head?_ne (h : ClassItems n items) : items.head? ≠ some ']' := by
  cases h with
  | nil => simp
  | char _ hclose => simpa using hclose
  | escaped => simp
  | nested => simp [bracketed]

/-- Of a class the scanner takes what comes before the items as such. -/
lemma bracket_items (hbody : IsClassBody negated leads items) (hitems : ClassItems n items) :
    bracket (lead negated leads ++ (items ++ rest)) =
      (lead negated leads ++ (classBody 0 (items ++ rest)).1, (classBody 0 (items ++ rest)).2) := by
  apply bracket_lead
  have hhead : leads = false → (items ++ rest).head? = items.head? := by
    intro hleads
    rw [List.head?_append_of_ne_nil items (hbody.ne_nil hleads)]
  constructor
  · intro hleads
    rw [hhead hleads]
    exact hitems.head?_ne
  · intro hnegated hleads
    rw [hhead hleads]
    exact hbody.caret hnegated hleads

/-- The scanner ends exactly behind a class if and only if no class nested in it has a closing
bracket for its first member. -/
theorem bracket_eq_iff (h : IsClass n c) :
    bracket (c.tail ++ rest) = (c.tail, rest) ↔ n = 0 := by
  cases h with
  | @intro negated leads n items hbody hitems =>
    have htext : (bracketed negated leads items).tail ++ rest =
        lead negated leads ++ (items ++ ']' :: rest) := by simp [bracketed]
    rw [htext, bracket_items hbody hitems]
    constructor
    · intro heq
      by_contra hn
      obtain ⟨taken, left, rfl, hpasses⟩ := hitems.exists_passes (Nat.pos_of_ne_zero hn)
      rw [List.append_assoc, hpasses, List.cons_append, classBody_close_zero] at heq
      have hlength := congrArg List.length (Prod.mk.inj heq).2
      simp only [List.length_append, List.length_cons] at hlength
      omega
    · intro hn
      subst hn
      rw [hitems.passes (Nat.le_refl 0), Nat.sub_self, classBody_close_zero]
      simp [bracketed]

/-! ## Patterns with classes -/

variable {t : Transcriber} {fuzzy : Bool}

lemma read_class {options : Bool} (h : IsClass 0 c) :
    ∃ s, c = '[' :: s ∧ Token.read options '[' (s ++ rest) = (.bracket c, rest) := by
  have hbracket : bracket (c.tail ++ rest) = (c.tail, rest) := (bracket_eq_iff h).2 rfl
  have hc : c = '[' :: c.tail := by
    cases h
    rfl
  refine ⟨c.tail, hc, ?_⟩
  show (Token.bracket ('[' :: (bracket (c.tail ++ rest)).1), (bracket (c.tail ++ rest)).2) = _
  rw [hbracket, ← hc]

lemma textPattern_class (h : IsClass 0 c) : textPattern (c ++ rest) = c ++ textPattern rest := by
  obtain ⟨s, rfl, hread⟩ : ∃ s, c = '[' :: s ∧
      Token.read false '[' (s ++ rest) = (.bracket c, rest) := read_class h
  rw [List.cons_append, textPattern, tokens, hread]
  rfl

lemma segments_class (h : IsClass 0 c) :
    t.segments fuzzy (c ++ rest) = .raw c :: t.segments fuzzy rest := by
  obtain ⟨s, rfl, hread⟩ : ∃ s, c = '[' :: s ∧
      Token.read true '[' (s ++ rest) = (.bracket c, rest) := read_class h
  rw [List.cons_append, Transcriber.segments_cons, hread, Transcriber.segmentsAfter]
  rfl

/-- The scanner ends exactly behind a class if and only if no class nested in it has a closing
bracket for its first member.  Then the class is copied as it is, for texts and for plain
pronunciations. -/
theorem copies_class (h : IsClass n c) :
    (bracket (c.tail ++ rest) = (c.tail, rest) ↔ n = 0) ∧
      (n = 0 → textPattern (c ++ rest) = c ++ textPattern rest ∧
        t.segments fuzzy (c ++ rest) = .raw c :: t.segments fuzzy rest) := by
  refine ⟨bracket_eq_iff h, ?_⟩
  rintro rfl
  exact ⟨textPattern_class h, segments_class h⟩

/-- In a class that begins with a closing bracket another one is nested. -/
theorem copies_class_sample :
    IsClass 0 "[]a[^b]]".toList ∧
      textPattern "[]a[^b]]{,3}".toList = "[]a[^b]]".toList ++ textPattern "{,3}".toList ∧
        Phrase.sampleTranscriber.segments false "[]a[^b]]{,3}".toList =
          .raw "[]a[^b]]".toList :: Phrase.sampleTranscriber.segments false "{,3}".toList := by
  have hinner : ClassItems 0 ['b'] := .plain (by simp)
  have hnested : ClassItems 0 "[^b]".toList :=
    @ClassItems.nested true false 0 0 ['b'] _ ⟨by decide, by decide⟩ hinner .nil
  have hclass : IsClass 0 (bracketed false true ('a' :: "[^b]".toList)) :=
    .intro ⟨by decide, by decide⟩ (.char (by decide) (by decide) (by decide) hnested)
  exact ⟨hclass, (copies_class hclass).2 rfl⟩

/-- Behind a nested class that begins with a closing bracket the class around it goes on, and yet
what follows is taken for a quantifier, or for letters. -/
theorem not_copies_class :
    IsClass 1 "[[]a]{,3}]".toList ∧
      textPattern "[[]a]{,3}]".toList = "[[]a]{0,3}]".toList ∧
      Phrase.sampleTranscriber.segments false "[[]a]{,3}]".toList =
        [.raw "[[]a]".toList, .raw "{0,3}".toList, .raw "\\]".toList] := by
  have hinner : ClassItems 0 ['a'] := .plain (by simp)
  have hbehind : ClassItems 0 "{,3}".toList := .plain (by simp)
  have hitems : ClassItems 1 ("[]a]".toList ++ "{,3}".toList) :=
    @ClassItems.nested false true 0 0 ['a'] _ ⟨by decide, by decide⟩ hinner hbehind
  have hclass : IsClass 1 (bracketed false false ("[]a]".toList ++ "{,3}".toList)) :=
    .intro ⟨by decide, by decide⟩ hitems
  exact ⟨hclass, by decide +kernel, by decide +kernel⟩

end PinyinSearch
