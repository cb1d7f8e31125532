import PinyinSearch.Proofs.Regex.Matcher
import PinyinSearch.Regex.Parser

/-!
# Wider expressions

An expression is widened if one is put in its place that matches wherever it does.  Every way to
build expressions keeps this, and so does every step of reading one: what is said here of the states
of the reader is that they are alike, but for expressions that were widened (`State.WidensTo`).
-/

namespace PinyinSearch.Regex

/-! ## Expressions -/

/-- An expression matches wherever another does. -/
def WidensTo (r s : Regex) : Prop :=
  ∀ before mid after, r.Matches before mid after → s.Matches before mid after

namespace WidensTo

variable {r r' s s' : Regex} {rs rs' ss ss' : List Regex}

@[refl] lemma refl (r : Regex) : WidensTo r r := fun _ _ _ => id

lemma alt (h : WidensTo r r') (h' : WidensTo s s') : WidensTo (.alt r s) (.alt r' s') :=
  fun before mid after => Or.imp (h before mid after) (h' before mid after)

lemma seqs_append (h : WidensTo (seqs rs) (seqs rs')) (h' : WidensTo (seqs ss) (seqs ss')) :
    WidensTo (seqs (rs ++ ss)) (seqs (rs' ++ ss')) := by
  intro before mid after hmatches
  obtain ⟨first, rest, hmid, hfirst, hrest⟩ := matches_seqs_append.1 hmatches
  exact matches_seqs_append.2 ⟨first, rest, hmid, h _ _ _ hfirst, h' _ _ _ hrest⟩

lemma seqs_singleton (h : WidensTo r r') : WidensTo (seqs [r]) (seqs [r']) :=
  fun _ _ _ hmatches => matches_seqs_singleton.2 (h _ _ _ (matches_seqs_singleton.1 hmatches))

lemma times (h : WidensTo r r') (least : Nat) (most : Option Nat) :
    WidensTo (.times r least most) (.times r' least most) := by
  have hrepeats : ∀ {n : Nat} {before mid after : Text}, Repeats r.Matches n before mid after →
      Repeats r'.Matches n before mid after := by
    intro n
    induction n with
    | zero => exact id
    | succ n ih =>
      rintro before mid after ⟨first, rest, hmid, hfirst, hrest⟩
      exact ⟨first, rest, hmid, h _ _ _ hfirst, ih hrest⟩
  rintro before mid after ⟨n, hleast, hmost, hmatches⟩
  exact ⟨n, hleast, hmost, hrepeats hmatches⟩

/-- What is found with an expression is found with a wider one. -/
theorem isMatch (h : WidensTo r r') {text : Text} (hmatch : r.isMatch text = true) :
    r'.isMatch text = true := by
  rw [isMatch_iff] at hmatch ⊢
  obtain ⟨before, mid, after, htext, hmatches⟩ := hmatch
  exact ⟨before, mid, after, htext, h _ _ _ hmatches⟩

end WidensTo

/-! ## States -/

/-- Parts of a branch, latest first, are alike but for wider expressions.  In the place of several
parts there may be one expression; while nothing stands behind these, an operator would repeat the
last of them here and the whole expression there, so such branches are *sealed*. -/
inductive ItemsWidenTo : (isSealed : Bool) → List Item → List Item → Prop where
  | nil : ItemsWidenTo false [] []
  | flags {k l m} : ItemsWidenTo k l m → ItemsWidenTo false (.flags :: l) (.flags :: m)
  | expr {k l m} {p q : Part} :
    p.regex.WidensTo q.regex →
    ItemsWidenTo k l m →
    ItemsWidenTo false (.expr p :: l) (.expr q :: m)
  | instead {k l m} {ps : List Part} {whole : Part} :
    (seqs (ps.map Part.regex)).WidensTo whole.regex →
    ItemsWidenTo k l m →
    ItemsWidenTo true ((ps.map Item.expr).reverse ++ l) (.expr whole :: m)

/-- Levels are alike but for wider expressions. -/
structure Level.WidensTo (isSealed : Bool) (l m : Level) : Prop where
  flags : m.flags = l.flags
  branches : List.Forall₂ (fun p q : Part => p.regex.WidensTo q.regex) l.branches m.branches
  items : ItemsWidenTo isSealed l.items m.items

/-- States are alike but for wider expressions, and sealed if their innermost groups are. -/
structure State.WidensTo (isSealed : Bool) (st st' : State) : Prop where
  level : st.level.WidensTo isSealed st'.level
  outer : List.Forall₂ (fun l m => ∃ k, Level.WidensTo k l m) st.outer st'.outer
  names : st'.names = st.names

variable {k : Bool}

lemma ItemsWidenTo.seqs {l m : List Item} (h : ItemsWidenTo k l m) :
    (seqs (l.reverse.filterMap Item.regex?)).WidensTo (seqs (m.reverse.filterMap Item.regex?)) := by
  induction h with
  | nil => exact .refl _
  | flags _ ih => simpa [List.filterMap_cons, Item.regex?] using ih
  | expr hp _ ih =>
    simpa [List.filterMap_cons, Item.regex?] using ih.seqs_append hp.seqs_singleton
  | @instead _ l m ps whole hps _ ih =>
    have hparts : (ps.map Item.expr).filterMap Item.regex? = ps.map Part.regex := by
      simp [List.filterMap_map, Function.comp_def, Item.regex?]
    have hwhole : (Regex.seqs (ps.map Part.regex)).WidensTo (Regex.seqs [whole.regex]) :=
      fun before mid after h => matches_seqs_singleton.2 (hps before mid after h)
    simpa [List.filterMap_cons, Item.regex?, hparts] using ih.seqs_append hwhole

namespace Level.WidensTo

variable {l m : Level} {p q : Part}

lemma branch (h : l.WidensTo k m) : l.branch.regex.WidensTo m.branch.regex := h.items.seqs

lemma content (h : l.WidensTo k m) : l.content.regex.WidensTo m.content.regex := by
  have hfold : ∀ {ps qs : List Part} {r s : Regex},
      List.Forall₂ (fun p q : Part => p.regex.WidensTo q.regex) ps qs → r.WidensTo s →
        (ps.foldl (fun later b => alt b.regex later) r).WidensTo
          (qs.foldl (fun later b => alt b.regex later) s) := by
    intro ps qs r s hbranches
    induction hbranches generalizing r s with
    | nil => exact id
    | cons hp _ ih => exact fun hr => ih (hp.alt hr)
  exact hfold h.branches h.branch

lemma push (h : l.WidensTo k m) (hp : p.regex.WidensTo q.regex) :
    (l.push p).WidensTo false (m.push q) :=
  ⟨h.flags, h.branches, .expr hp h.items⟩

end Level.WidensTo

namespace State.WidensTo

variable {st st' u : State} {p q : Part}

lemma flags (h : st.WidensTo k st') : st'.flags = st.flags := h.level.flags

lemma push (h : st.WidensTo k st') (hp : p.regex.WidensTo q.regex) :
    (st.push p).WidensTo false (st'.push q) :=
  ⟨h.level.push hp, h.outer, h.names⟩

lemma nextBranch (h : st.WidensTo k st') : st.nextBranch.WidensTo false st'.nextBranch :=
  ⟨⟨h.level.flags, .cons h.level.branch h.level.branches, .nil⟩, h.outer, h.names⟩

lemma openGroup (h : st.WidensTo k st') (f : Flags) (captures : Bool) :
    (st.openGroup f captures).WidensTo false (st'.openGroup f captures) :=
  ⟨⟨rfl, .nil, .nil⟩, .cons ⟨_, h.level⟩ h.outer, h.names⟩

lemma addName (h : st.WidensTo k st') (name : Text) :
    WidensTo k { st with names := name :: st.names } { st' with names := name :: st'.names } :=
  ⟨h.level, h.outer, congrArg (name :: ·) h.names⟩

lemma changeFlags (h : st.WidensTo k st') (f : Flags) :
    (st.changeFlags f).WidensTo false (st'.changeFlags f) :=
  ⟨⟨rfl, h.level.branches, .flags h.level.items⟩, h.outer, h.names⟩

lemma closeGroup? (h : st.WidensTo k st') (hclose : st.closeGroup? = some u) :
    ∃ u', st'.closeGroup? = some u' ∧ u.WidensTo false u' := by
  obtain ⟨level, outer, names⟩ := st
  obtain ⟨level', outer', names'⟩ := st'
  obtain ⟨hlevel, houter, hnames⟩ := h
  cases houter with
  | nil => cases hclose
  | cons hl houter =>
    obtain rfl := Option.some.inj hclose
    obtain ⟨_, hl⟩ := hl
    exact ⟨_, rfl, hl.push hlevel.content, houter, hnames⟩

/-- Where nothing is sealed, the same part is repeated. -/
lemma repeatLast? (h : st.WidensTo false st') {least : Nat} {most : Option Nat}
    (hrepeat : st.repeatLast? least most = some u) :
    ∃ u', st'.repeatLast? least most = some u' ∧ u.WidensTo false u' := by
  obtain ⟨⟨flags, captures, branches, items⟩, outer, names⟩ := st
  obtain ⟨⟨flags', captures', branches', items'⟩, outer', names'⟩ := st'
  obtain ⟨⟨hflags, hbranches, hitems⟩, houter, hnames⟩ := h
  cases hitems with
  | nil => cases hrepeat
  | flags => cases hrepeat
  | expr hp hrest =>
    obtain rfl := Option.some.inj hrepeat
    exact ⟨_, rfl, ⟨hflags, hbranches, .expr (hp.times least most) hrest⟩, houter, hnames⟩

lemma finish? (h : st.WidensTo k st') {p : Part} (hfinish : st.finish? = some p) :
    ∃ q, st'.finish? = some q ∧ p.regex.WidensTo q.regex := by
  obtain ⟨level, outer, names⟩ := st
  obtain ⟨level', outer', names'⟩ := st'
  obtain ⟨hlevel, houter, -⟩ := h
  cases houter with
  | nil =>
    obtain rfl := Option.some.inj hfinish
    exact ⟨_, rfl, hlevel.content⟩
  | cons => cases hfinish

end State.WidensTo

end PinyinSearch.Regex
