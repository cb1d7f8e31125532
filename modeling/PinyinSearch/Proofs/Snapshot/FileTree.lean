import Mathlib.Tactic.Common
import PinyinSearch.Snapshot.FileTree

/-!
# What changes leave of a file tree

Making directories, and writing a file where nothing was only to erase it again, leave all files as
they are and take no directory away (`Keeps`).  Then every file that could be read can still be
read, and holds the same.  A file that is put at a path is read there (`read?_replace?`,
`read?_rename?`).
-/

namespace PinyinSearch.FileTree

variable {t u v : FileTree} {here place other : Place} {path : Text} {content : Bytes}

/-! ## What single changes do -/

lemma not_isAboveAll_of_node? (h : t.node? place ≠ some .directory) :
    isAboveAll place = false := by
  cases hall : isAboveAll place with
  | false => rfl
  | true => exact absurd (by rw [node?, if_pos hall]) h

lemma node?_alter_self (f : Option Node → Node) (h : isAboveAll place = false) :
    node? (t.alter place f) place = some (f (t.get? place)) := by
  simp [node?, h]

lemma node?_alter_of_ne (f : Option Node → Node) (h : place ≠ other) :
    node? (t.alter place f) other = t.node? other := by
  rw [node?, Table.get?_alter_of_ne _ _ h, node?]

lemma get?_erase : (t.erase place).get? other = if other = place then none else t.get? other := by
  induction t with
  | nil => simp [erase]
  | cons row rest ih =>
    obtain ⟨q, node⟩ := row
    by_cases hq : q = place
    · subst hq
      by_cases ho : other = q <;> simp_all [erase, Table.get?_cons, eq_comm]
    · by_cases ho : q = other
      · subst ho
        simp [erase, Table.get?_cons, hq]
      · simp_all [erase, Table.get?_cons]

lemma node?_erase_of_ne (h : other ≠ place) : (t.erase place).node? other = t.node? other := by
  rw [node?, get?_erase, if_neg h, node?]

lemma node?_erase_self (h : isAboveAll place = false) : (t.erase place).node? place = none := by
  rw [node?, get?_erase, h]
  simp

lemma fileAt?_write (h : isAboveAll place = false) :
    (t.write place content).fileAt? place = some content := by
  rw [fileAt?, write, node?_alter_self _ h]

/-- A file that takes no directory's place leaves the directories as they are. -/
lemma node?_write_eq_directory_iff (h : t.node? place ≠ some .directory) :
    (t.write place content).node? other = some .directory ↔ t.node? other = some .directory := by
  by_cases ho : place = other
  · subst ho
    rw [write, node?_alter_self _ (not_isAboveAll_of_node? h)]
    simpa using h
  · rw [write, node?_alter_of_ne _ ho]

/-! ## Directories that stay -/

section

variable (h : ∀ place, t.node? place = some .directory → u.node? place = some .directory)
include h

lemma enter?_of_directory {name : Text} {next : Place} (hnext : t.enter? here name = some next) :
    u.enter? here name = some next := by
  rw [enter?] at hnext ⊢
  by_cases hname : name = above
  · rwa [if_pos hname] at hnext ⊢
  · rw [if_neg hname] at hnext ⊢
    obtain ⟨hdirectory, hhere⟩ := Option.ite_none_right_eq_some.1 hnext
    rwa [if_pos (h _ hdirectory)]

lemma foldlM_enter?_of_directory {names : List Text} {last : Place}
    (hlast : names.foldlM t.enter? here = some last) :
    names.foldlM u.enter? here = some last := by
  induction names generalizing here with
  | nil => exact hlast
  | cons name names ih =>
    rw [List.foldlM_cons] at hlast ⊢
    obtain ⟨next, hnext, hrest⟩ := Option.bind_eq_some_iff.1 hlast
    exact Option.bind_eq_some_iff.2 ⟨next, enter?_of_directory h hnext, ih hrest⟩

/-- A path leads where it led as long as no directory goes. -/
lemma place?_of_directory (hplace : t.place? path = some place) :
    u.place? path = some place := by
  rw [place?] at hplace ⊢
  obtain ⟨hpath, hplace⟩ := Option.ite_none_right_eq_some.1 hplace
  rw [if_pos hpath]
  cases hnames : (names path).getLast? with
  | none => rwa [hnames] at hplace
  | some name =>
    rw [hnames] at hplace
    obtain ⟨last, hlast, hreach⟩ := Option.bind_eq_some_iff.1 hplace
    exact Option.bind_eq_some_iff.2 ⟨last, foldlM_enter?_of_directory h hlast, hreach⟩

end

/-! ## Files that stay -/

/-- A file tree has the files of another, each with its content, and no others; and it has all of
the directories. -/
structure Keeps (t u : FileTree) : Prop where
  fileAt? : ∀ place, u.fileAt? place = t.fileAt? place
  directory : ∀ {place}, t.node? place = some .directory → u.node? place = some .directory

namespace Keeps

@[refl] lemma refl (t : FileTree) : Keeps t t := ⟨fun _ => rfl, id⟩

@[trans] lemma trans (htu : Keeps t u) (huv : Keeps u v) : Keeps t v :=
  ⟨fun place => (huv.fileAt? place).trans (htu.fileAt? place), huv.directory ∘ htu.directory⟩

/-- Changes to a place that holds no file, and holds none after them, keep the files. -/
lemma of_node? (hne : ∀ {other}, other ≠ place → u.node? other = t.node? other)
    (before : t.node? place = none) (after : u.fileAt? place = none) : Keeps t u where
  fileAt? other := by
    by_cases ho : other = place
    · subst ho
      rw [after, FileTree.fileAt?, before]
    · rw [FileTree.fileAt?, FileTree.fileAt?, hne ho]
  directory {other} h := by
    have ho : other ≠ place := by
      rintro rfl
      simp [before] at h
    rw [hne ho, h]

lemma place? (h : Keeps t u) (hplace : t.place? path = some place) :
    u.place? path = some place :=
  place?_of_directory (fun _ => h.directory) hplace

/-- What could be read can still be read. -/
theorem read? (h : Keeps t u) (hread : t.read? path = some content) :
    u.read? path = some content := by
  rw [FileTree.read?] at hread ⊢
  obtain ⟨hfile, hread⟩ := Option.ite_none_left_eq_some.1 hread
  obtain ⟨place, hplace, hcontent⟩ := Option.bind_eq_some_iff.1 hread
  rw [if_neg hfile, h.place? hplace]
  exact (h.fileAt? place).trans hcontent

end Keeps

lemma keeps_alter_directory (h : t.node? place = none) :
    Keeps t (t.alter place fun _ => .directory) := by
  have habove : isAboveAll place = false := not_isAboveAll_of_node? (t := t) (by simp [h])
  refine .of_node? (fun ho => node?_alter_of_ne _ (Ne.symm ho)) h ?_
  rw [fileAt?, node?_alter_self _ habove]

/-- A file that was written where nothing was and erased again leaves no trace. -/
lemma keeps_erase_write (h : t.node? place = none) :
    Keeps t ((t.write place content).erase place) := by
  have habove : isAboveAll place = false := not_isAboveAll_of_node? (t := t) (by simp [h])
  refine .of_node? (fun ho => ?_) h ?_
  · rw [node?_erase_of_ne ho, write, node?_alter_of_ne _ (Ne.symm ho)]
  · rw [fileAt?, node?_erase_self habove]

/-- Directories are made without harm to any file, however far one gets. -/
lemma keeps_makeAlong (here : Place) (t : FileTree) (names : List Text) :
    Keeps t (makeAlong here t names) := by
  fun_induction makeAlong here t names with
  | case1 => exact .refl _
  | case2 _ _ _ ih => exact ih
  | case3 _ _ _ _ _ _ ih => exact ih
  | case4 => exact .refl _
  | case5 _ _ _ _ _ hnone _ ih => exact (keeps_alter_directory hnone).trans ih
  | case6 => exact .refl _

theorem keeps_makeFirstDirectories (t : FileTree) (path : Text) (count : Nat) :
    Keeps t (t.makeFirstDirectories path count) := by
  rw [makeFirstDirectories]
  split
  · exact keeps_makeAlong ..
  · exact .refl t

theorem keeps_makeDirectories (t : FileTree) (path : Text) : Keeps t (t.makeDirectories path) :=
  keeps_makeFirstDirectories ..

/-! ## One file that may change -/

/-- A file tree has the files of another, each with its content, and no others, except perhaps at
one place; and it has all of the directories. -/
structure KeepsBut (except : Option Place) (t u : FileTree) : Prop where
  fileAt? : ∀ {place}, except ≠ some place → u.fileAt? place = t.fileAt? place
  directory : ∀ {place}, t.node? place = some .directory → u.node? place = some .directory

lemma Keeps.keepsBut {except : Option Place} (h : Keeps t u) : KeepsBut except t u :=
  ⟨fun _ => h.fileAt? _, h.directory⟩

namespace KeepsBut

variable {except : Option Place}

@[trans] lemma trans (htu : KeepsBut except t u) (huv : KeepsBut except u v) :
    KeepsBut except t v :=
  ⟨fun hne => (huv.fileAt? hne).trans (htu.fileAt? hne), huv.directory ∘ htu.directory⟩

lemma place? (h : KeepsBut except t u) (hplace : t.place? path = some place) :
    u.place? path = some place :=
  place?_of_directory (fun _ => h.directory) hplace

/-- Where a path leads as before, but not to the place, the same is read. -/
lemma read? (h : KeepsBut except t u) (hplace : u.place? path = t.place? path)
    (hne : u.place? path = none ∨ u.place? path ≠ except) : u.read? path = t.read? path := by
  rw [FileTree.read?, FileTree.read?, ← hplace]
  split
  · rfl
  · cases hpath : u.place? path with
    | none => rfl
    | some place =>
      refine h.fileAt? fun he => ?_
      obtain hnone | hne := hne
      · rw [hpath] at hnone
        cases hnone
      · exact hne (hpath.trans he.symm)

end KeepsBut

/-- To change a place that holds no directory changes what file there is. -/
lemma keepsBut_of_node? (h : t.node? place ≠ some .directory)
    (hne : ∀ {other}, other ≠ place → u.node? other = t.node? other) :
    KeepsBut (some place) t u where
  fileAt? {other} ho := by
    rw [fileAt?, fileAt?, hne fun heq => ho (congrArg some heq.symm)]
  directory {other} hdirectory := by
    have ho : other ≠ place := by
      rintro rfl
      exact h hdirectory
    rw [hne ho, hdirectory]

/-! ## Files that are put in a place -/

/-- Where a path leads depends on the directories alone. -/
lemma place?_congr (h : ∀ place, t.node? place = some .directory ↔ u.node? place = some .directory)
    (path : Text) : t.place? path = u.place? path := by
  have henter : t.enter? = u.enter? := by
    funext here name
    simp only [enter?, h]
  rw [place?, place?, henter]

/-- What is put at a path is written at the place where the path leads, and does not hide it. -/
lemma exists_of_replace? (h : t.replace? path content = some u) :
    ∃ place, t.place? path = some place ∧ t.node? place ≠ some .directory ∧
      u = t.write place content ∧ u.place? path = some place ∧ namesDirectory path = false := by
  rw [replace?] at h
  obtain ⟨hfile, h⟩ := Option.ite_none_left_eq_some.1 h
  obtain ⟨place, hplace, h⟩ := Option.bind_eq_some_iff.1 h
  obtain ⟨hnot, hwrite⟩ := Option.ite_none_left_eq_some.1 h
  obtain rfl := Option.some.inj hwrite
  -- the path leads to the same place as before, since no directory has come or gone
  have hsame : (t.write place content).place? path = t.place? path :=
    place?_congr (fun _ => node?_write_eq_directory_iff hnot) path
  exact ⟨place, hplace, hnot, rfl, hsame.trans hplace, by simpa using hfile⟩

/-- What was put at a path is read there. -/
theorem read?_replace? (h : t.replace? path content = some u) : u.read? path = some content := by
  obtain ⟨place, -, hnot, rfl, hplace, hfile⟩ := exists_of_replace? h
  rw [read?, hfile, hplace]
  exact fileAt?_write (not_isAboveAll_of_node? hnot)

/-- What is put at a path changes no other file. -/
lemma keepsBut_replace? (h : t.replace? path content = some u) :
    KeepsBut (u.place? path) t u := by
  obtain ⟨place, -, hnot, rfl, hplace, -⟩ := exists_of_replace? h
  rw [hplace]
  exact keepsBut_of_node? hnot fun ho => node?_alter_of_ne _ (Ne.symm ho)

/-- A file is removed without harm to any other. -/
lemma keepsBut_remove? (h : t.remove? path = some u) : KeepsBut (u.place? path) t u := by
  rw [remove?] at h
  cases hread : t.read? path with
  | none =>
    rw [hread] at h
    cases h
  | some content =>
    rw [hread] at h
    obtain ⟨place, hplace, rfl⟩ := Option.map_eq_some_iff.1 h
    rw [read?, hplace] at hread
    have hfile : t.fileAt? place = some content := (Option.ite_none_left_eq_some.1 hread).2
    have hnot : t.node? place ≠ some .directory := by
      intro hdirectory
      simp [fileAt?, hdirectory] at hfile
    have hbut : KeepsBut (some place) t (t.erase place) := keepsBut_of_node? hnot node?_erase_of_ne
    rwa [hbut.place? hplace]

/-- What was moved to a path is read there. -/
theorem read?_rename? (hfile : t.fileAt? place = some content) (h : t.rename? place path = some u) :
    u.read? path = some content := by
  rw [rename?, hfile] at h
  exact read?_replace? h

/-- A file that was written where nothing was is moved without harm to any other. -/
lemma keepsBut_rename? (hfree : t.node? place = none)
    (h : (t.write place content).rename? place path = some u) :
    KeepsBut (u.place? path) t u := by
  obtain ⟨moved, -, h⟩ := Option.bind_eq_some_iff.1 h
  exact (keeps_erase_write hfree).keepsBut.trans (keepsBut_replace? h)

end PinyinSearch.FileTree
