import PinyinSearch.Proofs.Corpus.Reordering
import PinyinSearch.Proofs.Snapshot.FileTree
import PinyinSearch.Proofs.Snapshot.Loading
import PinyinSearch.Proofs.Spelling

/-!
# Storing a snapshot

Writing a snapshot is all or nothing, wherever the system refuses to go on: either the whole content
stands at the path, or every file is as it was (`attempt_allOrNothing`).  The main statement,
`store_load`, says what this means for reading.  After a success the corpus is read back under its
hash, with the same answers to all look-ups, and under no other; after a failure nothing has changed
for anyone who could read a corpus before.
-/

namespace PinyinSearch

/-- A codec reads back maps that it wrote, the rows perhaps in another order. -/
def Codec.Recovers (payload : Codec CorpusTables) (t : CorpusTables) : Prop :=
  t.HasSingleRows →
    ∃ u rest, payload.decode? (payload.encode t) = some (u, rest) ∧ u.Reorders t

/-- Maps that are told from their record are read back from it. -/
theorem Codec.recovers_corpusTables {t : CorpusTables} (htold : t.record.tables? = some t) :
    corpusTables.Recovers t := fun _ =>
  ⟨t, [], by simpa using decode?_corpusTables htold [], .refl t⟩

namespace SnapshotFile

variable {f : SnapshotFile} {t u : FileTree} {hash : Text} {corpus : Corpus}
  {payload : Codec CorpusTables} {platform : Platform} {content : Bytes}

/-! ## All or nothing -/

/-- What may come of an attempt to put a content at a path: the content stands there and all other
files are as they were, or there is an error and all files are. -/
inductive Attempt.AllOrNothing (t : FileTree) (path : Text) (content : Bytes) : Attempt → Prop where
  | done {u : FileTree} :
    u.read? path = some content →
    t.KeepsBut (u.place? path) u →
    AllOrNothing t path content ⟨u, none⟩
  | failed {u : FileTree} {error : SnapshotError} :
    t.Keeps u →
    AllOrNothing t path content ⟨u, some error⟩

lemma Attempt.AllOrNothing.of_keeps {path : Text} {a : Attempt} (hkeeps : t.Keeps u)
    (h : a.AllOrNothing u path content) : a.AllOrNothing t path content := by
  cases h with
  | done hread hbut => exact .done hread (hkeeps.keepsBut.trans hbut)
  | failed hkeeps' => exact .failed (hkeeps.trans hkeeps')

/-- A temporary file is moved to the path as a whole, or leaves no trace. -/
lemma replaceThrough_allOrNothing {here : FileTree.Place} {name : Text} (refusal : Option Refusal)
    (hfree : t.node? (here ++ [name]) = none) :
    (f.replaceThrough t here name content refusal).AllOrNothing t f.path content := by
  have habove : FileTree.isAboveAll (here ++ [name]) = false :=
    FileTree.not_isAboveAll_of_node? (t := t) (by simp [hfree])
  unfold replaceThrough
  split
  · exact .failed (FileTree.keeps_erase_write hfree)
  · exact .failed (FileTree.keeps_erase_write hfree)
  · exact .failed (FileTree.keeps_erase_write hfree)
  · dsimp only
    split
    · next hrename =>
      exact .done (FileTree.read?_rename? (FileTree.fileAt?_write habove) hrename)
        (FileTree.keepsBut_rename? hfree hrename)
    · exact .failed (FileTree.keeps_erase_write hfree)

/-- So it is with the whole attempt, whose directories harm no file. -/
theorem attempt_allOrNothing (f : SnapshotFile) (t : FileTree) (hash : Text) (corpus : Corpus)
    (platform : Platform) :
    (f.attempt t hash corpus platform).AllOrNothing t f.path
      (encode hash corpus platform.payload) := by
  have hmade := FileTree.keeps_makeDirectories t f.directory
  unfold attempt
  split
  · exact .failed (FileTree.keeps_makeFirstDirectories ..)
  · dsimp only
    -- no directory, no name, no file of this name: then only directories have been made
    split
    · exact .failed hmade
    · split
      · exact .failed hmade
      · split
        · exact .failed hmade
        · next hfree =>
          have hnone := Option.not_isSome_iff_eq_none.1 (not_or.1 hfree).2
          exact (replaceThrough_allOrNothing _ hnone).of_keeps hmade

/-! ## Reading what was written -/

/-- What was written is read back under its hash, if the length of this fits its word. -/
lemma decode?_encode (hfits : (Bytes.ofText hash).length < Bytes.wordCount 8) (other : Text) :
    decode? other (encode hash corpus payload) payload =
      if hash = other then
        (payload.decode? (payload.encode corpus.toCorpusTables)).map fun (tables, _) => tables
      else none := by
  have hversion : formatVersion < Bytes.wordCount 4 := by decide
  rw [decode?, encode, encodeAs,
    examine_of_decode? (Header.decode?_encode ⟨formatVersion, hash⟩ hversion hfits _)]
  by_cases hhash : hash = other
  · rw [if_pos (congrArg _ hhash), if_pos hhash]
    cases payload.decode? (payload.encode corpus.toCorpusTables) <;> rfl
  · simp [hhash, Finding.value?]

/-- A file tree holds a snapshot of a corpus: it is loaded under its hash, with the same answers,
and under no other. -/
structure Holds (f : SnapshotFile) (t : FileTree) (hash : Text) (corpus : Corpus)
    (payload : Codec CorpusTables) : Prop where
  hit : ∃ loaded, f.load? t hash payload = some loaded ∧ loaded.SameAnswers corpus
  miss : ∀ other, other ≠ hash → f.load? t other payload = none

/-- Where the whole content of a snapshot stands, the snapshot is held. -/
lemma holds_of_read? {tables : CorpusTables} (hpayload : payload.Recovers tables)
    (hrows : tables.HasSingleRows) (hfits : (Bytes.ofText hash).length < Bytes.wordCount 8)
    (hread : t.read? f.path = some (encode hash (.ofTables tables) payload)) :
    f.Holds t hash (.ofTables tables) payload where
  hit := by
    obtain ⟨u, rest, hdecode, hreorders⟩ := hpayload hrows
    have hcorpus : payload.decode? (payload.encode (Corpus.ofTables tables).toCorpusTables) =
        some (u, rest) := hdecode
    refine ⟨.ofTables u, ?_, hreorders.sameAnswers hrows⟩
    rw [load?, loadAs?, hread, Option.bind_some, decode?_encode hfits, if_pos rfl, hcorpus]
    rfl
  miss other hne := by
    rw [load?, loadAs?, hread, Option.bind_some, decode?_encode hfits, if_neg (Ne.symm hne),
      Option.map_none]

/-- Nothing has changed for a snapshot: there are the same files with the same contents, the file of
the snapshot among them, and every corpus that could be loaded can still be loaded.  There may be
new directories, and with them a path that led nowhere may lead to one of the files. -/
structure Untouched (f : SnapshotFile) (t u : FileTree) (payload : Codec CorpusTables) : Prop where
  files : ∀ place, u.fileAt? place = t.fileAt? place
  content : ∀ {content}, t.read? f.path = some content → u.read? f.path = some content
  hit : ∀ {other loaded}, f.load? t other payload = some loaded →
    f.load? u other payload = some loaded

lemma untouched_of_keeps (h : t.Keeps u) : f.Untouched t u payload where
  files := h.fileAt?
  content := h.read?
  hit {other loaded} hload := by
    obtain ⟨content, hread, hdecode⟩ := Option.bind_eq_some_iff.1 hload
    exact Option.bind_eq_some_iff.2 ⟨content, h.read? hread, hdecode⟩

/-- A corpus that was stored is loaded with the same answers, and a failure to store it changes
nothing.  This holds in every state of the files and whatever the system refuses, for a codec that
reads back the maps of the corpus and for a hash whose length fits its word, as that of every text
in memory does. -/
theorem store_load (f : SnapshotFile) (t : FileTree) (hash : Text) (similarity : Similarity)
    (entries : List Entry) (platform : Platform)
    (hpayload : platform.payload.Recovers (.build similarity entries))
    (hfits : (Bytes.ofText hash).length < Bytes.wordCount 8) :
    (∀ u, f.store t hash (.build similarity entries) platform = .ok u →
      f.Holds u hash (.build similarity entries) platform.payload) ∧
    ∀ error, f.store t hash (.build similarity entries) platform = .error error →
      f.Untouched t (f.storeOrKeep t hash (.build similarity entries) platform)
        platform.payload := by
  have hattempt := f.attempt_allOrNothing t hash (.build similarity entries) platform
  unfold store storeOrKeep
  generalize f.attempt t hash (.build similarity entries) platform = a at hattempt ⊢
  cases hattempt with
  | done hread =>
    refine ⟨fun u hok => ?_, nofun⟩
    obtain rfl := Except.ok.inj hok
    exact holds_of_read? hpayload (CorpusTables.hasSingleRows_build ..) hfits hread
  | failed hkeeps => exact ⟨nofun, fun _ _ => untouched_of_keeps hkeeps⟩

/-- A file below a directory that has to be made. -/
def sample : SnapshotFile := ⟨"cache/index.bin".toList⟩

theorem store_load_sample :
    ∃ u, sample.store [] "h1".toList (.build .default Entry.samples) = .ok u ∧
      sample.Holds u "h1".toList (.build .default Entry.samples) .corpusTables ∧
      sample.store u "h2".toList (.build .default []) { refusal := some (.directories 1) } =
        .error (.directory sample.directory) ∧
      sample.Untouched u
        (sample.storeOrKeep u "h2".toList (.build .default [])
          { refusal := some (.directories 1) }) .corpusTables := by
  have hfull : Codec.corpusTables.Recovers (.build .default Entry.samples) :=
    Codec.recovers_corpusTables (by decide +kernel)
  have hempty : Codec.corpusTables.Recovers (.build .default []) :=
    Codec.recovers_corpusTables (by decide +kernel)
  have hok : (sample.store [] "h1".toList (.build .default Entry.samples)).isOk = true := by
    decide +kernel
  cases hu : sample.store [] "h1".toList (.build .default Entry.samples) with
  | error e =>
    rw [hu] at hok
    cases hok
  | ok u =>
    have herror : sample.store u "h2".toList (.build .default [])
        { refusal := some (.directories 1) } = .error (.directory sample.directory) := rfl
    exact ⟨u, rfl, (store_load _ _ _ _ _ {} hfull (by decide)).1 u hu, herror,
      (store_load _ _ _ _ _ { refusal := some (.directories 1) } hempty (by decide)).2 _ herror⟩

end SnapshotFile

end PinyinSearch
