import PinyinSearch.Proofs.Snapshot.Digest
import PinyinSearch.Proofs.Snapshot.Storing

/-!
# Snapshots over time

Sources come, change and go, the file of a snapshot may be damaged or be gone, and between all this
corpora are stored and asked for.  Whatever has happened, a call asks the builder just when there is
no snapshot for the sources as they are (`serves`).

What one event can do is said once: it changes at most the file it is about, and takes no directory
away (`Event.keepsBut_apply`).  A file that no event of a run is about is then as it was
(`run_read?`).
-/

namespace PinyinSearch

namespace SnapshotFile

variable {f : SnapshotFile} {t u : FileTree} {hash : Text} {corpus : Corpus} {platform : Platform}
  {path : Text} {place : FileTree.Place} {sources : List Text} {build : Unit → Corpus}

/-! ## Events -/

/-- What may happen to the files around a snapshot.  To tamper with the snapshot is to write or
remove its file. -/
inductive Event where
  | write (path : Text) (content : Bytes)
  | remove (path : Text)
  | makeDirectories (path : Text)
  | store (hash : Text) (corpus : Corpus) (platform : Platform)
  | loadOrBuild (sources : List Text) (build : Unit → Corpus) (platform : Platform)

namespace Event

/-- The files after an event.  What cannot be written or removed is left as it is. -/
def apply (f : SnapshotFile) (t : FileTree) : Event → FileTree
  | write path content => (t.replace? path content).getD t
  | remove path => (t.remove? path).getD t
  | makeDirectories path => t.makeDirectories path
  | store hash corpus platform => f.storeOrKeep t hash corpus platform
  | loadOrBuild sources build platform => (f.loadOrBuild t sources build platform).tree

/-- The path of the file that an event is about. -/
def path? (f : SnapshotFile) : Event → Option Text
  | write path _ | remove path => some path
  | makeDirectories _ => none
  | store .. | loadOrBuild .. => some f.path

/-- The place where this path leads after the event. -/
def target? (f : SnapshotFile) (t : FileTree) (e : Event) : Option FileTree.Place :=
  (e.path? f).bind (e.apply f t).place?

end Event

/-- The files after some events. -/
def run (f : SnapshotFile) (t : FileTree) (events : List Event) : FileTree :=
  events.foldl (Event.apply f) t

/-- None of some events is about the file at a place. -/
def Spares (f : SnapshotFile) (place : FileTree.Place) : FileTree → List Event → Prop
  | _, [] => True
  | t, e :: events => e.target? f t ≠ some place ∧ f.Spares place (e.apply f t) events

instance : ∀ t events, Decidable (f.Spares place t events)
  | _, [] => inferInstanceAs (Decidable True)
  | t, e :: events =>
    have : Decidable (f.Spares place (e.apply f t) events) := instDecidableSpares _ events
    inferInstanceAs (Decidable (_ ∧ _))

/-! ## What events leave -/

/-- What was stored is read at the path, and nothing else has changed. -/
lemma stored_of_store_ok (h : f.store t hash corpus platform = .ok u) :
    f.storeOrKeep t hash corpus platform = u ∧
      u.read? f.path = some (encode hash corpus platform.payload) ∧
      t.KeepsBut (u.place? f.path) u := by
  have hattempt := f.attempt_allOrNothing t hash corpus platform
  rw [store] at h
  rw [storeOrKeep]
  generalize f.attempt t hash corpus platform = a at hattempt h ⊢
  cases hattempt with
  | done hread hbut =>
    obtain rfl := Except.ok.inj h
    exact ⟨rfl, hread, hbut⟩
  | failed => cases h

/-- Where nothing was stored, nothing has changed. -/
lemma keeps_of_store_error {error : SnapshotError}
    (h : f.store t hash corpus platform = .error error) :
    t.Keeps (f.storeOrKeep t hash corpus platform) := by
  have hattempt := f.attempt_allOrNothing t hash corpus platform
  rw [store] at h
  rw [storeOrKeep]
  generalize f.attempt t hash corpus platform = a at hattempt h ⊢
  cases hattempt with
  | done => cases h
  | failed hkeeps => exact hkeeps

/-- An attempt to store changes at most the file of the snapshot. -/
lemma keepsBut_storeOrKeep :
    t.KeepsBut ((f.storeOrKeep t hash corpus platform).place? f.path)
      (f.storeOrKeep t hash corpus platform) := by
  cases h : f.store t hash corpus platform with
  | ok u =>
    obtain ⟨htree, -, hbut⟩ := stored_of_store_ok h
    rwa [htree]
  | error error => exact (keeps_of_store_error h).keepsBut

lemma loadOrBuild_of_hit {loaded : Corpus}
    (h : f.load? t (sourceHash t sources) platform.payload = some loaded) :
    f.loadOrBuild t sources build platform = ⟨t, loaded, false⟩ := by
  simp only [loadOrBuild, h]

lemma loadOrBuild_of_miss (h : f.load? t (sourceHash t sources) platform.payload = none) :
    f.loadOrBuild t sources build platform =
      ⟨f.storeOrKeep t (sourceHash t sources) (build ()) platform, build (), true⟩ := by
  simp only [loadOrBuild, h]

/-- An event changes at most the file it is about, and takes no directory away. -/
lemma Event.keepsBut_apply (e : Event) : t.KeepsBut (e.target? f t) (e.apply f t) := by
  cases e with
  | write path content =>
    rw [target?, path?, apply, Option.bind_some]
    cases hu : t.replace? path content with
    | none => exact (FileTree.Keeps.refl t).keepsBut
    | some u => exact FileTree.keepsBut_replace? hu
  | remove path =>
    rw [target?, path?, apply, Option.bind_some]
    cases hu : t.remove? path with
    | none => exact (FileTree.Keeps.refl t).keepsBut
    | some u => exact FileTree.keepsBut_remove? hu
  | makeDirectories path => exact (FileTree.keeps_makeDirectories t path).keepsBut
  | store hash corpus platform => exact keepsBut_storeOrKeep
  | loadOrBuild sources build platform =>
    rw [target?, path?, apply, Option.bind_some]
    cases hload : f.load? t (sourceHash t sources) platform.payload with
    | some loaded =>
      rw [loadOrBuild_of_hit hload]
      exact (FileTree.Keeps.refl t).keepsBut
    | none =>
      rw [loadOrBuild_of_miss hload]
      exact keepsBut_storeOrKeep

/-- A file that no event is about is read as before. -/
theorem run_read? {events : List Event} (hplace : t.place? path = some place)
    (hspares : f.Spares place t events) : (f.run t events).read? path = t.read? path := by
  induction events generalizing t with
  | nil => rfl
  | cons e events ih =>
    obtain ⟨hne, hrest⟩ := hspares
    have hbut := e.keepsBut_apply (f := f) (t := t)
    have hsame := hbut.place? hplace
    have hread : (e.apply f t).read? path = t.read? path :=
      hbut.read? (hsame.trans hplace.symm) (.inr fun heq => hne (heq.symm.trans hsame))
    exact (ih hsame hrest).trans hread

/-! ## Calls -/

/-- What is true of a call for a corpus, and of the next one. -/
structure Serves (f : SnapshotFile) (t : FileTree) (sources : List Text) (build : Unit → Corpus)
    (platform : Platform) : Prop where
  /-- The hash is that of the contents that can be read, wherever one ends and the next begins. -/
  hashed : sourceHash t sources = hashOf (sources.filterMap t.read?) ∧
    ∀ {contents : List Bytes}, contents.flatten = (sources.filterMap t.read?).flatten →
      hashOf contents = sourceHash t sources
  /-- A corpus is built just when none can be loaded. -/
  built_iff : (f.loadOrBuild t sources build platform).built = true ↔
    f.load? t (sourceHash t sources) platform.payload = none
  /-- A corpus that can be loaded is the answer. -/
  hit : ∀ {loaded}, f.load? t (sourceHash t sources) platform.payload = some loaded →
    f.loadOrBuild t sources build platform = ⟨t, loaded, false⟩
  /-- Else the builder's is, whether or not it can be written. -/
  miss : f.load? t (sourceHash t sources) platform.payload = none →
    (f.loadOrBuild t sources build platform).corpus = build ()
  /-- If it cannot be written, nothing has changed. -/
  refused : ∀ {error}, f.load? t (sourceHash t sources) platform.payload = none →
    f.store t (sourceHash t sources) (build ()) platform = .error error →
      f.Untouched t (f.loadOrBuild t sources build platform).tree platform.payload
  /-- If it was written, it answers the next call, as long as the sources and the file of the
  snapshot read as before. -/
  reused : ∀ {u between tables}, f.load? t (sourceHash t sources) platform.payload = none →
    f.store t (sourceHash t sources) (build ()) platform = .ok u →
    build () = .ofTables tables → tables.HasSingleRows →
    (f.run u between).read? f.path = u.read? f.path →
    sources.filterMap (f.run u between).read? = sources.filterMap t.read? →
      (f.loadOrBuild t sources build platform).tree = u ∧
        ∀ {build' platform'}, platform'.payload = platform.payload →
          ∃ loaded, loaded.SameAnswers (build ()) ∧
            f.loadOrBuild (f.run u between) sources build' platform' =
              ⟨f.run u between, loaded, false⟩
  /-- Writing it changes no source, unless a source is the file of the snapshot or is found by way
  of a directory that was not there. -/
  spared : ∀ {u}, f.store t (sourceHash t sources) (build ()) platform = .ok u →
    (∀ source ∈ sources, u.place? source = t.place? source) →
    (∀ source ∈ sources, u.place? source ≠ u.place? f.path) →
      sources.filterMap u.read? = sources.filterMap t.read?

/-- Where the file of a snapshot reads as it was written, and the sources as they were, the corpus
is loaded. -/
lemma exists_loadOrBuild_eq {v : FileTree} {tables : CorpusTables} {platform' : Platform}
    {build' : Unit → Corpus} (hpayload : platform.payload.Recovers tables)
    (hrows : tables.HasSingleRows)
    (hread : v.read? f.path =
      some (encode (sourceHash t sources) (.ofTables tables) platform.payload))
    (hsources : sources.filterMap v.read? = sources.filterMap t.read?)
    (hsame : platform'.payload = platform.payload) :
    ∃ loaded, loaded.SameAnswers (.ofTables tables) ∧
      f.loadOrBuild v sources build' platform' = ⟨v, loaded, false⟩ := by
  have hhash : sourceHash v sources = sourceHash t sources := by
    rw [sourceHash_eq, hsources, ← sourceHash_eq]
  obtain ⟨loaded, hload, hanswers⟩ :=
    (holds_of_read? hpayload hrows (length_sourceHash_lt t sources) hread).hit
  exact ⟨loaded, hanswers, loadOrBuild_of_hit (by rw [hhash, hsame, hload])⟩

/-- A call for a corpus finds what was stored for the sources as they are, or builds it, after any
history, whatever the system refuses, and for every codec that reads back the maps that are
built. -/
theorem serves (f : SnapshotFile) (start : FileTree) (before : List Event) (sources : List Text)
    (build : Unit → Corpus) (platform : Platform)
    (hpayload : platform.payload.Recovers (build ()).toCorpusTables) :
    f.Serves (f.run start before) sources build platform where
  hashed := by
    refine ⟨sourceHash_eq _ sources, fun {contents} hcontents => ?_⟩
    rw [sourceHash_eq, hashOf_eq, hashOf_eq, hcontents]
  built_iff := by
    generalize f.run start before = t
    cases hload : f.load? t (sourceHash t sources) platform.payload with
    | some loaded => simp [loadOrBuild_of_hit hload]
    | none => simp [loadOrBuild_of_miss hload]
  hit := loadOrBuild_of_hit
  miss hload := by rw [loadOrBuild_of_miss hload]
  refused {error} hload herror := by
    rw [loadOrBuild_of_miss hload]
    exact untouched_of_keeps (keeps_of_store_error herror)
  reused {u between tables} hload hok hbuild hrows hfile hsources := by
    obtain ⟨htree, hread, -⟩ := stored_of_store_ok hok
    rw [loadOrBuild_of_miss hload]
    rw [hbuild] at htree hread hpayload ⊢
    exact ⟨htree, exists_loadOrBuild_eq hpayload hrows (hfile.trans hread) hsources⟩
  spared {u} hok hplaces hothers := by
    obtain ⟨-, -, hbut⟩ := stored_of_store_ok hok
    refine List.filterMap_congr fun source hsource => ?_
    exact hbut.read? (hplaces source hsource) (.inr (hothers source hsource))

/-- A history in which a damaged file stands for the snapshot and one source of two is there. -/
def sampleHistory : List Event :=
  [.write "words".toList [1], .makeDirectories "cache".toList,
    .write "cache/index.bin".toList [2, 0, 0, 0]]

/-- The damaged file is a miss.  When its place was taken by a snapshot and other files have come
and gone, this snapshot is what the next call finds. -/
theorem serves_sample :
    let t := sample.run [] sampleHistory
    let sources := ["words".toList, "phrases".toList]
    let corpus : Corpus := .build .default Entry.samples
    let between := [.write "notes".toList [3], .remove "notes".toList,
      .makeDirectories "notes".toList]
    ∃ u, sample.store t (sourceHash t sources) corpus = .ok u ∧
      (sample.loadOrBuild t sources fun _ => corpus).tree = u ∧
      (sample.loadOrBuild t sources fun _ => corpus).built = true ∧
      ∃ loaded, loaded.SameAnswers corpus ∧
        sample.loadOrBuild (sample.run u between) sources (fun _ => .build .default []) =
          ⟨sample.run u between, loaded, false⟩ := by
  intro t sources corpus between
  have hpayload : Codec.corpusTables.Recovers corpus.toCorpusTables :=
    Codec.recovers_corpusTables (by decide +kernel)
  have hserves := serves sample [] sampleHistory sources (fun _ => corpus) {} hpayload
  have hmiss : sample.load? t (sourceHash t sources) = none := by decide +kernel
  have hok : (sample.store t (sourceHash t sources) corpus).isOk = true := by decide +kernel
  cases hu : sample.store t (sourceHash t sources) corpus with
  | error e =>
    rw [hu] at hok
    cases hok
  | ok u =>
    obtain ⟨rfl, -, -⟩ := stored_of_store_ok hu
    have hplace : (sample.storeOrKeep t (sourceHash t sources) corpus).place? sample.path =
        some ["cache".toList, "index.bin".toList] := by decide +kernel
    have hspares : sample.Spares ["cache".toList, "index.bin".toList]
        (sample.storeOrKeep t (sourceHash t sources) corpus) between := by decide +kernel
    obtain ⟨htree, hnext⟩ := hserves.reused hmiss hu rfl (CorpusTables.hasSingleRows_build ..)
      (run_read? hplace hspares) (by decide +kernel)
    have hsame : Platform.payload {} = Platform.payload {} := rfl
    obtain ⟨loaded, hanswers, hload⟩ := hnext hsame
    exact ⟨_, rfl, htree, hserves.built_iff.2 hmiss, loaded, hanswers, hload⟩

end SnapshotFile

end PinyinSearch
