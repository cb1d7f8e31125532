import PinyinSearch.Snapshot.CorpusCodec
import PinyinSearch.Snapshot.Digest
import PinyinSearch.Snapshot.FileTree

/-!
# Snapshots of a corpus

A corpus can be kept in a file together with a hash of the sources it was made from.  The file
holds a format version, the hash and the maps of the corpus, in a layout that is a parameter.  It is
taken for the corpus only while the hash is that of the sources; a file that is missing, damaged or
out of date counts as none.  A new file is written beside the old one and takes its place when it is
complete.
-/

namespace PinyinSearch

/-- The file that holds a snapshot, by its path. -/
structure SnapshotFile where
  path : Text
deriving DecidableEq, Repr

/-- Why a snapshot could not be written, with the path concerned. -/
inductive SnapshotError where
  /-- The directory cannot be made, or no file in it. -/
  | directory (path : Text)
  /-- The file cannot be written or put in its place. -/
  | file (path : Text)
  /-- The corpus cannot be encoded. -/
  | encoding
deriving DecidableEq, Repr

namespace SnapshotError

/-- The path concerned, empty if there is none. -/
def path : SnapshotError → Text
  | directory p => p
  | file p => p
  | encoding => []

end SnapshotError

/-! ## What a snapshot relies on -/

/-- Where the system refuses to go on while a snapshot is written. -/
inductive Refusal where
  /-- Only so many of the directories on the way can be made. -/
  | directories (count : Nat)
  /-- No temporary file can be made. -/
  | temporary
  /-- The encoding ends after so many bytes. -/
  | encoding (count : Nat)
  /-- Only so many bytes reach the temporary file. -/
  | flushing (count : Nat)
  /-- The temporary file cannot be moved. -/
  | renaming
deriving DecidableEq, Repr

/-- What keeping a snapshot leaves to others. -/
structure Platform where
  /-- How the maps of a corpus are written as bytes. -/
  payload : Codec CorpusTables := .corpusTables
  /-- The name under which a temporary file is made in a directory. -/
  temporaryName? : FileTree → FileTree.Place → Option Text := FileTree.temporaryName?
  /-- What the system refuses, if anything. -/
  refusal : Option Refusal := none

namespace SnapshotFile

/-! ## Hashes -/

/-- The hash of some contents, one behind the other: the digest in hexadecimal. -/
def hashOf (contents : List Bytes) : Text :=
  Bytes.hex (contents.foldl Digest.Hasher.update {}).finish

/-- The hash of the files at some paths, one behind the other; those that cannot be read do not
count. -/
def sourceHash (t : FileTree) (sources : List Text) : Text :=
  let hasher := sources.foldl (fun (h : Digest.Hasher) source =>
    match t.read? source with
    | some content => h.update content
    | none => h) {}
  Bytes.hex hasher.finish

/-! ## Format -/

/-- The version of the format. -/
def formatVersion : Nat := 2

/-- What stands before the corpus: the version, the length of the hash and the hash. -/
structure Header where
  version : Nat
  hash : Text
deriving DecidableEq, Repr

namespace Header

/-- Writes a header: the version in four bytes, the length of the hash in eight, the hash in
UTF-8. -/
def encode (h : Header) : Bytes :=
  let hash := Bytes.ofText h.hash
  (Codec.fixed 4).encode h.version ++ (Codec.fixed 8).encode hash.length ++ hash

/-- Reads a header: the header and what follows it. -/
def decode? (bytes : Bytes) : Option (Header × Bytes) :=
  ((Codec.fixed 4).decode? bytes).bind fun (version, rest) =>
    ((Codec.fixed 8).decode? rest).bind fun (length, rest) =>
      (Bytes.split? length rest).bind fun (hash, rest) =>
        (Bytes.toText? hash).map fun hash => (⟨version, hash⟩, rest)

/-- The number of bytes that a header takes. -/
def size (h : Header) : Nat := 4 + 8 + (Bytes.ofText h.hash).length

/-- The bytes at the front of a file that its header takes, as far as there are any. -/
def extent (bytes : Bytes) : Bytes := bytes.take (12 + Bytes.toNatLE ((bytes.drop 4).take 8))

/-- A header whose fields fit their words is read back. -/
theorem decode?_encode (h : Header) (version_lt : h.version < Bytes.wordCount 4)
    (length_lt : (Bytes.ofText h.hash).length < Bytes.wordCount 8) (rest : Bytes) :
    decode? (h.encode ++ rest) = some (h, rest) := by
  simp [decode?, encode, List.append_assoc, Codec.decode?_fixed 4 version_lt,
    Codec.decode?_fixed 8 length_lt, Bytes.split?, Bytes.toText?_ofText]

/-- What is read as a header is what writes it. -/
theorem eq_of_decode? {bytes rest : Bytes} {h : Header} (read : decode? bytes = some (h, rest)) :
    bytes = h.encode ++ rest := by
  simp only [decode?, Option.bind_eq_some_iff, Option.map_eq_some_iff, Prod.mk.injEq] at read
  obtain ⟨⟨version, rest₁⟩, readVersion, ⟨length, rest₂⟩, readLength, ⟨hash, rest₃⟩, readHash, text,
    readText, rfl, rfl⟩ := read
  obtain ⟨rfl, eqHash⟩ := Bytes.eq_of_split? readHash
  have eqVersion := (Codec.eq_of_decode?_fixed readVersion).2
  have eqLength := (Codec.eq_of_decode?_fixed readLength).2
  have eqText := Bytes.eq_ofText_of_toText? readText
  simp_all [encode]

end Header

/-- The content of a file for a value and a hash. -/
def encodeAs {α : Type} (hash : Text) (a : α) (payload : Codec α) : Bytes :=
  Header.encode ⟨formatVersion, hash⟩ ++ payload.encode a

/-- The content of the file for a corpus and the hash of its sources.  The trie of syllables is not
written. -/
def encode (hash : Text) (corpus : Corpus) (payload : Codec CorpusTables := .corpusTables) :
    Bytes :=
  encodeAs hash corpus.toCorpusTables payload

/-- What the content of a file comes to. -/
inductive Finding (α : Type) where
  /-- A value that was written for sources with the hash. -/
  | hit (a : α)
  /-- None, or one that is out of date. -/
  | miss
  /-- The value would begin behind the end of the content. -/
  | overrun

/-- The value that was found, if there is one. -/
def Finding.value? {α : Type} : Finding α → Option α
  | hit a => some a
  | miss | overrun => none

/-- Looks at the content of a file: the header, its version, its hash, and behind it the value.
Where the value begins is told from the header anew.  What follows it does not matter. -/
def examine {α : Type} (hash : Text) (bytes : Bytes) (payload : Codec α) : Finding α :=
  match Header.decode? bytes with
  | none => .miss
  | some (header, _) =>
    if header.version ≠ formatVersion then .miss
    else if header.hash ≠ hash then .miss
    else
      match Bytes.split? header.size bytes with
      | none => .overrun
      | some (_, rest) =>
        match payload.decode? rest with
        | none => .miss
        | some (a, _) => .hit a

/-- The value in the content of a file, if the file has the right version and hash. -/
def decode? {α : Type} (hash : Text) (bytes : Bytes) (payload : Codec α) : Option α :=
  (examine hash bytes payload).value?

/-! ## Reading and writing -/

/-- The file below the home directory, or below the current one where there is no home. -/
def defaultPath (home : Option Text) : Text :=
  [".cache", "lexicon-lab", "index.bin"].foldl (fun path name => FileTree.join path name.toList)
    (home.getD ['.'])

/-- The path to the directory of the file; an empty path stands for the current directory. -/
def directory (f : SnapshotFile) : Text :=
  match FileTree.parent f.path with
  | [] => ['.']
  | path => path

/-- What the value in the file gives, if it was written for sources with the given hash. -/
def loadAs? {α β : Type} (f : SnapshotFile) (t : FileTree) (hash : Text) (payload : Codec α)
    (restore : α → β) : Option β :=
  (t.read? f.path).bind fun content => (decode? hash content payload).map restore

/-- The corpus in the file, if it was made from sources with the given hash: the maps that were
read, with a trie of their syllables. -/
def load? (f : SnapshotFile) (t : FileTree) (hash : Text)
    (payload : Codec CorpusTables := .corpusTables) : Option Corpus :=
  f.loadAs? t hash payload .ofTables

/-- What is left of a file tree when something was tried, and the error if it failed. -/
structure Attempt where
  tree : FileTree
  error? : Option SnapshotError := none

/-- Writes a content to a temporary file and moves this to the path of a snapshot.  If anything
fails, the temporary file is removed. -/
def replaceThrough (f : SnapshotFile) (t : FileTree) (here : FileTree.Place) (name : Text)
    (content : Bytes) (refusal : Option Refusal) : Attempt :=
  let temporary := here ++ [name]
  let giveUp (written : Nat) (error : SnapshotError) : Attempt :=
    ⟨(t.write temporary (content.take written)).erase temporary, some error⟩
  match refusal with
  | some (.encoding count) => giveUp count .encoding
  | some (.flushing count) => giveUp count (.file (FileTree.join f.directory name))
  | some .renaming => giveUp content.length (.file f.path)
  | _ =>
    match (t.write temporary content).rename? temporary f.path with
    | some t => ⟨t, none⟩
    | none => giveUp content.length (.file f.path)

/-- Tries to write a corpus.  The directory is made first, then a temporary file in it, where
nothing is yet; this takes the place of the snapshot as a whole. -/
def attempt (f : SnapshotFile) (t : FileTree) (hash : Text) (corpus : Corpus)
    (platform : Platform := {}) : Attempt :=
  let refused (t : FileTree) : Attempt := ⟨t, some (.directory f.directory)⟩
  match platform.refusal with
  | some (.directories count) => refused (t.makeFirstDirectories f.directory count)
  | refusal =>
    let t := t.makeDirectories f.directory
    match t.directory? f.directory with
    | none => refused t
    | some here =>
      match platform.temporaryName? t here with
      | none => refused t
      | some name =>
        if refusal = some .temporary ∨ (t.node? (here ++ [name])).isSome then refused t
        else f.replaceThrough t here name (encode hash corpus platform.payload) refusal

/-- Writes a corpus. -/
def store (f : SnapshotFile) (t : FileTree) (hash : Text) (corpus : Corpus)
    (platform : Platform := {}) : Except SnapshotError FileTree :=
  match f.attempt t hash corpus platform with
  | ⟨t, none⟩ => .ok t
  | ⟨_, some error⟩ => .error error

/-- What is left of a file tree when a corpus was written, or when it could not be. -/
def storeOrKeep (f : SnapshotFile) (t : FileTree) (hash : Text) (corpus : Corpus)
    (platform : Platform := {}) : FileTree :=
  (f.attempt t hash corpus platform).tree

/-- The outcome of asking for a corpus. -/
structure Outcome where
  tree : FileTree
  corpus : Corpus
  /-- Whether the corpus had to be built. -/
  built : Bool

/-- The corpus in the file if it was made from the present sources, else a corpus built anew, which
is then written if it can be. -/
def loadOrBuild (f : SnapshotFile) (t : FileTree) (sources : List Text) (build : Unit → Corpus)
    (platform : Platform := {}) : Outcome :=
  let hash := sourceHash t sources
  match f.load? t hash platform.payload with
  | some corpus => ⟨t, corpus, false⟩
  | none =>
    let corpus := build ()
    ⟨f.storeOrKeep t hash corpus platform, corpus, true⟩

end SnapshotFile

end PinyinSearch
