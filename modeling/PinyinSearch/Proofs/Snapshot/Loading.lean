import Mathlib.Data.Nat.Find
import Mathlib.Tactic.Common
import PinyinSearch.Proofs.Spelling
import PinyinSearch.Snapshot.SnapshotFile

/-!
# Loading a snapshot

Any bytes may stand where a snapshot is looked for.  `IsSnapshot` says which of them are one, byte
by byte; the main statement, `loadsSnapshots`, says that loading takes these and no others, and that
it never looks for the value behind the end of the file.  It holds for values of every type: for the
maps of a corpus, and for the records of such maps, whatever their fields say.

Where the value begins is told from the header that was read, by writing it anew (`Header.size`).
This is where the reader stopped, because a header is read from the very bytes that write it
(`Header.eq_of_decode?`).
-/

namespace PinyinSearch

namespace Codec

variable {α β : Type} {c : Codec α}

/-- Some bytes are a value in full: the value is read from them, and nothing is read from fewer of
them. -/
def Completes (c : Codec α) (a : α) (bytes : Bytes) : Prop :=
  (∃ rest, c.decode? bytes = some (a, rest)) ∧
    ∀ n, n < bytes.length → c.decode? (bytes.take n) = none

/-- What follows a value makes no difference to its reading, and nothing is read of a value that was
cut off. -/
structure Delimited (c : Codec α) : Prop where
  trailing : ∀ {bytes a rest} (more), c.decode? bytes = some (a, rest) →
    ∃ rest', c.decode? (bytes ++ more) = some (a, rest')
  truncated : ∀ a n, n < (c.encode a).length → c.decode? ((c.encode a).take n) = none

lemma Lawful.delimited (h : c.Lawful) : c.Delimited where
  trailing {bytes a rest} more hread := by
    refine ⟨rest ++ more, ?_⟩
    rw [h.eq_of_decode hread, List.append_assoc, h.decode_encode]
  truncated a n hn := by
    cases hread : c.decode? ((c.encode a).take n) with
    | none => rfl
    | some read =>
      have hnil := h.decode?_of_append (List.take_append_drop n (c.encode a)) hread
      exact absurd (List.drop_eq_nil_iff.1 hnil) (Nat.not_le.2 hn)

lemma Delimited.map (h : c.Delimited) (back : β → α) (forth : α → Option β) :
    (c.map back forth).Delimited where
  trailing {bytes b rest} more hread := by
    simp only [Codec.map, Option.bind_eq_some_iff, Option.map_eq_some_iff, Prod.mk.injEq] at hread
    obtain ⟨⟨a, rest⟩, hread, b, hforth, rfl, rfl⟩ := hread
    obtain ⟨rest', hmore⟩ := h.trailing more hread
    exact ⟨rest', by simp [Codec.map, hmore, hforth]⟩
  truncated b n hn := by
    simp only [Codec.map, h.truncated (back b) n hn, Option.bind_none]

/-- The layout of the maps of a corpus says where they end. -/
theorem delimited_corpusTables : corpusTables.Delimited :=
  lawful_indexRecord.delimited.map _ _

/-- What is read begins with a value in full. -/
lemma Delimited.exists_completes (h : c.Delimited) {bytes rest : Bytes} {a : α}
    (hread : c.decode? bytes = some (a, rest)) :
    ∃ body trailing, bytes = body ++ trailing ∧ c.Completes a body := by
  have hsome : ∃ n, (c.decode? (bytes.take n)).isSome := ⟨bytes.length, by simp [hread]⟩
  classical
  -- the shortest part at the front that can be read
  let n := Nat.find hsome
  obtain ⟨⟨b, rest'⟩, hb⟩ := Option.isSome_iff_exists.1 (Nat.find_spec hsome)
  obtain ⟨_, hwhole⟩ := h.trailing (bytes.drop n) hb
  rw [List.take_append_drop, hread] at hwhole
  obtain ⟨rfl, rfl⟩ := Prod.mk.inj (Option.some.inj hwhole)
  refine ⟨bytes.take n, bytes.drop n, (List.take_append_drop ..).symm, ⟨_, hb⟩, fun m hm => ?_⟩
  have hmn : m < n := Nat.lt_of_lt_of_le hm (List.length_take_le ..)
  rw [List.take_take, Nat.min_eq_left (Nat.le_of_lt hmn)]
  exact Option.not_isSome_iff_eq_none.1 (Nat.find_min hsome hmn)

end Codec

namespace SnapshotFile

/-! ## Headers -/

namespace Header

variable {h : Header} {bytes rest : Bytes}

lemma length_encode (h : Header) : h.encode.length = h.size := by
  simp only [encode, size, Codec.fixed, List.length_append, Bytes.length_ofNatLE]

/-- The fields of a header that was read fit their words. -/
lemma fits_of_decode? (hread : decode? bytes = some (h, rest)) :
    h.version < Bytes.wordCount 4 ∧ (Bytes.ofText h.hash).length < Bytes.wordCount 8 := by
  simp only [decode?, Option.bind_eq_some_iff, Option.map_eq_some_iff, Prod.mk.injEq] at hread
  obtain ⟨⟨version, rest₁⟩, hversion, ⟨length, rest₂⟩, hlength, ⟨hash, rest₃⟩, hhash, text, htext,
    rfl, rfl⟩ := hread
  refine ⟨(Codec.eq_of_decode?_fixed hversion).1, ?_⟩
  rw [← Bytes.eq_ofText_of_toText? htext, (Bytes.eq_of_split? hhash).1]
  exact (Codec.eq_of_decode?_fixed hlength).1

/-- More bytes behind a header are left over. -/
lemma decode?_append (hread : decode? bytes = some (h, rest)) (more : Bytes) :
    decode? (bytes ++ more) = some (h, rest ++ more) := by
  obtain ⟨hversion, hlength⟩ := fits_of_decode? hread
  rw [eq_of_decode? hread, List.append_assoc, decode?_encode h hversion hlength]

/-- The size of a header is where its reading ended. -/
lemma split?_size (hread : decode? bytes = some (h, rest)) :
    Bytes.split? h.size bytes = some (h.encode, rest) := by
  obtain rfl := eq_of_decode? hread
  simp [Bytes.split?, ← length_encode]

/-- Whatever a header that was read says of its length is there. -/
lemma length_of_decode? (hread : decode? bytes = some (h, rest)) :
    Bytes.toNatLE ((bytes.drop 4).take 8) = (Bytes.ofText h.hash).length ∧
      (bytes.drop 12).take (Bytes.ofText h.hash).length = Bytes.ofText h.hash := by
  obtain ⟨hversion, hlength⟩ := fits_of_decode? hread
  obtain rfl := eq_of_decode? hread
  have hfour : (Bytes.ofNatLE 4 h.version).length = 4 := Bytes.length_ofNatLE ..
  have height : ∀ n, (Bytes.ofNatLE 8 n).length = 8 := Bytes.length_ofNatLE _
  have htwelve : 12 = (Bytes.ofNatLE 4 h.version ++
      Bytes.ofNatLE 8 (Bytes.ofText h.hash).length).length := by simp
  constructor
  · simp only [encode, Codec.fixed, List.append_assoc]
    rw [List.drop_left' hfour, List.take_left' (height _), Bytes.toNatLE_ofNatLE hlength]
  · simp only [encode, Codec.fixed]
    rw [List.append_assoc, List.drop_left' htwelve.symm, List.take_left' rfl]

end Header

/-! ## Snapshots -/

variable {α β : Type}

/-- The content of a file is a snapshot of a value under a hash: four bytes with the version, eight
bytes with the length of the hash, the least significant byte of each first, the hash in UTF-8, the
value in full, and anything behind it. -/
inductive IsSnapshot (payload : Codec α) (hash : Text) (a : α) : Bytes → Prop where
  | intro {version length body : Bytes} (trailing : Bytes) :
    version.length = 4 →
    Bytes.toNatLE version = formatVersion →
    length.length = 8 →
    Bytes.toNatLE length = (Bytes.ofText hash).length →
    payload.Completes a body →
    IsSnapshot payload hash a (version ++ length ++ Bytes.ofText hash ++ body ++ trailing)

variable {payload : Codec α} {hash : Text} {content rest : Bytes} {header : Header} {a : α}

/-- Behind a header, the value is what decides. -/
lemma examine_of_decode? (hread : Header.decode? content = some (header, rest)) :
    examine hash content payload =
      if header = ⟨formatVersion, hash⟩ then
        match payload.decode? rest with
        | none => .miss
        | some (a, _) => .hit a
      else .miss := by
  obtain ⟨version, hash'⟩ := header
  simp only [examine, hread, Header.split?_size hread, Header.mk.injEq]
  cases payload.decode? rest <;> by_cases hversion : version = formatVersion <;>
    by_cases hhash : hash' = hash <;>
      simp only [hversion, hhash, ne_eq, not_true_eq_false, not_false_eq_true, if_true, if_false,
        and_true, and_false]

/-- What has no header is not looked at further. -/
lemma examine_of_decode?_eq_none (hread : Header.decode? content = none) :
    examine hash content payload = .miss := by
  simp only [examine, hread]

/-- The value never begins behind the end of the content. -/
lemma examine_ne_overrun : examine hash content payload ≠ .overrun := by
  cases hread : Header.decode? content with
  | none => simp [examine_of_decode?_eq_none hread]
  | some read =>
    obtain ⟨header, rest⟩ := read
    rw [examine_of_decode? hread]
    split
    · split <;> simp
    · simp

/-- A value is found behind a header of the version and with the hash, where it can be read. -/
lemma decode?_eq_some_iff :
    decode? hash content payload = some a ↔
      ∃ rest, Header.decode? content = some (⟨formatVersion, hash⟩, rest) ∧
        ∃ after, payload.decode? rest = some (a, after) := by
  rw [decode?]
  cases hread : Header.decode? content with
  | none => simp [examine_of_decode?_eq_none hread, Finding.value?]
  | some read =>
    obtain ⟨header, rest⟩ := read
    rw [examine_of_decode? hread]
    by_cases hheader : header = ⟨formatVersion, hash⟩
    · rw [if_pos hheader]
      cases hpayload : payload.decode? rest with
      | none => simp [hpayload, Finding.value?]
      | some read =>
        obtain ⟨b, after⟩ := read
        simp [hheader, hpayload, Finding.value?]
    · simp [hheader, Finding.value?]

/-- A snapshot begins with its header. -/
lemma IsSnapshot.decode? (h : IsSnapshot payload hash a content) :
    ∃ body trailing, Header.decode? content = some (⟨formatVersion, hash⟩, body ++ trailing) ∧
      payload.Completes a body := by
  obtain ⟨trailing, hfour, hversion, height, hlength, hbody⟩ := h
  rename_i version length body
  refine ⟨body, trailing, ?_, hbody⟩
  have hread : ∀ {n : Nat} {word : Bytes} (rest), word.length = n →
      (Codec.fixed n).decode? (word ++ rest) = some (Bytes.toNatLE word, rest) := by
    rintro n word rest rfl
    simp [Codec.fixed, Bytes.split?]
  simp only [Header.decode?, List.append_assoc, hread _ hfour, hread _ height, hversion, hlength,
    Option.bind_some, Bytes.split?, List.length_append, Nat.le_add_right, if_true, List.take_left,
    List.drop_left, Bytes.toText?_ofText, Option.map_some]

/-- What is read as a header and a value is a snapshot. -/
lemma isSnapshot_of_decode? {after : Bytes} (hpayload : payload.Delimited)
    (hheader : Header.decode? content = some (⟨formatVersion, hash⟩, rest))
    (hread : payload.decode? rest = some (a, after)) : IsSnapshot payload hash a content := by
  obtain ⟨hversion, hlength⟩ := Header.fits_of_decode? hheader
  obtain ⟨body, trailing, rfl, hbody⟩ := hpayload.exists_completes hread
  obtain rfl := Header.eq_of_decode? hheader
  have hsnapshot := IsSnapshot.intro trailing (Bytes.length_ofNatLE 4 formatVersion)
    (Bytes.toNatLE_ofNatLE hversion) (Bytes.length_ofNatLE 8 (Bytes.ofText hash).length)
    (Bytes.toNatLE_ofNatLE hlength) hbody
  simpa only [Header.encode, Codec.fixed, List.append_assoc] using hsnapshot

/-- A snapshot that was cut off is none. -/
lemma examine_take {other : Text} {n : Nat} (hpayload : payload.Delimited)
    (hfits : (Bytes.ofText other).length < Bytes.wordCount 8)
    (hn : n < (encodeAs other a payload).length) :
    examine hash ((encodeAs other a payload).take n) payload = .miss := by
  cases hread : Header.decode? ((encodeAs other a payload).take n) with
  | none => exact examine_of_decode?_eq_none hread
  | some read =>
    obtain ⟨header, rest⟩ := read
    -- the header that is left is the one that was written, so it is the value that was cut
    have hwhole := Header.decode?_append hread ((encodeAs other a payload).drop n)
    have hversion : formatVersion < Bytes.wordCount 4 := by decide
    rw [List.take_append_drop, encodeAs,
      Header.decode?_encode ⟨formatVersion, other⟩ hversion hfits] at hwhole
    obtain ⟨rfl, hvalue⟩ := Prod.mk.inj (Option.some.inj hwhole)
    have hfront := congrArg List.length (Header.eq_of_decode? hread)
    have hlengths := congrArg List.length hvalue
    simp only [encodeAs, List.length_take, List.length_append, List.length_drop]
      at hn hfront hlengths
    have hrest : rest = (payload.encode a).take rest.length := by
      rw [hvalue, List.take_left]
    have hnone : payload.decode? rest = none := by
      rw [hrest]
      exact hpayload.truncated _ _ (by omega)
    rw [examine_of_decode? hread, hnone]
    split <;> rfl

/-! ## Loading -/

/-- Loading under a hash takes the snapshots under this hash, whatever stands where a file is looked
for, and never looks behind its end.  The value may be of any type, and anything may be made of
it. -/
structure LoadsSnapshots (f : SnapshotFile) (t : FileTree) (hash : Text) (payload : Codec α)
    (restore : α → β) : Prop where
  /-- What is loaded is what a snapshot holds; without a file that can be read there is nothing. -/
  loads : ∀ loaded, f.loadAs? t hash payload restore = some loaded ↔
    ∃ content a, t.read? f.path = some content ∧ IsSnapshot payload hash a content ∧
      loaded = restore a
  /-- The value is never looked for behind the end. -/
  bounded : ∀ content, examine hash content payload ≠ .overrun
  /-- The value is looked for where the header ended. -/
  aligned : ∀ {content header rest}, Header.decode? content = some (header, rest) →
    header.size ≤ content.length ∧ content.drop header.size = rest
  /-- A hash that would be longer than the file is none. -/
  overlong : ∀ content, content.length < Bytes.toNatLE ((content.drop 4).take 8) →
    examine hash content payload = .miss
  /-- A hash that is no text is none. -/
  malformed : ∀ content,
    Bytes.toText? ((content.drop 12).take (Bytes.toNatLE ((content.drop 4).take 8))) = none →
      examine hash content payload = .miss
  /-- A snapshot that was cut off anywhere is none, if the length of its hash fits its word. -/
  truncated : ∀ {other a n}, (Bytes.ofText other).length < Bytes.wordCount 8 →
    n < (encodeAs other a payload).length →
      examine hash ((encodeAs other a payload).take n) payload = .miss

/-- Loading takes the snapshots and nothing else, if the value is written and read by a codec that
knows where it ends.  For the maps of a corpus and the trie that is added to them this is what is
true of `load?`. -/
theorem loadsSnapshots (f : SnapshotFile) (t : FileTree) (hash : Text) {payload : Codec α}
    (restore : α → β) (hpayload : payload.Delimited) :
    f.LoadsSnapshots t hash payload restore where
  loads loaded := by
    rw [loadAs?, Option.bind_eq_some_iff]
    refine exists_congr fun content => ?_
    rw [exists_and_left, Option.map_eq_some_iff]
    refine and_congr_right fun _ => exists_congr fun a => and_congr ?_ eq_comm
    rw [decode?_eq_some_iff]
    constructor
    · rintro ⟨rest, hheader, after, hread⟩
      exact isSnapshot_of_decode? hpayload hheader hread
    · intro hsnapshot
      obtain ⟨body, trailing, hheader, ⟨_, hbody⟩, _⟩ := hsnapshot.decode?
      exact ⟨_, hheader, hpayload.trailing trailing hbody⟩
  bounded content := examine_ne_overrun
  aligned {content header rest} hread := by
    obtain rfl := Header.eq_of_decode? hread
    simp [← Header.length_encode]
  overlong content hlt := by
    cases hread : Header.decode? content with
    | none => exact examine_of_decode?_eq_none hread
    | some read =>
      obtain ⟨header, rest⟩ := read
      rw [(Header.length_of_decode? hread).1, Header.eq_of_decode? hread] at hlt
      simp only [List.length_append, Header.length_encode, Header.size] at hlt
      omega
  malformed content hnone := by
    cases hread : Header.decode? content with
    | none => exact examine_of_decode?_eq_none hread
    | some read =>
      obtain ⟨header, rest⟩ := read
      obtain ⟨hlength, hhash⟩ := Header.length_of_decode? hread
      rw [hlength, hhash, Bytes.toText?_ofText] at hnone
      cases hnone
  truncated hfits hn := examine_take hpayload hfits hn

/-- A file tree in which a snapshot with some bytes behind it is the only file. -/
def sampleTree {α : Type} (a : α) (payload : Codec α) : FileTree :=
  [(["index.bin".toList], .file (encodeAs "h1".toList a payload ++ [0xDE, 0xAD]))]

/-- The record of a corpus, but for a rhyme that is not that of the text. -/
def sampleRecord : IndexRecord :=
  let r := (CorpusTables.build .default Entry.samples).record
  { r with entries := .ofList (r.entries.val.map fun e => { e with rhyme := .ofText "x".toList }) }

/-- A snapshot of a corpus is loaded in spite of the bytes behind it, and there is nothing for
another hash.  So is a snapshot of a record that belongs to no corpus. -/
theorem loadsSnapshots_sample :
    let f : SnapshotFile := ⟨"index.bin".toList⟩
    let t := sampleTree (CorpusTables.build .default Entry.samples) .corpusTables
    let u := sampleTree sampleRecord .indexRecord
    Codec.corpusTables.Delimited ∧ Codec.indexRecord.Delimited ∧
      f.LoadsSnapshots t "h1".toList .corpusTables Corpus.ofTables ∧
      f.LoadsSnapshots u "h1".toList .indexRecord IndexRecord.withTrie ∧
      (f.load? t "h1".toList).isSome = true ∧ (f.load? t "h2".toList).isSome = false ∧
      sampleRecord.tables? = none ∧
      (f.loadAs? u "h1".toList .indexRecord IndexRecord.withTrie).isSome = true :=
  have htables := Codec.delimited_corpusTables
  have hrecords := Codec.lawful_indexRecord.delimited
  ⟨htables, hrecords, loadsSnapshots _ _ _ _ htables, loadsSnapshots _ _ _ _ hrecords,
    by decide +kernel, by decide +kernel, by decide +kernel, by decide +kernel⟩

end SnapshotFile

end PinyinSearch
