import Mathlib.Tactic.Common
import PinyinSearch.Snapshot.SnapshotFile

/-!
# Digests of messages in parts

A hasher that takes a message in part by part arrives where it would have arrived with the whole
message at once (`Hasher.update_after`).  So the hash of some sources is that of their contents one
behind the other (`SnapshotFile.hashOf_eq`, `SnapshotFile.sourceHash_eq`), and it does not matter
where one content ends and the next begins.
-/

namespace PinyinSearch

namespace Digest

variable {n : Nat} {s : State} {bytes : Bytes}

/-! ## Blocks -/

/-- Blocks can be compressed some first and the others later. -/
lemma compressBlocks_add (m n : Nat) (s : State) (bytes : Bytes) :
    compressBlocks (m + n) s bytes =
      compressBlocks n (compressBlocks m s bytes) (bytes.drop (64 * m)) := by
  induction m generalizing s bytes with
  | zero => simp [compressBlocks]
  | succ m ih =>
    have hdrop : 64 + 64 * m = 64 * (m + 1) := by omega
    rw [Nat.add_right_comm, compressBlocks, ih, compressBlocks, List.drop_drop, hdrop]

/-- What follows the blocks does not matter. -/
lemma compressBlocks_append (h : 64 * n ≤ bytes.length) (more : Bytes) :
    compressBlocks n s (bytes ++ more) = compressBlocks n s bytes := by
  induction n generalizing s bytes with
  | zero => rfl
  | succ n ih =>
    have hblock : 64 ≤ bytes.length := by omega
    have hrest : 64 * n ≤ (bytes.drop 64).length := by
      rw [List.length_drop]
      omega
    rw [compressBlocks, compressBlocks, List.take_append_of_le_length hblock,
      List.drop_append_of_le_length hblock, ih hrest]

/-! ## Hashers -/

namespace Hasher

/-- The hasher that has taken in a message at once. -/
def after (message : Bytes) : Hasher where
  state := compressBlocks (message.length / 64) .start message
  pending := message.drop (64 * (message.length / 64))
  length := message.length

/-- What is left of a message with something behind it, when the whole blocks of the message were
compressed: the state that is reached from there is that of all blocks. -/
lemma compressBlocks_after (message more : Bytes) :
    compressBlocks (((after message).pending ++ more).length / 64) (after message).state
        ((after message).pending ++ more) =
      compressBlocks ((message ++ more).length / 64) .start (message ++ more) := by
  have hblocks : 64 * (message.length / 64) ≤ message.length := Nat.mul_div_le ..
  have hpending : (after message).pending ++ more =
      (message ++ more).drop (64 * (message.length / 64)) :=
    (List.drop_append_of_le_length hblocks).symm
  have hcount : (message ++ more).length / 64 =
      message.length / 64 + ((after message).pending ++ more).length / 64 := by
    rw [hpending, List.length_drop, List.length_append]
    omega
  rw [hcount, compressBlocks_add, compressBlocks_append hblocks, ← hpending]
  rfl

/-- One more part. -/
lemma update_after (message part : Bytes) :
    (after message).update part = after (message ++ part) := by
  have hblocks : 64 * (message.length / 64) ≤ message.length := Nat.mul_div_le ..
  rw [update, after.eq_def (message ++ part)]
  congr 1
  · exact compressBlocks_after message part
  · rw [after, ← List.drop_append_of_le_length hblocks, List.drop_drop]
    congr 1
    rw [List.length_drop, List.length_append]
    omega
  · rw [after, List.length_append]

/-- All parts of a message. -/
theorem foldl_update (message : Bytes) (parts : List Bytes) :
    parts.foldl update (after message) = after (message ++ parts.flatten) := by
  induction parts generalizing message with
  | nil => simp
  | cons part parts ih =>
    rw [List.foldl_cons, update_after, ih, List.flatten_cons, List.append_assoc]

lemma finish_after (message : Bytes) : (after message).finish = sha256 message := by
  rw [finish, sha256]
  exact congrArg (List.flatMap bytesOf ·.words) (compressBlocks_after message _)

end Hasher

lemma length_sha256 (message : Bytes) : (sha256 message).length = 32 := rfl

end Digest

/-! ## Hashes of sources -/

lemma Bytes.length_ofText_le (s : Text) : (ofText s).length ≤ 4 * s.length := by
  induction s with
  | nil => simp [ofText]
  | cons c s ih =>
    have hchar : (String.utf8EncodeChar c).length ≤ 4 := by
      rw [String.length_utf8EncodeChar]
      exact c.utf8Size_le_four
    rw [ofText, List.flatMap_cons, List.length_append, List.length_cons]
    rw [ofText] at ih
    omega

lemma Bytes.length_hex (bytes : Bytes) : (hex bytes).length = 2 * bytes.length := by
  simp [hex, List.length_flatMap, List.map_const', Nat.mul_comm]

namespace SnapshotFile

/-- The hash of some contents depends on what they are one behind the other. -/
theorem hashOf_eq (contents : List Bytes) :
    hashOf contents = Bytes.hex (Digest.sha256 contents.flatten) := by
  rw [hashOf, ← Digest.Hasher.finish_after]
  exact congrArg (Bytes.hex ·.finish) (Digest.Hasher.foldl_update [] contents)

/-- The hash of some sources is that of the contents that can be read. -/
theorem sourceHash_eq (t : FileTree) (sources : List Text) :
    sourceHash t sources = hashOf (sources.filterMap t.read?) := by
  rw [sourceHash, hashOf, List.foldl_filterMap]
  congr 3
  funext hasher source
  cases t.read? source <;> rfl

/-- The length of a hash fits the word that is kept for it. -/
lemma length_sourceHash_lt (t : FileTree) (sources : List Text) :
    (Bytes.ofText (sourceHash t sources)).length < Bytes.wordCount 8 := by
  have hbytes := Bytes.length_ofText_le (sourceHash t sources)
  have hword : 256 < Bytes.wordCount 8 := by decide
  rw [sourceHash_eq, hashOf_eq, Bytes.length_hex, Digest.length_sha256] at hbytes
  rw [sourceHash_eq, hashOf_eq]
  omega

end SnapshotFile

end PinyinSearch
