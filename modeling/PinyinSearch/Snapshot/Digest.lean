import PinyinSearch.Snapshot.Bytes

/-!
# SHA-256

The digest of a message by FIPS 180-4: the message is padded to whole blocks of 64 bytes, and each
block is compressed into a state of eight words.
-/

namespace PinyinSearch.Digest

/-- Turns a word to the right. -/
def rotate (w : UInt32) (n : UInt32) : UInt32 := (w >>> n) ||| (w <<< (32 - n))

/-- The constants of the rounds. -/
def roundConstants : List UInt32 := [
  0x428a2f98, 0x71374491, 0xb5c0fbcf, 0xe9b5dba5, 0x3956c25b, 0x59f111f1, 0x923f82a4, 0xab1c5ed5,
  0xd807aa98, 0x12835b01, 0x243185be, 0x550c7dc3, 0x72be5d74, 0x80deb1fe, 0x9bdc06a7, 0xc19bf174,
  0xe49b69c1, 0xefbe4786, 0x0fc19dc6, 0x240ca1cc, 0x2de92c6f, 0x4a7484aa, 0x5cb0a9dc, 0x76f988da,
  0x983e5152, 0xa831c66d, 0xb00327c8, 0xbf597fc7, 0xc6e00bf3, 0xd5a79147, 0x06ca6351, 0x14292967,
  0x27b70a85, 0x2e1b2138, 0x4d2c6dfc, 0x53380d13, 0x650a7354, 0x766a0abb, 0x81c2c92e, 0x92722c85,
  0xa2bfe8a1, 0xa81a664b, 0xc24b8b70, 0xc76c51a3, 0xd192e819, 0xd6990624, 0xf40e3585, 0x106aa070,
  0x19a4c116, 0x1e376c08, 0x2748774c, 0x34b0bcb5, 0x391c0cb3, 0x4ed8aa4a, 0x5b9cca4f, 0x682e6ff3,
  0x748f82ee, 0x78a5636f, 0x84c87814, 0x8cc70208, 0x90befffa, 0xa4506ceb, 0xbef9a3f7, 0xc67178f2]

/-- The eight words of a state. -/
structure State where
  a : UInt32
  b : UInt32
  c : UInt32
  d : UInt32
  e : UInt32
  f : UInt32
  g : UInt32
  h : UInt32
deriving DecidableEq, Repr, Inhabited

namespace State

/-- The state before the first block. -/
def start : State :=
  ⟨0x6a09e667, 0xbb67ae85, 0x3c6ef372, 0xa54ff53a, 0x510e527f, 0x9b05688c, 0x1f83d9ab, 0x5be0cd19⟩

/-- Adds two states word by word. -/
def add (s t : State) : State :=
  ⟨s.a + t.a, s.b + t.b, s.c + t.c, s.d + t.d, s.e + t.e, s.f + t.f, s.g + t.g, s.h + t.h⟩

/-- One round with its constant and its word of the schedule. -/
def round (s : State) (constant word : UInt32) : State :=
  let mixed := rotate s.e 6 ^^^ rotate s.e 11 ^^^ rotate s.e 25
  let choice := (s.e &&& s.f) ^^^ ((~~~s.e) &&& s.g)
  let t₁ := s.h + mixed + choice + constant + word
  let blended := rotate s.a 2 ^^^ rotate s.a 13 ^^^ rotate s.a 22
  let majority := (s.a &&& s.b) ^^^ (s.a &&& s.c) ^^^ (s.b &&& s.c)
  ⟨t₁ + (blended + majority), s.a, s.b, s.c, s.d + t₁, s.e, s.f, s.g⟩

/-- The words of a state. -/
def words (s : State) : List UInt32 := [s.a, s.b, s.c, s.d, s.e, s.f, s.g, s.h]

end State

/-- The word that four bytes write, most significant first. -/
def wordOf (bytes : Bytes) : UInt32 := bytes.foldl (fun w b => (w <<< 8) ||| b.toUInt32) 0

/-- The bytes of a word, most significant first. -/
def bytesOf (w : UInt32) : Bytes :=
  [(w >>> 24).toUInt8, (w >>> 16).toUInt8, (w >>> 8).toUInt8, w.toUInt8]

/-- The sixteen words of a block. -/
def blockWords (block : Bytes) : List UInt32 :=
  (List.range 16).map fun i => wordOf ((block.drop (4 * i)).take 4)

/-- Puts `n` more words before the words of a schedule, of which the latest comes first. -/
def extend : Nat → List UInt32 → List UInt32
  | 0, ws => ws
  | n + 1, ws =>
    let w := fun i => ws.getD (i - 1) 0
    let s₀ := rotate (w 15) 7 ^^^ rotate (w 15) 18 ^^^ (w 15 >>> 3)
    let s₁ := rotate (w 2) 17 ^^^ rotate (w 2) 19 ^^^ (w 2 >>> 10)
    extend n ((w 16 + s₀ + w 7 + s₁) :: ws)

/-- The sixty-four words that the rounds on a block use. -/
def schedule (block : Bytes) : List UInt32 := (extend 48 (blockWords block).reverse).reverse

/-- Compresses a block into a state. -/
def compress (s : State) (block : Bytes) : State :=
  ((roundConstants.zip (schedule block)).foldl (fun t (k, w) => t.round k w) s).add s

/-- What stands behind a message of a given length to fill whole blocks: a one bit, zeros and the
length in bits. -/
def padding (length : Nat) : Bytes :=
  0x80 :: List.replicate ((119 - length % 64) % 64) 0 ++ (Bytes.ofNatLE 8 (8 * length)).reverse

/-- Compresses the first `n` blocks of a padded message. -/
def compressBlocks : Nat → State → Bytes → State
  | 0, s, _ => s
  | n + 1, s, bytes => compressBlocks n (compress s (bytes.take 64)) (bytes.drop 64)

/-- The SHA-256 digest of a message. -/
def sha256 (message : Bytes) : Bytes :=
  let padded := message ++ padding message.length
  (compressBlocks (padded.length / 64) .start padded).words.flatMap bytesOf

/-! ## Messages in parts -/

/-- What was taken in of a message that comes part by part. -/
structure Hasher where
  /-- The state behind the whole blocks so far. -/
  state : State := .start
  /-- The bytes behind these blocks. -/
  pending : Bytes := []
  /-- The number of all bytes so far. -/
  length : Nat := 0

namespace Hasher

/-- Takes in the next part. -/
def update (h : Hasher) (part : Bytes) : Hasher :=
  let bytes := h.pending ++ part
  let blocks := bytes.length / 64
  { state := compressBlocks blocks h.state bytes
    pending := bytes.drop (64 * blocks)
    length := h.length + part.length }

/-- The digest of all that was taken in. -/
def finish (h : Hasher) : Bytes :=
  let rest := h.pending ++ padding h.length
  (compressBlocks (rest.length / 64) h.state rest).words.flatMap bytesOf

end Hasher

end PinyinSearch.Digest
