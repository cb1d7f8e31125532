import PinyinSearch.Text

/-!
# Bytes

Lists of bytes, words of fixed width with the least significant byte first, hexadecimal text, and
the UTF-8 encoding of texts.
-/

namespace PinyinSearch

/-- A list of bytes. -/
abbrev Bytes := List UInt8

namespace Bytes

/-- The `width` low bytes of a number, least significant first. -/
def ofNatLE : (width : Nat) → Nat → Bytes
  | 0, _ => []
  | width + 1, n => UInt8.ofNat n :: ofNatLE width (n / 256)

/-- The number that bytes write, least significant first. -/
def toNatLE : Bytes → Nat
  | [] => 0
  | b :: rest => b.toNat + 256 * toNatLE rest

/-- The number of words of a width. -/
def wordCount : (width : Nat) → Nat
  | 0 => 1
  | width + 1 => 256 * wordCount width

/-- The first `n` bytes and the rest, `none` if there are fewer. -/
def split? (n : Nat) (bytes : Bytes) : Option (Bytes × Bytes) :=
  if n ≤ bytes.length then some (bytes.take n, bytes.drop n) else none

@[simp] theorem length_ofNatLE (width n : Nat) : (ofNatLE width n).length = width := by
  induction width generalizing n with
  | zero => rfl
  | succ width ih => simp [ofNatLE, ih]

/-- A number that fits is what its word writes. -/
theorem toNatLE_ofNatLE {width n : Nat} (fits : n < wordCount width) :
    toNatLE (ofNatLE width n) = n := by
  induction width generalizing n with
  | zero =>
    rw [wordCount] at fits
    simp only [ofNatLE, toNatLE]
    omega
  | succ width ih =>
    have rest : n / 256 < wordCount width := by
      rw [wordCount] at fits
      omega
    simp [ofNatLE, toNatLE, ih rest]
    omega

/-- Each word is that of the number it writes. -/
theorem ofNatLE_toNatLE (word : Bytes) : ofNatLE word.length (toNatLE word) = word := by
  induction word with
  | nil => rfl
  | cons b rest ih =>
    have bound := b.toNat_lt
    have low : UInt8.ofNat (b.toNat + 256 * toNatLE rest) = b := by
      apply UInt8.toNat_inj.1
      simp
    have high : (b.toNat + 256 * toNatLE rest) / 256 = toNatLE rest := by omega
    simp only [toNatLE, List.length_cons, ofNatLE, low, high, ih]

theorem toNatLE_lt (word : Bytes) : toNatLE word < wordCount word.length := by
  induction word with
  | nil => decide
  | cons b rest ih =>
    have bound := b.toNat_lt
    simp only [toNatLE, List.length_cons, wordCount]
    omega

theorem eq_of_split? {n : Nat} {bytes word rest : Bytes} (h : split? n bytes = some (word, rest)) :
    word.length = n ∧ bytes = word ++ rest := by
  unfold split? at h
  split at h
  · simp only [Option.some.injEq, Prod.mk.injEq] at h
    obtain ⟨rfl, rfl⟩ := h
    simp_all
  · cases h

/-- Two lower-case hexadecimal digits a byte. -/
def hex (bytes : Bytes) : Text :=
  bytes.flatMap fun b => [Nat.digitChar (b.toNat / 16), Nat.digitChar (b.toNat % 16)]

/-- The UTF-8 encoding of a text. -/
def ofText (s : Text) : Bytes := s.flatMap String.utf8EncodeChar

/-! ## Reading UTF-8 -/

/-- The number of bytes of a character with a given first byte. -/
def charLength (lead : UInt8) : Nat :=
  if lead < 0x80 then 1 else if lead < 0xE0 then 2 else if lead < 0xF0 then 3 else 4

/-- The bits that the first byte of a character contributes. -/
def leadBits (lead : UInt8) : Nat :=
  if lead < 0x80 then lead.toNat
  else if lead < 0xE0 then lead.toNat % 32
  else if lead < 0xF0 then lead.toNat % 16
  else lead.toNat % 8

/-- Reads one character.  What the bits say is taken only if it is a character whose encoding are
these very bytes. -/
def readChar? : Bytes → Option (Char × Bytes)
  | [] => none
  | lead :: rest =>
    let tail := rest.take (charLength lead - 1)
    let code := tail.foldl (fun n b => 64 * n + b.toNat % 64) (leadBits lead)
    let c := Char.ofNat code
    if String.utf8EncodeChar c = lead :: tail then some (c, rest.drop (charLength lead - 1))
    else none

theorem length_lt_of_readChar? {bytes rest : Bytes} {c : Char}
    (h : readChar? bytes = some (c, rest)) : rest.length < bytes.length := by
  cases bytes with
  | nil => simp [readChar?] at h
  | cons lead bytes =>
    simp only [readChar?] at h
    split at h
    · simp only [Option.some.injEq, Prod.mk.injEq] at h
      simp only [← h.2, List.length_drop, List.length_cons]
      omega
    · cases h

/-- Reads UTF-8; `none` if some bytes encode no character. -/
def toText? (bytes : Bytes) : Option Text :=
  match bytes with
  | [] => some []
  | b :: rest =>
    match _h : readChar? (b :: rest) with
    | none => none
    | some (c, after) => (toText? after).map (c :: ·)
termination_by bytes.length
decreasing_by exact length_lt_of_readChar? _h

/-- The first byte of a character tells its length and its highest bits, the others six bits
each. -/
theorem exists_utf8EncodeChar (c : Char) :
    ∃ lead tail, String.utf8EncodeChar c = lead :: tail ∧ tail.length = charLength lead - 1 ∧
      tail.foldl (fun n b => 64 * n + b.toNat % 64) (leadBits lead) = c.toNat := by
  have bound : c.toNat < 0x110000 := by
    have valid : c.toNat.isValidChar := c.valid
    simp only [Nat.isValidChar] at valid
    omega
  rw [String.utf8EncodeChar, show c.val.toNat = c.toNat from rfl]
  generalize c.toNat = code at bound
  split
  · refine ⟨_, _, rfl, ?_⟩
    simp [charLength, leadBits, UInt8.lt_iff_toNat_lt]
    grind
  split
  · refine ⟨_, _, rfl, ?_⟩
    simp [charLength, leadBits, UInt8.lt_iff_toNat_lt]
    grind
  split
  · refine ⟨_, _, rfl, ?_⟩
    simp [charLength, leadBits, UInt8.lt_iff_toNat_lt]
    grind
  · refine ⟨_, _, rfl, ?_⟩
    simp [charLength, leadBits, UInt8.lt_iff_toNat_lt]
    grind

theorem readChar?_append (c : Char) (rest : Bytes) :
    readChar? (String.utf8EncodeChar c ++ rest) = some (c, rest) := by
  obtain ⟨lead, tail, written, length, code⟩ := exists_utf8EncodeChar c
  rw [written, List.cons_append, readChar?]
  simp only [← length, List.take_left, List.drop_left, code, Char.ofNat_toNat, written, if_true]

theorem eq_of_readChar? {bytes rest : Bytes} {c : Char} (h : readChar? bytes = some (c, rest)) :
    bytes = String.utf8EncodeChar c ++ rest := by
  cases bytes with
  | nil => simp [readChar?] at h
  | cons lead bytes =>
    simp only [readChar?] at h
    split at h
    · rename_i written
      simp only [Option.some.injEq, Prod.mk.injEq] at h
      rw [← h.1, ← h.2, written, List.cons_append, List.take_append_drop]
    · cases h

/-- Bytes that are read as a text are its encoding. -/
theorem eq_ofText_of_toText? {bytes : Bytes} {s : Text} (h : toText? bytes = some s) :
    bytes = ofText s := by
  fun_induction toText? bytes generalizing s with
  | case1 => cases h; rfl
  | case2 => cases h
  | case3 b bytes c after read ih =>
    obtain ⟨rest, readRest, rfl⟩ := Option.map_eq_some_iff.1 h
    rw [eq_of_readChar? read, ih readRest]
    rfl

theorem toText?_ofText (s : Text) : toText? (ofText s) = some s := by
  induction s with
  | nil => rw [ofText, List.flatMap_nil, toText?]
  | cons c s ih =>
    obtain ⟨lead, tail, written, -⟩ := exists_utf8EncodeChar c
    have read := readChar?_append c (ofText s)
    rw [show ofText (c :: s) = String.utf8EncodeChar c ++ ofText s from rfl]
    rw [written, List.cons_append] at read ⊢
    rw [toText?]
    split
    · simp_all
    · simp_all

end Bytes

end PinyinSearch
