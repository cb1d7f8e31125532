import PinyinSearch.Snapshot.Bytes

/-!
# Codecs

A codec writes the values of a type as bytes and reads them back from the front of a list of bytes.
Codecs are built from one another along the structure of the types, in a layout without padding:
numbers are words of eight bytes with the least significant byte first, texts and lists stand behind
their length, optional values behind a byte, and a case of an enumeration is its number in four
bytes.

A codec is `Lawful` when what it writes is read back, whatever follows, and when it reads nothing
but what it writes; then no proper beginning of what it writes can be read.  The types are bounded
so that every value of them can be written.
-/

namespace PinyinSearch

/-- A way to write values as bytes and to read them back. -/
structure Codec (α : Type) where
  encode : α → Bytes
  /-- Reads a value from the front: the value and the bytes behind it. -/
  decode? : Bytes → Option (α × Bytes)

namespace Codec

/-- What is written is read back whatever follows it, and nothing else is read. -/
structure Lawful {α : Type} (c : Codec α) : Prop where
  decode_encode : ∀ a rest, c.decode? (c.encode a ++ rest) = some (a, rest)
  eq_of_decode : ∀ {bytes a rest}, c.decode? bytes = some (a, rest) → bytes = c.encode a ++ rest

variable {α β : Type} {c : Codec α} {d : Codec β}

/-- Nothing that begins with less than a written value can be read as that value is: if a value is
read from the front of what is written, it is the written one, and nothing is missing. -/
theorem Lawful.decode?_of_append (lawful : c.Lawful) {bytes missing rest : Bytes} {a b : α}
    (written : bytes ++ missing = c.encode a) (read : c.decode? bytes = some (b, rest)) :
    missing = [] := by
  have whole := lawful.decode_encode a []
  rw [List.append_nil, ← written, lawful.eq_of_decode read, List.append_assoc,
    lawful.decode_encode] at whole
  simp only [Option.some.injEq, Prod.mk.injEq, List.append_eq_nil_iff] at whole
  exact whole.2.2

/-! ## Bounded values -/

/-- Numbers that fit a word of a width. -/
abbrev Word (width : Nat) := { n : Nat // n < Bytes.wordCount width }

/-- Lists whose length fits a word of eight bytes. -/
abbrev Sequence (α : Type) := { as : List α // as.length < Bytes.wordCount 8 }

/-- Texts whose encoding has a length that fits a word of eight bytes. -/
abbrev BoundedText := { s : Text // (Bytes.ofText s).length < Bytes.wordCount 8 }

/-- A value, if it is within bounds.  What a memory with addresses of eight bytes holds is. -/
def clip {p : α → Prop} [DecidablePred p] (beyond : { a // p a }) (a : α) : { a // p a } :=
  if h : p a then ⟨a, h⟩ else beyond

/-- A number as a word. -/
def Word.ofNat (n : Nat) : Word 8 := clip ⟨0, by decide⟩ n

/-- A list as a sequence. -/
def Sequence.ofList (as : List α) : Sequence α := clip ⟨[], Nat.zero_lt_succ _⟩ as

/-- A text that is bounded. -/
def BoundedText.ofText (s : Text) : BoundedText := clip ⟨[], by decide⟩ s

/-! ## Words -/

/-- Numbers below 256 to the power of `width`, in `width` bytes. -/
def fixed (width : Nat) : Codec Nat where
  encode := Bytes.ofNatLE width
  decode? bytes := (Bytes.split? width bytes).map fun (word, rest) => (Bytes.toNatLE word, rest)

/-- The value that was read, if it is within bounds. -/
def within {p : α → Prop} [DecidablePred p] (c : Codec α) : Codec { a // p a } where
  encode a := c.encode a.val
  decode? bytes :=
    (c.decode? bytes).bind fun (a, rest) => if h : p a then some (⟨a, h⟩, rest) else none

/-- Words of a width. -/
def word (width : Nat) : Codec (Word width) := (fixed width).within

/-- Characters, in UTF-8. -/
def char : Codec Char := ⟨String.utf8EncodeChar, Bytes.readChar?⟩

/-- Texts in UTF-8, behind the length of their encoding. -/
def text : Codec BoundedText := within {
  encode s := (fixed 8).encode (Bytes.ofText s).length ++ Bytes.ofText s
  decode? bytes :=
    ((fixed 8).decode? bytes).bind fun (length, rest) =>
      (Bytes.split? length rest).bind fun (written, rest) =>
        (Bytes.toText? written).map fun s => (s, rest) }

/-! ## Combinations -/

/-- Values that are written as the values of another type. -/
def map (c : Codec α) (back : β → α) (forth : α → Option β) : Codec β where
  encode b := c.encode (back b)
  decode? bytes := (c.decode? bytes).bind fun (a, rest) => (forth a).map fun b => (b, rest)

/-- Pairs. -/
def pair (c : Codec α) (d : Codec β) : Codec (α × β) where
  encode p := c.encode p.1 ++ d.encode p.2
  decode? bytes :=
    (c.decode? bytes).bind fun (a, rest) => (d.decode? rest).map fun (b, rest) => ((a, b), rest)

/-- Optional values, behind a 1 if there is one and as a 0 otherwise. -/
def option (c : Codec α) : Codec (Option α) where
  encode
    | none => [0]
    | some a => 1 :: c.encode a
  decode?
    | [] => none
    | b :: rest =>
      if b = 0 then some (none, rest)
      else if b = 1 then (c.decode? rest).map fun (a, rest) => (some a, rest)
      else none

/-- Reads a number of values one after the other. -/
def decodeMany? (c : Codec α) : Nat → Bytes → Option (List α × Bytes)
  | 0, bytes => some ([], bytes)
  | n + 1, bytes =>
    (c.decode? bytes).bind fun (a, rest) =>
      (decodeMany? c n rest).map fun (as, rest) => (a :: as, rest)

/-- Sequences, behind their length. -/
def list (c : Codec α) : Codec (Sequence α) := within {
  encode as := (fixed 8).encode as.length ++ as.flatMap c.encode
  decode? bytes := ((fixed 8).decode? bytes).bind fun (n, rest) => c.decodeMany? n rest }

/-- The members of a list that holds every value of a type, by their place in it, in four bytes. -/
def member [DecidableEq α] (all : List α) : Codec α := (fixed 4).map all.idxOf fun n => all[n]?

/-! ## Laws -/

/-- A number that fits is read back from a word. -/
theorem decode?_fixed (width : Nat) {n : Nat} (fits : n < Bytes.wordCount width) (rest : Bytes) :
    (fixed width).decode? ((fixed width).encode n ++ rest) = some (n, rest) := by
  simp [fixed, Bytes.split?, Bytes.length_ofNatLE, Bytes.toNatLE_ofNatLE fits]

/-- What is read from a word is what writes it, and fits. -/
theorem eq_of_decode?_fixed {width n : Nat} {bytes rest : Bytes}
    (h : (fixed width).decode? bytes = some (n, rest)) :
    n < Bytes.wordCount width ∧ bytes = (fixed width).encode n ++ rest := by
  obtain ⟨⟨word, after⟩, split, eq⟩ := Option.map_eq_some_iff.1 h
  simp only [Prod.mk.injEq] at eq
  obtain ⟨rfl, rfl⟩ := eq
  obtain ⟨rfl, rfl⟩ := Bytes.eq_of_split? split
  exact ⟨Bytes.toNatLE_lt word, by simp [fixed, Bytes.ofNatLE_toNatLE]⟩

/-- Among the values within bounds, a codec need only read back these. -/
theorem lawful_within {p : α → Prop} [DecidablePred p]
    (decode_encode : ∀ a, p a → ∀ rest, c.decode? (c.encode a ++ rest) = some (a, rest))
    (eq_of_decode : ∀ {bytes a rest}, c.decode? bytes = some (a, rest) →
      bytes = c.encode a ++ rest) : (c.within (p := p)).Lawful where
  decode_encode a rest := by
    simp only [within, decode_encode a.val a.property rest, Option.bind_some, a.property, dif_pos]
  eq_of_decode h := by
    obtain ⟨⟨a, after⟩, read, kept⟩ := Option.bind_eq_some_iff.1 h
    simp only [Option.dite_none_right_eq_some, Option.some.injEq, Prod.mk.injEq] at kept
    obtain ⟨_, rfl, rfl⟩ := kept
    exact eq_of_decode read

theorem lawful_word (width : Nat) : (word width).Lawful :=
  lawful_within (fun _ fits => decode?_fixed width fits) fun read => (eq_of_decode?_fixed read).2

theorem lawful_char : char.Lawful := ⟨Bytes.readChar?_append, Bytes.eq_of_readChar?⟩

theorem lawful_text : text.Lawful := by
  refine lawful_within (fun s fits rest => ?_) fun {bytes s rest} read => ?_
  · simp [List.append_assoc, decode?_fixed 8 fits, Bytes.split?, Bytes.toText?_ofText]
  · simp only [Option.bind_eq_some_iff, Option.map_eq_some_iff, Prod.mk.injEq] at read
    obtain ⟨⟨length, rest₁⟩, readLength, ⟨written, rest₂⟩, split, s, readText, rfl, rfl⟩ := read
    obtain ⟨rfl, rfl⟩ := Bytes.eq_of_split? split
    obtain rfl : written = Bytes.ofText s := Bytes.eq_ofText_of_toText? readText
    rw [(eq_of_decode?_fixed readLength).2, List.append_assoc]

/-- Values written as others are read back if going there and back loses nothing. -/
theorem Lawful.map (lawful : c.Lawful) {back : β → α} {forth : α → Option β}
    (forth_back : ∀ b, forth (back b) = some b)
    (back_forth : ∀ a b, forth a = some b → back b = a) : (c.map back forth).Lawful where
  decode_encode b rest := by simp [Codec.map, lawful.decode_encode, forth_back]
  eq_of_decode h := by
    simp only [Codec.map, Option.bind_eq_some_iff, Option.map_eq_some_iff, Prod.mk.injEq] at h
    obtain ⟨⟨a, rest⟩, read, b, there, rfl, rfl⟩ := h
    rw [lawful.eq_of_decode read, ← back_forth a b there]
    rfl

theorem Lawful.pair (first : c.Lawful) (second : d.Lawful) : (c.pair d).Lawful where
  decode_encode p rest := by
    simp [Codec.pair, List.append_assoc, first.decode_encode, second.decode_encode]
  eq_of_decode h := by
    simp only [Codec.pair, Option.bind_eq_some_iff, Option.map_eq_some_iff, Prod.mk.injEq] at h
    obtain ⟨⟨a, middle⟩, readFirst, ⟨b, rest⟩, readSecond, rfl, rfl⟩ := h
    rw [first.eq_of_decode readFirst, show middle = _ from second.eq_of_decode readSecond]
    simp [Codec.pair]

theorem Lawful.option (lawful : c.Lawful) : c.option.Lawful where
  decode_encode o rest := by
    cases o with
    | none => simp [Codec.option]
    | some a => simp [Codec.option, lawful.decode_encode]
  eq_of_decode {bytes o rest} h := by
    cases bytes with
    | nil => simp [Codec.option] at h
    | cons b bytes =>
      simp only [Codec.option] at h
      split at h
      · simp only [Option.some.injEq, Prod.mk.injEq] at h
        obtain ⟨rfl, rfl⟩ := h
        simp_all [Codec.option]
      · split at h
        · obtain ⟨⟨a, after⟩, read, eq⟩ := Option.map_eq_some_iff.1 h
          simp only [Prod.mk.injEq] at eq
          obtain ⟨rfl, rfl⟩ := eq
          simp_all [Codec.option, lawful.eq_of_decode read]
        · cases h

theorem Lawful.decodeMany?_flatMap (lawful : c.Lawful) (as : List α) (rest : Bytes) :
    c.decodeMany? as.length (as.flatMap c.encode ++ rest) = some (as, rest) := by
  induction as with
  | nil => rfl
  | cons a as ih => simp [decodeMany?, lawful.decode_encode, ih]

theorem Lawful.eq_of_decodeMany? (lawful : c.Lawful) {n : Nat} {bytes rest : Bytes} {as : List α}
    (h : c.decodeMany? n bytes = some (as, rest)) :
    as.length = n ∧ bytes = as.flatMap c.encode ++ rest := by
  induction n generalizing bytes as with
  | zero => simp_all [decodeMany?]
  | succ n ih =>
    simp only [decodeMany?, Option.bind_eq_some_iff, Option.map_eq_some_iff, Prod.mk.injEq] at h
    obtain ⟨⟨a, middle⟩, read, ⟨as, rest⟩, readMany, rfl, rfl⟩ := h
    obtain ⟨length, eq⟩ := ih readMany
    rw [lawful.eq_of_decode read, show middle = _ from eq]
    simp [length]

theorem Lawful.list (lawful : c.Lawful) : c.list.Lawful := by
  refine lawful_within (fun as fits rest => ?_) fun {bytes as rest} read => ?_
  · simp [List.append_assoc, decode?_fixed 8 fits, lawful.decodeMany?_flatMap]
  · obtain ⟨⟨n, middle⟩, readLength, readMany⟩ := Option.bind_eq_some_iff.1 read
    obtain ⟨rfl, eq⟩ := lawful.eq_of_decodeMany? readMany
    rw [(eq_of_decode?_fixed readLength).2, show middle = _ from eq, List.append_assoc]

/-- A list that holds every value once gives each a number of its own. -/
theorem lawful_member [DecidableEq α] {all : List α} (complete : ∀ a, a ∈ all)
    (distinct : all.Nodup) (short : all.length ≤ Bytes.wordCount 4) : (member all).Lawful where
  decode_encode a rest := by
    have bound : all.idxOf a < all.length :=
      List.findIdx_lt_length_of_exists ⟨a, complete a, by simp⟩
    have found := List.findIdx_getElem (p := (· == a)) (w := bound)
    have there : all[all.idxOf a]? = some a := by
      rw [List.getElem?_eq_getElem bound]
      exact congrArg some (eq_of_beq found)
    simp only [member, map, decode?_fixed 4 (Nat.lt_of_lt_of_le bound short), Option.bind_some,
      there, Option.map_some]
  eq_of_decode {bytes a rest} h := by
    simp only [member, map, Option.bind_eq_some_iff, Option.map_eq_some_iff, Prod.mk.injEq] at h
    obtain ⟨⟨n, rest⟩, read, a, there, rfl, rfl⟩ := h
    obtain ⟨bound, rfl⟩ := List.getElem?_eq_some_iff.1 there
    have place : all.idxOf all[n] = n := by
      refine (List.findIdx_eq bound).2 ⟨by simp, fun i before => ?_⟩
      have apart := List.pairwise_iff_getElem.1 distinct i n (by omega) bound before
      simpa using apart
    rw [(eq_of_decode?_fixed read).2]
    simp only [member, map, place]

end Codec

end PinyinSearch
