import PinyinSearch.Table
import PinyinSearch.Text

/-!
# Syllable trie

A set of words as a tree that branches on their letters, for finding the words that begin at a
position of a text.  Each word is kept as a whole at the node where it ends, and is given back from
there.  All functions recurse on the word or the text, so each has one equation for the empty text
and one for a letter.
-/

namespace PinyinSearch

/-- A node keeps the word that ends at it, if one does, and has one child for every letter that goes
on. -/
inductive TrieNode where
  | node (word? : Option Text) (children : List (Char × TrieNode))

namespace TrieNode

/-- The node below which there are no words. -/
def empty : TrieNode := node none []

/-- The word that ends at a node. -/
def word? : TrieNode → Option Text
  | node w _ => w

/-- The children of a node, by letter. -/
def children : TrieNode → Table Char TrieNode
  | node _ cs => cs

/-- The child for a letter. -/
def child? (t : TrieNode) (c : Char) : Option TrieNode := Table.get? t.children c

/-- The node that some letters lead to. -/
def descend? : TrieNode → Text → Option TrieNode
  | t, [] => some t
  | t, c :: letters => (t.child? c).bind (·.descend? letters)

/-- The word kept where some letters lead to. -/
def wordAt? (t : TrieNode) (letters : Text) : Option Text := (t.descend? letters).bind word?

/-- Keeps a word where some letters lead to. -/
def store (word : Text) : Text → TrieNode → TrieNode
  | [], t => node (some word) t.children
  | c :: letters, t =>
    node t.word? (Table.alter c (fun child => store word letters (child.getD empty)) t.children)

/-- The words that are passed on the way along a text, each with the position of its end.  The text
stands behind `position`. -/
def walk : TrieNode → Nat → Text → List (Nat × Text)
  | _, _, [] => []
  | t, position, c :: rest =>
    match t.child? c with
    | none => []
    | some child =>
      (child.word?.map (position + 1, ·)).toList ++ child.walk (position + 1) rest

/-! ## Laws -/

@[simp] theorem wordAt?_nil (t : TrieNode) : t.wordAt? [] = t.word? := by
  cases t; rfl

theorem wordAt?_cons (t : TrieNode) (c : Char) (letters : Text) :
    t.wordAt? (c :: letters) = (t.child? c).bind (·.wordAt? letters) := by
  cases t with
  | node w cs => cases h : child? (node w cs) c <;> simp [wordAt?, descend?, h]

@[simp] theorem wordAt?_empty (letters : Text) : empty.wordAt? letters = none := by
  cases letters <;> rfl

theorem wordAt?_getD_child? (t : TrieNode) (c : Char) (letters : Text) :
    ((t.child? c).getD empty).wordAt? letters = t.wordAt? (c :: letters) := by
  rw [wordAt?_cons]
  cases t.child? c <;> simp

theorem child?_store_cons_self (t : TrieNode) (word : Text) (c : Char) (letters : Text) :
    (t.store word (c :: letters)).child? c =
      some (((t.child? c).getD empty).store word letters) :=
  Table.get?_alter_self ..

theorem child?_store_cons_of_ne (t : TrieNode) (word : Text) {c d : Char} (letters : Text)
    (h : c ≠ d) : (t.store word (c :: letters)).child? d = t.child? d :=
  Table.get?_alter_of_ne _ _ h

/-- A word that is kept takes the place of what was kept there, and no other place changes. -/
theorem wordAt?_store (t : TrieNode) (word letters others : Text) :
    (t.store word letters).wordAt? others =
      if others = letters then some word else t.wordAt? others := by
  induction letters generalizing t others with
  | nil =>
    cases others with
    | nil => rfl
    | cons d others => rfl
  | cons c letters ih =>
    cases others with
    | nil => rfl
    | cons d others =>
      by_cases h : c = d
      · subst h
        rw [wordAt?_cons, child?_store_cons_self, Option.bind_some, ih, wordAt?_getD_child?]
        simp
      · rw [wordAt?_cons, child?_store_cons_of_ne _ _ _ h, ← wordAt?_cons]
        simp [Ne.symm h]

/-- Every word is kept where its own letters lead to. -/
def IsExact (t : TrieNode) : Prop := ∀ letters word, t.wordAt? letters = some word → word = letters

theorem isExact_empty : empty.IsExact := by
  intro letters word h
  rw [wordAt?_empty] at h
  cases h

theorem IsExact.store {t : TrieNode} (h : t.IsExact) (word : Text) :
    (t.store word word).IsExact := by
  intro letters other hother
  rw [wordAt?_store] at hother
  split at hother
  · next heq => rw [heq, Option.some.inj hother]
  · exact h letters other hother

/-- What is passed on the way ends behind where the way begins. -/
theorem lt_of_mem_walk {t : TrieNode} {s word : Text} {position stop : Nat}
    (h : (stop, word) ∈ t.walk position s) : position < stop := by
  induction s generalizing t position with
  | nil => simp [walk] at h
  | cons c s ih =>
    rw [walk] at h
    split at h
    · simp at h
    · rcases List.mem_append.1 h with h | h
      · obtain ⟨_, _, heq⟩ := Option.map_eq_some_iff.1 (Option.mem_toList.1 h)
        obtain ⟨rfl, _⟩ := Prod.mk.inj heq
        exact Nat.lt_succ_self position
      · exact Nat.lt_of_succ_lt (ih h)

end TrieNode

/-- A trie by its root.  Every word is kept where its own letters lead to. -/
structure SyllableTrie where
  root : TrieNode
  isExact : root.IsExact

namespace SyllableTrie

/-- The trie of no words. -/
def empty : SyllableTrie := ⟨.empty, TrieNode.isExact_empty⟩

instance : Inhabited SyllableTrie := ⟨empty⟩

/-- Adds a word. -/
def insert (t : SyllableTrie) (word : Text) : SyllableTrie :=
  ⟨t.root.store word word, t.isExact.store word⟩

/-- The trie of a list of words. -/
def ofWords (words : List Text) : SyllableTrie := words.foldl insert empty

/-- Whether a word belongs to the trie. -/
def contains (t : SyllableTrie) (word : Text) : Bool := (t.root.wordAt? word).isSome

/-- Whether some word of the trie begins with the given letters; the empty text always counts. -/
def hasWordFrom (t : SyllableTrie) (letters : Text) : Bool := (t.root.descend? letters).isSome

/-- Whether no letter goes on from the root. -/
def isEmpty (t : SyllableTrie) : Bool := t.root.children.isEmpty

/-- The words that begin at a position of a text, each with the position of its end, the shortest
first. -/
def walkAt (t : SyllableTrie) (s : Text) (start : Nat) : List (Nat × Text) :=
  t.root.walk start (s.drop start)

/-- The longest word of at most `maxLength` letters that begins at a position of a text, with the
position of its end. -/
def longestAt? (t : SyllableTrie) (s : Text) (start maxLength : Nat) : Option (Nat × Text) :=
  ((t.walkAt s start).filter fun (stop, _) => stop - start ≤ maxLength).getLast?

/-- The longest word ends behind where it begins. -/
theorem lt_of_longestAt? {t : SyllableTrie} {s word : Text} {start maxLength stop : Nat}
    (h : t.longestAt? s start maxLength = some (stop, word)) : start < stop :=
  TrieNode.lt_of_mem_walk (List.mem_filter.1 (List.mem_of_getLast? h)).1

end SyllableTrie

end PinyinSearch
