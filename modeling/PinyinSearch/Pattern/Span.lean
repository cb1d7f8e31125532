import PinyinSearch.Text

/-!
# Spans

How far the bracket classes, the escapes and the group openers of a pattern reach.  Each function
takes the text behind the opening character and splits it into the span and what follows; a span
that is not closed reaches to the end.  The main statement about each is that span and rest make up
the text.
-/

namespace PinyinSearch.Span

/-- The text up to and including the first character with a property, and what follows. -/
def through (p : Char → Bool) : Text → Text × Text
  | [] => ([], [])
  | c :: rest =>
    if p c then ([c], rest)
    else
      let (taken, after) := through p rest
      (c :: taken, after)

/-- The body of a class in which `depth` further classes are open.  A backslash takes the next
character with it, whatever it is. -/
def classBody (depth : Nat) : Text → Text × Text
  | [] => ([], [])
  | ['\\'] => (['\\'], [])
  | '\\' :: c :: rest =>
    let (taken, after) := classBody depth rest
    ('\\' :: c :: taken, after)
  | c :: rest =>
    match c, depth with
    | ']', 0 => ([']'], rest)
    | ']', depth + 1 =>
      let (taken, after) := classBody depth rest
      (']' :: taken, after)
    | c, depth =>
      let (taken, after) := classBody (if c = '[' then depth + 1 else depth) rest
      (c :: taken, after)

/-- A class, from behind its opening bracket through its closing one.  A caret may come first, and a
closing bracket that comes first is a member. -/
def bracket (s : Text) : Text × Text :=
  let (caret, s) := match s with
    | '^' :: rest => (['^'], rest)
    | s => ([], s)
  let (member, s) := match s with
    | ']' :: rest => ([']'], rest)
    | s => ([], s)
  let (body, rest) := classBody 0 s
  (caret ++ member ++ body, rest)

/-- The number of characters that the kind of an escape takes after it. -/
def argumentLength (kind : Char) : Nat :=
  match kind with
  | 'p' | 'P' => 1
  | 'x' => 2
  | 'u' => 4
  | 'U' => 8
  | _ => 0

/-- An escape, from behind its backslash.  The kinds that take an argument take one in braces, too,
which reaches through the first closing brace. -/
def escape : Text → Text × Text
  | [] => ([], [])
  | kind :: rest =>
    if argumentLength kind ≠ 0 ∧ rest.head? = some '{' then
      let (argument, after) := through (· == '}') rest
      (kind :: argument, after)
    else (kind :: rest.take (argumentLength kind), rest.drop (argumentLength kind))

/-- What belongs to the opening of a group behind its parenthesis: nothing, or a question mark and
what follows it through the first colon, angle bracket or closing parenthesis. -/
def groupOpener : Text → Text × Text
  | '?' :: rest =>
    let (options, after) := through (fun c => c == ':' || c == '>' || c == ')') rest
    ('?' :: options, after)
  | s => ([], s)

theorem through_append (p : Char → Bool) (s : Text) : (through p s).1 ++ (through p s).2 = s := by
  induction s with
  | nil => rfl
  | cons c rest ih =>
    rw [through]
    split
    · rfl
    · simp [ih]

theorem classBody_append (depth : Nat) (s : Text) :
    (classBody depth s).1 ++ (classBody depth s).2 = s := by
  fun_induction classBody depth s <;> simp_all

theorem bracket_append (s : Text) : (bracket s).1 ++ (bracket s).2 = s := by
  simp only [bracket, List.append_assoc, classBody_append]
  split <;> split <;> simp_all

theorem escape_append (s : Text) : (escape s).1 ++ (escape s).2 = s := by
  cases s with
  | nil => rfl
  | cons kind rest =>
    rw [escape]
    split
    · simp [through_append]
    · simp

theorem groupOpener_append (s : Text) : (groupOpener s).1 ++ (groupOpener s).2 = s := by
  rw [groupOpener.eq_def]
  split
  · simp [through_append]
  · rfl

end PinyinSearch.Span
