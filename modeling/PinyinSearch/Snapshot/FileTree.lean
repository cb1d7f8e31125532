import PinyinSearch.Snapshot.Bytes
import PinyinSearch.Table

/-!
# File trees

The files and directories below one directory, by path, with the few operations that keeping a file
up to date needs.  A path is a text with slashes between the names.  It is followed name by name and
passes through directories only, so that two paths which are spelled differently can lead to the
same place, and a path through something that is no directory leads nowhere.

The tree is simpler than that of a system.  The one directory is both the root and the current
directory: a slash in front of a path is dropped, so an absolute path and a relative one of the same
names lead to the same place.  There are no symbolic links, and nobody is denied anything.
-/

namespace PinyinSearch

/-- What a path can lead to. -/
inductive Node where
  | file (content : Bytes)
  | directory
deriving DecidableEq, Repr

/-- A place: the names on the way to it from the top.  Places beside or above the top begin with
double dots. -/
abbrev FileTree.Place := List Text

/-- The files and directories below the top, by place. -/
abbrev FileTree := Table FileTree.Place Node

namespace FileTree

/-! ## Paths -/

/-- The name of the directory above. -/
def above : Text := ['.', '.']

/-- The greatest number of bytes in a name. -/
def maxNameSize : Nat := 255

/-- The greatest number of bytes in a path. -/
def maxPathSize : Nat := 4095

/-- Whether a text can be followed as a path: it is not empty, not too long and holds no null
character. -/
def isPath (path : Text) : Bool :=
  path != [] && !path.contains '\x00' && (Bytes.ofText path).length ≤ maxPathSize

/-- Whether something can be called by a name. -/
def isName (name : Text) : Bool := (Bytes.ofText name).length ≤ maxNameSize

/-- The names of a path; empty ones and single dots stand for nothing. -/
def names (path : Text) : List Text :=
  (path.splitOn '/').filter fun name => name ≠ [] ∧ name ≠ ['.']

/-- Whether a path can lead to directories alone, because it ends with a slash or a single dot. -/
def namesDirectory (path : Text) : Bool :=
  match (path.splitOn '/').getLast? with
  | none => true
  | some name => name = [] || name = ['.']

/-- Whether the last name of a path, slashes apart, is a single dot. -/
def endsInDot (path : Text) : Bool :=
  ((path.splitOn '/').filter (! ·.isEmpty)).getLast? == some ['.']

/-- A reversed path without slashes and single dots at its end, as far as more comes before. -/
def trimEnd : Text → Text
  | ['/'] => ['/']
  | '/' :: rest => trimEnd rest
  | '.' :: '/' :: rest => trimEnd ('/' :: rest)
  | s => s
termination_by s => s.length

/-- The path to the directory of a place, as far as it is written: the path without its last
name. -/
def parent (path : Text) : Text :=
  (trimEnd ((trimEnd path.reverse).dropWhile (· ≠ '/'))).reverse

/-- A path with one more name. -/
def join (path name : Text) : Text :=
  if path = [] ∨ path.getLast? = some '/' then path ++ name else path ++ '/' :: name

/-! ## Looking -/

/-- Whether a place is the top or one of the directories above it. -/
def isAboveAll (place : Place) : Bool := place.all (· = above)

/-- What a place holds. -/
def node? (t : FileTree) (place : Place) : Option Node :=
  if isAboveAll place then some .directory else t.get? place

/-- The content of the file at a place. -/
def fileAt? (t : FileTree) (place : Place) : Option Bytes :=
  match t.node? place with
  | some (.file content) => some content
  | _ => none

/-- The place above a directory. -/
def up (here : Place) : Place := if isAboveAll here then here ++ [above] else here.dropLast

/-- The directory that a name leads to from a directory. -/
def enter? (t : FileTree) (here : Place) (name : Text) : Option Place :=
  if name = above then some (up here)
  else if t.node? (here ++ [name]) = some .directory then some (here ++ [name])
  else none

/-- The place that a name leads to from a directory, whether or not it holds anything. -/
def reach? (here : Place) (name : Text) : Option Place :=
  if name = above then some (up here) else if isName name then some (here ++ [name]) else none

/-- The place that a path leads to; all that it passes has to be a directory. -/
def place? (t : FileTree) (path : Text) : Option Place :=
  if isPath path then
    match (names path).getLast? with
    | none => some []
    | some last => ((names path).dropLast.foldlM t.enter? []).bind fun here => reach? here last
  else none

/-- The directory that a path leads to. -/
def directory? (t : FileTree) (path : Text) : Option Place :=
  (t.place? path).filter fun place => t.node? place = some .directory

/-- The content of the file at a path. -/
def read? (t : FileTree) (path : Text) : Option Bytes :=
  if namesDirectory path then none else (t.place? path).bind t.fileAt?

/-! ## Changing -/

/-- Makes the directories on the way from a directory along some names that are missing, as far as
no file is in the way and the names allow it. -/
def makeAlong (here : Place) (t : FileTree) : List Text → FileTree
  | [] => t
  | name :: rest =>
    if name = above then makeAlong (up here) t rest
    else
      match t.node? (here ++ [name]) with
      | some .directory => makeAlong (here ++ [name]) t rest
      | some (.file _) => t
      | none =>
        if isName name then
          makeAlong (here ++ [name]) (t.alter (here ++ [name]) fun _ => .directory) rest
        else t

/-- The names of the directories that a path asks for.  No directory is made under the name of a
single dot. -/
def directoryNames (path : Text) : List Text :=
  if endsInDot path then (names path).dropLast else names path

/-- Makes those of the first directories at a path that are missing, as far as that is possible. -/
def makeFirstDirectories (t : FileTree) (path : Text) (count : Nat) : FileTree :=
  if isPath path then makeAlong [] t ((directoryNames path).take count) else t

/-- Makes the directory at a path and all on the way to it that are missing, as far as that is
possible. -/
def makeDirectories (t : FileTree) (path : Text) : FileTree :=
  t.makeFirstDirectories path (directoryNames path).length

/-- Writes the file at a place. -/
def write (t : FileTree) (place : Place) (content : Bytes) : FileTree :=
  t.alter place fun _ => .file content

/-- Leaves nothing at a place. -/
def erase (t : FileTree) (place : Place) : FileTree := t.filter fun row => row.1 ≠ place

/-- Replaces or adds the file at a path; `none` if the path leads to a directory, or nowhere. -/
def replace? (t : FileTree) (path : Text) (content : Bytes) : Option FileTree :=
  if namesDirectory path then none
  else
    (t.place? path).bind fun place =>
      if t.node? place = some .directory then none else some (t.write place content)

/-- Moves the file at a place to a path, where it replaces what file there is; `none` if there is no
file to be moved, or if it cannot be put there. -/
def rename? (t : FileTree) (place : Place) (path : Text) : Option FileTree :=
  (t.fileAt? place).bind fun content => (t.erase place).replace? path content

/-- Removes the file at a path; `none` if there is none. -/
def remove? (t : FileTree) (path : Text) : Option FileTree :=
  match t.read? path with
  | some _ => (t.place? path).map t.erase
  | none => none

/-- A name for a temporary file in a directory, which nothing there has. -/
def temporaryName? (t : FileTree) (here : Place) : Option Text :=
  ((List.range (t.length + 1)).map fun n => ".tmp".toList ++ Text.decimal n).find? fun name =>
    (t.node? (here ++ [name])).isNone

end FileTree

end PinyinSearch
