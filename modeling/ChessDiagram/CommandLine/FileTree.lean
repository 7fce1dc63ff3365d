import ChessDiagram.Text.Blank

/-!
# File trees

The files that a run can see.  A directory stands wherever a file stands below it, and the working
directory stands always.  A path is followed name by name; what stands in its way is a refusal of
the system, and each refusal has the system's own words.
-/

namespace ChessDiagram

/-- A place in a file tree: the names on the way to it from the root. -/
abbrev Place := List Text

/-- Why the system does not serve a path. -/
inductive PathRefusal where
  | notFound
  | notDirectory
  | isDirectory
  | nameTooLong
  | nulInside
  | notUnicode
deriving DecidableEq

namespace PathRefusal

def message : PathRefusal → Text
  | .notFound => "No such file or directory (os error 2)"
  | .notDirectory => "Not a directory (os error 20)"
  | .isDirectory => "Is a directory (os error 21)"
  | .nameTooLong => "File name too long (os error 36)"
  | .nulInside => "file name contained an unexpected NUL byte"
  | .notUnicode => "stream did not contain valid UTF-8"

end PathRefusal

structure FileTree where
  working : Place := []
  files : List (Place × ByteArray) := []

/-- What a path leads to. -/
inductive PathEnd where
  | directory
  | file (place : Place) (content : ByteArray)
  /-- Nothing yet, in a directory that stands. -/
  | vacant (place : Place)

def Text.byteCount (text : Text) : Nat :=
  (Text.toString text).utf8ByteSize

namespace FileTree

def content? (tree : FileTree) (place : Place) : Option ByteArray :=
  tree.files.lookup place

/-- Whether a place is a directory: the working directory, or above it or a file. -/
def isDirectory (tree : FileTree) (place : Place) : Bool :=
  place.isPrefixOf tree.working
    || tree.files.any fun (file, _) => place != file && place.isPrefixOf file

/-- Follows names from a directory on.  Empty names and `.` stay there, and `..` goes up, where
above the root there is the root. -/
def follow (tree : FileTree) (directory : Place) : List Text → Except PathRefusal PathEnd
  | [] => .ok .directory
  | name :: names =>
      if name = [] ∨ name = "." then
        tree.follow directory names
      else if name = ".." then
        tree.follow directory.dropLast names
      else if 255 < name.byteCount then
        .error .nameTooLong
      else
        let place := directory ++ [name]
        if tree.isDirectory place then
          tree.follow place names
        else
          match tree.content? place, names with
          | some content, [] => .ok (.file place content)
          | some _, _ :: _ => .error .notDirectory
          | none, [] => .ok (.vacant place)
          | none, _ :: _ => .error .notFound

/-- What the names of a path lead to.  A path that starts with a slash starts at the root, and one
that cannot be any path is refused before its names are followed. -/
def locate (tree : FileTree) (path : Text) (names : List Text) : Except PathRefusal PathEnd :=
  if '\x00' ∈ path then
    .error .nulInside
  else if path = [] then
    .error .notFound
  else if 4096 ≤ path.byteCount then
    .error .nameTooLong
  else
    tree.follow (if path.head? = some '/' then [] else tree.working) names

/-- The names between the slashes of a path. -/
def pathNames (path : Text) : List Text :=
  Text.pieces (· == '/') path

/-- What a path leads to. -/
def resolve (tree : FileTree) (path : Text) : Except PathRefusal PathEnd :=
  tree.locate path (pathNames path)

def isPresent (tree : FileTree) (path : Text) : Bool :=
  match tree.resolve path with
  | .ok .directory => true
  | .ok (.file ..) => true
  | _ => false

def read (tree : FileTree) (path : Text) : Except PathRefusal Text := do
  match ← tree.resolve path with
  | .directory => throw .isDirectory
  | .vacant _ => throw .notFound
  | .file _ content =>
      match String.fromUTF8? content with
      | some string => return string.toList
      | none => throw .notUnicode

/-- The names that are followed when a path is written to.  With a slash at its end a path can only
name a directory, so its last name is not followed, whatever stands there. -/
def writtenNames (path : Text) : List Text :=
  if path.getLast? = some '/' then
    let listed := pathNames (Text.dropEndWhile (· == '/') path)
    if listed.getLast? = some ".." then listed else listed.dropLast ++ [['.']]
  else
    pathNames path

def destination (tree : FileTree) (path : Text) : Except PathRefusal Place := do
  match ← tree.locate path (writtenNames path) with
  | .directory => throw .isDirectory
  | .file place _ | .vacant place => return place

def store (tree : FileTree) (place : Place) (content : ByteArray) : FileTree :=
  { tree with files := (place, content) :: tree.files.filter fun (file, _) => file != place }

def write (tree : FileTree) (path text : Text) : Except PathRefusal FileTree := do
  return tree.store (← tree.destination path) (Text.toString text).toUTF8

/-- The files of a tree that another one lacks or holds with another content. -/
def changesFrom (tree earlier : FileTree) : List (Place × ByteArray) :=
  tree.files.filter fun (place, content) => earlier.content? place != some content

end FileTree

end ChessDiagram
