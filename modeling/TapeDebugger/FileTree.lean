import TapeDebugger.Launch

/-!
# Files in memory

A tree of files to start the server against without a disk. A path is followed
part by part, so every part before the last has to be a directory that is there,
also one that is left again by `..`. Directories are those that hold files.
-/

namespace TapeDebugger

/-- Where a file or directory is: its parts from the working directory, or from
the root when the first part is `/`. Above the working directory is `..`. -/
abbrev Place := List String

/-- Files with their content. -/
structure FileTree where
  files : List (Place × String)
deriving Repr, DecidableEq

namespace FileTree

/-- The longest name of a file in bytes. -/
def maxNameSize : Nat := 255

/-- The parts of a path between its slashes. -/
def pathParts (path : String) : List String :=
  (path.splitOn "/").filter fun part => !part.isEmpty

/-- The content of a file, if there is one. -/
def content? (tree : FileTree) (place : Place) : Option String :=
  (tree.files.find? fun entry => entry.1 == place).map (·.2)

/-- Whether there is a file at a place. -/
def isFile (tree : FileTree) (place : Place) : Bool :=
  (tree.content? place).isSome

/-- Whether there is a directory at a place: the working directory, those above
it, the root, and those with files in them. -/
def isDirectory (tree : FileTree) (place : Place) : Bool :=
  place.all (· == "..") || place == ["/"] || tree.files.any fun entry =>
    place.isPrefixOf entry.1 && decide (place.length < entry.1.length)

/-- Go from a place to one of its parts. -/
def enter (tree : FileTree) (place : Place) (part : String) : Except FileProblem Place :=
  if tree.isFile place then .error .notDirectory
  else if !tree.isDirectory place then .error .missing
  else if maxNameSize < part.utf8ByteSize then .error .nameTooLong
  else if part = "." then .ok place
  else if part = ".." then
    if place == ["/"] then .ok place
    else if place.all (· == "..") then .ok (place ++ [part])
    else .ok place.dropLast
  else .ok (place ++ [part])

/-- Follow parts from a place. The last of them need not be there. -/
def follow (tree : FileTree) (place : Place) : List String → Except FileProblem Place
  | [] => .ok place
  | part :: rest =>
    match tree.enter place part with
    | .error problem => .error problem
    | .ok place => tree.follow place rest

/-- Where a path leads. -/
def locate (tree : FileTree) (path : String) : Except FileProblem Place :=
  if path.contains '\x00' then .error .invalidName
  else if path.isEmpty then .error .missing
  else tree.follow (if path.startsWith "/" then ["/"] else []) (pathParts path)

/-- Read a file. A directory can be opened and fails only when it is read. -/
def read (tree : FileTree) (path : String) : Except FileFault String :=
  match tree.locate path with
  | .error problem => .error { step := .opening, path, problem }
  | .ok place =>
    match tree.content? place with
    | some content =>
      if path.endsWith "/" then .error { step := .opening, path, problem := .notDirectory }
      else .ok content
    | none =>
      if tree.isDirectory place then .error { step := .reading, path, problem := .isDirectory }
      else .error { step := .opening, path, problem := .missing }

/-- Make a file that is not there yet, as for appending to it. -/
def create (tree : FileTree) (path : String) : Except FileFault FileTree :=
  match tree.locate path with
  | .error problem => .error { step := .opening, path, problem }
  | .ok place =>
    if path.endsWith "/" || tree.isDirectory place then
      .error { step := .opening, path, problem := .isDirectory }
    else if tree.isFile place then .ok tree
    else .ok { files := tree.files ++ [(place, "")] }

/-- Append to a file that is there. -/
def append (tree : FileTree) (path text : String) : FileTree :=
  match tree.locate path with
  | .error _ => tree
  | .ok place =>
    { files := tree.files.map fun (other, content) =>
        (other, if other == place then content ++ text else content) }

/-- The lines of a file, where line breaks at its end do not count. -/
def lines? (tree : FileTree) (path : String) : Option (List String) :=
  match tree.read path with
  | .error _ => none
  | .ok content =>
    some ((String.ofList (content.toList.reverse.dropWhile (· == '\n')).reverse).splitOn "\n")

/-- A tree as the files that a start uses. -/
def access : FileAccess (StateM FileTree) where
  read path := do
    let tree ← get
    return (tree.read path).map Utf8.ofString
  openLog path := do
    let tree ← get
    match tree.create path with
    | .error fault => return .error fault
    | .ok made =>
      set made
      return .ok ()

end FileTree

end TapeDebugger
