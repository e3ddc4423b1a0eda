import EstateFiling.Command.Perform

/-!
# File trees

A file tree holds files in directories, one of which is the working directory.  A
command can run in it without a disk: `FileTree.workspace` is the workspace that
reads from the tree, and `FileTree.write` is the tree after a file is written.

A path is followed name by name, from the root if it begins with a slash and from
the working directory otherwise.  Every step needs a directory to start from, and
only the last one may lead to a place where nothing stands yet.
-/

namespace EstateFiling

/-- A place in a file tree: the names on the way to it from the root. -/
abbrev Location := List String

/-- Files in directories. -/
structure FileTree where
  /-- The files and what they hold. -/
  files : List (Location × List UInt8) := []
  /-- Directories that stand there even if no file is in them. -/
  directories : List Location := []
  /-- The working directory. -/
  working : Location
deriving DecidableEq, Repr

namespace FileTree

/-! ## Following paths -/

/-- Whether there is a file at a place. -/
def isFile (t : FileTree) (place : Location) : Bool := (t.files.lookup place).isSome

/-- Whether there is a directory at a place: the way to a directory or to a file
leads through it. -/
def isDirectory (t : FileTree) (place : Location) : Bool :=
  (t.working :: t.directories).any place.isPrefixOf
    || t.files.any (fun file => place.isPrefixOf file.1 && place != file.1)

/-- The greatest length of a name in bytes. -/
def maxName : Nat := 255

/-- The greatest length of a path in bytes. -/
def maxPath : Nat := 4095

/-- Goes from a place to the one that a name stands for there: a dot for the place
itself, two dots for the directory around it. -/
def enter (t : FileTree) (place : Location) (name : String) : Except FileFault Location :=
  if t.isFile place then .error .notDirectory
  else if !t.isDirectory place then .error .missing
  else if name.isEmpty || name == "." then .ok place
  else if name == ".." then .ok place.dropLast
  else if maxName < name.utf8ByteSize then .error .nameTooLong
  else .ok (place ++ [name])

/-- The names in a path. -/
def names (path : String) : List String :=
  (Text.splitWhere (· == '/') path.toList).map String.ofList

/-- Where a path begins. -/
def origin (t : FileTree) (path : String) : Location :=
  if Text.startsWith path "/" then [] else t.working

/-- The place that a path leads to. -/
def follow (t : FileTree) (path : String) : Except FileFault Location :=
  if maxPath < path.utf8ByteSize then .error .nameTooLong
  else (names path).foldlM t.enter (t.origin path)

/-- The place that writing to a path changes.  A path that ends in a slash means a
directory, whatever stands there. -/
def target (t : FileTree) (path : String) : Except FileFault Location :=
  if path.toList.getLast? == some '/' then do
    let around := ((names path).reverse.dropWhile String.isEmpty).tail.reverse
    let _ ← if maxPath < path.utf8ByteSize then .error .nameTooLong
      else around.foldlM t.enter (t.origin path)
    .error .isDirectory
  else do
    let place ← t.follow path
    if t.isDirectory place then .error .isDirectory else .ok place

/-! ## Reading and writing -/

/-- Reads the file that a path leads to. -/
def read (t : FileTree) (path : String) : Except FileFault (List UInt8) := do
  let place ← t.follow path
  match t.files.lookup place with
  | some bytes => .ok bytes
  | none => .error (if t.isDirectory place then .isDirectory else .missing)

/-- Why the file that a path leads to cannot be written. -/
def writeFault (t : FileTree) (path : String) : Option FileFault :=
  match t.target path with
  | .ok _ => none
  | .error fault => some fault

/-- The tree after a file is written, if it can be. -/
def write (t : FileTree) (path text : String) : FileTree :=
  match t.target path with
  | .ok place => { t with files := (place, Text.toUtf8 text) :: t.files }
  | .error _ => t

/-- The tree after a command. -/
def after (t : FileTree) (outcome : Outcome) : FileTree :=
  match outcome.written with
  | some (path, text) => t.write path text
  | none => t

/-! ## Workspaces -/

/-- A place and the directories around it, from the inside. -/
def around (place : Location) : List Location :=
  (List.range (place.length + 1)).reverse.map place.take

/-- The text of the file of default values, which stands in the working directory or
in a directory around it. -/
def environmentFile (t : FileTree) : Option String :=
  ((around t.working).findSome? (fun place => t.files.lookup (place ++ [".env"]))).bind
    Text.ofUtf8?

/-- The workspace in a tree. -/
def workspace (t : FileTree) (environment : Environment) : Workspace :=
  { environment := environment
    environmentFile := t.environmentFile
    read := t.read
    writeFault := t.writeFault }

end FileTree

end EstateFiling
