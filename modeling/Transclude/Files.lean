import Transclude.Path.Name
import Transclude.Text.Shown

/-!
# File trees

A finite file system: directories, files with their bytes, and devices that swallow what is written
and hold nothing. Paths are followed part by part, so every part before the last has to be a
directory.

## Main definitions

* `FileTree.node?`     : what is at an absolute place.
* `FileTree.locate`    : the place that a path leads to, and what is there.
* `FileTree.read`      : the bytes of a file.
* `FileTree.makeParents` : the tree with the missing directories of a path.
* `FileTree.write`     : the tree with a file written.
-/

namespace Transclude

/-- What a path leads to. -/
inductive Node
  | directory
  | file (content : List UInt8)
  | device
  deriving DecidableEq, Repr

/-- Why a file operation fails. -/
inductive FileProblem
  | notFound
  | exists
  | notADirectory
  | isADirectory
  | nameTooLong
  /-- The path holds the character zero, which no path may. -/
  | nullInPath
  deriving DecidableEq, Repr

namespace FileProblem

/-- Whether it is the file system that reports the problem. -/
def isSystemError : FileProblem → Bool
  | .nullInPath => false
  | _ => true

/-- The number of the problem. -/
def number : FileProblem → Nat
  | .notFound => 2
  | .exists => 17
  | .notADirectory => 20
  | .isADirectory => 21
  | .nameTooLong => 36
  | .nullInPath => 22

/-- The problem in words. -/
def description : FileProblem → String
  | .notFound => "No such file or directory"
  | .exists => "File exists"
  | .notADirectory => "Not a directory"
  | .isADirectory => "Is a directory"
  | .nameTooLong => "File name too long"
  | .nullInPath => "embedded null byte"

end FileProblem

/-- A failed file operation on a path. -/
structure FileError where
  problem : FileProblem
  path : String
  deriving DecidableEq, Repr

/-- The failure in words. -/
def FileError.message (e : FileError) : String :=
  if e.problem.isSystemError then
    s!"[Errno {e.problem.number}] {e.problem.description}: {Text.quoted e.path}"
  else e.problem.description

/-- A finite file system. A place is the list of the names that lead to it from the root, and the
root is a directory even if it is not listed. -/
structure FileTree where
  entries : List (List String × Node) := []
  deriving DecidableEq, Repr

namespace FileTree

/-- What is at a place. -/
def node? (t : FileTree) (place : List String) : Option Node :=
  match t.entries.find? (·.1 == place) with
  | some entry => some entry.2
  | none => if place.isEmpty then some .directory else none

/-- The tree with something put at a place. -/
def put (t : FileTree) (place : List String) (node : Node) : FileTree :=
  if t.entries.any (·.1 == place) then
    ⟨t.entries.map fun entry => if entry.1 == place then (place, node) else entry⟩
  else ⟨t.entries ++ [(place, node)]⟩

/-- The greatest number of bytes in a name. -/
def maxNameLength : Nat := 255

/-- The greatest number of bytes in a path. -/
def maxPathLength : Nat := 4095

/-- The place that names lead to from a given place. The last name need not exist. -/
def follow (t : FileTree) (place : List String) : List String → Except FileProblem (List String)
  | [] => .ok place
  | name :: rest =>
    match t.node? place with
    | some .directory =>
      if name = "" ∨ name = "." then follow t place rest
      else if name = ".." then follow t place.dropLast rest
      else if maxNameLength < name.utf8ByteSize then .error .nameTooLong
      else follow t (place ++ [name]) rest
    | some _ => .error .notADirectory
    | none => .error .notFound

/-- The place that a path leads to from the directory `cwd`, and what is there. -/
def locate (t : FileTree) (cwd path : String) :
    Except FileProblem (List String × Option Node) :=
  if path.toList.contains '\x00' then .error .nullInPath
  else if maxPathLength < path.utf8ByteSize then .error .nameTooLong
  else (t.follow [] (Path.parts (Path.join cwd path))).map fun place => (place, t.node? place)

/-- Whether a path leads to a file. -/
def isFile (t : FileTree) (cwd path : String) : Bool :=
  match t.locate cwd path with
  | .ok (_, some (.file _)) => true
  | _ => false

/-- Whether a path leads to a file, where a path that is too long is an error. -/
def probe (t : FileTree) (cwd path : String) : Except FileError Bool :=
  match t.locate cwd path with
  | .error .nameTooLong => .error ⟨.nameTooLong, path⟩
  | .ok (_, some (.file _)) => .ok true
  | _ => .ok false

/-- Whether a path leads to a directory. -/
def isDirectory (t : FileTree) (cwd path : String) : Bool :=
  match t.locate cwd path with
  | .ok (_, some .directory) => true
  | _ => false

/-- The bytes that are read from a path. -/
def read (t : FileTree) (cwd path : String) : Except FileError (List UInt8) :=
  match t.locate cwd path with
  | .error problem => .error ⟨problem, path⟩
  | .ok (_, none) => .error ⟨.notFound, path⟩
  | .ok (_, some .directory) => .error ⟨.isADirectory, path⟩
  | .ok (_, some .device) => .ok []
  | .ok (_, some (.file content)) => .ok content

/-- The tree with a new directory at a path. -/
def makeDirectory (t : FileTree) (cwd path : String) : Except FileError FileTree :=
  match t.locate cwd path with
  | .error problem => .error ⟨problem, path⟩
  | .ok (_, some _) => .error ⟨.exists, path⟩
  | .ok (place, none) => .ok (t.put place .directory)

/-- The tree with a directory at a path, which may be there already. -/
def ensureDirectory (t : FileTree) (cwd path : String) : Except FileError FileTree :=
  match t.makeDirectory cwd path with
  | .ok t => .ok t
  | .error e => if e.problem ≠ .notFound ∧ t.isDirectory cwd path then .ok t else .error e

/-- The tree with a directory at a path and at every path on the way to it. The first argument
bounds the number of parts of the path. -/
def ensureDirectories (cwd : String) :
    Nat → FileTree → String → Except FileError FileTree × FileTree
  | 0, t, path => (t.ensureDirectory cwd path, t)
  | fuel + 1, t, path =>
    match t.ensureDirectory cwd path with
    | .ok t => (.ok t, t)
    | .error e =>
      if e.problem = .notFound ∧ Path.parent path ≠ path then
        match ensureDirectories cwd fuel t (Path.parent path) with
        | (.error e, t) => (.error e, t)
        | (.ok t, _) =>
          match t.ensureDirectory cwd path with
          | .ok t => (.ok t, t)
          | .error e => (.error e, t)
      else (.error e, t)

/-- The tree with every directory on the way to a path. Directories that were made before a failure
stay. -/
def makeParents (t : FileTree) (cwd path : String) : Option FileError × FileTree :=
  let directory := Path.parent path
  match ensureDirectories cwd (Path.parts directory).length t directory with
  | (.ok t, _) => (none, t)
  | (.error e, t) => (some e, t)

/-- The tree with a file of the given bytes at a path; the file is made or replaced. -/
def write (t : FileTree) (cwd path : String) (content : List UInt8) : Except FileError FileTree :=
  match t.locate cwd path with
  | .error problem => .error ⟨problem, path⟩
  | .ok (_, some .directory) => .error ⟨.isADirectory, path⟩
  | .ok (_, some .device) => .ok t
  | .ok (place, some (.file _)) => .ok (t.put place (.file content))
  | .ok (place, none) => .ok (t.put place (.file content))

end FileTree

end Transclude
