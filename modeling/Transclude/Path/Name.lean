import Transclude.Text.Split

/-!
# Names in paths

Paths are texts with slashes between their parts. A path that starts with a slash is absolute.

## Main definitions

* `Path.base`, `Path.directory` : the part after the last slash, and what precedes it.
* `Path.join`     : a path relative to a directory.
* `Path.normal`   : the path without empty parts, dots, and parents that can be resolved.
* `Path.absolute` : the normal absolute path, relative to a current directory.
* `Path.collapsed` : the path without empty parts and dots; parents stay.
-/

namespace Transclude.Path

open Transclude.Text

/-- Whether the path starts at the root. -/
def isAbsolute (path : String) : Bool := path.toList.head? == some '/'

/-- The parts of a path between its slashes; some may be empty. -/
def parts (path : String) : List String := (fields (· == '/') path.toList).map String.ofList

/-- The part after the last slash. -/
def base (path : String) : String := (parts path).getLast?.getD ""

/-- The text without the slashes at its end, unless it consists of slashes only. -/
def trimSlashes (s : List Char) : List Char :=
  if s.all (· == '/') then s else (s.reverse.dropWhile (· == '/')).reverse

/-- The part before the last slash; for a path directly below the root, the root. -/
def directory (path : String) : String :=
  let chars := path.toList
  let head := chars.take (chars.length - (base path).toList.length)
  String.ofList (trimSlashes head)

/-- The path that `target` names when read in the directory `dir`. -/
def join (dir target : String) : String :=
  if isAbsolute target then target
  else if dir = "" || dir.toList.getLast? == some '/' then dir ++ target
  else dir ++ "/" ++ target

/-- How many slashes a normal form keeps at the start: two if there are exactly two, else at most
one. -/
def leadingSlashes (path : String) : Nat :=
  match path.toList with
  | '/' :: '/' :: '/' :: _ => 1
  | '/' :: '/' :: _ => 2
  | '/' :: _ => 1
  | _ => 0

/-- The stack of parts of a normal form after one more part, the last part on top. A parent takes
the part before it away, stays at the start of a relative path, and vanishes at the root. -/
def pushPart (rooted : Bool) (stack : List String) (part : String) : List String :=
  if part = "" || part = "." then stack
  else if part = ".." then
    match stack with
    | [] => if rooted then [] else [part]
    | top :: rest => if top = ".." then part :: stack else rest
  else part :: stack

/-- The parts of the normal form of a path. -/
def normalParts (path : String) : List String :=
  ((parts path).foldl (pushPart (isAbsolute path)) []).reverse

/-- The path with the given slashes at its start and the given parts; a dot if it has neither. -/
def assemble (slashes : Nat) (names : List String) : String :=
  let text := String.ofList (List.replicate slashes '/') ++ "/".intercalate names
  if text = "" then "." else text

/-- The path without empty parts, dots, and parents that can be resolved. -/
def normal (path : String) : String := assemble (leadingSlashes path) (normalParts path)

/-- The normal form of a path that is read in the directory `cwd`. -/
def absolute (cwd path : String) : String := normal (join cwd path)

/-- The parts of a path other than empty parts and dots. -/
def collapsedParts (path : String) : List String :=
  (parts path).filter fun part => part != "" && part != "."

/-- The path without empty parts and dots; parents stay. -/
def collapsed (path : String) : String := assemble (leadingSlashes path) (collapsedParts path)

/-- The collapsed path without its last part. -/
def parent (path : String) : String :=
  assemble (leadingSlashes path) (collapsedParts path).dropLast

/-- The last part of the collapsed path. -/
def finalName (path : String) : String := (collapsedParts path).getLast?.getD ""

/-- The last part of a path before and after its last dot. A dot at either end of the part
separates nothing. -/
def splitSuffix (path : String) : String × String :=
  let name := (finalName path).toList
  let after := (name.reverse.takeWhile (· != '.')).reverse
  let stem := name.take (name.length - after.length - 1)
  if after.length < name.length ∧ ¬ stem.isEmpty ∧ ¬ after.isEmpty then
    (String.ofList stem, String.ofList ('.' :: after))
  else (String.ofList name, "")

end Transclude.Path
