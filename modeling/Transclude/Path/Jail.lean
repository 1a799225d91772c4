import Transclude.Path.Name
import Transclude.Text.Blank
import Transclude.Text.LowerCase

/-!
# Containment of include paths

Where an include may read. The checks are on names: a path is made absolute and normal, and its
name is compared with that of the jail.

* In `unsafe` mode a target may be anywhere.
* In `safe` mode it lies in the jail, or in one other directory that the caller allows.
* In `strict` mode it lies in the jail and no part of it is a parent.

## Main definitions

* `SafeMode.ofName?` : the mode of a name.
* `Path.isUri`       : whether a target is a link and no path.
* `Path.isWithin`    : whether a path lies in a directory.
* `Jail.resolve`     : the path that a target names, or why it may not be read.
-/

namespace Transclude

open Transclude.Text

/-- The policy on where includes may read. -/
inductive SafeMode
  | free
  | safe
  | strict
  deriving DecidableEq, Repr

namespace SafeMode

/-- The name of a mode. -/
def name : SafeMode → String
  | .free => "unsafe"
  | .safe => "safe"
  | .strict => "strict"

/-- The mode of a name, without regard to case and blanks around it. Each mode has a second name. -/
def ofName? (text : String) : Option SafeMode :=
  let name := String.ofList (lower (trim text.toList))
  if name = "unsafe" ∨ name = "unconstrained" then some .free
  else if name = "safe" ∨ name = "jailed_with_escape" then some .safe
  else if name = "strict" ∨ name = "secure" then some .strict
  else none

end SafeMode

namespace Path

/-- Whether `c` is an ASCII letter. -/
def isLetter (c : Char) : Bool := ('a' ≤ c && c ≤ 'z') || ('A' ≤ c && c ≤ 'Z')

/-- Whether `c` may stand in the scheme of a link after its first letter. -/
def isSchemeChar (c : Char) : Bool :=
  isLetter c || ('0' ≤ c && c ≤ '9') || c == '.' || c == '+' || c == '-'

/-- Whether a target is a link: a scheme, a colon and two slashes at its start. -/
def isUri (target : String) : Bool :=
  match target.toList with
  | [] => false
  | c :: rest => isLetter c && (after? "://".toList (rest.dropWhile isSchemeChar)).isSome

/-- The text without the slashes at its end. -/
def dropSlashes (s : List Char) : List Char := (s.reverse.dropWhile (· == '/')).reverse

/-- Whether a path is a directory or lies in it. -/
def isWithin (path root : String) : Bool :=
  path == root || (after? (dropSlashes root.toList ++ ['/']) path.toList).isSome

end Path

/-- A jail: the policy, the directory that holds everything, and the one other directory that safe
mode allows. Both directories are absolute and normal. -/
structure Jail where
  mode : SafeMode
  root : String
  includeRoot : Option String
  deriving DecidableEq, Repr

/-- Why a target may not be read. -/
inductive Violation
  | ancestor (target : String)
  | outside (target : String)
  deriving DecidableEq, Repr

/-- The reason in words. -/
def Violation.message : Violation → String
  | .ancestor target => s!"include file has illegal reference to ancestor of jail: {target}"
  | .outside target => s!"include file is outside of jail: {target}"

namespace Jail

/-- A jail whose directories are read in the directory `cwd`. -/
def of (mode : SafeMode) (cwd : String) (root includeRoot : Option String) : Jail :=
  { mode := mode
    root := (root.map (Path.absolute cwd)).getD (Path.absolute cwd "")
    includeRoot := includeRoot.map (Path.absolute cwd) }

/-- Whether a target has a parent among its parts; backslashes separate parts too. -/
def climbs (target : String) : Bool :=
  (fields (fun c => c == '/' || c == '\\') target.toList).contains ['.', '.']

/-- The path that a target names in the directory `base`, or why it may not be read. -/
def resolve (jail : Jail) (cwd base target : String) : Except Violation String :=
  let path := Path.absolute cwd (Path.join base target)
  match jail.mode with
  | .free => .ok path
  | .strict =>
    if climbs target then .error (.ancestor target)
    else if Path.isWithin path jail.root then .ok path
    else .error (.outside target)
  | .safe =>
    if Path.isWithin path jail.root then .ok path
    else if jail.includeRoot.any (Path.isWithin path) then .ok path
    else if Path.isAbsolute target then .error (.outside target)
    else .error (.ancestor target)

end Jail

end Transclude
