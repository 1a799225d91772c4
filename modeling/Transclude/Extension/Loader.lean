import Transclude.Diagnostic.Journal
import Transclude.Extension.Registry
import Transclude.Files

/-!
# Loading extensions

An extension has a name and adds its hooks to a registry. It is a file, or a module of the
surroundings, which have to know it by its whole name. Where extensions come from is up to them.

## Main definitions

* `Loader`         : what loads an extension by its name.
* `Loader.loadAll` : a registry with the hooks of several extensions.
-/

namespace Transclude

/-- Why the loading of an extension does not come to an end. -/
inductive LoadStop
  /-- There is no such extension. -/
  | missing
  /-- The name is relative to that of another module. -/
  | relative
  | file (e : FileError)
  | failed (e : HookFailure)
  | interrupted
  /-- The extension asks to end the run with a status. -/
  | ended (status : Nat)
  deriving DecidableEq, Repr

/-- What loads an extension by its name: the way in which it changes a registry. -/
abbrev Loader := String → Except LoadStop (Registry → Registry)

namespace Loader

/-- The loader that knows no extension. -/
def empty : Loader := fun _ => .error .missing

/-- How the names of source files end. -/
def sourceSuffix : String := ".py"

/-- Whether a name is that of a source file. -/
def endsAsSource (name : String) : Bool := sourceSuffix.toList.isSuffixOf name.toList

/-- Whether a name is that of a file and not of a module. -/
def isFileName (name : String) : Bool := endsAsSource name || name.toList.contains '/'

/-- Whether a name is that of a module relative to another one: it starts with a dot. -/
def isRelative (name : String) : Bool := !isFileName name && name.toList.head? == some '.'

/-- An extension by its name, which may not be relative. -/
def find (load : Loader) (name : String) : Except LoadStop (Registry → Registry) :=
  if isRelative name then .error .relative else load name

/-- A registry with the hooks of extensions added in turn, or the first extension that cannot be
loaded, and what happened. -/
def loadAll (load : Loader) (r : Registry) :
    List String → Except (String × LoadStop) Registry × Journal
  | [] => (.ok r, #[])
  | name :: rest =>
    match find load name with
    | .error stop => (.error (name, stop), #[])
    | .ok hooks =>
      let (loaded, journal) := loadAll load (hooks r) rest
      (loaded, #[Event.remark .extensions s!"loaded extension {name}"] ++ journal)

end Loader

end Transclude
