import Transclude.Table
import Transclude.Text.Blank
import Transclude.Text.Split

/-!
# Attributes and extensions on the command line

An attribute is set by `name=value` or by its name alone, and unset by a name with an exclamation
mark. Names of extensions may be separated by commas.

## Main definitions

* `Assignment.table` : the attributes that arguments set and unset.
* `extensionNames`   : the names of extensions in arguments.
-/

namespace Transclude.Cli

namespace Assignment

/-- A text without the given character at both ends. -/
def without (c : Char) (s : List Char) : List Char :=
  ((s.dropWhile (· == c)).reverse.dropWhile (· == c)).reverse

/-- The attribute that an argument names and its value, none if the argument unsets it. -/
def ofArgument? (argument : String) : Option (String × Option String) :=
  let (name, value) := Text.cut (· == '=') argument.toList
  let name := Text.trim name
  if name.isEmpty then none
  else
    match value with
    | some value => some (String.ofList name, some (String.ofList value))
    | none =>
      if name.head? == some '!' || name.getLast? == some '!' then
        some (String.ofList (without '!' name), none)
      else some (String.ofList name, some "")

/-- The attributes that arguments set and unset; of several that name the same, the last wins. -/
def table (arguments : List String) : Table (Option String) :=
  Table.ofList (arguments.filterMap ofArgument?)

end Assignment

/-- The names of extensions in arguments. -/
def extensionNames (arguments : List String) : List String :=
  arguments.flatMap fun argument =>
    ((Text.fields (· == ',') argument.toList).map Text.trim).filterMap fun name =>
      if name.isEmpty then none else some (String.ofList name)

end Transclude.Cli
