import Transclude.Cli.Flag

/-!
# Help

The usage of a command and its help, laid out for a terminal of eighty columns.

## Main definitions

* `filled`       : words in lines of a given width.
* `Help.usage`   : the usage of a command.
* `Help.command` : the help of a command.
* `Help.program` : the help of the program.
-/

namespace Transclude.Cli

/-- Words in lines of at most `width` characters, as many to a line as fit. The line begun so far
has the words `line`, in reverse, and takes `used` characters; the lines after it are indented by
`indent`. A word that is too long has a line of its own. -/
def filledFrom (width indent used : Nat) (line : List String) : List String → List (List String)
  | [] => if line.isEmpty then [] else [line.reverse]
  | word :: rest =>
    if !line.isEmpty && decide (width < used + word.length) then
      line.reverse :: filledFrom width indent (indent + word.length + 1) [word] rest
    else filledFrom width indent (used + word.length + 1) (word :: line) rest

/-- Words in lines of at most `width` characters, as many to a line as fit. -/
def filled (width : Nat) (words : List String) : List String :=
  (filledFrom width 0 0 [] words).map " ".intercalate

namespace Help

/-- The name of the program. -/
def programName : String := "docfold"

/-- The program and its version. -/
def version : String := "docfold 1.0.0"

/-- The number of columns that help is laid out for. -/
def width : Nat := 78

/-- Blanks up to a column. -/
def blanks (n : Nat) : String := "".pushn ' ' n

/-- A value in the help. -/
def shownValue : Takes → Option String
  | .nothing => none
  | .text placeholder => some placeholder
  | .choice among => some ("\x7b" ++ ",".intercalate among ++ "\x7d")

/-- An option by one of its names, with its value. -/
def named (f : Flag) (name : String) : String :=
  match shownValue f.takes with
  | none => name
  | some value => name ++ " " ++ value

/-- The usage of a program: the options, then the other arguments on a line of their own if not all
fits on one line. -/
def usageOf (program : String) (options arguments : List String) : String :=
  let start := "usage: "
  let whole := start ++ " ".intercalate ([program] ++ options ++ arguments)
  if whole.length ≤ width then whole
  else
    let indent := start.length + program.length + 1
    let first := filledFrom width indent start.length [] (program :: options)
    let rest := filledFrom width indent indent [] arguments
    start ++ ("\n" ++ blanks indent).intercalate ((first ++ rest).map " ".intercalate)

/-- The usage of a command. -/
def usage (c : Command) : String :=
  let optionUsage (f : Flag) : String := "[" ++ named f (f.names.headD "") ++ "]"
  usageOf (programName ++ " " ++ c.name) (c.flags.map optionUsage) ["[FILE]"]

/-- The usage of the program. -/
def programUsage : String := usageOf programName ["[-h]", "[-v]"] ["<command> ..."]

/-- An entry of a list: a label and, from the given column on, what it is for. -/
def entry (indent column : Nat) (label text : String) : List String :=
  let texts := filled (width - column) (text.splitOn " ")
  let label := blanks indent ++ label
  if label.length + 2 ≤ column then
    match texts with
    | [] => [label]
    | first :: rest =>
      (label.pushn ' ' (column - label.length) ++ first) :: rest.map (blanks column ++ ·)
  else label :: texts.map (blanks column ++ ·)

/-- The entry of an option under all its names. -/
def flagEntry (column : Nat) (f : Flag) : List String :=
  entry 2 column (", ".intercalate (f.names.map (named f))) f.summary

/-- A list under a heading. -/
def list (heading : String) (entries : List (List String)) : String :=
  "\n".intercalate ((heading ++ ":") :: entries.flatten)

/-- Sections with an empty line between them. -/
def sections (parts : List String) : String := "\n\n".intercalate parts ++ "\n"

/-- The column at which the help of a command says what an option is for. -/
def column : Nat := 24

/-- The help of a command. -/
def command (c : Command) : String :=
  sections [usage c, c.description,
    list "positional arguments"
      [entry 2 column "FILE" "Document to reduce (- reads standard input)"],
    list "options" (c.flags.map (flagEntry column))]

/-- The help of the program. -/
def program : String :=
  let column := 17
  sections [programUsage, "docfold - flatten composite AsciiDoc documents",
    list "options" [entry 2 column "-h, --help" Flag.help.summary,
      entry 2 column "-v, --version" "show program's version number and exit"],
    list "commands" (["  <command>"] :: Command.all.map fun c =>
      entry 4 column c.name c.summary),
    "'docfold FILE' is short for 'docfold reduce FILE'."]

end Help

end Transclude.Cli
