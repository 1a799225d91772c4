/-!
# Commands and options

The commands of the program and the options that each of them takes. An option has a short name, a
long name, or both, and takes no value, any value, or one of a few.

## Main definitions

* `Command`       : what the program can be asked to do.
* `Flag`          : an option of a command.
* `Command.flags` : the options of a command, in the order in which the help lists them.
-/

namespace Transclude.Cli

/-- What the program can be asked to do. -/
inductive Command
  /-- Write the flattened text. -/
  | reduce
  /-- Write where every line of the flattened text was read. -/
  | sourceMap
  deriving DecidableEq, Repr

/-- The options of the program and of its commands. -/
inductive Flag
  | help
  | output
  | attribute
  | safeMode
  | includeRoot
  | preserveConditionals
  | failureLevel
  | require
  | config
  | logLevel
  | quiet
  | trace
  | json
  | version
  | format
  deriving DecidableEq, Repr

/-- What value an option takes. -/
inductive Takes
  | nothing
  /-- Any text; the help stands the given word for it. -/
  | text (placeholder : String)
  | choice (among : List String)
  deriving DecidableEq, Repr

namespace Command

/-- The name of a command. -/
def name : Command → String
  | .reduce => "reduce"
  | .sourceMap => "sourcemap"

/-- All commands. -/
def all : List Command := [.reduce, .sourceMap]

/-- The command of a name. -/
def ofName? (name : String) : Option Command := all.find? fun c => c.name == name

/-- What a command does, in a line. -/
def summary : Command → String
  | .reduce => "Reduce a composite document to a single flattened document"
  | .sourceMap => "Print the source map of a reduced document"

/-- What a command does, as its own help says it. -/
def description : Command → String
  | .reduce =>
    "Reduces a composite AsciiDoc document by expanding includes and evaluating " ++
      "preprocessor conditionals."
  | .sourceMap => "Reduces a document and prints where every output line came from."

/-- The options of a command, in the order in which the help lists them. -/
def flags (c : Command) : List Flag :=
  let common : List Flag :=
    [.help, .output, .attribute, .safeMode, .includeRoot, .preserveConditionals, .failureLevel,
      .require, .config, .logLevel, .quiet, .trace, .json, .version]
  match c with
  | .reduce => common
  | .sourceMap => common ++ [.format]

end Command

namespace Flag

/-- The options that the program takes in place of a command. -/
def topLevel : List Flag := [.help, .version]

/-- The names of an option, the short one first. -/
def names : Flag → List String
  | .help => ["-h", "--help"]
  | .output => ["-o", "--output"]
  | .attribute => ["-a", "--attribute"]
  | .safeMode => ["-S", "--safe-mode"]
  | .includeRoot => ["--include-root"]
  | .preserveConditionals => ["--preserve-conditionals"]
  | .failureLevel => ["--failure-level"]
  | .require => ["-r", "--require"]
  | .config => ["--config"]
  | .logLevel => ["--log-level"]
  | .quiet => ["-q", "--quiet"]
  | .trace => ["--trace"]
  | .json => ["--json"]
  | .version => ["-v", "--version"]
  | .format => ["--format"]

/-- The name by which messages call an option. -/
def label (f : Flag) : String := "/".intercalate f.names

/-- The names of severities on the command line. -/
def levels : List String := ["debug", "info", "warn", "warning", "error", "fatal"]

/-- The value that an option takes. -/
def takes : Flag → Takes
  | .output => .text "FILE"
  | .attribute => .text "NAME[=VALUE]"
  | .safeMode => .choice ["unsafe", "safe", "strict"]
  | .includeRoot => .text "DIR"
  | .failureLevel => .choice levels
  | .require => .text "MODULE"
  | .config => .text "PATH"
  | .logLevel => .choice levels
  | .format => .choice ["json", "yaml"]
  | .help | .preserveConditionals | .quiet | .trace | .json | .version => .nothing

/-- Whether an option takes a value. -/
def takesValue (f : Flag) : Bool := f.takes != .nothing

/-- Whether an option accepts a value. -/
def accepts (f : Flag) (value : String) : Bool :=
  match f.takes with
  | .choice among => among.contains value
  | _ => true

/-- What an option is for. -/
def summary : Flag → String
  | .help => "show this help message and exit"
  | .output => "Write output to FILE instead of stdout (- means stdout)"
  | .attribute => "Set a document attribute (NAME! unsets it); may be repeated"
  | .safeMode => "Containment policy for include paths (default: unsafe)"
  | .includeRoot => "Directory outside the jail that includes may read from in safe mode"
  | .preserveConditionals => "Keep conditional directives and all branches"
  | .failureLevel => "Lowest diagnostic severity that fails the reduction (default: fatal)"
  | .require =>
    "Import an extension module or .py file before reducing; may be repeated or comma-separated"
  | .config => "Load configuration from PATH on top of project and bundled defaults"
  | .logLevel => "Lowest severity of diagnostics to print (default: warn)"
  | .quiet => "Suppress all diagnostic messages"
  | .trace => "Show the backtrace of an unexpected error"
  | .json => "Report the outcome as JSON"
  | .version => "Display the program name and version and exit"
  | .format => "Source map format (default: json)"

end Flag

end Transclude.Cli
