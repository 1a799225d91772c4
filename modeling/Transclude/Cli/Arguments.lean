import Transclude.Cli.Argument

/-!
# Command lines

Options and words may stand in any order. The first word is the document, and after two hyphens
alone every argument is a word. Help and the version are shown as soon as they are reached, and the
first error ends the reading.

## Main definitions

* `Choices`         : what a command line chooses.
* `Stop`            : why a command is not carried out.
* `Invocation.read` : the command that a command line asks for.
-/

namespace Transclude.Cli

/-- What a command line chooses. -/
structure Choices where
  output : Option String := none
  attributes : List String := []
  safeMode : Option String := none
  includeRoot : Option String := none
  preserveConditionals : Bool := false
  failureLevel : Option String := none
  extensions : List String := []
  configuration : Option String := none
  logLevel : Option String := none
  quiet : Bool := false
  trace : Bool := false
  json : Bool := false
  yaml : Bool := false
  deriving DecidableEq, Repr

/-- Why a command is not carried out: there is help to show, or something is wrong with the command
line. Without a command it is the program that is meant. -/
inductive Stop
  | help (c : Option Command)
  | version
  | refused (c : Option Command) (e : UsageError)
  deriving DecidableEq, Repr

/-- A command, the document to carry it out on, and what else is chosen. -/
structure Invocation where
  command : Command
  document : String
  choices : Choices := {}
  deriving DecidableEq, Repr

/-- The choices after an option with its value. -/
def Choices.take (command : Command) (choices : Choices) (f : Flag) (value : String) :
    Except Stop Choices :=
  if !f.accepts value then .error (.refused (some command) (.valueRefused f value))
  else
    match f with
    | .help => .error (.help (some command))
    | .version => .error .version
    | .output => .ok { choices with output := some value }
    | .attribute => .ok { choices with attributes := choices.attributes ++ [value] }
    | .safeMode => .ok { choices with safeMode := some value }
    | .includeRoot => .ok { choices with includeRoot := some value }
    | .preserveConditionals => .ok { choices with preserveConditionals := true }
    | .failureLevel => .ok { choices with failureLevel := some value }
    | .require => .ok { choices with extensions := choices.extensions ++ [value] }
    | .config => .ok { choices with configuration := some value }
    | .logLevel => .ok { choices with logLevel := some value }
    | .quiet => .ok { choices with quiet := true }
    | .trace => .ok { choices with trace := true }
    | .json => .ok { choices with json := true }
    | .format => .ok { choices with yaml := value == "yaml" }

/-- An argument as it is read. -/
inductive Token
  | word (s : String)
  /-- Two hyphens alone. -/
  | divider
  | option (r : Reading)
  | unknown (s : String)
  deriving DecidableEq, Repr

/-- The arguments as they are read. After two hyphens alone all are words. -/
def tokens (flags : List Flag) : List String → Except UsageError (List Token)
  | [] => .ok []
  | "--" :: rest => .ok (.divider :: rest.map .word)
  | argument :: rest => do
    let first := match ← Reading.ofText flags argument with
      | .word => .word argument
      | .unknown => .unknown argument
      | r => .option r
    let others ← tokens flags rest
    pure (first :: others)

/-- How far the reading of a command line has come: the choices, the document, and the arguments
that are not understood, the last first. -/
structure Progress where
  choices : Choices := {}
  document : Option String := none
  extras : List String := []
  deriving DecidableEq, Repr

namespace Progress

/-- The progress after options that take no value and one that does. -/
def take (command : Command) (p : Progress) (fs : List Flag) (last : Option (Flag × String)) :
    Except Stop Progress := do
  let choices ← fs.foldlM (fun choices f => choices.take command f "") p.choices
  match last with
  | some (f, value) => pure { p with choices := ← choices.take command f value }
  | none => pure { p with choices := choices }

/-- The progress with an argument that is not understood. -/
def addExtra (p : Progress) (argument : String) : Progress :=
  { p with extras := argument :: p.extras }

end Progress

/-- The options in a token that is read as one: those that take no value, and what it ends with. -/
def Reading.options (flags : List Flag) :
    Reading → Except UsageError (List Flag × Option Ending)
  | .long f value => (spreadLong f value).map fun (fs, e) => (fs, some e)
  | .short f none => .ok ([], some (.flag f))
  | .short f (some rest) => (spread flags f rest).map fun (fs, e) => (fs, some e)
  | .word | .unknown => .ok ([], none)

/-- The progress after all tokens. The first word is the document, and the two hyphens next to it
belong to it. -/
def consume (command : Command) (p : Progress) : List Token → Except Stop Progress
  | [] => .ok p
  | .unknown s :: rest => consume command (p.addExtra s) rest
  | .word s :: rest =>
    if p.document.isSome then consume command (p.addExtra s) rest
    else
      match rest with
      | .divider :: rest => consume command { p with document := some s } rest
      | rest => consume command { p with document := some s } rest
  | .divider :: rest =>
    if p.document.isSome then consume command (p.addExtra "--") rest
    else
      match rest with
      | .word s :: rest => consume command { p with document := some s } rest
      | rest => consume command p rest
  | .option r :: rest =>
    match r.options command.flags with
    | .error e => .error (.refused (some command) e)
    | .ok (fs, some (.value f text)) =>
      match p.take command fs (some (f, text)) with
      | .error stop => .error stop
      | .ok p => consume command p rest
    | .ok (_, none) => consume command p rest
    | .ok (fs, some (.flag f)) =>
      if f.takesValue then
        match rest with
        | .word value :: rest =>
          match p.take command fs (some (f, value)) with
          | .error stop => .error stop
          | .ok p => consume command p rest
        | _ => .error (.refused (some command) (.valueMissing f))
      else
        match p.take command (fs ++ [f]) none with
        | .error stop => .error stop
        | .ok p => consume command p rest

/-- The command line with the command in front: it is `reduce` unless the first argument names a
command or asks for help or the version. -/
def withCommand (arguments : List String) : List String :=
  match arguments with
  | first :: _ =>
    if (Command.ofName? first).isSome || (named? Flag.topLevel first).isSome then arguments
    else Command.reduce.name :: arguments
  | [] => [Command.reduce.name]

namespace Invocation

/-- The invocation of a command that arguments describe. -/
def ofArguments (command : Command) (arguments : List String) : Except Stop Invocation :=
  match tokens command.flags arguments with
  | .error e => .error (.refused (some command) e)
  | .ok ts => do
    let p ← consume command {} ts
    if !p.extras.isEmpty then
      .error (.refused (some command) (.notUnderstood p.extras.reverse))
    else
      match p.document.getD "" with
      | "" => .error (.refused (some command) .noDocument)
      | document => .ok ⟨command, document, p.choices⟩

/-- The invocation that a command line asks for. Every argument is first read as one of the
program itself, which can only fail where a beginning fits both of its options. -/
def read (arguments : List String) : Except Stop Invocation :=
  let arguments := withCommand arguments
  match tokens Flag.topLevel arguments, arguments with
  | .error e, _ => .error (.refused none e)
  | .ok _, [] => .error (.help none)
  | .ok _, first :: rest =>
    match Command.ofName? first with
    | some command => ofArguments command rest
    | none =>
      match named? Flag.topLevel first with
      | some .version => .error .version
      | _ => .error (.help none)

end Invocation

end Transclude.Cli
