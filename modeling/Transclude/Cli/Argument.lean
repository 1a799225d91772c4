import Transclude.Cli.Flag
import Transclude.Text.Digit
import Transclude.Text.Shown
import Transclude.Text.Split

/-!
# Single arguments

How an argument of a command line is read: as a word, as options, or as an option that does not
exist. A long name may be cut short as long as it is clear which one is meant, short names may be
put together after one hyphen, and a value may follow its option in the same argument.

## Main definitions

* `UsageError`     : what is wrong with a command line.
* `Reading.ofText` : how an argument is read.
* `spread`         : the options in an argument.
-/

namespace Transclude.Cli

/-- What is wrong with a command line. -/
inductive UsageError
  /-- The beginning of a name that fits several options. -/
  | ambiguous (argument : String) (fitting : List String)
  | valueMissing (f : Flag)
  /-- A value for an option that takes none. -/
  | valueIgnored (f : Flag) (value : String)
  | valueRefused (f : Flag) (value : String)
  /-- Arguments that no option and no word stands for. -/
  | notUnderstood (arguments : List String)
  | noDocument
  deriving DecidableEq, Repr

/-- Words that are not understood, in a message: the first that looks like an option, or else all
of them. -/
def describeWords (words : List String) : String :=
  match words.find? fun w => w.toList.head? == some '-' && w != "-" with
  | some w => s!"invalid option: {w}"
  | none =>
    let all := " ".intercalate words
    s!"extra arguments detected (unparsed arguments: {all})"

/-- The error in words. -/
def UsageError.message : UsageError → String
  | .ambiguous argument fitting =>
    let all := ", ".intercalate fitting
    s!"ambiguous option: {argument} could match {all}"
  | .valueMissing f => "argument " ++ f.label ++ ": expected one argument"
  | .valueIgnored f value =>
    "argument " ++ f.label ++ ": ignored explicit argument " ++ Text.quoted value
  | .valueRefused f value =>
    let choices := match f.takes with
      | .choice among => ", ".intercalate (among.map Text.quoted)
      | _ => ""
    "argument " ++ f.label ++ ": invalid choice: " ++ Text.quoted value ++
      s!" (choose from {choices})"
  | .notUnderstood arguments =>
    describeWords (((Text.fields Text.isBlank (" ".intercalate arguments).toList).filter
      fun w => !w.isEmpty).map String.ofList)
  | .noDocument => "Please specify a document to reduce."

/-- The options with their names, the names of one option after those of another. -/
def namesOf (flags : List Flag) : List (String × Flag) :=
  flags.flatMap fun f => f.names.map fun name => (name, f)

/-- The option of a name. -/
def named? (flags : List Flag) (name : String) : Option Flag :=
  ((namesOf flags).find? fun entry => entry.1 == name).map (·.2)

/-- How an argument is read. -/
inductive Reading
  | word
  /-- An option by its long name, perhaps with a value. -/
  | long (f : Flag) (value : Option (List Char))
  /-- An option by its short name, and what follows it: a value or more short names. -/
  | short (f : Flag) (rest : Option (List Char))
  | unknown
  deriving DecidableEq, Repr

/-- Whether an argument looks like a negative number. A line feed at the end does not count. -/
def isNegativeNumber (argument : List Char) : Bool :=
  let s := if argument.getLast? == some '\n' then argument.dropLast else argument
  match s with
  | '-' :: s =>
    match Text.cut (· == '.') s with
    | (whole, none) => !whole.isEmpty && whole.all Text.isDigit
    | (whole, some fraction) =>
      whole.all Text.isDigit && !fraction.isEmpty && fraction.all Text.isDigit
  | _ => false

namespace Reading

/-- The option of an exact name, with the value that follows an equals sign. -/
def ofName? (flags : List Flag) (name : List Char) (value : Option (List Char)) :
    Option Reading :=
  (named? flags (String.ofList name)).map fun f =>
    if "--".toList.isPrefixOf name then .long f value else .short f value

/-- An argument that is no option: it is a word if it looks like a negative number or holds a
blank. -/
def ofOther (argument : List Char) : Reading :=
  if isNegativeNumber argument || argument.contains ' ' then .word else .unknown

/-- An argument that starts with two hyphens and the beginning of a name. -/
def ofLongStart (flags : List Flag) (argument : List Char) : Except UsageError Reading :=
  let (start, value) := Text.cut (· == '=') argument
  match (namesOf flags).filter fun entry => start.isPrefixOf entry.1.toList with
  | [] => .ok (ofOther argument)
  | [(_, f)] => .ok (.long f value)
  | fitting => .error (.ambiguous (String.ofList argument) (fitting.map (·.1)))

/-- An argument that starts with one hyphen. -/
def ofShortStart (flags : List Flag) (argument : List Char) : Reading :=
  match named? flags (String.ofList (argument.take 2)) with
  | some f => .short f (some (argument.drop 2))
  | none => ofOther argument

/-- How an argument is read. -/
def ofText (flags : List Flag) (text : String) : Except UsageError Reading :=
  let argument := text.toList
  if argument.head? != some '-' then .ok .word
  else
    match ofName? flags argument none with
    | some r => .ok r
    | none =>
      if argument.length = 1 then .ok .word
      else
        let assigned := match Text.cut (· == '=') argument with
          | (name, some value) => ofName? flags name (some value)
          | (_, none) => none
        match assigned with
        | some r => .ok r
        | none =>
          if "--".toList.isPrefixOf argument then ofLongStart flags argument
          else .ok (ofShortStart flags argument)

end Reading

/-- What an argument ends with, after options that take no value. -/
inductive Ending
  /-- An option without anything after it. -/
  | flag (f : Flag)
  | value (f : Flag) (text : String)
  deriving DecidableEq, Repr

/-- The options in a group of short names, given the first and what follows it: those that take no
value, and what the group ends with. What follows an option that takes a value is the value, and
after any other one the next short name has to follow. -/
def spread (flags : List Flag) (f : Flag) : List Char → Except UsageError (List Flag × Ending)
  | [] =>
    if f.takesValue then .ok ([], .value f "") else .error (.valueIgnored f "")
  | c :: rest =>
    if f.takesValue then .ok ([], .value f (String.ofList (c :: rest)))
    else
      match named? flags (String.ofList ['-', c]) with
      | none => .error (.valueIgnored f (String.ofList (c :: rest)))
      | some g =>
        if rest.isEmpty then .ok ([f], .flag g)
        else (spread flags g rest).map fun (fs, e) => (f :: fs, e)

/-- The options of a long name with a value, if there is one. -/
def spreadLong (f : Flag) (value : Option (List Char)) :
    Except UsageError (List Flag × Ending) :=
  match value with
  | none => .ok ([], .flag f)
  | some text =>
    if f.takesValue then .ok ([], .value f (String.ofList text))
    else .error (.valueIgnored f (String.ofList text))

end Transclude.Cli
