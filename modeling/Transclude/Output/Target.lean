import Transclude.Files
import Transclude.Text.Encoding.Codec

/-!
# Output targets

Where output goes: nowhere, to standard output, to a file, or to a stream of the caller.

## Main definitions

* `Target`        : a place for output.
* `Output`        : what has been written so far.
* `Target.write`  : the output after a text is written to a target.
-/

namespace Transclude

/-- A place for output. -/
inductive Target
  | nowhere
  | standard
  | file (path : String)
  /-- A stream of the caller. -/
  | stream
  /-- Something that cannot be written to, as a message shows it. -/
  | unsupported (shown : String)
  deriving DecidableEq, Repr

/-- The path of the file that is never written. -/
def nullDevice : String := "/dev/null"

/-- The target with a given name: a hyphen is standard output. -/
def Target.ofName (name : String) : Target :=
  if name = nullDevice then .nowhere else if name = "-" then .standard else .file name

/-- What has been written so far: the files, and what went to standard output and to the stream of
the caller. -/
structure Output where
  files : FileTree := {}
  standard : String := ""
  stream : String := ""
  deriving DecidableEq, Repr

/-- Why output cannot be written. -/
inductive OutputError
  | isADirectory (path : String)
  | file (e : FileError)
  | encoding (e : EncodingError)
  | unsupported (shown : String)
  deriving DecidableEq, Repr

/-- The reason in words. -/
def OutputError.message : OutputError → String
  | .isADirectory path => s!"output is a directory: {path}"
  | .file e => e.message
  | .encoding e => e.message
  | .unsupported shown => s!"unsupported output target: {shown}"

/-- Whether the problem is one of the file system. -/
def OutputError.isFileProblem : OutputError → Bool
  | .isADirectory _ => true
  | .file e => e.problem.isSystemError
  | .encoding _ | .unsupported _ => false

namespace Output

/-- The output after a text is written to a file, whose missing directories are made. The file is
emptied before the text is encoded, so it is left empty if that fails. A choice that is no name of an
encoding is refused before that. -/
def toFile (o : Output) (cwd : String) (encoding : EncodingChoice) (path text : String) :
    Option OutputError × Output :=
  match o.files.locate cwd path with
  | .error .nameTooLong => (some (.file ⟨.nameTooLong, path⟩), o)
  | _ =>
    if o.files.isDirectory cwd path then (some (.isADirectory path), o)
    else
      match o.files.makeParents cwd path with
      | (some e, files) => (some (.file e), { o with files := files })
      | (none, files) =>
        match Encoding.problemForFile? encoding, files.write cwd path [] with
        | some e, _ => (some (.encoding e), { o with files := files })
        | none, .error e => (some (.file e), { o with files := files })
        | none, .ok emptied =>
          match Encoding.writeFile encoding text with
          | .error e => (some (.encoding e), { o with files := emptied })
          | .ok bytes =>
            match emptied.write cwd path bytes with
            | .error e => (some (.file e), { o with files := emptied })
            | .ok files => (none, { o with files := files })

end Output

/-- The outcome of writing a text to a target: the path of the file written, if it is one, or why
the text cannot be written, and the output after it. -/
def Target.write (cwd : String) (encoding : EncodingChoice) (text : String) (o : Output) :
    Target → Except OutputError (Option String) × Output
  | .nowhere => (.ok none, o)
  | .standard => (.ok none, { o with standard := o.standard ++ text })
  | .stream => (.ok none, { o with stream := o.stream ++ text })
  | .unsupported shown => (.error (.unsupported shown), o)
  | .file path =>
    let path := Path.collapsed path
    match o.toFile cwd encoding path text with
    | (some e, o) => (.error e, o)
    | (none, o) => (.ok (some path), o)

end Transclude
