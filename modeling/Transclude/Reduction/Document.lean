import Transclude.Output.Target
import Transclude.Reduction.Run

/-!
# Reducing documents

A document is a text, perhaps that of a file. It is read, changed by the preprocessors, reduced,
and shown to the postprocessors. The text of the result is written only if nothing in it is fatal.

## Main definitions

* `Source`          : where the text of a document comes from.
* `Document.reduce` : the result of a reduction and its journal.
* `Job.run`         : reading a source, reducing it, and writing the text of the result.
-/

namespace Transclude

/-- Text or bytes. -/
inductive Content
  | text (s : String)
  | bytes (b : List UInt8)
  deriving DecidableEq, Repr

/-- Where the text of a document comes from. -/
inductive Source
  | text (s : String)
  | bytes (b : List UInt8)
  | file (path : String)
  /-- A stream, which may have a name. -/
  | stream (content : Content) (name : Option String)
  /-- Something that has no text, by the name of its kind. -/
  | unsupported (kind : String)
  deriving DecidableEq, Repr

/-- Why there is no result, or why a result is refused. -/
inductive Failure
  | options (e : OptionsError)
  | source (kind : String)
  | file (e : FileError)
  | encoding (e : EncodingError)
  | hook (e : HookFailure)
  | numeral (e : NumeralError)
  /-- The result is fatal because of a diagnostic. -/
  | fatal (d : Diagnostic) (result : Result)
  | output (e : OutputError)
  deriving DecidableEq, Repr

/-- The failure in words. -/
def Failure.message : Failure → String
  | .options e => e.message
  | .source kind => s!"cannot reduce source of type {kind}"
  | .file e => e.message
  | .encoding e => e.message
  | .hook e => e.message
  | .numeral e => e.message
  | .fatal d _ => d.message
  | .output e => e.message

/-- The failure of a reduction that cannot go on. -/
def Abort.toFailure : Abort → Failure
  | .hook e => .hook e
  | .encoding e => .encoding e
  | .numeral e => .numeral e

/-- A text, and the absolute path of the file that it was read from. -/
structure Document where
  text : String
  path : Option String := none
  deriving DecidableEq, Repr

/-- The text of content in the encoding that is chosen. -/
def Content.read (content : Content) (names : CharacterNames) (encoding : EncodingChoice) :
    Except Failure String :=
  match content with
  | .text s => .ok s
  | .bytes b => (Encoding.readBytes names encoding b).mapError .encoding

/-- The document of a source. A stream with the name of a file is taken for that file. -/
def Source.read (names : CharacterNames) (files : FileTree) (cwd : String)
    (encoding : EncodingChoice) : Source → Except Failure Document
  | .text s => .ok ⟨s, none⟩
  | .bytes b => ((Content.bytes b).read names encoding).map (⟨·, none⟩)
  | .unsupported kind => .error (.source kind)
  | .file path =>
    let path := Path.absolute cwd path
    match Encoding.problemForFile? encoding, files.read cwd path with
    | some e, _ => .error (.encoding e)
    | none, .error e => .error (.file e)
    | none, .ok raw =>
      ((Encoding.readFile names encoding raw).mapError .encoding).map (⟨·, some path⟩)
  | .stream content name =>
    (content.read names encoding).map fun text =>
      match name with
      | some name => ⟨text, if files.isFile cwd name then some (Path.absolute cwd name) else none⟩
      | none => ⟨text, none⟩

/-- The paths at which a source looks at the file system. -/
def Source.consulted : Source → List String
  | .file path => [path]
  | .stream _ (some name) => [name]
  | _ => []

namespace Document

/-- The name of a document that is no file. -/
def anonymous : String := "<stdin>"

/-- The name of a document. -/
def name (d : Document) : String := d.path.getD anonymous

/-- The attributes that tell a document about itself. -/
def intrinsics (d : Document) (mode : SafeMode) : Table String :=
  let common := [("safe-mode-name", mode.name), (s!"safe-mode-{mode.name}", "")]
  match d.path with
  | none => common
  | some path =>
    let (stem, suffix) := Path.splitSuffix path
    common ++ [("docfile", path), ("docdir", Path.parent path), ("docname", stem),
      ("docfilesuffix", suffix)]

/-- The directory in which a document reads its includes. -/
def directory (d : Document) (cwd : String) (o : Options) : String :=
  match d.path with
  | some path => Path.directory path
  | none => Path.absolute cwd (o.baseDir.getD cwd)

/-- The directory that contains what a document may include. -/
def jailDirectory (d : Document) (cwd : String) (o : Options) : String :=
  match o.baseDir with
  | some dir => Path.absolute cwd dir
  | none => d.directory cwd o

/-- What stays the same during the reduction of a document. -/
def setting (d : Document) (files : FileTree) (cwd : String) (o : Options) (evaluator : Evaluator)
    (registry : Registry) (names : CharacterNames := .unknown) : Setting :=
  .jailed o evaluator registry files cwd (d.jailDirectory cwd o) (d.directory cwd o) names

/-- The lines of a document after the preprocessors. -/
def lines (d : Document) (registry : Registry) : List Line :=
  Line.number (fun n => { file := d.name, line := n })
    (registry.preprocess (Text.splitLines d.text))

/-- The remark about a result. -/
def remark (r : Result) : Event :=
  let count := r.lines.length
  let problems := r.diagnostics.length
  .remark .documents s!"reduced {r.file} to {count} lines ({problems} diagnostics)"

/-- The result of reducing a document, and the journal of the reduction, given the attributes that
the caller sets. -/
def reduce (d : Document) (s : Setting) (attributes : Mapping) :
    Except Interruption (Result × Journal) :=
  let start := AttributeSet.ofOptions attributes (d.intrinsics s.options.safeMode)
  (Buffer.reduce s d.name start ⟨d.lines s.registry⟩).map fun (r, journal) =>
    (r, journal.push (remark r))

end Document

/-- A request to reduce a source and to write the text of the result to a target. -/
structure Job where
  source : Source
  options : Options := {}
  evaluator : Evaluator := .standard
  registry : Registry := {}
  names : CharacterNames := .unknown
  target : Target := .nowhere
  /-- Whether a fatal result is refused. -/
  refuseFatal : Bool := true

/-- What comes of a job: the result or the failure, the journal, the results after each of the
postprocessors, and the output. -/
structure Outcome where
  verdict : Except Failure Result
  journal : Journal := #[]
  shown : List Result := []
  output : Output

namespace Job

/-- The outcome once there is a result: it is shown to the postprocessors, and its text is written
if nothing in it is fatal. -/
def conclude (j : Job) (cwd : String) (r : Result) (journal : Journal) (o : Output) : Outcome :=
  let shown := j.registry.postprocess r
  let r := shown.getLast?.getD r
  match r.firstFatal? with
  | some d => ⟨if j.refuseFatal then .error (.fatal d r) else .ok r, journal, shown, o⟩
  | none =>
    match j.target.write cwd j.options.encoding.meaning r.text o with
    | (.ok _, o) => ⟨.ok r, journal, shown, o⟩
    | (.error e, o) => ⟨.error (.output e), journal, shown, o⟩

/-- What comes of a job in the directory `cwd`, given the output so far. -/
def run (j : Job) (cwd : String) (o : Output) : Outcome :=
  match j.source.read j.names o.files cwd j.options.encoding.meaning,
    j.options.attributeEntries with
  | .error e, _ => { verdict := .error e, output := o }
  | .ok _, .error e => { verdict := .error (.options e), output := o }
  | .ok d, .ok attributes =>
    let s := d.setting o.files cwd j.options j.evaluator j.registry j.names
    match d.reduce s attributes with
    | .error i => { verdict := .error i.abort.toFailure, journal := i.journal, output := o }
    | .ok (r, journal) => j.conclude cwd r journal o

end Job

end Transclude
