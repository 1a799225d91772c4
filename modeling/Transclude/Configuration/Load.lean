import Transclude.Configuration.Schema
import Transclude.Configuration.Variable
import Transclude.Diagnostic.Fault
import Transclude.Diagnostic.Journal
import Transclude.Files
import Transclude.Log.LineFormat
import Transclude.Text.Encoding.Codec
import Transclude.Value.Yaml.Reader

/-!
# Loading a configuration

A configuration has four layers: defaults, the file of the project, a file that the caller names,
and variables of the environment. The result is checked against the schema.

## Main definitions

* `Configuration.readFile` : the configuration in a file.
* `Configuration.loadOver` : the configuration of a project over given defaults.
* `Configuration.load`     : the configuration of a project.
-/

namespace Transclude

/-- Why there is no configuration. -/
inductive ConfigurationError
  | fault (f : Fault)
  | file (e : FileError)
  | encoding (e : EncodingError)
  /-- A scalar without a value, in a file or in a variable. -/
  | scalar (e : Yaml.ScalarError)
  /-- Keys of different kinds stand where violations have to be put in order. -/
  | unordered (e : Unordered)

/-- The reason in words. -/
def ConfigurationError.message : ConfigurationError → String
  | .fault f => f.message
  | .file e => e.message
  | .encoding e => e.message
  | .scalar e => e.message
  | .unordered e => e.message

namespace Configuration

/-- The configuration below all layers. -/
def defaults : Mapping :=
  [("reducer", .map
     [("safe_mode", .text "unsafe"), ("include_root", .null),
      ("preserve_conditionals", .bool false), ("max_include_depth", .int 64),
      ("unresolved_placeholder", .bool true), ("failure_level", .text "error"),
      ("severity", .map [("missing_include", .text "error"), ("jail_violation", .text "error")]),
      ("attributes", .map [])]),
   ("cli", .map [("failure_level", .text "fatal")]),
   ("logging", .map [("level", .text "warning"), ("format", .text LineFormat.standard)])]

/-- The names of the file of a project; the first that exists counts. -/
def fileNames : List String := [".docfold.yml", ".docfold.yaml", "docfold.yml"]

/-- The fault of a file. -/
def faulty (message path : String) : ConfigurationError :=
  .fault ⟨.configuration, message, [("path", .text path)]⟩

/-- The configuration in a file, which is the document of the given number. An empty file has an
empty one. -/
def readFile (document : Nat) (files : FileTree) (cwd path : String) :
    Except ConfigurationError (Mapping Linked) :=
  match files.read cwd path with
  | .error e =>
    if e.problem = .notFound then .error (faulty s!"Config file not found: {path}" path)
    else .error (.file e)
  | .ok content =>
    match Utf8.decodeBlocks [] content with
    | .error e => .error (.encoding (.decoding e))
    | .ok text =>
      match Linked.ofYaml document (String.ofList text) with
      | .error .malformed => .error (faulty s!"Invalid YAML in {path}" path)
      | .error (.scalar e) => .error (.scalar e)
      | .ok (.scalar .null) => .ok []
      | .ok (.map _ entries) => .ok entries
      | .ok _ => .error (faulty s!"Config file must contain a mapping: {path}" path)

/-- The paths at which the file of a project may be. -/
def projectPaths (root : String) : List String :=
  fileNames.map fun name => Path.join (Path.collapsed root) name

/-- The first of several paths that leads to a file. -/
def firstFile? (files : FileTree) (cwd : String) :
    List String → Except FileError (Option String)
  | [] => .ok none
  | path :: rest =>
    match files.probe cwd path with
    | .error e => .error e
    | .ok true => .ok (some path)
    | .ok false => firstFile? files cwd rest

/-- The file of a project. -/
def projectFile? (files : FileTree) (cwd root : String) : Except FileError (Option String) :=
  firstFile? files cwd (projectPaths root)

/-- The check of a configuration against the schema. -/
def check (config : Mapping) : Except ConfigurationError Mapping :=
  match Schema.ofConfig.violations (.map config) with
  | .error e => .error (.unordered e)
  | .ok [] => .ok config
  | .ok (first :: rest) =>
    let place := if first.path.isEmpty then "<root>"
      else ".".intercalate (first.path.map Scalar.asText)
    let messages := (first :: rest).map fun violation => Value.text violation.message
    .error (.fault ⟨.configuration, s!"Invalid configuration at {place}: {first.message}",
      [("errors", .list messages)]⟩)

/-- The remark about a variable that is ignored. -/
def ignored (name : String) : Event :=
  .noted ⟨Severity.warning.rank, Channel.configuration.name,
    s!"Ignoring malformed DOCFOLD_* variable: {name}"⟩

/-- What a run needs to know of its surroundings to load its configuration: the files, the current
directory, the directory of the project, and the variables of the environment. -/
structure Place where
  files : FileTree
  cwd : String
  root : String
  environment : Table String := []

/-- The layer of the file of a project. It is empty if there is no such file. -/
def ownLayer (place : Place) : Except ConfigurationError (Mapping Linked) :=
  match projectFile? place.files place.cwd place.root with
  | .error e => .error (.file e)
  | .ok (some path) => readFile 1 place.files place.cwd path
  | .ok none => .ok []

/-- The layer of the file that the caller names. It is empty if none is named. -/
def namedLayer (place : Place) (named : Option String) :
    Except ConfigurationError (Mapping Linked) :=
  match named with
  | some path => readFile 2 place.files place.cwd (Path.collapsed path)
  | none => .ok []

/-- The configuration of the file layers over `below`, and what happened. -/
def layersOver (below : Mapping Linked) (place : Place) (named : Option String) :
    Except ConfigurationError (Mapping Linked) × Journal :=
  let looked := (projectPaths place.root ++ (named.map Path.collapsed).toList).map Event.consulted
  let remark :=
    match projectFile? place.files place.cwd place.root with
    | .ok (some path) => [Event.remark .configuration s!"Loading project config {path}"]
    | _ => []
  let config := do
    let own ← ownLayer place
    let given ← namedLayer place named
    pure (Linked.merged (Linked.merged below own) given)
  (config, (looked ++ remark).toArray)

/-- The configuration of a project over `below`, with a named file over it, and what happened. A
variable changes the table that is at its path, and so all that a file makes of that table. -/
def loadOver (below : Mapping Linked) (place : Place) (named : Option String) (validate : Bool) :
    Except ConfigurationError Mapping × Journal :=
  match layersOver below place named with
  | (.error e, journal) => (.error e, journal)
  | (.ok config, journal) =>
    let (applied, malformed) := Variable.applied config place.environment
    let verdict := match applied with
      | .error e => .error (.scalar (.numeral e))
      | .ok config =>
        let config := Linked.plainEntries config
        if validate then check config else .ok config
    (verdict, journal ++ (malformed.map ignored).toArray)

/-- The configuration of a project with a named file over it, and what happened. -/
def load (place : Place) (named : Option String) (validate : Bool) :
    Except ConfigurationError Mapping × Journal :=
  loadOver (Linked.ofEntries defaults) place named validate

end Configuration

end Transclude
