import Transclude.Attribute.Set
import Transclude.Condition.Frame
import Transclude.Diagnostic.Journal
import Transclude.Extension.Registry
import Transclude.Files
import Transclude.Include.TagFilter
import Transclude.Reduction.Options
import Transclude.Text.Encoding.Codec

/-!
# Resolving includes

What takes the place of an include directive. An include ends in one of four ways: an extension
supplies its lines, its target is a link, a file is read, or there is a problem. A problem is
reported at the directive, and may leave a line that says so.

## Main definitions

* `Setting`                    : what stays the same during a reduction.
* `Setting.jailed`             : the setting whose includes are held in a directory.
* `IncludeRequest.ofDirective` : the include after substitution.
* `Search.ofRequest`           : what is found for an include, and where it was looked for.
* `Resolution.ofDirective`     : the lines that take the place of a directive.
-/

namespace Transclude

/-- What stays the same during a reduction: the options, how conditions are answered, the hooks, the
files, the current directory, the jail, the directory of the root document, and the characters that
names in files stand for. -/
structure Setting where
  options : Options := {}
  evaluator : Evaluator := .standard
  registry : Registry := {}
  files : FileTree := {}
  cwd : String
  jail : Jail
  rootDirectory : String
  names : CharacterNames := .unknown

/-- The setting of a reduction whose includes are held in the directory `jailDirectory`, under the
policy that the options name. -/
def Setting.jailed (options : Options) (evaluator : Evaluator) (registry : Registry)
    (files : FileTree) (cwd jailDirectory rootDirectory : String)
    (names : CharacterNames := .unknown) : Setting :=
  { options := options
    evaluator := evaluator
    registry := registry
    files := files
    cwd := cwd
    jail := Jail.of options.safeMode cwd (some jailDirectory) options.includeRoot
    rootDirectory := rootDirectory
    names := names }

/-- Why a reduction cannot go on: a hook fails, a file does not tell how to read it, or a number in a
condition or in a selection of lines cannot be read. -/
inductive Abort
  | hook (failure : HookFailure)
  | encoding (problem : EncodingError)
  | numeral (problem : NumeralError)
  deriving DecidableEq, Repr

/-- Why a reduction could not go on, and what had happened until then. -/
structure Interruption where
  abort : Abort
  journal : Journal
  deriving DecidableEq, Repr

/-- Why an include yields no lines. -/
inductive IncludeProblem
  /-- An attribute in it has no value; the document says how bad that is. -/
  | missingAttribute (severity : Severity)
  | emptyTarget
  /-- Includes stand inside each other deeper than the limit, given as it is shown. -/
  | tooDeep (limit : String)
  | forbidden (violation : Violation)
  | circular (target : String)
  | optionalMissing (path : String)
  | missing (path : String)
  | unreadable (path reason : String)
  deriving DecidableEq, Repr

namespace IncludeProblem

/-- The problem in words. -/
def message (d : Include) : IncludeProblem → String
  | .missingAttribute _ | .emptyTarget =>
    s!"include dropped due to missing attribute: include::{d.target}[{d.attrList}]"
  | .tooDeep limit => s!"maximum include depth of {limit} exceeded"
  | .forbidden violation => violation.message
  | .circular target => s!"circular include detected: {target}"
  | .optionalMissing path => s!"optional include dropped because include file not found: {path}"
  | .missing path => s!"include file not found: {path}"
  | .unreadable path reason => s!"include file not readable: {path} ({reason})"

/-- How bad the problem is. -/
def severity (o : Options) : IncludeProblem → Severity
  | .missingAttribute severity => severity
  | .emptyTarget => .warning
  | .tooDeep _ | .circular _ => .fatal
  | .forbidden _ => o.jailViolationSeverity
  | .optionalMissing _ => .info
  | .missing _ | .unreadable _ _ => o.missingIncludeSeverity

/-- What the problem is about. -/
def category : IncludeProblem → Category
  | .missingAttribute _ | .emptyTarget | .optionalMissing _ => .notice
  | .tooDeep _ | .circular _ => .structural
  | .forbidden _ | .missing _ | .unreadable _ _ => .resolution

/-- Whether the include leaves a line that says that it is unresolved. -/
def leavesPlaceholder : IncludeProblem → Bool
  | .missingAttribute _ | .emptyTarget | .optionalMissing _ => false
  | _ => true

/-- The problem as a diagnostic at the directive. -/
def diagnostic (o : Options) (d : Include) (origin : Origin) (p : IncludeProblem) : Diagnostic :=
  ⟨p.severity o, p.message d, origin, p.category⟩

end IncludeProblem

/-- The severity with which the document wants an include to be dropped if an attribute in it has no
value. -/
def AttributeSet.dropSeverity? (mode : String) : Option Severity :=
  if mode = "warn" then some .warning else if mode = "drop-line" then some .info else none

/-- The document's way with references without a value. -/
def AttributeSet.missingMode (a : AttributeSet) : String :=
  match a.get? "attribute-missing" with
  | some "" | none => "skip"
  | some mode => mode

/-- The include of a directive after substitution in its target and its attribute list, if there are
braces in either. -/
def IncludeRequest.ofDirective (a : AttributeSet) (d : Include) (origin : Origin) :
    Except IncludeProblem IncludeRequest :=
  let mode := a.missingMode
  let request (target attrList : String) : Except IncludeProblem IncludeRequest :=
    if target = "" then .error .emptyTarget
    else .ok ⟨target, AttrList.ofText attrList, origin, d, a.values⟩
  if d.target.toList.contains '{' || d.attrList.toList.contains '{' then
    let references := if mode = "drop" then "drop" else "skip"
    let target := a.substitute d.target (some references)
    let attrList := a.substitute d.attrList (some references)
    let missing := !target.missing.isEmpty || !attrList.missing.isEmpty
    match missing, AttributeSet.dropSeverity? mode with
    | true, some severity => .error (.missingAttribute severity)
    | _, _ => request (Text.stripped target.text) attrList.text
  else request d.target d.attrList

/-- What is found for an include. -/
inductive Finding
  | supplied (processor : String) (texts : List String)
  | link
  | file (path : String) (selection : Selection)
  | problem (p : IncludeProblem)
  deriving DecidableEq, Repr

/-- What is found for an include, and the paths at which the file system was consulted for it. -/
structure Search where
  finding : Except Abort Finding
  consulted : List String := []
  deriving Repr

namespace Search

/-- The name and the lines of the first processor that does not decline. -/
def supply? (request : IncludeRequest) :
    List IncludeProcessor → Except Abort (Option (String × List String))
  | [] => .ok none
  | p :: rest =>
    match p.process request with
    | .error failure => .error (.hook failure)
    | .ok (some texts) => .ok (some (p.name, texts))
    | .ok none => supply? request rest

/-- The text of a file, or why it cannot be read. Problems that are neither with its bytes nor with
an unknown name end the reduction. -/
def readText (s : Setting) (encoding : EncodingChoice) (path : String) :
    Except Abort (Except String String) :=
  match s.files.read s.cwd path with
  | .error e => .ok (.error e.message)
  | .ok bytes =>
    match Encoding.readFile s.names encoding bytes with
    | .ok text => .ok (.ok text)
    | .error e => if e.isReported then .ok (.error e.message) else .error (.encoding e)

/-- What is found at a path that the jail permits. -/
def atPath (s : Setting) (request : IncludeRequest) (path : String) : Search :=
  if request.origin.lineage.contains path then
    ⟨.ok (.problem (.circular request.target)), []⟩
  else if s.files.isFile s.cwd path then
    let encoding := match request.attributes.get? "encoding" with
      | some "" | none => s.options.encoding.meaning
      | some name => .named name
    match readText s encoding path with
    | .error abort => ⟨.error abort, [path]⟩
    | .ok (.error reason) => ⟨.ok (.problem (.unreadable path reason)), [path]⟩
    | .ok (.ok text) =>
      match Selection.ofAttributes request.attributes path (Text.splitLines text) with
      | .error e => ⟨.error (.numeral e), [path]⟩
      | .ok selection => ⟨.ok (.file path selection), [path]⟩
  else if request.optional then ⟨.ok (.problem (.optionalMissing path)), [path]⟩
  else ⟨.ok (.problem (.missing path)), [path]⟩

/-- What is found for an include in a file of the directory `base`. -/
def ofRequest (s : Setting) (base : String) (request : IncludeRequest) : Search :=
  if s.options.maxIncludeDepth.meaning < request.origin.depth + 1 then
    ⟨.ok (.problem (.tooDeep s.options.maxIncludeDepth.given.asText)), []⟩
  else
    match supply? request (s.registry.claim request.target) with
    | .error abort => ⟨.error abort, []⟩
    | .ok (some (name, texts)) => ⟨.ok (.supplied name texts), []⟩
    | .ok none =>
      if Path.isUri request.target then ⟨.ok .link, []⟩
      else
        match s.jail.resolve s.cwd base request.target with
        | .error violation => ⟨.ok (.problem (.forbidden violation)), []⟩
        | .ok path => atPath s request path

end Search

/-- What takes the place of an include: its lines, the directories in which the files of lines read
their own includes, and what happened. -/
structure Resolution where
  lines : List Line
  directories : Table String
  events : List Event
  deriving DecidableEq, Repr

namespace Resolution

/-- The directory in which the file of a line reads its includes. -/
def baseDirectory (s : Setting) (directories : Table String) (origin : Origin) : String :=
  (directories.get? origin.file).getD s.rootDirectory

/-- The text of the entry that puts the former level offset back, or unsets it if there was none. -/
def restoring (a : AttributeSet) : String :=
  match a.get? "leveloffset" with
  | some former => s!":leveloffset: {former}"
  | none => ":leveloffset!:"

/-- The lines between entries that set the level offset of the include and put the former one
back. -/
def offsetLines (a : AttributeSet) (request : IncludeRequest) (lines : List Line) : List Line :=
  match request.attributes.get? "leveloffset", lines with
  | some "", _ | none, _ | _, [] => lines
  | some offset, lines =>
    ⟨s!":leveloffset: {offset}", request.origin⟩ :: lines ++ [⟨restoring a, request.origin⟩]

section Offset

variable {request : IncludeRequest} {lines : List Line}

/-- The lines of an include with a level offset stand between the two entries. -/
theorem offsetLines_eq {offset : String} (a : AttributeSet)
    (hoffset : request.attributes.get? "leveloffset" = some offset) (hne : offset ≠ "")
    (hlines : lines ≠ []) :
    offsetLines a request lines = ⟨s!":leveloffset: {offset}", request.origin⟩ ::
      (lines ++ [⟨restoring a, request.origin⟩]) := by
  unfold offsetLines
  rw [hoffset]
  split
  · rename_i hempty
    exact absurd (Option.some.inj hempty) hne
  · rename_i hnone
    cases hnone
  · exact absurd rfl hlines
  · rename_i hsome _
    cases hsome
    rfl

/-- Without a level offset the lines stand by themselves. -/
theorem offsetLines_of_plain (a : AttributeSet)
    (h : ∀ offset, request.attributes.get? "leveloffset" = some offset → offset = "") :
    offsetLines a request lines = lines := by
  unfold offsetLines
  split
  · rfl
  · rfl
  · rfl
  · rename_i hne hoffset _
    exact absurd (h _ hoffset) hne

/-- No lines stand by themselves, too. -/
theorem offsetLines_nil (a : AttributeSet) : offsetLines a request [] = [] := by
  unfold offsetLines
  split
  · rfl
  · rfl
  · rfl
  · rename_i hlines
    exact absurd rfl hlines

end Offset

/-- The texts of the entries around the lines of an include: the first sets its level offset, the
last puts the former one back, or unsets the offset if there was none. -/
inductive OffsetEntry (a : AttributeSet) (offset : String) : String → Prop
  | sets : OffsetEntry a offset s!":leveloffset: {offset}"
  | restores (former : String) (had : a.get? "leveloffset" = some former) :
    OffsetEntry a offset s!":leveloffset: {former}"
  | unsets (had : a.get? "leveloffset" = none) : OffsetEntry a offset ":leveloffset!:"

theorem OffsetEntry.restoring (a : AttributeSet) (offset : String) :
    OffsetEntry a offset (restoring a) := by
  unfold Resolution.restoring
  split
  · rename_i former hformer
    exact .restores former hformer
  · rename_i hformer
    exact .unsets hformer

/-- Besides its lines there are only the two entries around them, at the include. -/
theorem mem_offsetLines {a : AttributeSet} {request : IncludeRequest} {lines : List Line} {l : Line}
    (h : l ∈ offsetLines a request lines) :
    l ∈ lines ∨ l.origin = request.origin ∧ ∃ offset,
      request.attributes.get? "leveloffset" = some offset ∧ OffsetEntry a offset l.text := by
  unfold offsetLines at h
  split at h
  · exact .inl h
  · exact .inl h
  · exact .inl h
  · rename_i offset _ hoffset _
    simp only [List.cons_append, List.mem_cons, List.mem_append, List.not_mem_nil, or_false] at h
    rcases h with rfl | h | rfl
    · exact .inr ⟨rfl, offset, hoffset, .sets⟩
    · exact .inl h
    · exact .inr ⟨rfl, offset, hoffset, .restoring a offset⟩

/-- The line that an unresolved include leaves. -/
def placeholder (request : IncludeRequest) : Line :=
  ⟨s!"Unresolved directive in {request.origin.basename} - " ++
    s!"include::{request.target}[{request.directive.attrList}]", request.origin⟩

/-- The line that a link leaves. -/
def linkLine (request : IncludeRequest) : Line :=
  ⟨s!"link:{request.target}[role=include]", request.origin⟩

/-- The lines that an extension supplies. -/
def suppliedLines (request : IncludeRequest) (texts : List String) : List Line :=
  Line.number (request.origin.child request.target) texts

/-- The lines selected from a file. -/
def fileLines (request : IncludeRequest) (path : String) (selection : Selection) : List Line :=
  selection.lines.map fun (n, text) => ⟨text, request.origin.child path n⟩

/-- What takes the place of an include, given what is found for it. -/
def ofFinding (s : Setting) (directories : Table String) (a : AttributeSet)
    (request : IncludeRequest) : Finding → Resolution
  | .supplied name texts =>
    let base := baseDirectory s directories request.origin
    { lines := offsetLines a request (suppliedLines request texts)
      directories := if directories.contains request.target then directories
        else directories.insert request.target base
      events := [.remark .includes
        s!"include {request.target} supplied by extension {name}"] }
  | .link => ⟨[linkLine request], directories, []⟩
  | .file path selection =>
    let lines := fileLines request path selection
    let remark := Event.remark .includes s!"included {path} ({lines.length} lines)"
    { lines := offsetLines a request lines
      directories := directories.insert path (Path.directory path)
      events := (selection.warnings.map fun text =>
        Event.found ⟨.warning, text, request.origin, .notice⟩) ++ [remark] }
  | .problem p =>
    { lines := if p.leavesPlaceholder && s.options.unresolvedPlaceholder.meaning then
          [placeholder request]
        else []
      directories := directories
      events := [.found (p.diagnostic s.options request.directive request.origin)] }

/-- What takes the place of an include directive. -/
def ofDirective (s : Setting) (directories : Table String) (a : AttributeSet) (d : Include)
    (origin : Origin) : Except Interruption Resolution :=
  match IncludeRequest.ofDirective a d origin with
  | .error p => .ok ⟨[], directories, [.found (p.diagnostic s.options d origin)]⟩
  | .ok request =>
    let search := Search.ofRequest s (baseDirectory s directories origin) request
    let looked := search.consulted.map Event.consulted
    match search.finding with
    | .error abort => .error ⟨abort, looked.toArray⟩
    | .ok finding =>
      let resolution := ofFinding s directories a request finding
      .ok { resolution with events := looked ++ resolution.events }

/-- What takes the place of a directive is nothing if substitution fails, and what is found for the
include otherwise. -/
theorem eq_of_ofDirective {s : Setting} {directories : Table String} {a : AttributeSet}
    {d : Include} {origin : Origin} {r : Resolution}
    (h : ofDirective s directories a d origin = .ok r) :
    (∃ p : IncludeProblem, r = ⟨[], directories, [.found (p.diagnostic s.options d origin)]⟩) ∨
      ∃ request finding, IncludeRequest.ofDirective a d origin = .ok request ∧
        (Search.ofRequest s (baseDirectory s directories origin) request).finding = .ok finding ∧
        r = { ofFinding s directories a request finding with
          events := (Search.ofRequest s (baseDirectory s directories origin)
            request).consulted.map Event.consulted ++
              (ofFinding s directories a request finding).events } := by
  unfold ofDirective at h
  split at h
  · cases h
    exact .inl ⟨_, rfl⟩
  · rename_i request hrequest
    dsimp only at h
    split at h
    · cases h
    · rename_i finding hfinding
      cases h
      exact .inr ⟨request, finding, hrequest, hfinding, rfl⟩

/-- A reduction that is interrupted at an include has looked for it, and nothing else has happened. -/
theorem error_of_ofDirective {s : Setting} {directories : Table String} {a : AttributeSet}
    {d : Include} {origin : Origin} {i : Interruption}
    (h : ofDirective s directories a d origin = .error i) :
    ∃ request, IncludeRequest.ofDirective a d origin = .ok request ∧
      i.journal = ((Search.ofRequest s (baseDirectory s directories origin)
        request).consulted.map Event.consulted).toArray := by
  unfold ofDirective at h
  split at h
  · cases h
  · rename_i request hrequest
    dsimp only at h
    split at h
    · cases h
      exact ⟨request, hrequest, rfl⟩
    · cases h

end Resolution

end Transclude
