import Mathlib.Logic.ExistsUnique
import Transclude.Proofs.Provenance

/-!
# How an include ends

An include ends in one of four ways, and it can be told in advance in which. The first processor
that wants the target and does not decline supplies the lines; or the target is a link, and leaves a
line that says so; or a file is read, and the lines selected from it take the place of the include;
or there is nothing, for a reason that is reported once, at the include. The checks come in a fixed
order, and the first that fails is the reason. The attributes are the same afterwards.

## Main definitions

* `Search.Unclaimed` : whether no processor supplies the lines of an include.
* `Search.Reaches`   : whether the jail lets an include through to a path.
* `Search.Finds`     : what is found for an include, by what has to be so for it.
* `Search.Stops`     : what ends a reduction at an include, by what has to be so for it.
* `Way.Ends`         : the ways in which an include ends, with its lines and what is found wrong.

## Main statements

* `Search.comes`         : something is found for an include, or ends the reduction there.
* `Context.resolve_ends` : an include ends in exactly one of the ways.
-/

namespace Transclude

open Transclude.Text

namespace Search

section Cases

variable (s : Setting) (base : String) (request : IncludeRequest)

/-- Whether no processor supplies the lines of an include that is not too deep: those that want its
target decline it. -/
structure Unclaimed : Prop where
  shallow : request.origin.depth + 1 ≤ s.options.maxIncludeDepth.meaning
  declined : ∀ p ∈ s.registry.claim request.target, p.process request = .ok none

/-- Whether an include of which no processor supplies the lines names a path, and the jail lets it
through to that. -/
structure Reaches (path : String) : Prop extends Unclaimed s request where
  isPath : Path.isUri request.target = false
  permitted : s.jail.resolve s.cwd base request.target = .ok path

/-- Whether an include gets to a file that is none of those that led to it. -/
structure Opens (path : String) : Prop extends Reaches s base request path where
  fresh : path ∉ request.origin.lineage
  isFile : s.files.isFile s.cwd path = true

/-- Whether an include is not too deep, and the first processors that want its target decline it up
to the processor `p`. -/
structure Asks (p : IncludeProcessor) : Prop where
  shallow : request.origin.depth + 1 ≤ s.options.maxIncludeDepth.meaning
  first : ∃ before later, s.registry.claim request.target = before ++ p :: later ∧
    ∀ q ∈ before, q.process request = .ok none

/-- What is found for an include in a file of the directory `base`. -/
inductive Finds : Finding → Prop
  | tooDeep (deep : s.options.maxIncludeDepth.meaning < request.origin.depth + 1) :
    Finds (.problem (.tooDeep s.options.maxIncludeDepth.given.asText))
  | supplied {p : IncludeProcessor} {texts : List String} (asked : Asks s request p)
    (supplies : p.process request = .ok (some texts)) : Finds (.supplied p.name texts)
  | link (unclaimed : Unclaimed s request) (uri : Path.isUri request.target = true) : Finds .link
  | forbidden {violation : Violation} (unclaimed : Unclaimed s request)
    (isPath : Path.isUri request.target = false)
    (refused : s.jail.resolve s.cwd base request.target = .error violation) :
    Finds (.problem (.forbidden violation))
  | circular {path : String} (reached : Reaches s base request path)
    (leads : path ∈ request.origin.lineage) : Finds (.problem (.circular request.target))
  | optionalMissing {path : String} (reached : Reaches s base request path)
    (fresh : path ∉ request.origin.lineage) (noFile : s.files.isFile s.cwd path = false)
    (optional : request.optional = true) : Finds (.problem (.optionalMissing path))
  | missing {path : String} (reached : Reaches s base request path)
    (fresh : path ∉ request.origin.lineage) (noFile : s.files.isFile s.cwd path = false)
    (required : request.optional = false) : Finds (.problem (.missing path))
  | unreadable {path reason : String} (opened : Opens s base request path)
    (refused : readText s (request.encoding s.options) path = .ok (.error reason)) :
    Finds (.problem (.unreadable path reason))
  | file {path content : String} {selection : Selection} (opened : Opens s base request path)
    (decoded : readText s (request.encoding s.options) path = .ok (.ok content))
    (selected : Selection.ofAttributes request.attributes path (splitLines content) =
      .ok selection) : Finds (.file path selection)

/-- What ends a reduction at an include: a processor fails, a file does not tell how to read it, or
a number of a line that is asked for cannot be read. -/
inductive Stops : Abort → Prop
  | hook {p : IncludeProcessor} {failure : HookFailure} (asked : Asks s request p)
    (fails : p.process request = .error failure) : Stops (.hook failure)
  | encoding {path : String} {bytes : List UInt8} {e : EncodingError}
    (opened : Opens s base request path) (content : s.files.read s.cwd path = .ok bytes)
    (undecoded : Encoding.readFile s.names (request.encoding s.options) bytes = .error e)
    (unreported : e.isReported = false) : Stops (.encoding e)
  | numeral {path content : String} {e : NumeralError} (opened : Opens s base request path)
    (decoded : readText s (request.encoding s.options) path = .ok (.ok content))
    (unread : Selection.ofAttributes request.attributes path (splitLines content) = .error e) :
    Stops (.numeral e)

end Cases

/-! ## What processors supply -/

section Processors

variable {request : IncludeRequest} {ps : List IncludeProcessor}

/-- The processors are asked in order, up to the first that does not decline. -/
theorem supply?_append {before : List IncludeProcessor}
    (hdeclined : ∀ q ∈ before, q.process request = .ok none) (ps : List IncludeProcessor) :
    supply? request (before ++ ps) = supply? request ps := by
  induction before with
  | nil => rfl
  | cons q before ih =>
    obtain ⟨hq, hbefore⟩ := List.forall_mem_cons.1 hdeclined
    rw [List.cons_append, supply?, hq]
    exact ih hbefore

/-- Either all processors decline, or there is a first one that does not. -/
theorem declined_or_first (request : IncludeRequest) (ps : List IncludeProcessor) :
    (∀ p ∈ ps, p.process request = .ok none) ∨
      ∃ before p later, ps = before ++ p :: later ∧
        (∀ q ∈ before, q.process request = .ok none) ∧ p.process request ≠ .ok none := by
  induction ps with
  | nil => exact .inl (List.forall_mem_nil _)
  | cons p ps ih =>
    by_cases hp : p.process request = .ok none
    · rcases ih with hall | ⟨before, q, later, rfl, hbefore, hq⟩
      · exact .inl (List.forall_mem_cons.2 ⟨hp, hall⟩)
      · exact .inr ⟨p :: before, q, later, rfl, List.forall_mem_cons.2 ⟨hp, hbefore⟩, hq⟩
    · exact .inr ⟨[], p, ps, rfl, List.forall_mem_nil _, hp⟩

end Processors

/-! ## What is found -/

variable {s : Setting} {base path : String} {request : IncludeRequest} {finding : Finding}
  {abort : Abort}

/-- Where every processor declines, the target decides. -/
theorem Unclaimed.ofRequest_eq (h : Unclaimed s request) :
    ofRequest s base request =
      if Path.isUri request.target then ⟨.ok .link, []⟩
      else
        match s.jail.resolve s.cwd base request.target with
        | .error violation => ⟨.ok (.problem (.forbidden violation)), []⟩
        | .ok path => atPath s request path := by
  have hdepth : ¬ s.options.maxIncludeDepth.meaning < request.origin.depth + 1 :=
    Nat.not_lt.2 h.shallow
  have hsupply := supply?_append h.declined []
  rw [List.append_nil] at hsupply
  rw [ofRequest, if_neg hdepth, hsupply]
  rfl

/-- Where the jail lets the include through, the path decides. -/
theorem Reaches.ofRequest_eq (h : Reaches s base request path) :
    ofRequest s base request = atPath s request path := by
  rw [h.toUnclaimed.ofRequest_eq, if_neg (ne_true_of_eq_false h.isPath), h.permitted]

/-- Where a file is there, its text decides. -/
theorem Opens.finding_eq (h : Opens s base request path) :
    (ofRequest s base request).finding =
      match readText s (request.encoding s.options) path with
      | .error abort => .error abort
      | .ok (.error reason) => .ok (.problem (.unreadable path reason))
      | .ok (.ok text) =>
        match Selection.ofAttributes request.attributes path (splitLines text) with
        | .error e => .error (.numeral e)
        | .ok selection => .ok (.file path selection) := by
  have hfresh : ¬ request.origin.lineage.contains path = true :=
    fun hleads => h.fresh (List.contains_iff_mem.1 hleads)
  rw [h.toReaches.ofRequest_eq, atPath, if_neg hfresh, if_pos h.isFile]
  show (Search.finding (match readText s (request.encoding s.options) path with
    | .error abort => _
    | .ok (.error reason) => _
    | .ok (.ok text) => _)) = _
  cases readText s (request.encoding s.options) path with
  | error abort => rfl
  | ok content =>
    cases content with
    | error reason => rfl
    | ok text =>
      dsimp only
      cases Selection.ofAttributes request.attributes path (splitLines text) with
      | error e => rfl
      | ok selection => rfl

/-- Where the jail lets the include through, there may be no file. -/
theorem Reaches.finding_of_noFile (h : Reaches s base request path)
    (hfresh : path ∉ request.origin.lineage) (hnone : s.files.isFile s.cwd path = false) :
    (ofRequest s base request).finding =
      .ok (.problem (if request.optional then .optionalMissing path else .missing path)) := by
  have hfresh' : ¬ request.origin.lineage.contains path = true :=
    fun hleads => hfresh (List.contains_iff_mem.1 hleads)
  rw [h.ofRequest_eq, atPath, if_neg hfresh', if_neg (ne_true_of_eq_false hnone)]
  cases request.optional <;> rfl

/-- Where a processor is asked, its answer decides, unless it declines. -/
theorem Asks.finding_eq {p : IncludeProcessor} (h : Asks s request p)
    (hanswer : p.process request ≠ .ok none) :
    (ofRequest s base request).finding =
      match p.process request with
      | .error failure => .error (.hook failure)
      | .ok texts => .ok (.supplied p.name (texts.getD [])) := by
  obtain ⟨before, later, hclaim, hdeclined⟩ := h.first
  have hdepth : ¬ s.options.maxIncludeDepth.meaning < request.origin.depth + 1 :=
    Nat.not_lt.2 h.shallow
  rw [ofRequest, if_neg hdepth, hclaim, supply?_append hdeclined, supply?]
  cases hp : p.process request with
  | error failure => rfl
  | ok texts =>
    cases texts with
    | none => exact absurd hp hanswer
    | some texts => rfl

/-- What has to be found is found. -/
theorem Finds.finding_eq (h : Finds s base request finding) :
    (ofRequest s base request).finding = .ok finding := by
  cases h with
  | tooDeep deep => rw [ofRequest, if_pos deep]
  | supplied asked supplies =>
    rw [asked.finding_eq (by simp [supplies]), supplies]
    rfl
  | link unclaimed uri => rw [unclaimed.ofRequest_eq, if_pos uri]
  | forbidden unclaimed isPath refused =>
    rw [unclaimed.ofRequest_eq, if_neg (ne_true_of_eq_false isPath), refused]
  | circular reached leads =>
    rw [reached.ofRequest_eq, atPath, if_pos (List.contains_iff_mem.2 leads)]
  | optionalMissing reached fresh noFile optional =>
    rw [reached.finding_of_noFile fresh noFile, optional]
    rfl
  | missing reached fresh noFile required =>
    rw [reached.finding_of_noFile fresh noFile, required]
    rfl
  | unreadable opened refused => rw [opened.finding_eq, refused]
  | file opened decoded selected =>
    rw [opened.finding_eq, decoded]
    dsimp only
    rw [selected]

/-- What has to end the reduction ends it. -/
theorem Stops.finding_eq (h : Stops s base request abort) :
    (ofRequest s base request).finding = .error abort := by
  cases h with
  | hook asked fails =>
    rw [asked.finding_eq (by simp [fails]), fails]
  | @encoding path bytes e opened content undecoded unreported =>
    have hread : readText s (request.encoding s.options) path = .error (.encoding e) := by
      rw [readText, content]
      dsimp only
      rw [undecoded]
      dsimp only
      rw [unreported]
      rfl
    rw [opened.finding_eq, hread]
  | numeral opened decoded unread =>
    rw [opened.finding_eq, decoded]
    dsimp only
    rw [unread]

/-- A text that is not read, and not reported either, is one whose bytes are refused. -/
theorem eq_of_readText_error {encoding : EncodingChoice}
    (h : readText s encoding path = .error abort) :
    ∃ bytes e, s.files.read s.cwd path = .ok bytes ∧
      Encoding.readFile s.names encoding bytes = .error e ∧
      e.isReported = false ∧ abort = .encoding e := by
  unfold readText at h
  split at h
  · cases h
  rename_i bytes hbytes
  split at h
  · cases h
  rename_i e he
  split at h
  · cases h
  rename_i hreported
  cases h
  exact ⟨bytes, e, hbytes, he, eq_false_of_ne_true hreported, rfl⟩

/-- Whether something is found for an include, or something ends the reduction there. -/
def Comes (s : Setting) (base : String) (request : IncludeRequest) : Prop :=
  (∃ finding, Finds s base request finding) ∨ ∃ abort, Stops s base request abort

theorem Opens.comes (h : Opens s base request path) : Comes s base request := by
  cases hread : readText s (request.encoding s.options) path with
  | error abort =>
    obtain ⟨bytes, e, hbytes, hrefused, hunreported, rfl⟩ := eq_of_readText_error hread
    exact .inr ⟨_, .encoding h hbytes hrefused hunreported⟩
  | ok content =>
    cases content with
    | error reason => exact .inl ⟨_, .unreadable h hread⟩
    | ok text =>
      cases hselected : Selection.ofAttributes request.attributes path (splitLines text) with
      | error e => exact .inr ⟨_, .numeral h hread hselected⟩
      | ok selection => exact .inl ⟨_, .file h hread hselected⟩

theorem Reaches.comes (h : Reaches s base request path) : Comes s base request := by
  by_cases hleads : path ∈ request.origin.lineage
  · exact .inl ⟨_, .circular h hleads⟩
  cases hfile : s.files.isFile s.cwd path with
  | true => exact Opens.comes ⟨h, hleads, hfile⟩
  | false =>
    cases hoptional : request.optional with
    | true => exact .inl ⟨_, .optionalMissing h hleads hfile hoptional⟩
    | false => exact .inl ⟨_, .missing h hleads hfile hoptional⟩

theorem Unclaimed.comes (h : Unclaimed s request) : Comes s base request := by
  cases huri : Path.isUri request.target with
  | true => exact .inl ⟨_, .link h huri⟩
  | false =>
    cases hjail : s.jail.resolve s.cwd base request.target with
    | error violation => exact .inl ⟨_, .forbidden h huri hjail⟩
    | ok path => exact Reaches.comes ⟨h, huri, hjail⟩

/-- Something is found for every include, or something ends the reduction there. -/
theorem comes (s : Setting) (base : String) (request : IncludeRequest) : Comes s base request := by
  by_cases hdeep : s.options.maxIncludeDepth.meaning < request.origin.depth + 1
  · exact .inl ⟨_, .tooDeep hdeep⟩
  have hshallow := Nat.not_lt.1 hdeep
  rcases declined_or_first request (s.registry.claim request.target) with
    hdeclined | ⟨before, p, later, hclaim, hdeclined, hanswer⟩
  · exact Unclaimed.comes ⟨hshallow, hdeclined⟩
  · have hasked : Asks s request p := ⟨hshallow, before, later, hclaim, hdeclined⟩
    cases hp : p.process request with
    | error failure => exact .inr ⟨_, .hook hasked hp⟩
    | ok texts =>
      cases texts with
      | none => exact absurd hp hanswer
      | some texts => exact .inl ⟨_, .supplied hasked hp⟩

/-- What is found for an include is what there is for it to find. -/
theorem finds_of_finding {finding : Finding} (h : (ofRequest s base request).finding = .ok finding) :
    Finds s base request finding := by
  rcases comes s base request with ⟨found, hfinds⟩ | ⟨abort, hstops⟩
  · obtain rfl := Except.ok.inj (hfinds.finding_eq.symm.trans h)
    exact hfinds
  · cases hstops.finding_eq.symm.trans h

end Search

/-! ## The four ways -/

/-- The ways in which an include ends: a processor supplies its lines, it is a link, a file is read,
or there is nothing. -/
inductive Way
  | supplied
  | link
  | file
  | nothing
  deriving DecidableEq, Repr

/-- The way of what is found. -/
def Finding.way : Finding → Way
  | .supplied _ _ => .supplied
  | .link => .link
  | .file _ _ => .file
  | .problem _ => .nothing

/-- Whether an include ends in a way, with the lines that take its place and what is found wrong. -/
inductive Way.Ends (setting : Setting) (c : Context) (d : Include) (origin : Origin) :
    List Line → List Diagnostic → Way → Prop
  /-- The lines are those that the first processor supplies. -/
  | supplied {request : IncludeRequest} {name : String} {texts : List String}
    (requested : IncludeRequest.ofDirective c.attributes d origin = .ok request)
    (finds : Search.Finds setting (Resolution.baseDirectory setting c.directories origin) request
      (.supplied name texts)) :
    Ends setting c d origin
      (Resolution.offsetLines c.attributes request (Resolution.suppliedLines request texts)) []
      .supplied
  /-- One line says that there is a link. -/
  | link {request : IncludeRequest}
    (requested : IncludeRequest.ofDirective c.attributes d origin = .ok request)
    (finds : Search.Finds setting (Resolution.baseDirectory setting c.directories origin) request
      .link) :
    Ends setting c d origin [⟨s!"link:{request.target}[role=include]", origin⟩] [] .link
  /-- The lines are those selected from a file, and there may be warnings about the selection. -/
  | file {request : IncludeRequest} {path : String} {selection : Selection}
    (requested : IncludeRequest.ofDirective c.attributes d origin = .ok request)
    (finds : Search.Finds setting (Resolution.baseDirectory setting c.directories origin) request
      (.file path selection)) :
    Ends setting c d origin
      (Resolution.offsetLines c.attributes request (Resolution.fileLines request path selection))
      (selection.warnings.map fun text => ⟨.warning, text, origin, .notice⟩) .file
  /-- An attribute has no value, or no target is left. -/
  | dropped {p : IncludeProblem}
    (refused : IncludeRequest.ofDirective c.attributes d origin = .error p)
    (reason : p = .emptyTarget ∨ ∃ severity, p = .missingAttribute severity) :
    Ends setting c d origin [] [p.diagnostic setting.options d origin] .nothing
  /-- The file may be missing, or no line is to be left. -/
  | silent {request : IncludeRequest} {p : IncludeProblem}
    (requested : IncludeRequest.ofDirective c.attributes d origin = .ok request)
    (finds : Search.Finds setting (Resolution.baseDirectory setting c.directories origin) request
      (.problem p))
    (reason : (∃ path, p = .optionalMissing path) ∨
      setting.options.unresolvedPlaceholder.meaning = false) :
    Ends setting c d origin [] [p.diagnostic setting.options d origin] .nothing
  /-- One line says that the include is unresolved. -/
  | marked {request : IncludeRequest} {p : IncludeProblem}
    (requested : IncludeRequest.ofDirective c.attributes d origin = .ok request)
    (finds : Search.Finds setting (Resolution.baseDirectory setting c.directories origin) request
      (.problem p))
    (required : ∀ path, p ≠ .optionalMissing path)
    (shown : setting.options.unresolvedPlaceholder.meaning = true) :
    Ends setting c d origin [⟨(Resolution.placeholder request).text, origin⟩]
      [p.diagnostic setting.options d origin] .nothing

/-- Substitution fails for want of a value or of a target. -/
theorem IncludeRequest.problem_of_ofDirective {a : AttributeSet} {d : Include} {origin : Origin}
    {p : IncludeProblem} (h : IncludeRequest.ofDirective a d origin = .error p) :
    p = .emptyTarget ∨ ∃ severity, p = .missingAttribute severity := by
  have hrequest : ∀ target attrList : String,
      (if target = "" then Except.error IncludeProblem.emptyTarget
        else Except.ok (IncludeRequest.mk target (AttrList.ofText attrList) origin d a.values)) =
        .error p → p = .emptyTarget := by
    intro target attrList h
    split at h
    · cases h
      rfl
    · cases h
  unfold IncludeRequest.ofDirective at h
  dsimp only at h
  split at h
  · split at h
    · cases h
      exact .inr ⟨_, rfl⟩
    · exact .inl (hrequest _ _ h)
  · exact .inl (hrequest _ _ h)

/-- A problem that is found for an include leaves a line unless the file may be missing. -/
theorem Search.Finds.optional_or_leaves {s : Setting} {base : String} {request : IncludeRequest}
    {p : IncludeProblem} (h : Finds s base request (.problem p)) :
    (∃ path, p = .optionalMissing path) ∧ p.leavesPlaceholder = false ∨
      (∀ path, p ≠ .optionalMissing path) ∧ p.leavesPlaceholder = true := by
  cases h with
  | tooDeep | forbidden | circular | missing | unreadable =>
    exact .inr ⟨fun _ hp => (nomatch hp), rfl⟩
  | optionalMissing => exact .inl ⟨⟨_, rfl⟩, rfl⟩

namespace Way

variable {setting : Setting} {c : Context} {d : Include} {origin : Origin} {lines : List Line}
  {found : List Diagnostic} {way : Way}

/-- An include that is not requested ends with nothing. -/
theorem Ends.eq_of_refused {p : IncludeProblem} (h : way.Ends setting c d origin lines found)
    (hrefused : IncludeRequest.ofDirective c.attributes d origin = .error p) : way = .nothing := by
  cases h with
  | dropped => rfl
  | supplied requested | link requested | file requested | silent requested | marked requested =>
    cases requested.symm.trans hrefused

/-- An include that is requested ends in the way of what is found for it. -/
theorem Ends.eq_of_finds {request : IncludeRequest} {finding : Finding}
    (h : way.Ends setting c d origin lines found)
    (hrequested : IncludeRequest.ofDirective c.attributes d origin = .ok request)
    (hfinds : Search.Finds setting (Resolution.baseDirectory setting c.directories origin) request
      finding) : way = finding.way := by
  have hsame : ∀ {request' : IncludeRequest} {finding' : Finding},
      IncludeRequest.ofDirective c.attributes d origin = .ok request' →
        Search.Finds setting (Resolution.baseDirectory setting c.directories origin) request'
          finding' → finding' = finding := by
    intro request' finding' hrequested' hfinds'
    obtain rfl := Except.ok.inj (hrequested'.symm.trans hrequested)
    exact Except.ok.inj (hfinds'.finding_eq.symm.trans hfinds.finding_eq)
  cases h with
  | dropped refused => cases refused.symm.trans hrequested
  | supplied requested finds | link requested finds | file requested finds
  | silent requested finds | marked requested finds =>
    rw [← hsame requested finds]
    rfl

/-- With what is found for it an include ends in the way of that. -/
theorem ends_of_finds {request : IncludeRequest} {finding : Finding}
    (hrequested : IncludeRequest.ofDirective c.attributes d origin = .ok request)
    (hfinds : Search.Finds setting (Resolution.baseDirectory setting c.directories origin) request
      finding) :
    finding.way.Ends setting c d origin
      (Resolution.ofFinding setting c.directories c.attributes request finding).lines
      ((Resolution.ofFinding setting c.directories c.attributes request finding).events.filterMap
        Event.diagnostic?) := by
  obtain ⟨rfl, rfl⟩ := eq_of_request hrequested
  cases finding with
  | supplied name texts => exact .supplied hrequested hfinds
  | link => exact .link hrequested hfinds
  | file path selection =>
    have hfound : (Resolution.ofFinding setting c.directories c.attributes request
        (.file path selection)).events.filterMap Event.diagnostic? =
          selection.warnings.map fun text => ⟨.warning, text, request.origin, .notice⟩ := by
      simp [Resolution.ofFinding, List.filterMap_append, List.filterMap_map, Event.remark,
        Event.diagnostic?, Function.comp_def]
    rw [hfound]
    exact .file hrequested hfinds
  | problem p =>
    have hlines : (Resolution.ofFinding setting c.directories c.attributes request
        (.problem p)).lines =
          if p.leavesPlaceholder && setting.options.unresolvedPlaceholder.meaning then
            [Resolution.placeholder request]
          else [] := rfl
    rw [hlines]
    cases hshown : setting.options.unresolvedPlaceholder.meaning with
    | false =>
      rw [Bool.and_false]
      exact .silent hrequested hfinds (.inr hshown)
    | true =>
      rcases hfinds.optional_or_leaves with ⟨hoptional, hleaves⟩ | ⟨hrequired, hleaves⟩
      · rw [hleaves]
        exact .silent hrequested hfinds (.inl hoptional)
      · rw [hleaves]
        exact .marked hrequested hfinds hrequired hshown

end Way

namespace Context

variable {setting : Setting} {c : Context} {d : Include} {origin : Origin}
  {request : IncludeRequest}

/-- What takes the place of an include is what is found for it; the attributes are the same
afterwards. -/
theorem resolve_of_finds {finding : Finding}
    (hrequested : IncludeRequest.ofDirective c.attributes d origin = .ok request)
    (hfinds : Search.Finds setting (Resolution.baseDirectory setting c.directories origin) request
      finding) :
    let resolution := Resolution.ofFinding setting c.directories c.attributes request finding
    ∃ after, c.resolve setting d origin = .ok (resolution.lines, after) ∧
      after.attributes = c.attributes ∧ after.journal.diagnostics =
        c.journal.diagnostics ++ resolution.events.filterMap Event.diagnostic? := by
  intro resolution
  have hlooked : ∀ paths : List String,
      (paths.map Event.consulted).filterMap Event.diagnostic? = [] := by
    intro paths
    simp [List.filterMap_map, Function.comp_def, Event.diagnostic?]
  unfold Context.resolve Resolution.ofDirective
  rw [hrequested]
  dsimp only
  rw [hfinds.finding_eq]
  refine ⟨_, rfl, rfl, ?_⟩
  simp [Journal.diagnostics, List.filterMap_append, hlooked, resolution]

/-- What ends a reduction at an include is what has to end it. -/
theorem resolve_of_stops {abort : Abort}
    (hrequested : IncludeRequest.ofDirective c.attributes d origin = .ok request)
    (hstops : Search.Stops setting (Resolution.baseDirectory setting c.directories origin) request
      abort) : ∃ i, c.resolve setting d origin = .error i ∧ i.abort = abort := by
  unfold Context.resolve Resolution.ofDirective
  rw [hrequested]
  dsimp only
  rw [hstops.finding_eq]
  exact ⟨_, rfl, rfl⟩

/-- A reduction that ends at an include ends for a reason. -/
theorem stops_of_resolve {i : Interruption} (h : c.resolve setting d origin = .error i) :
    ∃ request, IncludeRequest.ofDirective c.attributes d origin = .ok request ∧
      Search.Stops setting (Resolution.baseDirectory setting c.directories origin) request
        i.abort := by
  cases hrequest : IncludeRequest.ofDirective c.attributes d origin with
  | error p =>
    rw [Context.resolve, Resolution.ofDirective, hrequest] at h
    cases h
  | ok request =>
    rcases Search.comes setting (Resolution.baseDirectory setting c.directories origin) request with
      ⟨finding, hfinds⟩ | ⟨abort, hstops⟩
    · obtain ⟨after, hafter, -⟩ := resolve_of_finds hrequest hfinds
      cases hafter.symm.trans h
    · obtain ⟨i', herror, rfl⟩ := resolve_of_stops hrequest hstops
      cases herror.symm.trans h
      exact ⟨request, rfl, hstops⟩

end Context

/-- The state after an include has its lines in the place of it, and what it changes besides are the
directories and the journal. -/
theorem Run.Resolves.exists_after {r : Run} {s : State} {request : IncludeRequest}
    {finding : Finding} (h : r.Resolves s request)
    (hfinds : Search.Finds r.setting
      (Resolution.baseDirectory r.setting s.directories request.origin) request finding) :
    let resolution :=
      Resolution.ofFinding r.setting s.directories s.attributes request finding
    ∃ line rest journal, s.pending = line :: rest ∧ line.origin = request.origin ∧
      State.After r.setting { s with
        directories := resolution.directories
        journal := journal
        pending := resolution.lines ++ rest } s := by
  intro resolution
  obtain ⟨line, rest, hpending, hdirective, hrequested⟩ := h.next
  have horigin : request.origin = line.origin := origin_of_request hrequested
  rw [horigin] at hfinds
  have hresolved : ∃ journal, s.resolve r.setting request.directive line.origin =
      .ok (resolution.lines, { s.toContext with
        directories := resolution.directories, journal := journal }) := by
    rw [Context.resolve, Resolution.ofDirective, hrequested]
    dsimp only
    rw [hfinds.finding_eq]
    exact ⟨_, rfl⟩
  obtain ⟨journal, hresolved⟩ := hresolved
  refine ⟨line, rest, journal, hpending, horigin.symm, ?_⟩
  rw [State.After, State.step_of_include r.setting hpending hdirective, hresolved]
  rfl

/-- An include ends in exactly one of the four ways, and what is found wrong is added to the
diagnostics; the attributes are the same afterwards. Or the reduction ends there, because a
processor fails, because a file does not tell how to read it, or because a number of a line that is
asked for cannot be read. -/
theorem Context.resolve_ends (setting : Setting) (c : Context) (d : Include) (origin : Origin) :
    (∃ lines after found, c.resolve setting d origin = .ok (lines, after) ∧
        after.attributes = c.attributes ∧
        after.journal.diagnostics = c.journal.diagnostics ++ found ∧
        ∃! way : Way, way.Ends setting c d origin lines found) ∨
      ∃ request i, c.resolve setting d origin = .error i ∧
        IncludeRequest.ofDirective c.attributes d origin = .ok request ∧
        Search.Stops setting (Resolution.baseDirectory setting c.directories origin) request
          i.abort := by
  cases hrequest : IncludeRequest.ofDirective c.attributes d origin with
  | error p =>
    have hdropped : c.resolve setting d origin = .ok ([], { c with
        journal := c.journal ++ [Event.found (p.diagnostic setting.options d origin)] }) := by
      rw [Context.resolve, Resolution.ofDirective, hrequest]
    have hends : Way.nothing.Ends setting c d origin [] [p.diagnostic setting.options d origin] :=
      .dropped hrequest (IncludeRequest.problem_of_ofDirective hrequest)
    refine .inl ⟨_, _, _, hdropped, rfl, ?_, .nothing, hends, fun way hway => ?_⟩
    · simp [Journal.diagnostics, Event.diagnostic?]
    · exact hway.eq_of_refused hrequest
  | ok request =>
    rcases Search.comes setting (Resolution.baseDirectory setting c.directories origin) request with
      ⟨finding, hfinds⟩ | ⟨abort, hstops⟩
    · obtain ⟨after, hafter, hattributes, hdiagnostics⟩ := resolve_of_finds hrequest hfinds
      exact .inl ⟨_, after, _, hafter, hattributes, hdiagnostics, finding.way,
        Way.ends_of_finds hrequest hfinds, fun way hway => hway.eq_of_finds hrequest hfinds⟩
    · obtain ⟨i, herror, rfl⟩ := resolve_of_stops hrequest hstops
      exact .inr ⟨request, i, herror, rfl, hstops⟩

/-- An include of a file that does not tell its byte order, as its encoding asks for, ends in none
of the ways. -/
theorem Context.resolve_ends_undecoded :
    let setting : Setting :=
      { files := ⟨[(["b"], .file [121, 122])]⟩, cwd := "/", jail := ⟨.free, "/", none⟩
        rootDirectory := "/" }
    let c : Context := .start setting "a" {}
    let d : Include := ⟨"include::b[encoding=utf-16]", "b", "encoding=utf-16"⟩
    Directive.ofLine? d.raw = some (.include d) ∧
      ¬ ∃ lines after found, c.resolve setting d { file := "a", line := 1 } = .ok (lines, after) ∧
        after.journal.diagnostics = c.journal.diagnostics ++ found ∧
        ∃ way : Way, way.Ends setting c d { file := "a", line := 1 } lines found := by
  intro setting c d
  have hdirective : Directive.ofLine? d.raw = some (.include d) := by
    decide +kernel
  have hinterrupted :
      (c.resolve setting d { file := "a", line := 1 }).toOption.isNone = true := by
    decide +kernel
  refine ⟨hdirective, ?_⟩
  rintro ⟨lines, after, found, hresolved, -⟩
  rw [hresolved] at hinterrupted
  cases hinterrupted

end Transclude
