import Transclude.Proofs.Containment
import Transclude.Proofs.Splicing

/-!
# Where lines were read

The origin of a line names a file, a line in it, and the include directives that led there. In every
buffer that a reduction comes to, and in every diagnostic, that is the truth, unless an extension
supplies lines: the files from the root document down are distinct, their includes are no deeper
than allowed, every place in the chain is a line that carries an include, and the line named last is
there. A line of the buffer has the text that was read at its origin, or one that was made for a
directive there.

## Main definitions

* `Run`         : a reduction, by what it starts from.
* `Run.Reads`   : whether a text is what a reduction reads at an origin.
* `Carries`     : whether a line carries a text in its conditionals.
* `Run.Makes`   : whether a text is made for a directive.
* `Run.Locates` : whether an origin is true.
* `Run.Vouches` : whether a line is true.

## Main statements

* `Run.Locates.child`        : the lines of an included file are at true origins.
* `State.Rule.vouches`       : a step puts true lines in the place of true lines.
* `Buffer.reduce_provenance` : all lines and all diagnostics of a reduction are true.
-/

namespace Transclude

open Transclude.Text

/-! ## What is read -/

/-- Whether a line carries a text: it is the text, or a conditional that is complete in one line,
and the text is what its own text carries. -/
inductive Carries (source : String) : String → Prop
  | itself : Carries source source
  | inline {text inner : String} {d : Opening} (carried : Carries source text)
    (opening : Directive.ofLine? (strippedEnd text) = some (.opening d))
    (inline : d.inlineText? = some inner) : Carries source inner

/-- Whether a line carries an include directive. -/
def CarriesInclude (source : String) : Prop :=
  ∃ text d, Carries source text ∧ Directive.ofLine? (strippedEnd text) = some (.include d)

/-- The encoding in which the file of an include is read: the one that the include names, or else
that of the options. -/
def IncludeRequest.encoding (request : IncludeRequest) (o : Options) : EncodingChoice :=
  match request.attributes.get? "encoding" with
  | some "" | none => o.encoding.meaning
  | some name => .named name

/-- A reduction, by what it starts from: the setting, the name and the lines of the root document,
and the attributes. -/
structure Run where
  setting : Setting
  file : String
  attributes : AttributeSet
  texts : List String

namespace Run

/-- The lines of the root document. -/
def buffer (r : Run) : Buffer :=
  ⟨Line.number (fun n => { file := r.file, line := n }) r.texts⟩

/-- The loop at the start. -/
def start (r : Run) : Loop := .start r.setting r.file r.attributes r.buffer

/-- Whether the reduction comes to a state. -/
def Reaches (r : Run) (s : State) : Prop := State.Leads r.setting r.start.state s

/-- Whether the reduction comes to a state of which the next line is an include, with the given
request after substitution. -/
structure Resolves (r : Run) (s : State) (request : IncludeRequest) : Prop where
  reaches : r.Reaches s
  next : ∃ line rest, s.pending = line :: rest ∧
    Directive.ofLine? (strippedEnd line.text) = some (.include request.directive) ∧
    IncludeRequest.ofDirective s.attributes request.directive line.origin = .ok request

/-- Whether a text is what the reduction reads at an origin: the line of the root document, or the
line of a file to which the jail lets an include through, in the encoding of that include. -/
inductive Reads (r : Run) : Origin → String → Prop
  | root {n : Nat} {text : String} (line : r.texts[n]? = some text) :
    Reads r { file := r.file, line := n + 1 } text
  | included {s : State} {request : IncludeRequest} {path content text : String} {n : Nat}
    (resolves : r.Resolves s request)
    (permitted : r.setting.jail.resolve r.setting.cwd
      (Resolution.baseDirectory r.setting s.directories request.origin) request.target = .ok path)
    (decoded : Search.readText r.setting (request.encoding r.setting.options) path =
      .ok (.ok content))
    (line : (splitLines content)[n]? = some text) :
    Reads r (request.origin.child path (n + 1)) text

/-- Whether a request is that of an include that the line `source` carries, which the reduction
resolves in the given state. -/
structure Asks (r : Run) (origin : Origin) (source : String) (s : State)
    (request : IncludeRequest) : Prop where
  resolves : r.Resolves s request
  origin_eq : request.origin = origin
  carried : ∃ text, Carries source text ∧
    Directive.ofLine? (strippedEnd text) = some (.include request.directive)

/-- Whether a text is made for a directive that the line `source` carries: it stands for an include,
or sets the level offset around its lines, or marks a conditional around it that is preserved. -/
inductive Makes (r : Run) (origin : Origin) (source : String) : String → Prop
  | placeholder {s : State} {request : IncludeRequest} (asks : r.Asks origin source s request) :
    Makes r origin source (Resolution.placeholder request).text
  | link {s : State} {request : IncludeRequest} (asks : r.Asks origin source s request)
    (uri : Path.isUri request.target = true) :
    Makes r origin source (Resolution.linkLine request).text
  | offset {s : State} {request : IncludeRequest} {offset text : String}
    (asks : r.Asks origin source s request)
    (given : request.attributes.get? "leveloffset" = some offset)
    (entry : Resolution.OffsetEntry s.attributes offset text) : Makes r origin source text
  | marker {text inner keyword : String} {d : Opening} (carried : Carries source text)
    (opening : Directive.ofLine? (strippedEnd text) = some (.opening d))
    (inline : d.inlineText? = some inner) (included : isInclude inner = true)
    (preserved : r.setting.options.preserveConditionals.meaning = true)
    (named : keyword = d.keyword ∨ keyword = "endif") :
    Makes r origin source s!"{keyword}::{d.target}[]"

/-- Whether an origin is true: the files from the root document down are distinct, the includes are
no deeper than allowed, the line is there, and so are those in the chain, each with an include. -/
structure Locates (r : Run) (origin : Origin) : Prop where
  root : origin.lineage.head? = some r.file
  nodup : origin.lineage.Nodup
  depth_le : origin.depth ≤ r.setting.options.maxIncludeDepth.meaning
  line : ∃ text, r.Reads origin text
  chain : ∀ before place after, origin.chain = before ++ place :: after →
    ∃ text, r.Reads ⟨place.file, place.line, before⟩ text ∧ CarriesInclude text

/-- Whether a line is true: its origin is, and its text was read there, perhaps inside conditionals,
or was made for a directive there. -/
structure Vouches (r : Run) (line : Line) : Prop where
  located : r.Locates line.origin
  told : ∃ source, r.Reads line.origin source ∧
    (Carries source line.text ∨ r.Makes line.origin source line.text)

end Run

/-! ## The file of an include -/

namespace Search

variable {s : Setting} {request : IncludeRequest} {base path : String} {selection : Selection}

/-- What is so where a file is found for an include: the depth allows it, the jail lets the target
through to it, it is none of the files that led there, and it has the lines that are selected. -/
structure Found (s : Setting) (base : String) (request : IncludeRequest) (path : String)
    (selection : Selection) : Prop where
  depth_le : request.origin.depth + 1 ≤ s.options.maxIncludeDepth.meaning
  permitted : s.jail.resolve s.cwd base request.target = .ok path
  fresh : path ∉ request.origin.lineage
  decoded : ∃ content, readText s (request.encoding s.options) path = .ok (.ok content) ∧
    ∀ l ∈ selection.lines, l ∈ Selection.numbered (splitLines content)

/-- At a path that the jail permits there is a problem or a file. -/
theorem finding_of_atPath {finding : Finding} (h : (atPath s request path).finding = .ok finding) :
    (∃ p, finding = .problem p) ∨ ∃ selection, finding = .file path selection ∧
      path ∉ request.origin.lineage ∧
      ∃ content, readText s (request.encoding s.options) path = .ok (.ok content) ∧
        selection.lines.Sublist (Selection.numbered (splitLines content)) := by
  unfold atPath at h
  split at h
  · cases h
    exact .inl ⟨_, rfl⟩
  · rename_i hfresh
    split at h
    · dsimp only at h
      split at h
      · cases h
      · cases h
        exact .inl ⟨_, rfl⟩
      · rename_i content hcontent
        split at h
        · cases h
        · rename_i selection hselection
          cases h
          exact .inr ⟨selection, rfl, fun hmem => hfresh (List.contains_iff_mem.2 hmem), content,
            hcontent, Selection.sublist_of_ofAttributes hselection⟩
    · split at h
      · cases h
        exact .inl ⟨_, rfl⟩
      · cases h
        exact .inl ⟨_, rfl⟩

/-- Without extensions there is a problem, a link or a file. -/
theorem finding_of_ofRequest {finding : Finding} (hempty : s.registry.includeProcessors = [])
    (h : (ofRequest s base request).finding = .ok finding) :
    (∃ p, finding = .problem p) ∨ finding = .link ∧ Path.isUri request.target = true ∨
      ∃ path selection, finding = .file path selection ∧ Found s base request path selection := by
  have hclaim : s.registry.claim request.target = [] := by
    rw [Registry.claim, hempty, List.filter_nil]
  have hdepth := depth_of_search h
  unfold ofRequest at h
  rw [hclaim, supply?] at h
  split at h
  · cases h
    exact .inl ⟨_, rfl⟩
  · dsimp only at h
    split at h
    · rename_i huri
      cases h
      exact .inr (.inl ⟨rfl, huri⟩)
    · split at h
      · cases h
        exact .inl ⟨_, rfl⟩
      · rename_i path hpermitted
        rcases finding_of_atPath h with
          hproblem | ⟨selection, rfl, hfresh, content, hcontent, hselected⟩
        · exact .inl hproblem
        · have hdepth := hdepth.resolve_right fun ⟨_, hproblem⟩ => nomatch hproblem
          exact .inr (.inr ⟨path, selection, rfl, hdepth, hpermitted, hfresh, content, hcontent,
            fun l hl => hselected.subset hl⟩)

end Search

/-! ## What a line carries -/

/-- No marker of a block begins with the keyword of an include. -/
theorem Opening.not_prefix_of_marker (d : Opening) {keyword : String}
    (hkeyword : keyword = d.keyword ∨ keyword = "endif") :
    ¬ "include::".toList <+: s!"{keyword}::{d.target}[]".toList := by
  intro hprefix
  -- one of the first two letters is another one
  rcases hkeyword with rfl | rfl
  · cases d with
    | presence d =>
      unfold Opening.keyword at hprefix
      dsimp only at hprefix
      split at hprefix
      · simp [toString] at hprefix
      · simp [toString] at hprefix
    | comparison d => simp [toString, Opening.keyword] at hprefix
  · simp [toString] at hprefix

/-- No marker of a block is a conditional around an include. -/
theorem Opening.isInclude_of_marker (d : Opening) {keyword inner : String} {d' : Opening}
    (htarget : '[' ∉ d.target.toList) (hkeyword : keyword = d.keyword ∨ keyword = "endif")
    (hopening : Directive.ofLine? (strippedEnd s!"{keyword}::{d.target}[]") = some (.opening d'))
    (hinline : d'.inlineText? = some inner) : isInclude inner = false := by
  refine eq_false_of_ne_true fun hinclude => ?_
  -- a marker has one bracket, which leaves none for the text in it
  have hbracket : '[' ∉ keyword.toList := by
    rcases hkeyword with rfl | rfl
    · exact d.bracket_not_mem_keyword
    · decide
  obtain ⟨-, hcount⟩ := (brackets_of_directive hopening).2 d' rfl _ hinline
  rw [count_strippedEnd, count_marker hbracket htarget] at hcount
  have hpos := count_of_isInclude hinclude
  omega

namespace Run

variable {r : Run} {origin : Origin} {source text : String} {s : State} {request : IncludeRequest}

/-- The line of a request carries an include. -/
theorem Asks.carriesInclude (h : r.Asks origin source s request) : CarriesInclude source := by
  obtain ⟨text, hcarried, hinclude⟩ := h.carried
  exact ⟨text, request.directive, hcarried, hinclude⟩

/-- A text that is made is no directive, or is the marker of a block that is preserved. -/
theorem Makes.none_or_marker (h : r.Makes origin source text) :
    Directive.ofLine? (strippedEnd text) = none ∨
      r.setting.options.preserveConditionals.meaning = true ∧
        ∃ (d : Opening) (keyword : String), (keyword = d.keyword ∨ keyword = "endif") ∧
          '[' ∉ d.target.toList ∧ text = s!"{keyword}::{d.target}[]" := by
  cases h with
  | placeholder => exact .inl (not_directive_of_bracketWeight (bracketWeight_placeholder _))
  | link => exact .inl (not_directive_of_bracketWeight (bracketWeight_linkLine _))
  | offset _ _ entry =>
    exact .inl (not_directive_of_bracketWeight (bracketWeight_offsetEntry entry))
  | @marker _ _ keyword d _ opening inline _ preserved named =>
    obtain ⟨htarget, -⟩ := (brackets_of_directive opening).2 d rfl _ inline
    exact .inr ⟨preserved, d, keyword, named, htarget, rfl⟩

/-- No text that is made is an include directive. -/
theorem Makes.not_include (h : r.Makes origin source text) (d : Include) :
    Directive.ofLine? (strippedEnd text) ≠ some (.include d) := by
  intro hinclude
  rcases h.none_or_marker with hnone | ⟨-, d', keyword, hkeyword, -, rfl⟩
  · rw [hnone] at hinclude
    cases hinclude
  · have hprefix := (prefix_of_include hinclude).trans (prefix_of_strippedEnd _)
    exact d'.not_prefix_of_marker hkeyword hprefix

/-- No text that is made is a conditional around an include, and none is a conditional with a text
at all unless conditionals are preserved. -/
theorem Makes.not_inline (h : r.Makes origin source text) {d : Opening} {inner : String}
    (hopening : Directive.ofLine? (strippedEnd text) = some (.opening d))
    (hinline : d.inlineText? = some inner) :
    r.setting.options.preserveConditionals.meaning = true ∧ isInclude inner = false := by
  rcases h.none_or_marker with hnone | ⟨hpreserved, d', keyword, hkeyword, htarget, rfl⟩
  · rw [hnone] at hopening
    cases hopening
  · exact ⟨hpreserved, d'.isInclude_of_marker htarget hkeyword hopening hinline⟩

/-- A true line that is an include directive has a text that was read. -/
theorem Vouches.carries_of_include {line : Line} (h : r.Vouches line) {d : Include}
    (hinclude : Directive.ofLine? (strippedEnd line.text) = some (.include d)) :
    ∃ source, r.Reads line.origin source ∧ Carries source line.text := by
  obtain ⟨source, hreads, hcarries | hmade⟩ := h.told
  · exact ⟨source, hreads, hcarries⟩
  · exact absurd hinclude (hmade.not_include d)

section Inline

variable {line : Line} {d : Opening} {inner : String} (h : r.Vouches line)
  (hopening : Directive.ofLine? (strippedEnd line.text) = some (.opening d))
  (hinline : d.inlineText? = some inner)
include h hopening hinline

/-- So has a true line that is replaced by its own text. -/
theorem Vouches.carries_of_inline
    (hreplaced : r.setting.options.preserveConditionals.meaning = false ∨ isInclude inner = true) :
    ∃ source, r.Reads line.origin source ∧ Carries source line.text := by
  obtain ⟨source, hreads, hcarries | hmade⟩ := h.told
  · exact ⟨source, hreads, hcarries⟩
  · obtain ⟨hpreserved, hother⟩ := hmade.not_inline hopening hinline
    rcases hreplaced with hnormal | hinclude
    · rw [hpreserved] at hnormal
      cases hnormal
    · rw [hother] at hinclude
      cases hinclude

/-- The text of a true line that is replaced by it is true. -/
theorem Vouches.inline
    (hreplaced : r.setting.options.preserveConditionals.meaning = false ∨ isInclude inner = true) :
    r.Vouches ⟨inner, line.origin⟩ := by
  obtain ⟨source, hreads, hcarries⟩ := h.carries_of_inline hopening hinline hreplaced
  exact ⟨h.located, source, hreads, .inl (hcarries.inline hopening hinline)⟩

/-- The block form of a true line is true. -/
theorem Vouches.blockForm
    (hpreserved : r.setting.options.preserveConditionals.meaning = true)
    (hinclude : isInclude inner = true) :
    ∀ l ∈ d.blockForm inner line.origin, r.Vouches l := by
  obtain ⟨source, hreads, hcarries⟩ := h.carries_of_inline hopening hinline (.inr hinclude)
  have hmarker : ∀ keyword, keyword = d.keyword ∨ keyword = "endif" →
      r.Vouches ⟨s!"{keyword}::{d.target}[]", line.origin⟩ := fun keyword hkeyword =>
    ⟨h.located, source, hreads,
      .inr (.marker hcarries hopening hinline hinclude hpreserved hkeyword)⟩
  intro l hl
  simp only [Opening.blockForm, List.mem_cons, List.not_mem_nil, or_false] at hl
  rcases hl with rfl | rfl | rfl
  · exact hmarker d.keyword (.inl rfl)
  · exact h.inline hopening hinline (.inr hinclude)
  · exact hmarker "endif" (.inr rfl)

end Inline

/-! ## The lines of an include -/

/-- The lines of a file that an include at a true origin brings in are at true origins. -/
theorem Locates.child (h : r.Locates origin) (hreads : r.Reads origin source)
    (hcarries : CarriesInclude source) {path : String} (hfresh : path ∉ origin.lineage)
    (hdepth : origin.depth + 1 ≤ r.setting.options.maxIncludeDepth.meaning) {n : Int}
    (hline : r.Reads (origin.child path n) text) : r.Locates (origin.child path n) := by
  refine ⟨?_, ?_, ?_, ⟨text, hline⟩, ?_⟩
  · rw [Origin.lineage_child, List.head?_append, h.root, Option.some_or]
  · rw [Origin.lineage_child, List.nodup_append]
    refine ⟨h.nodup, by simp, fun a ha b hb => ?_⟩
    rintro rfl
    exact hfresh (List.mem_singleton.1 hb ▸ ha)
  · rwa [Origin.depth_child]
  · -- the last place is that of the include, and the others are in the chain that leads there
    intro before place after hchain
    change origin.chain ++ [origin.place] = before ++ place :: after at hchain
    rcases List.eq_nil_or_concat after with rfl | ⟨after, last, rfl⟩
    · obtain ⟨rfl, hplace⟩ := List.append_inj' hchain rfl
      obtain rfl : origin.place = place := List.singleton_inj.1 hplace
      exact ⟨source, hreads, hcarries⟩
    · refine h.chain before place after ?_
      rw [List.concat_eq_append, ← List.cons_append, ← List.append_assoc] at hchain
      exact (List.append_inj' hchain rfl).1

/-- The lines that take the place of an include are true if its line is. -/
theorem vouches_of_resolve {line : Line} {rest lines : List Line} {d : Include} {c : Context}
    (hempty : r.setting.registry.includeProcessors = []) (hreaches : r.Reaches s)
    (hpending : s.pending = line :: rest) (hline : r.Vouches line)
    (hinclude : Directive.ofLine? (strippedEnd line.text) = some (.include d))
    (h : s.resolve r.setting d line.origin = .ok (lines, c)) : ∀ l ∈ lines, r.Vouches l := by
  unfold Context.resolve at h
  split at h
  · cases h
  rename_i resolution hresolution
  cases h
  rcases Resolution.eq_of_ofDirective hresolution with
    ⟨_, rfl⟩ | ⟨request, finding, hrequest, hfinding, rfl⟩
  · exact fun l hl => nomatch hl
  -- the line is an include, so it was read, and its request is one that is resolved
  obtain ⟨source, hreads, hcarries⟩ := hline.carries_of_include hinclude
  obtain ⟨horigin, rfl⟩ := eq_of_request hrequest
  have hasks : r.Asks line.origin source s request :=
    ⟨⟨hreaches, line, rest, hpending, hinclude, hrequest⟩, horigin, line.text, hcarries, hinclude⟩
  have hmade : ∀ l : Line, l.origin = request.origin → r.Makes line.origin source l.text →
      r.Vouches l := by
    intro l hl hmakes
    have hl := hl.trans horigin
    exact ⟨hl ▸ hline.located, source, hl ▸ hreads, .inr (hl ▸ hmakes)⟩
  rcases Search.finding_of_ofRequest hempty hfinding with
    ⟨p, rfl⟩ | ⟨rfl, huri⟩ | ⟨path, selection, rfl, hfound⟩
  · intro l hl
    simp only [Resolution.ofFinding] at hl
    split at hl
    · obtain rfl := List.mem_singleton.1 hl
      exact hmade _ rfl (.placeholder hasks)
    · cases hl
  · intro l hl
    obtain rfl := List.mem_singleton.1 hl
    exact hmade _ rfl (.link hasks huri)
  · intro l hl
    rcases Resolution.mem_offsetLines hl with hl | ⟨hl, offset, hgiven, hentry⟩
    · obtain ⟨content, hcontent, hselected⟩ := hfound.decoded
      obtain ⟨⟨n, text⟩, hmem, rfl⟩ := List.mem_map.1 hl
      obtain ⟨i, rfl, hi⟩ := Selection.mem_numbered_iff.1 (hselected _ hmem)
      have hread : r.Reads (request.origin.child path (i + 1)) text :=
        .included hasks.resolves (horigin ▸ hfound.permitted) hcontent hi
      refine ⟨?_, text, hread, .inl .itself⟩
      exact Locates.child (horigin ▸ hline.located) (horigin ▸ hreads) hasks.carriesInclude
        hfound.fresh hfound.depth_le hread
    · exact hmade l hl (.offset hasks hgiven hentry)

end Run

/-! ## What a step adds -/

namespace Context

variable {setting : Setting} {c after : Context} {origin : Origin} {p : Diagnostic}

/-- What is found wrong with a condition is found at its origin. -/
theorem mem_diagnostics_of_judge {d : Opening} {active : Bool}
    (h : c.judge setting d origin = .ok (active, after)) (hp : p ∈ after.journal.diagnostics) :
    p ∈ c.journal.diagnostics ∨ p.origin = origin := by
  obtain ⟨found, hafter, hfound⟩ := diagnostics_of_judge h
  rw [hafter] at hp
  rcases List.mem_append.1 hp with hp | hp
  · exact .inl hp
  · exact .inr (hfound p (Option.mem_toList.1 hp)).1

/-- So is what is found wrong with a condition within open blocks. -/
theorem mem_diagnostics_of_judgeWithin {d : Opening} {active : Bool}
    (h : c.judgeWithin setting d origin = .ok (active, after))
    (hp : p ∈ after.journal.diagnostics) : p ∈ c.journal.diagnostics ∨ p.origin = origin := by
  unfold judgeWithin at h
  split at h
  · exact mem_diagnostics_of_judge h hp
  · cases h
    exact .inl hp

/-- A report is at its origin. -/
theorem mem_diagnostics_report {message : String}
    (hp : p ∈ (c.report message origin).journal.diagnostics) :
    p ∈ c.journal.diagnostics ∨ p.origin = origin := by
  rw [diagnostics_report] at hp
  rcases List.mem_append.1 hp with hp | hp
  · exact .inl hp
  · rw [List.mem_singleton.1 hp]
    exact .inr rfl

/-- So is the report about an `endif`. -/
theorem mem_diagnostics_afterClosing {d : Closing}
    (hp : p ∈ (c.afterClosing d origin).journal.diagnostics) :
    p ∈ c.journal.diagnostics ∨ p.origin = origin := by
  unfold afterClosing at hp
  split at hp
  · exact .inl hp
  · exact mem_diagnostics_report hp

/-- Reports in turn are at their origins. -/
theorem mem_diagnostics_reportAll {problems : List (String × Origin)}
    (hp : p ∈ (c.reportAll problems).journal.diagnostics) :
    p ∈ c.journal.diagnostics ∨ ∃ problem ∈ problems, p.origin = problem.2 := by
  rw [diagnostics_reportAll] at hp
  rcases List.mem_append.1 hp with hp | hp
  · exact .inl hp
  · obtain ⟨problem, hproblem, rfl⟩ := List.mem_map.1 hp
    exact .inr ⟨problem, hproblem, rfl⟩

end Context

/-- What is found wrong with an include is found at the include. -/
theorem Resolution.origin_of_found {s : Setting} {directories : Table String} {a : AttributeSet}
    {request : IncludeRequest} {finding : Finding} {p : Diagnostic}
    (hp : .found p ∈ (ofFinding s directories a request finding).events) :
    p.origin = request.origin := by
  cases finding with
  | supplied name texts =>
    cases List.mem_singleton.1 hp
  | link => cases hp
  | file path selection =>
    rcases List.mem_append.1 hp with hp | hp
    · obtain ⟨text, -, heq⟩ := List.mem_map.1 hp
      cases heq
      rfl
    · cases List.mem_singleton.1 hp
  | problem problem =>
    cases List.mem_singleton.1 hp
    rfl

/-- What is found wrong with an include directive is found at its origin. -/
theorem Context.mem_diagnostics_of_resolve {setting : Setting} {c after : Context} {d : Include}
    {origin : Origin} {lines : List Line} {p : Diagnostic}
    (h : c.resolve setting d origin = .ok (lines, after)) (hp : p ∈ after.journal.diagnostics) :
    p ∈ c.journal.diagnostics ∨ p.origin = origin := by
  unfold resolve at h
  split at h
  · cases h
  rename_i resolution hresolution
  cases h
  simp only [Journal.diagnostics, Array.toList_appendList, List.filterMap_append] at hp
  rcases List.mem_append.1 hp with hp | hp
  · exact .inl hp
  refine .inr ?_
  have hfound := Event.mem_filterMap_diagnostic?.1 hp
  rcases Resolution.eq_of_ofDirective hresolution with
    ⟨problem, rfl⟩ | ⟨request, finding, hrequest, -, rfl⟩
  · cases List.mem_singleton.1 hfound
    rfl
  · rcases List.mem_append.1 hfound with hlooked | hfound
    · obtain ⟨_, -, hevent⟩ := List.mem_map.1 hlooked
      cases hevent
    · exact (Resolution.origin_of_found hfound).trans (origin_of_request hrequest)

/-- While an include is looked for, nothing is found wrong before the reduction is interrupted. -/
theorem Context.diagnostics_of_resolve_error {setting : Setting} {c : Context} {d : Include}
    {origin : Origin} {i : Interruption} (h : c.resolve setting d origin = .error i) :
    i.journal.diagnostics = c.journal.diagnostics := by
  unfold resolve at h
  split at h
  · rename_i interruption hinterruption
    cases h
    obtain ⟨_, -, hjournal⟩ := Resolution.error_of_ofDirective hinterruption
    have hnone : ∀ paths : List String,
        (paths.map Event.consulted).filterMap Event.diagnostic? = [] := by
      intro paths
      rw [List.filterMap_map, List.filterMap_eq_nil_iff]
      exact fun _ _ => rfl
    rw [Journal.diagnostics_append, hjournal, Journal.diagnostics, Journal.diagnostics, hnone,
      List.append_nil]
  · cases h

namespace State

variable {setting : Setting} {s t : State} {line : Line} {rest : List Line}

/-- A block that is opened is that of the line, and all others were open before it. -/
theorem Rule.mem_frames (h : Rule setting s line rest t) {f : Frame} (hf : f ∈ t.frames) :
    f ∈ s.frames ∨ f.origin = line.origin := by
  cases h with
  | plain | inlineRewritten | inlineKept => exact .inl hf
  | entry e =>
    refine .inl ?_
    rw [← s.toContext.frames_afterEntry e]
    exact hf
  | inclusion d lines c _ resolved =>
    obtain ⟨_, _, rfl⟩ := Context.eq_of_resolve resolved
    exact .inl hf
  | closingDropped | closingKept => exact .inl (Context.mem_frames_afterClosing hf)
  | inlineTrue d text c _ _ _ judged | inlineFalse d text c _ _ _ judged =>
    obtain ⟨_, rfl, -⟩ := Context.eq_of_judge judged
    exact .inl hf
  | blockTrue d c _ _ _ judged =>
    obtain ⟨_, rfl, -⟩ := Context.eq_of_judge judged
    rcases List.mem_cons.1 hf with rfl | hf
    · exact .inr rfl
    · exact .inl hf
  | blockFalse d c _ _ _ judged =>
    obtain ⟨journal, rfl, -⟩ := Context.eq_of_judge judged
    obtain ⟨-, _, heq, -⟩ :=
      skip_eq (s.withContext { s.toContext with journal := journal }) line rest d
    rw [heq] at hf
    exact .inl hf
  | blockKept d active c _ _ _ judged =>
    obtain ⟨_, rfl, -⟩ := Context.eq_of_judgeWithin judged
    rcases List.mem_cons.1 hf with rfl | hf
    · exact .inr rfl
    · exact .inl hf

/-- What is found wrong with a block that is left out is found at lines of it. -/
theorem mem_diagnostics_skip {d : Opening} {p : Diagnostic}
    (hp : p ∈ (s.skip line rest d).journal.diagnostics) :
    p ∈ s.journal.diagnostics ∨ ∃ l ∈ line :: rest, p.origin = l.origin := by
  have hproblems : ∀ problems,
      p ∈ (s.reportAll (problemsIn rest problems)).journal.diagnostics →
        p ∈ s.journal.diagnostics ∨ ∃ l ∈ line :: rest, p.origin = l.origin := by
    intro problems hp
    rcases Context.mem_diagnostics_reportAll hp with hp | ⟨problem, hproblem, heq⟩
    · exact .inl hp
    · obtain ⟨⟨n, message⟩, -, hproblem⟩ := List.mem_filterMap.1 hproblem
      obtain ⟨l, hl, rfl⟩ := Option.map_eq_some_iff.1 hproblem
      exact .inr ⟨l, List.mem_cons_of_mem _ (List.mem_of_getElem? hl), heq⟩
  cases hlength : (BlockEnd.find d.target rest).length with
  | some n =>
    rw [skip_of_some hlength] at hp
    exact hproblems _ hp
  | none =>
    rw [skip_of_none hlength] at hp
    rcases Context.mem_diagnostics_report hp with hp | heq
    · exact hproblems _ hp
    · exact .inr ⟨line, List.mem_cons_self, heq⟩

/-- What a step finds wrong is found at the line that it takes, or at one after it. -/
theorem Rule.mem_diagnostics (h : Rule setting s line rest t) {p : Diagnostic}
    (hp : p ∈ t.journal.diagnostics) :
    p ∈ s.journal.diagnostics ∨ ∃ l ∈ line :: rest, p.origin = l.origin := by
  have hhere : p ∈ s.journal.diagnostics ∨ p.origin = line.origin →
      p ∈ s.journal.diagnostics ∨ ∃ l ∈ line :: rest, p.origin = l.origin :=
    Or.imp_right fun heq => ⟨line, List.mem_cons_self, heq⟩
  cases h with
  | plain | inlineRewritten | inlineKept => exact .inl hp
  | entry e =>
    refine .inl ?_
    rw [← s.toContext.diagnostics_afterEntry e]
    exact hp
  | inclusion d lines c _ resolved => exact hhere (Context.mem_diagnostics_of_resolve resolved hp)
  | closingDropped | closingKept => exact hhere (Context.mem_diagnostics_afterClosing hp)
  | inlineTrue d text c _ _ _ judged | inlineFalse d text c _ _ _ judged
  | blockTrue d c _ _ _ judged => exact hhere (Context.mem_diagnostics_of_judge judged hp)
  | blockFalse d c _ _ _ judged =>
    rcases mem_diagnostics_skip hp with hp | hlater
    · exact hhere (Context.mem_diagnostics_of_judge judged hp)
    · exact .inr hlater
  | blockKept d active c _ _ _ judged =>
    exact hhere (Context.mem_diagnostics_of_judgeWithin judged hp)

/-- A step that is interrupted finds nothing wrong. -/
theorem diagnostics_of_step_error {i : Interruption} (h : s.step setting = .error i) :
    i.journal.diagnostics = s.journal.diagnostics := by
  obtain ⟨_, _, -, ⟨d, -, hresolve⟩ | ⟨d, -, -, hjudge⟩⟩ := error_of_step h
  · exact Context.diagnostics_of_resolve_error hresolve
  · obtain ⟨_, rfl⟩ := Context.eq_of_judge_error hjudge
    rfl

end State

/-! ## True lines -/

namespace State

variable {r : Run} {s t : State} {line : Line} {rest : List Line}

/-- A step puts true lines in the place of true lines. -/
theorem Rule.vouches (h : Rule r.setting s line rest t)
    (hempty : r.setting.registry.includeProcessors = []) (hreaches : r.Reaches s)
    (hpending : s.pending = line :: rest)
    (hlines : ∀ l ∈ s.emitted.toList ++ s.pending, r.Vouches l) :
    ∀ l ∈ t.emitted.toList ++ t.pending, r.Vouches l := by
  rw [hpending] at hlines
  have hline : r.Vouches line := hlines line (by simp)
  have hemitted : ∀ l ∈ (s.emitted.push line).toList ++ rest, r.Vouches l := by
    simpa using hlines
  -- the lines that take the place of the line are true if all of them are
  have hreplaced : ∀ new tail : List Line, (∀ l ∈ new, r.Vouches l) → tail ⊆ rest →
      ∀ l ∈ s.emitted.toList ++ (new ++ tail), r.Vouches l := by
    intro new tail hnew htail l hl
    rcases List.mem_append.1 hl with hl | hl
    · exact hlines l (List.mem_append_left _ hl)
    · rcases List.mem_append.1 hl with hl | hl
      · exact hnew l hl
      · exact hlines l (List.mem_append_right _ (List.mem_cons_of_mem _ (htail hl)))
  have hdropped : ∀ tail : List Line, tail ⊆ rest →
      ∀ l ∈ s.emitted.toList ++ tail, r.Vouches l :=
    fun tail => hreplaced [] tail fun _ hl => nomatch hl
  cases h with
  | plain | entry | closingKept | inlineKept | blockKept => exact hemitted
  | inclusion d lines c directive resolved =>
    exact hreplaced lines rest
      (Run.vouches_of_resolve hempty hreaches hpending hline directive resolved)
      (List.Subset.refl _)
  | inlineTrue d text c directive normal inline =>
    refine hreplaced [⟨text, line.origin⟩] rest ?_ (List.Subset.refl _)
    intro l hl
    rw [List.mem_singleton.1 hl]
    exact hline.inline directive inline (.inl normal)
  | closingDropped | inlineFalse | blockTrue => exact hdropped rest (List.Subset.refl _)
  | blockFalse d c =>
    rw [(skip_eq (s.withContext c) line rest d).1]
    exact hdropped _ (pending_skip_suffix _ line rest d).subset
  | inlineRewritten d text directive preserved inline included =>
    exact hreplaced (d.blockForm text line.origin) rest
      (hline.blockForm directive inline preserved included) (List.Subset.refl _)

/-- Whether all that a reduction holds is true: the lines, and the origins of the blocks that are
open and of what was found wrong. -/
structure Truthful (r : Run) (s : State) : Prop where
  lines : ∀ l ∈ s.emitted.toList ++ s.pending, r.Vouches l
  frames : ∀ f ∈ s.frames, r.Locates f.origin
  diagnostics : ∀ p ∈ s.journal.diagnostics, r.Locates p.origin

/-- A step keeps to the truth: what it opens and what it finds wrong is at true lines. -/
theorem Rule.truthful (h : Rule r.setting s line rest t)
    (hempty : r.setting.registry.includeProcessors = []) (hreaches : r.Reaches s)
    (hpending : s.pending = line :: rest) (hs : s.Truthful r) : t.Truthful r := by
  have hlocated : ∀ l ∈ line :: rest, r.Locates l.origin := fun l hl =>
    (hs.lines l (List.mem_append_right _ (hpending ▸ hl))).located
  refine ⟨h.vouches hempty hreaches hpending hs.lines, fun f hf => ?_, fun p hp => ?_⟩
  · rcases h.mem_frames hf with hf | heq
    · exact hs.frames f hf
    · exact heq ▸ hlocated line List.mem_cons_self
  · rcases h.mem_diagnostics hp with hp | ⟨l, hl, heq⟩
    · exact hs.diagnostics p hp
    · exact heq ▸ hlocated l hl

/-- At the start there are the lines of the root document, each where it was read. -/
theorem truthful_start (r : Run) : r.start.state.Truthful r := by
  refine ⟨fun l hl => ?_, fun _ hf => (nomatch hf), fun _ hp => (nomatch hp)⟩
  have hl : l ∈ Line.number (fun n => { file := r.file, line := n }) r.texts := hl
  obtain ⟨⟨text, n⟩, htext, rfl⟩ := List.mem_map.1 hl
  have hread : r.Reads { file := r.file, line := (n : Int) + 1 } text :=
    .root (List.mem_zipIdx_iff_getElem?.1 htext)
  refine ⟨⟨rfl, by simp [Origin.lineage], Nat.zero_le _, ⟨text, hread⟩, ?_⟩, text, hread,
    .inl .itself⟩
  intro before place after hchain
  have hchain : [] = before ++ place :: after := hchain
  simp at hchain

/-- All states that a reduction comes to are true. -/
theorem truthful_of_reaches (hempty : r.setting.registry.includeProcessors = [])
    (h : r.Reaches s) : s.Truthful r := by
  -- the step lemma asks that its state is reached, so this is carried along
  have hboth : r.Reaches s ∧ s.Truthful r := by
    refine Leads.preserves (P := fun s => r.Reaches s ∧ s.Truthful r) h
      ⟨.refl _, truthful_start r⟩ fun s t hafter ⟨hreaches, hs⟩ => ?_
    obtain ⟨line, rest, hpending, hrule⟩ := hafter.rule
    exact ⟨hreaches.trans hafter.leads, hrule.truthful hempty hreaches hpending hs⟩
  exact hboth.2

/-- Blocks that were never ended are reported where they were opened. -/
theorem Truthful.finish (h : s.Truthful r) :
    ∀ p ∈ s.toContext.finish.journal.diagnostics, r.Locates p.origin := by
  intro p hp
  rcases Context.mem_diagnostics_reportAll hp with hp | ⟨problem, hproblem, heq⟩
  · exact h.diagnostics p hp
  · obtain ⟨f, hf, rfl⟩ := List.mem_map.1 hproblem
    exact heq ▸ h.frames f (List.mem_reverse.1 hf)

end State

/-- Without extensions, all lines of every buffer that the loop comes to are true, and so are the
origins of all diagnostics that it has recorded, even if the reduction is interrupted. The lines and
the diagnostics of the result are true. -/
theorem Buffer.reduce_provenance (r : Run) (hempty : r.setting.registry.includeProcessors = []) :
    (∀ ls, Loop.Trace r.setting r.start ls → ∀ l ∈ ls,
        (∀ line ∈ l.buffer.lines, r.Vouches line) ∧
          ∀ d ∈ l.journal.diagnostics, r.Locates d.origin) ∧
      (∀ d ∈ (r.buffer.journal r.setting r.file r.attributes).diagnostics, r.Locates d.origin) ∧
      ∀ result journal, r.buffer.reduce r.setting r.file r.attributes = .ok (result, journal) →
        (∀ line ∈ result.lines, r.Vouches line) ∧
          ∀ d ∈ result.diagnostics, r.Locates d.origin := by
  refine ⟨fun ls htrace l hl => ?_, ?_, fun result journal hreduce => ?_⟩
  · have htrue := State.truthful_of_reaches hempty (htrace.leads l hl)
    refine ⟨fun line hline => htrue.lines line ?_, htrue.diagnostics⟩
    -- the lines of the buffer are those before the cursor and those after it
    show line ∈ l.buffer.lines.take l.cursor ++ l.buffer.lines.drop l.cursor
    rwa [List.take_append_drop]
  · rw [Buffer.journal, Buffer.reduce, Loop.run_eq]
    cases hrun : (Loop.start r.setting r.file r.attributes r.buffer).state.run r.setting with
    | ok ended =>
      obtain ⟨lines, c⟩ := ended
      exact (State.truthful_of_reaches hempty (State.leads_of_run hrun)).finish
    | error i =>
      obtain ⟨u, hleads, herror⟩ := State.leads_of_run_error hrun
      show ∀ d ∈ i.journal.diagnostics, r.Locates d.origin
      rw [State.diagnostics_of_step_error herror]
      exact (State.truthful_of_reaches hempty hleads).diagnostics
  · obtain ⟨⟨lines, c⟩, hrun, hresult⟩ := eq_ok_of_map hreduce
    cases hresult
    rw [Loop.run_eq] at hrun
    have htrue := State.truthful_of_reaches hempty (State.leads_of_run hrun)
    refine ⟨fun line hline => htrue.lines line ?_, htrue.finish⟩
    exact List.mem_append_left _ hline

/-- A document that includes a file beside it in a conditional: the line of the file knows the line
of the document that includes it. -/
theorem Buffer.reduce_provenance_included :
    let setting : Setting :=
      { files := ⟨[(["b"], .file [121])]⟩, cwd := "/", jail := ⟨.free, "/", none⟩
        rootDirectory := "/" }
    let r : Run := ⟨setting, "a", {}, ["ifndef::x[include::b[]]"]⟩
    let line : Line := ⟨"y", ⟨"/b", 1, [⟨"a", 1⟩]⟩⟩
    setting.registry.includeProcessors = [] ∧
      ∃ result journal, r.buffer.reduce setting "a" {} = .ok (result, journal) ∧
        result.lines = [line] ∧ r.Vouches line := by
  intro setting r line
  let start : Context := .start setting "a" {}
  let origin : Origin := { file := "a", line := 1 }
  let last : Context := { start with
    directories := start.directories.insert "/b" "/"
    journal := #[.consulted "/b", .remark .includes "included /b (1 lines)"] }
  have hinline : State.After setting ⟨start, #[], [⟨"include::b[]", origin⟩]⟩
      (Loop.start setting "a" {} r.buffer).state := by
    refine State.after_of_toOption ?_
    decide +kernel
  have hinclude : State.After setting ⟨last, #[], [line]⟩
      ⟨start, #[], [⟨"include::b[]", origin⟩]⟩ := by
    refine State.after_of_toOption ?_
    decide +kernel
  have hline : State.After setting ⟨last, #[line], []⟩ ⟨last, #[], [line]⟩ := by
    refine State.after_of_toOption ?_
    decide +kernel
  have hreduce : r.buffer.reduce setting "a" {} =
      .ok (Result.ofRun setting "a" [line] last) := by
    rw [Buffer.reduce, Loop.run_eq, State.run_of_after hinline, State.run_of_after hinclude,
      State.run_of_after hline, State.run_of_nil]
    rfl
  obtain ⟨-, -, hresult⟩ := Buffer.reduce_provenance r rfl
  exact ⟨rfl, _, _, hreduce, rfl, (hresult _ _ hreduce).1 line List.mem_cons_self⟩

end Transclude
