import Transclude.Proofs.Twins

/-!
# Lines of unresolved includes

An include that yields nothing may leave a line that says so. The line is plain text: it is no
directive and no attribute entry, begins and ends no verbatim block, and stands where no block is
searched for its end. So a reduction that leaves such lines knows at every other line what one knows
that leaves none, and puts out the same lines besides them.

## Main definitions

* `placeholderMark`  : the words with which the line of an unresolved include begins.
* `Setting.showing`  : a setting that leaves such lines, or does not.
* `State.broughtIn`  : the texts that come into the document with the next line.
* `Line.Harmless`    : whether a line neither is the line of an unresolved include nor becomes one.

## Main statements

* `Hit.ofLine?_placeholder` : nothing is found on the line of an unresolved include.
* `Buffer.reduce_showing`   : a reduction that leaves such lines, and one that does not.
-/

namespace Transclude

open Transclude.Text

/-- The words with which the line of an unresolved include begins. -/
def placeholderMark : List Char := "Unresolved directive in ".toList

/-- Whether a line begins as that of an unresolved include does. -/
def Line.isPlaceholder (line : Line) : Bool := placeholderMark.isPrefixOf line.text.toList

/-- The setting in which unresolved includes leave a line, or in which they do not. -/
def Setting.showing (s : Setting) (shown : Bool) : Setting :=
  { s with options := { s.options with unresolvedPlaceholder := .ofFlag (.bool shown) } }

/-- The texts that come into the document by what is found for an include: those that an extension
supplies, or those selected from a file. -/
def Finding.texts : Finding → List String
  | .supplied _ texts => texts
  | .file _ selection => selection.lines.map (·.2)
  | .link | .problem _ => []

/-- The texts that come into the document by an include. -/
def Context.textsOf (setting : Setting) (c : Context) (d : Include) (origin : Origin) :
    List String :=
  match IncludeRequest.ofDirective c.attributes d origin with
  | .error _ => []
  | .ok request =>
    match (Search.ofRequest setting (Resolution.baseDirectory setting c.directories origin)
      request).finding with
    | .error _ => []
    | .ok finding => finding.texts

/-- The texts that come into the document with the next line, if that is an include. -/
def State.broughtIn (setting : Setting) (s : State) : List String :=
  match s.pending with
  | [] => []
  | line :: _ => line.include?.toList.flatMap fun d => s.textsOf setting d line.origin

/-! ## Lines that are left as they are -/

theorem placeholderMark_eq : ∃ rest, placeholderMark = 'U' :: rest :=
  List.head?_eq_some_iff.1 (by decide)

/-- The line that an unresolved include leaves begins with the mark. -/
theorem prefix_placeholder (request : IncludeRequest) :
    placeholderMark <+: (Resolution.placeholder request).text.toList := by
  unfold Resolution.placeholder
  dsimp only
  simp only [String.toList_append, List.append_assoc]
  exact List.prefix_append _ _

/-- Nothing is found on the line that an unresolved include leaves: it is no directive and no entry,
and neither opens nor ends a verbatim block. -/
theorem Hit.ofLine?_placeholder (verbatim : Verbatim) (request : IncludeRequest) :
    Hit.ofLine? verbatim (Resolution.placeholder request).text = (verbatim, none) := by
  have hdirective := not_directive_of_bracketWeight (bracketWeight_placeholder request)
  obtain ⟨more, hmore⟩ := prefix_placeholder request
  obtain ⟨letters, hmark⟩ := placeholderMark_eq
  have hstripped := prefix_of_strippedEnd (Resolution.placeholder request).text
  rw [← hmore, hmark, List.cons_append] at hstripped
  -- without the blanks at its end the line is nothing, or begins as before
  have hfirst : (strippedEnd (Resolution.placeholder request).text).toList = [] ∨
      ∃ rest, (strippedEnd (Resolution.placeholder request).text).toList = 'U' :: rest :=
    (List.prefix_cons_iff.1 hstripped).imp_right fun ⟨rest, hrest, _⟩ => ⟨rest, hrest⟩
  have hdelimiter : Verbatim.delimiter? (strippedEnd (Resolution.placeholder request).text) =
      none := by
    unfold Verbatim.delimiter?
    rcases hfirst with hnil | ⟨rest, hcons⟩
    · rw [hnil]
      rfl
    · rw [hcons]
      rfl
  have hentry : AttributeEntry.ofLine? (strippedEnd (Resolution.placeholder request).text) =
      none := by
    unfold AttributeEntry.ofLine?
    rcases hfirst with hnil | ⟨rest, hcons⟩
    · rw [hnil]
    · rw [hcons]
      rfl
  unfold Hit.ofLine? Verbatim.advance
  dsimp only
  rw [hdirective, hdelimiter, hentry]
  cases verbatim with
  | none => rfl
  | some opened => rfl

/-! ## Lines that are no such line -/

/-- Whether a text has the mark nowhere in it. -/
def Markless (text : String) : Prop := ¬ placeholderMark <:+: text.toList

instance (text : String) : Decidable (Markless text) := inferInstanceAs (Decidable (¬ _))

/-- Whether a line neither is the line of an unresolved include nor becomes one: it has the mark
nowhere in it, or does not begin with it and is no directive. -/
inductive Line.Harmless (line : Line) : Prop
  | markless (nowhere : Markless line.text)
  | inert (weightless : bracketWeight line.text = 0) (other : line.isPlaceholder = false)

/-- The target of a conditional has no blank in it. -/
theorem Opening.blank_not_mem_target {line text : String} {d : Opening}
    (h : Directive.ofLine? line = some (.opening d)) (hinline : d.inlineText? = some text) :
    ' ' ∉ d.target.toList := by
  have hlower : ∀ {s : List Char}, s.any isBlank = false → ' ' ∉ lower s := by
    intro s hs hblank
    rcases mem_or_le_of_mem_lower hblank with hblank | hlarge
    · have hnone := List.any_eq_false.1 hs _ hblank
      exact hnone (by decide)
    · exact absurd hlarge (by decide)
  obtain ⟨keyword, rest, -, -, -, hkind⟩ := rest_of_directive h
  rcases hkind with hd | ⟨negated, hd⟩ | hd | hd
  · unfold Directive.includeOf? at hd
    split at hd
    · split at hd
      · cases hd
      · cases hd
    · cases hd
  · obtain ⟨⟨target, given⟩, hparts, heq⟩ := Option.map_eq_some_iff.1 hd
    cases heq
    unfold Directive.conditionalParts? at hparts
    split at hparts
    · split at hparts
      · cases hparts
      · rename_i hblank
        cases hparts
        simpa [Opening.target] using hlower (eq_false_of_ne_true hblank)
    · cases hparts
  · -- a conditional on an expression has no text
    obtain ⟨_, -, heq⟩ := Option.map_eq_some_iff.1 hd
    cases heq
    cases hinline
  · obtain ⟨_, -, heq⟩ := Option.map_eq_some_iff.1 hd
    cases heq

/-- A marker of a block does not have the mark in it, since that has a blank. -/
theorem Opening.markless_marker {d : Opening} (htarget : ' ' ∉ d.target.toList) (keyword : String)
    (hkeyword : ' ' ∉ keyword.toList) : Markless s!"{keyword}::{d.target}[]" := by
  intro hmark
  have hblank : ' ' ∈ (s!"{keyword}::{d.target}[]").toList := hmark.subset (by decide)
  simp [toString, hkeyword, htarget] at hblank

namespace Line.Harmless

variable {line : Line}

theorem not_isPlaceholder (h : line.Harmless) : line.isPlaceholder = false := by
  cases h with
  | inert _ other => exact other
  | markless nowhere =>
    exact eq_false_of_ne_true fun hmark => nowhere (List.isPrefixOf_iff_prefix.1 hmark).isInfix

/-- A directive that is harmless has the mark nowhere in it. -/
theorem markless_of_directive (h : line.Harmless) {d : Directive}
    (hd : Directive.ofLine? (strippedEnd line.text) = some d) : Markless line.text := by
  cases h with
  | markless nowhere => exact nowhere
  | inert weightless _ =>
    rw [not_directive_of_bracketWeight weightless] at hd
    cases hd

variable (h : line.Harmless) {d : Opening} {text : String}
  (hd : Directive.ofLine? (strippedEnd line.text) = some (.opening d))
  (hinline : d.inlineText? = some text)
include h hd hinline

/-- The text of a conditional on a harmless line is harmless. -/
theorem inline (origin : Origin) : Harmless ⟨text, origin⟩ :=
  .markless fun hmark =>
    h.markless_of_directive hd (hmark.trans (Opening.infix_of_inline hd hinline))

/-- So is its block form. -/
theorem blockForm (origin : Origin) : ∀ l ∈ d.blockForm text origin, l.Harmless := by
  have htarget := Opening.blank_not_mem_target hd hinline
  have hkeyword : ' ' ∉ d.keyword.toList := by
    cases d with
    | presence d =>
      unfold Opening.keyword
      dsimp only
      split <;> decide
    | comparison d => cases hinline
  intro l hl
  simp only [Opening.blockForm, List.mem_cons, List.not_mem_nil, or_false] at hl
  rcases hl with rfl | rfl | rfl
  · exact .markless (Opening.markless_marker htarget d.keyword hkeyword)
  · exact h.inline hd hinline origin
  · exact .markless (Opening.markless_marker htarget "endif" (by decide))

end Line.Harmless

/-- A line that is no directive is harmless if it begins otherwise than the mark. -/
theorem Line.harmless_of_head {text : String} {origin : Origin} {c : Char}
    (hhead : text.toList.head? = some c) (hother : c ≠ 'U') (hweightless : bracketWeight text = 0) :
    Line.Harmless ⟨text, origin⟩ := by
  refine .inert hweightless (eq_false_of_ne_true fun hmark => hother ?_)
  obtain ⟨more, hmore⟩ := List.isPrefixOf_iff_prefix.1 hmark
  obtain ⟨letters, hletters⟩ := placeholderMark_eq
  rw [← hmore, hletters, List.cons_append, List.head?_cons] at hhead
  exact (Option.some.inj hhead).symm

/-! ## Includes -/

/-- An entry around the lines of an include begins with a colon. -/
theorem Resolution.OffsetEntry.head? {a : AttributeSet} {offset text : String}
    (h : OffsetEntry a offset text) : text.toList.head? = some ':' := by
  cases h with
  | sets | restores => exact head?_append (by decide)
  | unsets => decide

/-- The lines that take the place of what is found for an include are harmless if the texts that
come in are, and no line is left for a problem. -/
theorem Resolution.harmless_of_finding {setting : Setting} {directories : Table String}
    {a : AttributeSet} {request : IncludeRequest} {finding : Finding}
    (hhidden : setting.options.unresolvedPlaceholder.meaning = false)
    (htexts : ∀ text ∈ finding.texts, Markless text) :
    ∀ l ∈ (ofFinding setting directories a request finding).lines, l.Harmless := by
  have hoffset : ∀ lines : List Line, (∀ l ∈ lines, Markless l.text) →
      ∀ l ∈ offsetLines a request lines, l.Harmless := by
    intro lines hlines l hl
    rcases mem_offsetLines hl with hl | ⟨-, offset, -, hentry⟩
    · exact .markless (hlines l hl)
    · exact Line.harmless_of_head hentry.head? (by decide) (bracketWeight_offsetEntry hentry)
  cases finding with
  | supplied name texts =>
    refine hoffset _ fun l hl => ?_
    obtain ⟨⟨text, i⟩, htext, rfl⟩ := List.mem_map.1 hl
    exact htexts text (List.fst_mem_of_mem_zipIdx htext)
  | link =>
    intro l hl
    rw [List.mem_singleton.1 hl]
    exact Line.harmless_of_head (c := 'l') (head?_append (head?_append (by decide))) (by decide)
      (bracketWeight_linkLine request)
  | file path selection =>
    refine hoffset _ fun l hl => ?_
    obtain ⟨⟨n, text⟩, htext, rfl⟩ := List.mem_map.1 hl
    exact htexts text (List.mem_map.2 ⟨(n, text), htext, rfl⟩)
  | problem p =>
    intro l hl
    simp [ofFinding, hhidden] at hl

/-- So are the lines that take the place of an include. -/
theorem Context.harmless_of_resolve {setting : Setting} {c after : Context} {d : Include}
    {origin : Origin} {lines : List Line}
    (hhidden : setting.options.unresolvedPlaceholder.meaning = false)
    (hresolved : c.resolve setting d origin = .ok (lines, after))
    (htexts : ∀ text ∈ c.textsOf setting d origin, Markless text) :
    ∀ l ∈ lines, l.Harmless := by
  unfold Context.resolve at hresolved
  split at hresolved
  · cases hresolved
  rename_i r hr
  cases hresolved
  rcases Resolution.eq_of_ofDirective hr with
    ⟨_, rfl⟩ | ⟨request, finding, hrequest, hfinding, rfl⟩
  · exact List.forall_mem_nil _
  · have hfound : c.textsOf setting d origin = finding.texts := by
      rw [Context.textsOf, hrequest]
      dsimp only
      rw [hfinding]
    exact Resolution.harmless_of_finding hhidden (hfound ▸ htexts)

/-- Reductions that know the same, and have noted down the same, are twins only if they are one. -/
theorem Context.Twins.eq_of_eq {c c' : Context} (h : Twins Eq c c') : c' = c := by
  cases h with
  | intro journal related => rw [← related]

/-- Without lines for unresolved includes an include is resolved as with them, or such a line is all
that would take its place. -/
theorem Context.resolve_showing (setting : Setting) (c : Context) (d : Include) (origin : Origin) :
    c.resolve (setting.showing false) d origin = c.resolve (setting.showing true) d origin ∨
      ∃ request after,
        c.resolve (setting.showing true) d origin =
          .ok ([Resolution.placeholder request], after) ∧
        c.resolve (setting.showing false) d origin = .ok ([], after) := by
  unfold Context.resolve Resolution.ofDirective
  cases IncludeRequest.ofDirective c.attributes d origin with
  | error p => exact .inl rfl
  | ok request =>
    -- the search does not read whether lines are left
    have hsearch : Search.ofRequest (setting.showing false)
          (Resolution.baseDirectory (setting.showing false) c.directories origin) request =
        Search.ofRequest (setting.showing true)
          (Resolution.baseDirectory (setting.showing true) c.directories origin) request := rfl
    dsimp only
    rw [hsearch]
    cases (Search.ofRequest (setting.showing true)
        (Resolution.baseDirectory (setting.showing true) c.directories origin) request).finding with
    | error abort => exact .inl rfl
    | ok finding =>
      cases finding with
      | supplied | link | file => exact .inl rfl
      | problem p =>
        dsimp only [Resolution.ofFinding]
        cases p.leavesPlaceholder with
        | true => exact .inr ⟨request, _, rfl, rfl⟩
        | false => exact .inl rfl

/-! ## Runs -/

namespace State

variable {setting : Setting} {s t : State} {line : Line} {rest : List Line}

/-- A step puts harmless lines in the place of harmless lines, if no line is left for an unresolved
include. -/
theorem Rule.harmless (h : Rule setting s line rest t)
    (hhidden : setting.options.unresolvedPlaceholder.meaning = false)
    (hpending : s.pending = line :: rest) (hlines : ∀ l ∈ s.pending, l.Harmless)
    (htexts : ∀ text ∈ s.broughtIn setting, Markless text) : ∀ l ∈ t.pending, l.Harmless := by
  rw [hpending] at hlines
  obtain ⟨hline, hrest⟩ := List.forall_mem_cons.1 hlines
  cases h with
  | plain | entry | closingKept | inlineKept | blockKept => exact hrest
  | closingDropped | inlineFalse | blockTrue => exact hrest
  | inclusion d lines c directive resolved =>
    have hbrought : s.broughtIn setting = s.textsOf setting d line.origin := by
      have hinclude : line.include? = some d := Line.mem_include?.2 directive
      simp [broughtIn, hpending, hinclude]
    refine List.forall_mem_append.2 ⟨?_, hrest⟩
    exact Context.harmless_of_resolve hhidden resolved (hbrought ▸ htexts)
  | inlineTrue d text c directive normal inline =>
    exact List.forall_mem_cons.2 ⟨hline.inline directive inline line.origin, hrest⟩
  | blockFalse d c =>
    exact fun l hl => hrest l ((pending_skip_suffix _ line rest d).subset hl)
  | inlineRewritten d text directive preserved inline =>
    exact List.forall_mem_append.2 ⟨hline.blockForm directive inline line.origin, hrest⟩

/-- Whether two reductions are the same but for the lines of unresolved includes that the first has
emitted. -/
abbrev Unshown (p q : State) : Prop := Twins Eq (fun line => !line.isPlaceholder) p q

theorem Unshown.toContext_eq {p q : State} (h : p.Unshown q) : q.toContext = p.toContext :=
  h.context.eq_of_eq

/-- A line that says that an include is unresolved, and on which nothing is found, is emitted, and
then nothing tells the two apart. -/
theorem Unshown.emit_left {p q : State} (h : p.Unshown q) (hmark : line.isPlaceholder = true)
    (hsilent : Hit.ofLine? p.verbatim line.text = (p.verbatim, none))
    (hpending : q.pending = rest) :
    ∃ p', Leads setting (p.await (line :: rest)) p' ∧ p'.Unshown q := by
  have hstep : (p.await (line :: rest)).step setting = .ok (some (p.emit line rest)) := by
    rw [step_of_cons (s := p.await (line :: rest)) rfl,
      onLine_of_none (s := p.await (line :: rest)) hsilent]
    rfl
  exact ⟨p.emit line rest, After.leads hstep,
    Twins.emit_left h (by rw [hmark]; rfl) rest hpending⟩

/-- What one reduction makes of a line the other makes of it too, perhaps after one line more. -/
theorem Unshown.onLine {p q : State} (h : p.Unshown q) (hline : line.Harmless) :
    Parallel (fun p' t => ∃ p'', Leads (setting.showing true) p' p'' ∧ p''.Unshown t)
      (p.onLine (setting.showing true) line rest) (q.onLine (setting.showing false) line rest) := by
  by_cases hinclude : ∃ d, Directive.ofLine? (strippedEnd line.text) = some (.include d)
  · obtain ⟨d, hd⟩ := hinclude
    rw [onLine_of_some (Hit.ofLine?_of_directive p.verbatim hd),
      onLine_of_some (Hit.ofLine?_of_directive q.verbatim hd)]
    dsimp only [onHit, onInclude]
    rw [h.toContext_eq]
    rcases p.toContext.resolve_showing setting d line.origin with
      hsame | ⟨request, after, hshown, hhidden⟩
    · rw [hsame]
      cases p.toContext.resolve (setting.showing true) d line.origin with
      | error i => exact .error rfl
      | ok resolved =>
        exact .ok ⟨_, .refl _, h.await (.intro resolved.2.journal rfl) _⟩
    · rw [hshown, hhidden]
      have hafter : Unshown ((p.withContext after).await rest) ((q.withContext after).await rest) :=
        h.await (.intro after.journal rfl) rest
      have hmark := List.isPrefixOf_iff_prefix.2 (prefix_placeholder request)
      exact .ok (hafter.emit_left hmark (Hit.ofLine?_placeholder _ request) rfl)
  · have honLine : Parallel Unshown (p.onLine (setting.showing true) line rest)
        (q.onLine (setting.showing false) line rest) := by
      refine Twins.onLine (fun _ _ _ heq => congrArg (Array.push · _) heq) h rest ?_ rfl rfl
        fun d hd => absurd ⟨d, hd⟩ hinclude
      simp [hline.not_isPlaceholder]
    exact honLine.imp fun p' t htwins => ⟨p', .refl p', htwins⟩

/-- With the next line the same comes into both. -/
theorem Unshown.broughtIn_eq {p q : State} (h : p.Unshown q) :
    q.broughtIn (setting.showing false) = p.broughtIn (setting.showing true) := by
  unfold broughtIn
  rw [h.pending, h.toContext_eq]
  rfl

/-- Where the one goes on or ends, the other does, perhaps after one line more. -/
theorem Unshown.step {p q : State} (h : p.Unshown q) (hlines : ∀ l ∈ q.pending, l.Harmless) :
    Parallel (Option.Rel fun t p' => ∃ p'', Leads (setting.showing true) p' p'' ∧ p''.Unshown t)
      (q.step (setting.showing false)) (p.step (setting.showing true)) := by
  cases hpending : q.pending with
  | nil =>
    rw [step_of_nil hpending, step_of_nil (h.pending.symm.trans hpending)]
    exact .ok .none
  | cons line rest =>
    rw [step_of_cons hpending, step_of_cons (h.pending.symm.trans hpending)]
    have hline : line.Harmless := hlines line (by simp [hpending])
    exact (h.onLine hline).flip.map fun _ _ hunshown => .some hunshown

/-- The two come to the same but for the lines of unresolved includes, if no other line begins as
these do. -/
theorem Unshown.run {p q : State} (h : p.Unshown q) (hlines : ∀ l ∈ q.pending, l.Harmless)
    (htexts : ∀ s, Leads (setting.showing true) p s →
      ∀ text ∈ s.broughtIn (setting.showing true), Markless text) :
    Parallel (fun a b => b.1 = a.1.filter (fun line => !line.isPlaceholder) ∧ b.2 = a.2)
      (p.run (setting.showing true)) (q.run (setting.showing false)) := by
  -- the reduction that leaves no such lines takes fewer steps, so it is the first
  refine (run_ahead (R := fun q p => p.Unshown q ∧ (∀ l ∈ q.pending, l.Harmless) ∧
    ∀ s, Leads (setting.showing true) p s →
      ∀ text ∈ s.broughtIn (setting.showing true), Markless text) ?_ ?_ ⟨h, hlines, htexts⟩).flip
  · rintro q p ⟨h, hlines, htexts⟩
    refine (h.step hlines).imp_of_ok fun after after' hq hp hrelated => ?_
    cases hrelated with
    | none => exact .none
    | some hahead =>
      obtain ⟨p'', hleads, hunshown⟩ := hahead
      have hreached : Leads (setting.showing true) p p'' := .step hp hleads
      obtain ⟨line, rest, hpending, hrule⟩ := After.rule hq
      have hbrought : ∀ text ∈ q.broughtIn (setting.showing false), Markless text :=
        h.broughtIn_eq ▸ htexts p (.refl p)
      exact .some ⟨p'', hleads, hunshown, hrule.harmless rfl hpending hlines hbrought,
        fun s hs => htexts s (hreached.trans hs)⟩
  · rintro q p ⟨h, -⟩
    exact ⟨h.emitted, h.toContext_eq⟩

end State

/-! ## Reductions -/

/-- If the mark is nowhere in a document and in the texts that come into it, a reduction that leaves
no lines for unresolved includes finds the same and ends with the same attributes as one that does,
and its lines are those of the other without the lines that begin with the mark. -/
theorem Buffer.reduce_showing (setting : Setting) (file : String) (attributes : AttributeSet)
    (b : Buffer) (hlines : ∀ line ∈ b.lines, Markless line.text)
    (htexts : ∀ s, State.Leads (setting.showing true)
      (Loop.start (setting.showing true) file attributes b).state s →
        ∀ text ∈ s.broughtIn (setting.showing true), Markless text) :
    Parallel (fun p q => q.1.diagnostics = p.1.diagnostics ∧ q.1.attributes = p.1.attributes ∧
        q.1.lines = p.1.lines.filter (fun line => !line.isPlaceholder))
      (b.reduce (setting.showing true) file attributes)
      (b.reduce (setting.showing false) file attributes) := by
  have hstart : (Loop.start (setting.showing true) file attributes b).state.Unshown
      (Loop.start (setting.showing false) file attributes b).state :=
    ⟨.intro #[] rfl, rfl, rfl⟩
  unfold Buffer.reduce
  rw [Loop.run_eq, Loop.run_eq]
  refine (hstart.run (fun line hline => .markless (hlines line hline)) htexts).map ?_
  rintro ⟨lines, c⟩ ⟨kept, c'⟩ ⟨hkept, hcontext⟩
  dsimp only at hkept hcontext
  subst hkept hcontext
  exact ⟨rfl, rfl, rfl⟩

/-- A document that includes a missing file in a verbatim block, and a file after the block: the
line of the unresolved include is put out by one reduction and not by the other, and the block ends
in both. -/
theorem Buffer.reduce_showing_missing :
    let files : FileTree := ⟨[(["c"], .file "z".toUTF8.toList)]⟩
    let setting : Setting :=
      { files := files, cwd := "/", jail := ⟨.free, "/", none⟩, rootDirectory := "/" }
    let b : Buffer := ⟨[⟨"----", { file := "a", line := 1 }⟩,
      ⟨"include::b[]", { file := "a", line := 2 }⟩, ⟨"----", { file := "a", line := 3 }⟩,
      ⟨"include::c[]", { file := "a", line := 4 }⟩]⟩
    (∀ line ∈ b.lines, Markless line.text) ∧
      (∀ s, State.Leads (setting.showing true)
        (Loop.start (setting.showing true) "a" {} b).state s →
          ∀ text ∈ s.broughtIn (setting.showing true), Markless text) ∧
      ∃ p q, b.reduce (setting.showing true) "a" {} = .ok p ∧
        b.reduce (setting.showing false) "a" {} = .ok q ∧
        p.1.lines.map (·.text) = ["----", "Unresolved directive in a - include::b[]", "----", "z"] ∧
        q.1.diagnostics = p.1.diagnostics ∧
        q.1.lines.map (·.text) = ["----", "----", "z"] := by
  intro files setting b
  have hlines : ∀ line ∈ b.lines, Markless line.text := by
    decide +kernel
  have htexts : ∀ s, State.Leads (setting.showing true)
      (Loop.start (setting.showing true) "a" {} b).state s →
        ∀ text ∈ s.broughtIn (setting.showing true), Markless text := by
    intro s hleads
    refine State.Leads.of_allWithin (P := fun s => ∀ text ∈ s.broughtIn (setting.showing true),
      Markless text) 8 ?_ hleads
    decide +kernel
  have hwithin : ((Loop.start (setting.showing true) "a" {} b).state.runWithin
      (setting.showing true) 8).map (fun ended => (ended.1.map (·.text),
        (ended.1.filter fun line => !line.isPlaceholder).map (·.text))) =
          some (["----", "Unresolved directive in a - include::b[]", "----", "z"],
            ["----", "----", "z"]) := by
    decide +kernel
  obtain ⟨⟨lines, c⟩, hrun, hended⟩ := Option.map_eq_some_iff.1 hwithin
  obtain ⟨hshown, hkept⟩ := Prod.mk.inj hended
  have hp := Buffer.reduce_of_runWithin 8 hrun
  have hshowing := b.reduce_showing setting "a" {} hlines htexts
  rw [hp] at hshowing
  obtain ⟨q, hq, hdiagnostics, -, hfiltered⟩ := hshowing.exists_ok
  refine ⟨hlines, htexts, _, q, hp, hq, hshown, hdiagnostics, ?_⟩
  rw [hfiltered]
  exact hkept

end Transclude
