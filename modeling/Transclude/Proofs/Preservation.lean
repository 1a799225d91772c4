import Transclude.Proofs.Emission
import Transclude.Proofs.FixedPoint
import Transclude.Proofs.Nesting

/-!
# Reducing with conditionals preserved

If conditionals are preserved, a reduction reads the lines of false blocks, too. It must not take
note of them: what it knows outside of these blocks is to be what a reduction knows that leaves them
out. The two are run side by side. While the first is inside a false block the second waits at the
line after the block, and elsewhere they take the same lines.

## Main definitions

* `Setting.preserving`    : the setting with conditionals preserved, or not.
* `State.Mirrors`         : whether a reduction with conditionals preserved is where one without is.
* `State.Attuned`         : what the next line must be like for the two to stay together.
* `State.OmitsLevel`      : whether a block that is left out next leaves the verbatim block as it
  is.

## Main statements

* `State.Mirrors.step`      : the two stay together.
* `State.Mirrors.run`       : they end alike.
* `Buffer.reduce_preserved` : the attributes at the end are the same, if all blocks that are left
  out leave the verbatim block as it is.
-/

namespace Transclude

open Transclude.Text

/-- The setting with conditionals preserved, or not. -/
def Setting.preserving (setting : Setting) (preserved : Bool) : Setting :=
  { setting with options :=
      { setting.options with preserveConditionals := .ofFlag (.bool preserved) } }

@[simp] theorem Setting.meaning_preserving (setting : Setting) (preserved : Bool) :
    (setting.preserving preserved).options.preserveConditionals.meaning = preserved := by
  cases preserved <;> rfl

/-! ## What does not depend on what was noted down -/

section Outcome

variable {α β : Type} {x y : Except Interruption (α × β)}

/-- What comes of a part of a reduction, or why it cannot go on, apart from what is noted down. -/
def outcome (x : Except Interruption (α × β)) : Except Abort α :=
  (x.map (·.1)).mapError (·.abort)

/-- Of two parts with one outcome both come to their end, and to the same. -/
theorem ok_of_outcome (h : outcome y = outcome x) {a : α} {b : β} (hx : x = .ok (a, b)) :
    ∃ b', y = .ok (a, b') := by
  subst hx
  cases y with
  | ok result =>
    obtain ⟨a', b'⟩ := result
    cases h
    exact ⟨b', rfl⟩
  | error i => cases h

/-- Of two parts with one outcome both are interrupted, and for the same reason. -/
theorem error_of_outcome (h : outcome y = outcome x) {i : Interruption} (hx : x = .error i) :
    ∃ i', y = .error i' ∧ i'.abort = i.abort := by
  subst hx
  cases y with
  | ok result => cases h
  | error i' => exact ⟨i', rfl, Except.error.inj h⟩

theorem map_fst_toOption {ε : Type} {x : Except ε (α × β)} {a : α} :
    x.toOption.map (·.1) = some a ↔ ∃ b, x = .ok (a, b) := by
  cases x with
  | error i => simp [Except.toOption]
  | ok result =>
    obtain ⟨a', b⟩ := result
    simp [Except.toOption]

end Outcome

/-- A decision depends on the attributes only. -/
theorem Context.outcome_judge {setting setting' : Setting} {c c' : Context}
    (hevaluator : setting'.evaluator = setting.evaluator)
    (hattributes : c'.attributes = c.attributes) (d : Opening) (origin origin' : Origin) :
    outcome (c'.judge setting' d origin') = outcome (c.judge setting d origin) := by
  unfold judge
  rw [hevaluator, hattributes]
  cases d.decide setting.evaluator c.attributes with
  | ok answer => rfl
  | error e => cases e <;> rfl

/-- The attribute entry that a find is. -/
def Hit.entry? : Hit → Option AttributeEntry
  | .entry e => some e
  | .directive _ => none

theorem Scan.verbatim_cons_of_directive {line : Line} {d : Directive} (v : Verbatim)
    (hd : Directive.ofLine? (strippedEnd line.text) = some d) (rest : List Line) :
    (all v (line :: rest)).1 = (all v rest).1 := by
  rw [verbatim_cons, Hit.ofLine?_of_directive v hd]

/-- The conditional that a line is. -/
def Line.opening? (line : Line) : Option Opening :=
  match Directive.ofLine? (strippedEnd line.text) with
  | some (.opening d) => some d
  | _ => none

/-- The include that a line is. -/
def Line.include? (line : Line) : Option Include :=
  match Directive.ofLine? (strippedEnd line.text) with
  | some (.include d) => some d
  | _ => none

theorem Line.mem_opening? {line : Line} {d : Opening} :
    d ∈ line.opening? ↔ Directive.ofLine? (strippedEnd line.text) = some (.opening d) := by
  unfold opening?
  split <;> simp_all

theorem Line.mem_include? {line : Line} {d : Include} :
    d ∈ line.include? ↔ Directive.ofLine? (strippedEnd line.text) = some (.include d) := by
  unfold include?
  split <;> simp_all

/-- Whether a line is no include. -/
def Line.IncludeFree (line : Line) : Prop :=
  ∀ d, Directive.ofLine? (strippedEnd line.text) ≠ some (.include d)

/-- Whether a line is no conditional that is complete in itself, but at most the opening or the end
of a block. -/
def Line.BlockForm (line : Line) : Prop :=
  ∀ d, Directive.ofLine? (strippedEnd line.text) = some (.opening d) → d.inlineText? = none

instance (line : Line) : Decidable line.IncludeFree :=
  decidable_of_iff (∀ d, d ∉ line.include?) (forall_congr' fun _ => not_congr Line.mem_include?)

instance (line : Line) : Decidable line.BlockForm :=
  decidable_of_iff (∀ d ∈ line.opening?, d.inlineText? = none)
    (forall_congr' fun _ => imp_congr_left Line.mem_opening?)

/-! ## One step, by the kind of its line -/

namespace State

variable {setting : Setting} {s t : State} {line : Line} {rest : List Line}

/-- The attributes after a line that is no directive: an entry counts unless the block is false. -/
def attributesAfter (s : State) (line : Line) : AttributeSet :=
  if s.active then
    s.attributes.afterEntries ((Hit.ofLine? s.verbatim line.text).2.bind Hit.entry?).toList
  else s.attributes

/-- The state after a line that is no directive. -/
def afterOther (s : State) (line : Line) (rest : List Line) (journal : Journal) : State :=
  { s with attributes := s.attributesAfter line
           verbatim := (Hit.ofLine? s.verbatim line.text).1
           journal := journal, emitted := s.emitted.push line, pending := rest }

theorem afterOther_verbatim (s : State) (line : Line) (rest : List Line) (journal : Journal) :
    (s.afterOther line rest journal).verbatim = (Hit.ofLine? s.verbatim line.text).1 := by
  rw [afterOther]

theorem afterOther_attributes (s : State) (line : Line) (rest : List Line) (journal : Journal) :
    (s.afterOther line rest journal).attributes = s.attributesAfter line := by
  rw [afterOther]

/-- A line that is no directive is emitted, whether or not conditionals are preserved. -/
theorem after_of_other (setting : Setting) (hpending : s.pending = line :: rest)
    (hother : Directive.ofLine? (strippedEnd line.text) = none) :
    ∃ journal, After setting (s.afterOther line rest journal) s := by
  unfold After afterOther attributesAfter
  rw [step_of_cons hpending]
  cases hfound : Hit.ofLine? s.verbatim line.text with
  | mk verbatim found =>
    cases found with
    | none =>
      -- an entry may be noted down, a line without a find is not
      rw [onLine_of_none hfound]
      refine ⟨s.journal, ?_⟩
      simp [withVerbatim, withContext, emit, Except.map, AttributeSet.afterEntries]
    | some hit =>
      obtain rfl := Hit.verbatim_of_ofLine? hfound
      cases hit with
      | directive d =>
        rw [Hit.directive_of_ofLine? (by rw [hfound])] at hother
        cases hother
      | entry e =>
        rw [onLine_of_some hfound, onHit]
        by_cases hactive : s.active = true
        · obtain ⟨journal, -, heq⟩ := Context.afterEntry_of_active hactive e
          refine ⟨journal, ?_⟩
          rw [heq, if_pos hactive]
          rfl
        · rw [Context.afterEntry, if_neg hactive, if_neg hactive]
          exact ⟨_, rfl⟩

theorem After.eq_of_include {d : Include} (hafter : After setting t s)
    (hpending : s.pending = line :: rest)
    (hd : Directive.ofLine? (strippedEnd line.text) = some (.include d)) :
    ∃ lines c, s.resolve setting d line.origin = .ok (lines, c) ∧
      t = (s.withContext c).await (lines ++ rest) := by
  rw [After, step_of_include setting hpending hd] at hafter
  obtain ⟨u, hu, hsome⟩ := eq_ok_of_map hafter
  obtain ⟨⟨lines, c⟩, hresolved, rfl⟩ := eq_ok_of_map hu
  exact ⟨lines, c, hresolved, (Option.some.inj hsome).symm⟩

section Preserved

variable (hpreserved : setting.options.preserveConditionals.meaning = true)
include hpreserved

theorem After.eq_of_closing_kept {d : Closing} (hafter : After setting t s)
    (hpending : s.pending = line :: rest)
    (hd : Directive.ofLine? (strippedEnd line.text) = some (.closing d)) :
    t = (s.withContext (s.afterClosing d line.origin)).emit line rest :=
  hafter.unique (step_of_closing_kept hpreserved hpending hd)

theorem After.eq_of_opening_kept {d : Opening} (hafter : After setting t s)
    (hpending : s.pending = line :: rest)
    (hd : Directive.ofLine? (strippedEnd line.text) = some (.opening d))
    (hblock : d.inlineText? = none) :
    ∃ active c, s.judgeWithin setting d line.origin = .ok (active, c) ∧
      t = (s.withContext (c.enter d active line.origin)).emit line rest := by
  rw [After, step_of_opening_kept hpreserved hpending hd hblock] at hafter
  obtain ⟨u, hu, hsome⟩ := eq_ok_of_map hafter
  obtain ⟨⟨active, c⟩, hjudged, rfl⟩ := eq_ok_of_map hu
  exact ⟨active, c, hjudged, (Option.some.inj hsome).symm⟩

end Preserved

/-- A block that is left out is dropped with its end, and nothing is wrong with it. -/
theorem skip_of_closes {d : Opening} {region : List Line} (h : Nesting.Closes [d.target] region)
    (s : State) (line : Line) (after : List Line) :
    s.skip line (region ++ after) d = s.await after := by
  have hfound := BlockEnd.find_of_closes h after
  rw [skip_of_some (by rw [hfound]), hfound, List.drop_left]
  rfl

/-! ## Two reductions side by side -/

/-- Whether a reduction with conditionals preserved is where a reduction without is: it knows the
same attributes and has the same true blocks open. It may have false blocks open besides, `inner`,
and then is still to read the lines that end them, `region`, after which it reads what the other
reads now. -/
structure Mirrors (p n : State) (inner : List Frame) (region : List Line) : Prop where
  attributes : n.attributes = p.attributes
  -- the delimiters of the region are still to be read, so only after it the two must agree
  verbatim : n.verbatim = (Scan.all p.verbatim region).1
  frames : p.frames = inner ++ n.frames
  inactive : ∀ f ∈ inner, f.active = false
  active : ∀ f ∈ n.frames, f.active = true
  pending : p.pending = region ++ n.pending
  closes : Nesting.Closes (inner.map (·.target)) region
  -- the other reduction finds the end of every block that it leaves out
  nested : Nesting.afterAll? (n.frames.map (·.target)) n.pending = some []

/-- Whether a block that is left out next leaves the verbatim block as it is. -/
def OmitsLevel (setting : Setting) (n : State) : Prop :=
  ∀ line rest d c length, n.pending = line :: rest →
    Directive.ofLine? (strippedEnd line.text) = some (.opening d) → d.inlineText? = none →
      n.judge setting d line.origin = .ok (false, c) →
        (BlockEnd.find d.target rest).length = some length →
          (Scan.all n.verbatim (rest.take length)).1 = n.verbatim

instance (setting : Setting) (n : State) : Decidable (n.OmitsLevel setting) :=
  decidable_of_iff (∀ line ∈ n.pending.head?, ∀ d ∈ line.opening?, d.inlineText? = none →
      (n.judge setting d line.origin).toOption.map (·.1) = some false →
        ∀ length ∈ (BlockEnd.find d.target n.pending.tail).length,
          (Scan.all n.verbatim (n.pending.tail.take length)).1 = n.verbatim) <| by
    constructor
    · intro h line rest d c length hpending hd hblock hjudged hlength
      rw [hpending] at h
      exact h line rfl d (Line.mem_opening?.2 hd) hblock (map_fst_toOption.2 ⟨c, hjudged⟩) length
        hlength
    · intro h line hline d hd hblock hjudged length hlength
      obtain ⟨rest, hpending⟩ := List.head?_eq_some_iff.1 hline
      obtain ⟨c, hjudged⟩ := map_fst_toOption.1 hjudged
      rw [hpending] at hlength ⊢
      exact h line rest d c length hpending (Line.mem_opening?.1 hd) hblock hjudged hlength

/-- What must be so for two reductions to stay together over the next line. A conditional is in
block form. The lines of an include are well nested and leave the verbatim block as it is, and are
the same in both if both read it. A block that is left out leaves the verbatim block as it is, too.
-/
structure Attuned (setting : Setting) (p n : State) (line : Line) (rest : List Line) : Prop where
  block : line.BlockForm
  spliced : ∀ d lines c, Directive.ofLine? (strippedEnd line.text) = some (.include d) →
    p.resolve (setting.preserving true) d line.origin = .ok (lines, c) →
      WellNested lines ∧ ∀ v, (Scan.all v lines).1 = v
  alike : n.pending = line :: rest → ∀ d,
    Directive.ofLine? (strippedEnd line.text) = some (.include d) →
      outcome (n.resolve (setting.preserving false) d line.origin) =
        outcome (p.resolve (setting.preserving true) d line.origin)
  level : n.OmitsLevel (setting.preserving false)

/-- The lines that a reduction without conditionals preserved emits for a line: those of true blocks
that are no directives. -/
def keeps (s : State) (line : Line) : List Line :=
  if s.active ∧ Directive.ofLine? (strippedEnd line.text) = none then [line] else []

/-- The lines that a reduction without conditionals preserved emits for all lines to come. -/
def kept (setting : Setting) (s : State) : List Line :=
  match _hstep : s.step setting with
  | .ok none => []
  | .ok (some t) => s.pending.head?.toList.flatMap s.keeps ++ kept setting t
  | .error _ => []
termination_by (PendingLt.wellFounded setting.options.maxIncludeDepth.meaning).wrap s.pending
decreasing_by exact pendingLt_of_after _hstep

theorem kept_of_end (h : s.step setting = .ok none) : s.kept setting = [] := by
  rw [kept, h]

/-- What is kept of the next line comes before what is kept of those after it. -/
theorem kept_of_after (h : After setting t s) (hpending : s.pending = line :: rest) :
    s.kept setting = s.keeps line ++ t.kept setting := by
  rw [kept]
  split <;> rename_i hstep <;> rw [h] at hstep <;> cases hstep
  rw [hpending]
  simp

/-- Whether the next line is an include in a false block, at which the reduction is interrupted. -/
def InterruptedWithin (setting : Setting) (p : State) (i : Interruption) : Prop :=
  p.active = false ∧ ∃ line rest d, p.pending = line :: rest ∧
    Directive.ofLine? (strippedEnd line.text) = some (.include d) ∧
    p.resolve setting d line.origin = .error i

namespace Mirrors

variable {p p' n : State} {inner inner' : List Frame} {region : List Line}

theorem active_of_nil (h : p.Mirrors n [] region) : p.active = true := by
  refine Context.active_of_frames ?_
  rw [h.frames]
  exact h.active

/-- In a false block, the line is passed while the other reduction waits. -/
theorem pass (h : p.Mirrors n inner (line :: region)) (hattributes : p'.attributes = p.attributes)
    (hverbatim : p'.verbatim = (Hit.ofLine? p.verbatim line.text).1)
    (hframes : p'.frames = inner' ++ n.frames) (hinactive : ∀ f ∈ inner', f.active = false)
    (hpending : p'.pending = region ++ n.pending)
    (hfits : Nesting.after? (inner.map (·.target)) (Directive.ofLine? (strippedEnd line.text)) =
      some (inner'.map (·.target))) :
    p'.Mirrors n inner' region := by
  obtain ⟨-, between, hbetween, hcloses⟩ := h.closes.of_cons
  obtain rfl : between = inner'.map (·.target) := Option.some.inj (hbetween.symm.trans hfits)
  refine ⟨h.attributes.trans hattributes.symm, ?_, hframes, hinactive, h.active, hpending, hcloses,
    h.nested⟩
  rw [h.verbatim, Scan.verbatim_cons, hverbatim]

theorem eq_cons_of_within (h : p.Mirrors n inner (line :: region)) :
    ∃ f rest, inner = f :: rest :=
  List.exists_cons_of_ne_nil (mt List.map_eq_nil_iff.2 h.closes.of_cons.1)

theorem active_of_within (h : p.Mirrors n inner (line :: region)) : p.active = false := by
  obtain ⟨f, inner, rfl⟩ := h.eq_cons_of_within
  rw [Context.active, h.frames]
  exact h.inactive f List.mem_cons_self

/-- A line that is no directive is passed in a false block. -/
theorem within_other (h : p.Mirrors n inner (line :: region))
    (hother : Directive.ofLine? (strippedEnd line.text) = none)
    (hafter : After (setting.preserving true) p' p) : p'.Mirrors n inner region := by
  obtain ⟨journal, hp⟩ := after_of_other (setting.preserving true) h.pending hother
  obtain rfl := hafter.unique hp
  have hattributes : p.attributesAfter line = p.attributes := by
    rw [attributesAfter, h.active_of_within]
    rfl
  exact h.pass ((afterOther_attributes ..).trans hattributes) (afterOther_verbatim ..) h.frames
    h.inactive rfl (by rw [hother]; rfl)

/-- The lines of an include in a false block are to be passed before the block ends. -/
theorem within_include (h : p.Mirrors n inner (line :: region)) {d : Include}
    (hd : Directive.ofLine? (strippedEnd line.text) = some (.include d))
    (hspliced : ∀ lines c, p.resolve (setting.preserving true) d line.origin = .ok (lines, c) →
      WellNested lines ∧ ∀ v, (Scan.all v lines).1 = v)
    (hafter : After (setting.preserving true) p' p) :
    ∃ region', p'.Mirrors n inner region' := by
  obtain ⟨lines, c, hresolved, rfl⟩ := hafter.eq_of_include h.pending hd
  obtain ⟨hnested, hneutral⟩ := hspliced lines c hresolved
  obtain ⟨directories, journal, rfl⟩ := Context.eq_of_resolve hresolved
  obtain ⟨hopen, between, hfits, hcloses⟩ := h.closes.of_cons
  rw [hd] at hfits
  obtain rfl := Option.some.inj hfits
  -- the lines end all blocks that they open, and all listings
  refine ⟨lines ++ region, h.attributes, ?_, h.frames, h.inactive, h.active,
    (List.append_assoc _ _ _).symm, hcloses.append hopen hnested, h.nested⟩
  show n.verbatim = (Scan.all p.verbatim (lines ++ region)).1
  rw [h.verbatim, Scan.verbatim_cons_of_directive _ hd, Scan.all_append, hneutral]

/-- A block in a false block is not decided, but false, too. -/
theorem within_opening (h : p.Mirrors n inner (line :: region)) {d : Opening}
    (hd : Directive.ofLine? (strippedEnd line.text) = some (.opening d))
    (hblock : d.inlineText? = none) (hafter : After (setting.preserving true) p' p) :
    p'.Mirrors n (d.frame false line.origin :: inner) region := by
  obtain ⟨active, c, hjudged, rfl⟩ :=
    hafter.eq_of_opening_kept (setting.meaning_preserving true) h.pending hd hblock
  rw [Context.judgeWithin, h.active_of_within] at hjudged
  cases hjudged
  obtain ⟨-, between, hfits, -⟩ := h.closes.of_cons
  rw [hd] at hfits
  obtain ⟨-, rfl⟩ := Nesting.eq_of_after?_opening hblock hfits
  have hverbatim : p.verbatim = (Hit.ofLine? p.verbatim line.text).1 := by
    rw [Hit.ofLine?_of_directive _ hd]
  have hframes : d.frame false line.origin :: p.frames =
      (d.frame false line.origin :: inner) ++ n.frames := congrArg _ h.frames
  have hinactive : ∀ f ∈ d.frame false line.origin :: inner, f.active = false :=
    List.forall_mem_cons.2 ⟨rfl, h.inactive⟩
  exact h.pass rfl hverbatim hframes hinactive rfl (by rw [hd, hfits]; rfl)

/-- The end of a block in a false block, or of the false block itself, ends a false block. -/
theorem within_closing (h : p.Mirrors n inner (line :: region)) {d : Closing}
    (hd : Directive.ofLine? (strippedEnd line.text) = some (.closing d))
    (hafter : After (setting.preserving true) p' p) :
    ∃ inner', p'.Mirrors n inner' region := by
  obtain rfl := hafter.eq_of_closing_kept (setting.meaning_preserving true) h.pending hd
  obtain ⟨-, between, hfits, -⟩ := h.closes.of_cons
  rw [hd] at hfits
  obtain ⟨f, inner, rfl⟩ := h.eq_cons_of_within
  -- the target fits the innermost of the false blocks, so it fits that of all blocks
  have hframe := Nesting.after?_frame hfits (n.frames.map (·.target))
  rw [← List.map_append, ← h.frames] at hframe
  obtain ⟨g, rest, hframes, hclose, hrest⟩ := Nesting.close_of_after? hframe
  obtain ⟨rfl, rfl⟩ : f = g ∧ inner ++ n.frames = rest :=
    List.cons.inj (h.frames.symm.trans hframes)
  rw [List.map_append] at hrest
  obtain rfl := List.append_cancel_right hrest
  have heq : p.afterClosing d line.origin = { p.toContext with frames := inner ++ n.frames } := by
    rw [Context.afterClosing, hclose]
  have hverbatim : p.verbatim = (Hit.ofLine? p.verbatim line.text).1 := by
    rw [Hit.ofLine?_of_directive _ hd]
  rw [heq]
  exact ⟨inner, h.pass rfl hverbatim rfl (List.forall_mem_cons.1 h.inactive).2 rfl
    (by rw [hd, hfits])⟩

/-- While the one reduction is in a false block, the other waits for its end. -/
theorem within (h : p.Mirrors n inner (line :: region))
    (hattuned : Attuned setting p n line (region ++ n.pending))
    (hafter : After (setting.preserving true) p' p) :
    ∃ inner' region', p'.Mirrors n inner' region' := by
  cases hd : Directive.ofLine? (strippedEnd line.text) with
  | none => exact ⟨inner, region, h.within_other hd hafter⟩
  | some d =>
    rcases d with d | d | d
    · exact ⟨inner, h.within_include hd (fun lines c => hattuned.spliced d lines c hd) hafter⟩
    · exact ⟨_, region, h.within_opening hd (hattuned.block d hd) hafter⟩
    · obtain ⟨inner', hmirrors⟩ := h.within_closing hd hafter
      exact ⟨inner', region, hmirrors⟩

/-- Outside of false blocks, both reductions know the same and are still to read the same. -/
theorem together (hattributes : n.attributes = p.attributes) (hverbatim : n.verbatim = p.verbatim)
    (hframes : p.frames = n.frames) (hactive : ∀ f ∈ n.frames, f.active = true)
    (hpending : p.pending = n.pending)
    (hnested : Nesting.afterAll? (n.frames.map (·.target)) n.pending = some []) :
    p.Mirrors n [] [] :=
  ⟨hattributes, hverbatim, hframes, List.forall_mem_nil _, hactive, hpending, .done, hnested⟩

theorem nested_cons (h : p.Mirrors n inner region) (hpending : n.pending = line :: rest) :
    ∃ between, Nesting.after? (n.frames.map (·.target))
        (Directive.ofLine? (strippedEnd line.text)) = some between ∧
      Nesting.afterAll? between rest = some [] := by
  have hnested := h.nested
  rw [hpending, Nesting.afterAll?_cons] at hnested
  exact Option.bind_eq_some_iff.1 hnested

/-- Outside of false blocks, both reductions emit a line that is no directive. -/
theorem outside_other (h : p.Mirrors n [] []) (hpending : n.pending = line :: rest)
    (hother : Directive.ofLine? (strippedEnd line.text) = none)
    (hafter : After (setting.preserving true) p' p) :
    ∃ n', After (setting.preserving false) n' n ∧ p'.Mirrors n' [] [] ∧
      n'.emitted = n.emitted.push line := by
  obtain ⟨journal, hp⟩ := after_of_other (setting.preserving true) (h.pending.trans hpending) hother
  obtain ⟨journal', hn⟩ := after_of_other (setting.preserving false) hpending hother
  obtain rfl := hafter.unique hp
  obtain ⟨between, hfits, hrest⟩ := h.nested_cons hpending
  rw [hother] at hfits
  obtain rfl := Option.some.inj hfits
  have hverbatim : n.verbatim = p.verbatim := h.verbatim
  have hactive : n.active = true := Context.active_of_frames h.active
  have hattributes : n.attributesAfter line = p.attributesAfter line := by
    rw [attributesAfter, attributesAfter, h.active_of_nil, hactive, hverbatim, h.attributes]
  refine ⟨_, hn, together ?_ ?_ h.frames h.active rfl hrest, rfl⟩
  · rw [afterOther_attributes, afterOther_attributes, hattributes]
  · rw [afterOther_verbatim, afterOther_verbatim, hverbatim]

/-- Outside of false blocks, both reductions put the same lines in the place of an include. -/
theorem outside_include (h : p.Mirrors n [] []) (hpending : n.pending = line :: rest) {d : Include}
    (hd : Directive.ofLine? (strippedEnd line.text) = some (.include d))
    (hattuned : Attuned setting p n line rest) (hafter : After (setting.preserving true) p' p) :
    ∃ n', After (setting.preserving false) n' n ∧ p'.Mirrors n' [] [] ∧ n'.emitted = n.emitted := by
  obtain ⟨lines, c, hresolved, rfl⟩ := hafter.eq_of_include (h.pending.trans hpending) hd
  obtain ⟨hlines, -⟩ := hattuned.spliced d lines c hd hresolved
  obtain ⟨c', hresolved'⟩ := ok_of_outcome (hattuned.alike hpending d hd) hresolved
  have hn : After (setting.preserving false) ((n.withContext c').await (lines ++ rest)) n := by
    rw [After, step_of_include _ hpending hd, hresolved']
    rfl
  obtain ⟨directories, journal, rfl⟩ := Context.eq_of_resolve hresolved
  obtain ⟨directories', journal', rfl⟩ := Context.eq_of_resolve hresolved'
  obtain ⟨between, hfits, hrest⟩ := h.nested_cons hpending
  rw [hd] at hfits
  obtain rfl := Option.some.inj hfits
  refine ⟨_, hn, together h.attributes h.verbatim h.frames h.active rfl ?_, rfl⟩
  show Nesting.afterAll? (n.frames.map (·.target)) (lines ++ rest) = some []
  rw [Nesting.afterAll?_append, Nesting.afterAll?_of_wellNested hlines]
  exact hrest

/-- Outside of false blocks, both reductions end the innermost block. -/
theorem outside_closing (h : p.Mirrors n [] []) (hpending : n.pending = line :: rest) {d : Closing}
    (hd : Directive.ofLine? (strippedEnd line.text) = some (.closing d))
    (hafter : After (setting.preserving true) p' p) :
    ∃ n', After (setting.preserving false) n' n ∧ p'.Mirrors n' [] [] ∧ n'.emitted = n.emitted := by
  obtain rfl := hafter.eq_of_closing_kept (setting.meaning_preserving true)
    (h.pending.trans hpending) hd
  have hn := step_of_closing_dropped (setting.meaning_preserving false) hpending hd
  obtain ⟨between, hfits, hrest⟩ := h.nested_cons hpending
  rw [hd] at hfits
  obtain ⟨f, frames, hframes, hclose, rfl⟩ := Nesting.close_of_after? hfits
  have hp : p.frames = n.frames := h.frames
  have heq : p.afterClosing d line.origin = { p.toContext with frames := frames } := by
    rw [Context.afterClosing, hp, hclose]
  have heq' : n.afterClosing d line.origin = { n.toContext with frames := frames } := by
    rw [Context.afterClosing, hclose]
  rw [heq'] at hn
  rw [heq]
  -- the blocks around a true block are true
  have hactive : ∀ g ∈ frames, g.active = true := by
    intro g hg
    exact h.active g (by rw [hframes]; exact List.mem_cons_of_mem _ hg)
  exact ⟨_, hn, together h.attributes h.verbatim rfl hactive rfl hrest, rfl⟩

/-- Outside of false blocks, both reductions decide an opening alike. They enter a true block. A
false one is entered by the one reduction, and left out by the other. -/
theorem outside_opening (h : p.Mirrors n [] []) (hpending : n.pending = line :: rest) {d : Opening}
    (hd : Directive.ofLine? (strippedEnd line.text) = some (.opening d))
    (hblock : d.inlineText? = none) (hlevel : n.OmitsLevel (setting.preserving false))
    (hafter : After (setting.preserving true) p' p) :
    ∃ n' inner' region', After (setting.preserving false) n' n ∧ p'.Mirrors n' inner' region' ∧
      n'.emitted = n.emitted := by
  obtain ⟨active, c, hjudged, rfl⟩ := hafter.eq_of_opening_kept (setting.meaning_preserving true)
    (h.pending.trans hpending) hd hblock
  rw [Context.judgeWithin, if_pos h.active_of_nil] at hjudged
  have houtcome : outcome (n.judge (setting.preserving false) d line.origin) =
      outcome (p.judge (setting.preserving true) d line.origin) :=
    Context.outcome_judge rfl h.attributes d line.origin line.origin
  obtain ⟨c', hjudged'⟩ := ok_of_outcome houtcome hjudged
  have hn := step_of_opening_judged (setting.meaning_preserving false) hpending hd
  rw [hjudged'] at hn
  obtain ⟨journal, rfl, -⟩ := Context.eq_of_judge hjudged
  obtain ⟨journal', hc', -⟩ := Context.eq_of_judge hjudged'
  obtain ⟨between, hfits, hrest⟩ := h.nested_cons hpending
  rw [hd] at hfits
  obtain ⟨-, rfl⟩ := Nesting.eq_of_after?_opening hblock hfits
  have hframes : p.frames = n.frames := h.frames
  -- a true block is entered by both, a false one by the first only
  cases active with
  | true =>
    simp only [Except.map, onJudged, hblock] at hn
    subst hc'
    have hactive : ∀ f ∈ d.frame true line.origin :: n.frames, f.active = true :=
      List.forall_mem_cons.2 ⟨rfl, h.active⟩
    exact ⟨_, [], [], hn, together h.attributes h.verbatim (congrArg (_ :: ·) hframes) hactive rfl
      hrest, rfl⟩
  | false =>
    have hfalse := hjudged'
    simp only [Except.map, onJudged, hblock] at hn
    -- the lines up to the end of the block are the region that the first is to pass
    have hopened : Nesting.afterAll? ([d.target] ++ n.frames.map (·.target)) rest = some [] := hrest
    obtain ⟨region, after, rfl, hcloses, hafter⟩ := Nesting.exists_closes hopened
    have hlength : (BlockEnd.find d.target (region ++ after)).length = some region.length := by
      rw [BlockEnd.find_of_closes hcloses]
    have hneutral := hlevel line _ d c' _ hpending hd hblock hfalse hlength
    rw [List.take_left] at hneutral
    rw [skip_of_closes hcloses] at hn
    subst hc'
    have hinactive : ∀ f ∈ [d.frame false line.origin], f.active = false :=
      List.forall_mem_singleton.2 rfl
    refine ⟨_, [d.frame false line.origin], region, hn, ⟨h.attributes, ?_,
      congrArg (_ :: ·) hframes, hinactive, h.active, rfl, hcloses, hafter⟩, rfl⟩
    have hverbatim : n.verbatim = p.verbatim := h.verbatim
    rw [hverbatim] at hneutral
    exact hverbatim.trans hneutral.symm

/-- Outside of false blocks, both reductions take the same line. -/
theorem outside (h : p.Mirrors n [] []) (hpending : n.pending = line :: rest)
    (hattuned : Attuned setting p n line rest) (hafter : After (setting.preserving true) p' p) :
    ∃ n' inner' region', After (setting.preserving false) n' n ∧ p'.Mirrors n' inner' region' ∧
      n'.emitted.toList = n.emitted.toList ++ p.keeps line := by
  cases hd : Directive.ofLine? (strippedEnd line.text) with
  | none =>
    have hkeeps : p.keeps line = [line] := if_pos ⟨h.active_of_nil, hd⟩
    obtain ⟨n', hn, hmirrors, hemitted⟩ := h.outside_other hpending hd hafter
    exact ⟨n', [], [], hn, hmirrors, by rw [hkeeps, hemitted, Array.toList_push]⟩
  | some d =>
    have hkeeps : p.keeps line = [] := if_neg fun hkept => by
      rw [hd] at hkept
      cases hkept.2
    rw [hkeeps, List.append_nil]
    rcases d with d | d | d
    · obtain ⟨n', hn, hmirrors, hemitted⟩ := h.outside_include hpending hd hattuned hafter
      exact ⟨n', [], [], hn, hmirrors, by rw [hemitted]⟩
    · obtain ⟨n', inner', region', hn, hmirrors, hemitted⟩ :=
        h.outside_opening hpending hd (hattuned.block d hd) hattuned.level hafter
      exact ⟨n', inner', region', hn, hmirrors, by rw [hemitted]⟩
    · obtain ⟨n', hn, hmirrors, hemitted⟩ := h.outside_closing hpending hd hafter
      exact ⟨n', [], [], hn, hmirrors, by rw [hemitted]⟩

/-- The two reductions stay together: over a line of a false block the other one waits, and over any
other line it takes one step and emits what there is to be kept. -/
theorem step (h : p.Mirrors n inner region) (hpending : p.pending = line :: rest)
    (hattuned : Attuned setting p n line rest) (hafter : After (setting.preserving true) p' p) :
    ∃ n' inner' region', Leads (setting.preserving false) n n' ∧ p'.Mirrors n' inner' region' ∧
      n'.emitted.toList = n.emitted.toList ++ p.keeps line := by
  cases region with
  | nil =>
    obtain rfl : inner = [] := List.map_eq_nil_iff.1 (h.closes.eq_nil.2 rfl)
    have hn : n.pending = line :: rest := h.pending.symm.trans hpending
    obtain ⟨n', inner', region', hn', hmirrors, hemitted⟩ := h.outside hn hattuned hafter
    exact ⟨n', inner', region', hn'.leads, hmirrors, hemitted⟩
  | cons first region =>
    obtain ⟨rfl, rfl⟩ : first = line ∧ region ++ n.pending = rest :=
      List.cons.inj (h.pending.symm.trans hpending)
    have hkeeps : p.keeps first = [] := if_neg fun hkept => by
      rw [h.active_of_within] at hkept
      cases hkept.1
    obtain ⟨inner', region', hmirrors⟩ := h.within hattuned hafter
    exact ⟨n, inner', region', .refl n, hmirrors, by rw [hkeeps, List.append_nil]⟩

/-- Where the one reduction is interrupted at an include, the other is, too, unless it waits for the
end of a false block. -/
theorem error_include (h : p.Mirrors n inner region) (hpending : p.pending = line :: rest)
    {d : Include} (hd : Directive.ofLine? (strippedEnd line.text) = some (.include d))
    (hattuned : Attuned setting p n line rest) {i : Interruption}
    (hresolve : p.resolve (setting.preserving true) d line.origin = .error i) :
    (∃ i', n.step (setting.preserving false) = .error i' ∧ i'.abort = i.abort) ∨
      p.InterruptedWithin (setting.preserving true) i := by
  cases region with
  | nil =>
    have hn : n.pending = line :: rest := h.pending.symm.trans hpending
    obtain ⟨i', hresolve', habort⟩ := error_of_outcome (hattuned.alike hn d hd) hresolve
    refine .inl ⟨i', ?_, habort⟩
    rw [step_of_include _ hn hd, hresolve']
    rfl
  | cons first region =>
    -- the other reduction does not come to this include
    exact .inr ⟨h.active_of_within, line, rest, d, hpending, hd, hresolve⟩

/-- Where the one reduction is interrupted by a decision, the other is, too. -/
theorem error_opening (h : p.Mirrors n inner region) (hpending : p.pending = line :: rest)
    {d : Opening} (hd : Directive.ofLine? (strippedEnd line.text) = some (.opening d))
    {i : Interruption}
    (hwithin : p.judgeWithin (setting.preserving true) d line.origin = .error i) :
    ∃ i', n.step (setting.preserving false) = .error i' ∧ i'.abort = i.abort := by
  cases region with
  | nil =>
    obtain rfl : inner = [] := List.map_eq_nil_iff.1 (h.closes.eq_nil.2 rfl)
    have hn : n.pending = line :: rest := h.pending.symm.trans hpending
    rw [Context.judgeWithin, if_pos h.active_of_nil] at hwithin
    have houtcome : outcome (n.judge (setting.preserving false) d line.origin) =
        outcome (p.judge (setting.preserving true) d line.origin) :=
      Context.outcome_judge rfl h.attributes d line.origin line.origin
    obtain ⟨i', hjudge', habort⟩ := error_of_outcome houtcome hwithin
    refine ⟨i', ?_, habort⟩
    rw [step_of_opening_judged (setting.meaning_preserving false) hn hd, hjudge']
    rfl
  | cons first region =>
    -- in a false block nothing is decided
    rw [Context.judgeWithin, h.active_of_within] at hwithin
    cases hwithin

/-- Where the one reduction is interrupted, the other is, too, unless it waits for the end of a
false block, in which the first one reads an include. -/
theorem error (h : p.Mirrors n inner region) (hpending : p.pending = line :: rest)
    (hattuned : Attuned setting p n line rest) {i : Interruption}
    (herror : p.step (setting.preserving true) = .error i) :
    (∃ i', n.step (setting.preserving false) = .error i' ∧ i'.abort = i.abort) ∨
      p.InterruptedWithin (setting.preserving true) i := by
  cases hd : Directive.ofLine? (strippedEnd line.text) with
  | none =>
    -- such a line is emitted, whatever it is
    obtain ⟨journal, hother⟩ := after_of_other (setting.preserving true) hpending hd
    cases herror.symm.trans hother
  | some d =>
    rcases d with d | d | d
    · rw [step_of_include _ hpending hd] at herror
      exact h.error_include hpending hd hattuned (eq_error_of_map (eq_error_of_map herror))
    · rw [step_of_opening_kept (setting.meaning_preserving true) hpending hd
        (hattuned.block d hd)] at herror
      exact .inl (h.error_opening hpending hd (eq_error_of_map (eq_error_of_map herror)))
    · rw [step_of_closing_kept (setting.meaning_preserving true) hpending hd] at herror
      cases herror

/-- Two reductions that are together, and stay so over every line, end alike: with the same
attributes, and the other one with the lines that the first one keeps; or both are interrupted for
the same reason; or the first one is at an include in a false block. -/
theorem run (setting : Setting) {I : State → State → Prop}
    (hattuned : ∀ {p n inner region line rest}, I p n → p.Mirrors n inner region →
      p.pending = line :: rest → Attuned setting p n line rest)
    (hstep : ∀ {p n p' n'}, I p n → After (setting.preserving true) p' p →
      Leads (setting.preserving false) n n' → I p' n')
    (h : p.Mirrors n inner region) (hI : I p n) :
    (∀ lines c, p.run (setting.preserving true) = .ok (lines, c) →
      ∃ c', n.run (setting.preserving false) =
          .ok (n.emitted.toList ++ p.kept (setting.preserving true), c') ∧
        c'.attributes = c.attributes) ∧
    ∀ i, p.run (setting.preserving true) = .error i →
      (∃ i', n.run (setting.preserving false) = .error i' ∧ i'.abort = i.abort) ∨
        ∃ q, Leads (setting.preserving true) p q ∧
          q.InterruptedWithin (setting.preserving true) i := by
  -- by induction on the run of the first reduction; the other one waits or takes one step
  fun_induction State.run (setting.preserving true) p generalizing n inner region with
  | case1 p hend =>
    have hpending : p.pending = [] := pending_of_end hend
    have hn : n.pending = [] := (List.append_eq_nil_iff.1 (h.pending.symm.trans hpending)).2
    constructor
    · intro lines c hlines
      cases hlines
      refine ⟨n.toContext, ?_, h.attributes⟩
      rw [kept_of_end hend, List.append_nil, run_of_end (step_of_nil hn)]
    · intro i hi
      cases hi
  | case2 p p' hafter ih =>
    obtain ⟨line, rest, hpending, -⟩ := onLine_of_step hafter
    obtain ⟨n', inner', region', hleads, hmirrors, hemitted⟩ :=
      h.step hpending (hattuned hI h hpending) hafter
    obtain ⟨hok, herror⟩ := ih hmirrors (hstep hI hafter hleads)
    -- the other has emitted just what is kept of the line
    rw [run_of_leads hleads, kept_of_after hafter hpending, ← List.append_assoc, ← hemitted]
    refine ⟨hok, fun i hi => (herror i hi).imp_right ?_⟩
    rintro ⟨q, hq, hwithin⟩
    exact ⟨q, .step hafter hq, hwithin⟩
  | case3 p i hi =>
    constructor
    · intro lines c hlines
      cases hlines
    · intro i' hi'
      cases hi'
      obtain ⟨line, rest, hpending, -⟩ := error_of_step hi
      rcases h.error hpending (hattuned hI h hpending) hi with ⟨i', hn, habort⟩ | hwithin
      · exact .inl ⟨i', run_of_error hn, habort⟩
      · exact .inr ⟨p, .refl p, hwithin⟩

end Mirrors

/-! ## Documents without includes -/

/-- With conditionals preserved, the lines of an include take its place, and any other line is
emitted unless it is a conditional that is complete in itself. -/
theorem resolves_or_emits (hpreserved : setting.options.preserveConditionals.meaning = true)
    (hafter : After setting t s) (hpending : s.pending = line :: rest) (hblock : line.BlockForm) :
    (∃ d lines c, Directive.ofLine? (strippedEnd line.text) = some (.include d) ∧
        s.resolve setting d line.origin = .ok (lines, c) ∧
        t = (s.withContext c).await (lines ++ rest)) ∨
      line.IncludeFree ∧ t.pending = rest ∧ t.emitted = s.emitted.push line := by
  obtain ⟨line', rest', hpending', hrule⟩ := hafter.rule
  obtain ⟨rfl, rfl⟩ := List.cons.inj (hpending.symm.trans hpending')
  -- no line is dropped as long as conditionals are preserved
  have hnot : setting.options.preserveConditionals.meaning ≠ false := ne_false_of_eq_true hpreserved
  have hfree : ∀ {found : Directive}, Directive.ofLine? (strippedEnd line.text) = some found →
      (∀ d, found ≠ .include d) → line.IncludeFree := by
    intro found hfound hother d hd
    exact hother d (Option.some.inj (hfound.symm.trans hd))
  cases hrule with
  | plain verbatim nothing =>
    refine .inr ⟨fun d hd => ?_, rfl, rfl⟩
    cases (Hit.ofLine?_of_directive s.verbatim hd).symm.trans nothing
  | entry e found =>
    refine .inr ⟨fun d hd => ?_, rfl, rfl⟩
    cases (Hit.ofLine?_of_directive s.verbatim hd).symm.trans found
  | inclusion d lines c directive resolved => exact .inl ⟨d, lines, c, directive, resolved, rfl⟩
  | closingKept _ directive | inlineKept _ _ directive | blockKept _ _ _ directive =>
    exact .inr ⟨hfree directive (by simp), rfl, rfl⟩
  | inlineRewritten d text directive _ inline =>
    rw [hblock d directive] at inline
    cases inline
  | closingDropped _ _ normal | inlineTrue _ _ _ _ normal | inlineFalse _ _ _ _ normal
  | blockTrue _ _ _ normal | blockFalse _ _ _ normal => exact absurd normal hnot

/-- Without includes and conditionals that are complete in one line, a reduction with conditionals
preserved comes to no such lines. -/
theorem Leads.includeFree_blockForm
    (hpreserved : setting.options.preserveConditionals.meaning = true) (h : Leads setting s t)
    (hlines : ∀ line ∈ s.pending, line.IncludeFree ∧ line.BlockForm) :
    ∀ line ∈ t.pending, line.IncludeFree ∧ line.BlockForm := by
  refine h.preserves (P := fun u => ∀ line ∈ u.pending, line.IncludeFree ∧ line.BlockForm) hlines
    fun s t hafter hs => ?_
  obtain ⟨line, rest, hpending, -⟩ := hafter.rule
  rw [hpending] at hs
  obtain ⟨⟨hfree, hblock⟩, hrest⟩ := List.forall_mem_cons.1 hs
  rcases resolves_or_emits hpreserved hafter hpending hblock with ⟨d, _, _, hd, -⟩ | ⟨-, ht, -⟩
  · exact absurd hd (hfree d)
  · rw [ht]
    exact hrest

/-- At their starts, two reductions of well-nested lines are together. -/
theorem mirrors_start (setting setting' : Setting) (file file' : String) (attributes : AttributeSet)
    {b : Buffer} (hnested : WellNested b.lines) :
    (Loop.start setting file attributes b).state.Mirrors
      (Loop.start setting' file' attributes b).state [] [] :=
  .together rfl rfl rfl (List.forall_mem_nil _) rfl hnested

end State

/-- In a document without includes, and with all conditionals in block form and well nested, entries
are applied alike whether or not conditionals are preserved, if every block that is left out when
they are not leaves the verbatim block as it is. The attributes are the same at the end, or both
reductions are interrupted for the same reason. -/
theorem Buffer.reduce_preserved {setting : Setting} {file : String} {attributes : AttributeSet}
    {b : Buffer} (hlines : ∀ line ∈ b.lines, line.IncludeFree ∧ line.BlockForm)
    (hnested : WellNested b.lines)
    (hlevel : ∀ n, State.Leads (setting.preserving false)
      (Loop.start (setting.preserving false) file attributes b).state n →
        n.OmitsLevel (setting.preserving false)) :
    (outcome (b.reduce (setting.preserving true) file attributes)).map (·.attributes) =
      (outcome (b.reduce (setting.preserving false) file attributes)).map (·.attributes) := by
  let p := (Loop.start (setting.preserving true) file attributes b).state
  let n := (Loop.start (setting.preserving false) file attributes b).state
  have hstart : p.Mirrors n [] [] := State.mirrors_start _ _ file file attributes hnested
  have hpreserved := setting.meaning_preserving true
  -- nothing is asked of includes, for there are none
  have hattuned : ∀ {p' n' : State} {inner region line rest},
      State.Leads (setting.preserving true) p p' ∧ State.Leads (setting.preserving false) n n' →
        p'.Mirrors n' inner region → p'.pending = line :: rest →
          State.Attuned setting p' n' line rest := by
    rintro p' n' inner region line rest ⟨hp, hn⟩ - hpending
    obtain ⟨hfree, hblock⟩ := hp.includeFree_blockForm hpreserved hlines line
      (by rw [hpending]; exact List.mem_cons_self)
    exact ⟨hblock, fun d _ _ hd => absurd hd (hfree d), fun _ d hd => absurd hd (hfree d),
      hlevel n' hn⟩
  obtain ⟨hok, herror⟩ := hstart.run setting hattuned
    (fun h hafter hleads => ⟨h.1.trans hafter.leads, h.2.trans hleads⟩) ⟨.refl p, .refl n⟩
  rw [Buffer.reduce, Buffer.reduce, Loop.run_eq, Loop.run_eq]
  show (outcome ((p.run (setting.preserving true)).map _)).map _ =
    (outcome ((n.run (setting.preserving false)).map _)).map _
  cases hrun : p.run (setting.preserving true) with
  | ok result =>
    obtain ⟨lines, c⟩ := result
    obtain ⟨c', hrun', hattributes⟩ := hok lines c hrun
    rw [hrun']
    show Except.ok c.finish.attributes.values = Except.ok c'.finish.attributes.values
    rw [Context.attributes_finish, Context.attributes_finish, hattributes]
  | error i =>
    rcases herror i hrun with ⟨i', hrun', habort⟩ | ⟨q, hq, -, line, rest, d, hpending, hd, -⟩
    · rw [hrun']
      exact congrArg Except.error habort.symm
    · -- there is no include to be interrupted at
      have hline := hq.includeFree_blockForm hpreserved hlines line
        (by rw [hpending]; exact List.mem_cons_self)
      exact absurd hd (hline.1 d)

/-- A document in which a listing stands in a false block, before an entry: the entry is applied
whether or not conditionals are preserved. -/
theorem Buffer.reduce_preserved_listing :
    let setting : Setting := { cwd := "/", jail := ⟨.free, "/", none⟩, rootDirectory := "/" }
    let b : Buffer := ⟨["ifdef::x[]", "----", ":y: 2", "----", "endif::[]", ":y: 1"].map fun text =>
      ⟨text, { file := "a", line := 1 }⟩⟩
    (∀ line ∈ b.lines, line.IncludeFree ∧ line.BlockForm) ∧ WellNested b.lines ∧
      (∀ n, State.Leads (setting.preserving false)
        (Loop.start (setting.preserving false) "a" {} b).state n →
          n.OmitsLevel (setting.preserving false)) ∧
      (outcome (b.reduce (setting.preserving true) "a" {})).map (·.attributes) =
        .ok [("y", "1")] := by
  intro setting b
  have hlines : ∀ line ∈ b.lines, line.IncludeFree ∧ line.BlockForm := by decide +kernel
  have hnested : WellNested b.lines := by decide +kernel
  have hlevel : ∀ n, State.Leads (setting.preserving false)
      (Loop.start (setting.preserving false) "a" {} b).state n →
        n.OmitsLevel (setting.preserving false) := by
    intro n hn
    refine State.Leads.of_allWithin 3 ?_ hn
    decide +kernel
  let start : Context := .start (setting.preserving false) "a" {}
  have hnormal : b.reduce (setting.preserving false) "a" {} =
      .ok (Result.ofRun (setting.preserving false) "a" [⟨":y: 1", { file := "a", line := 1 }⟩]
        { start with attributes := { values := [("y", "1")] } }) := by
    refine Buffer.reduce_of_runWithin 3 ?_
    decide +kernel
  have hsame := Buffer.reduce_preserved hlines hnested hlevel
  rw [hnormal] at hsame
  exact ⟨hlines, hnested, hlevel, hsame⟩

/-- A document in which a false block holds the opening delimiter of a listing, but not the closing
one, before an entry: the entry is not applied if conditionals are preserved, for it is taken for a
line of the listing. -/
theorem Buffer.reduce_preserved_unlevel :
    let setting : Setting := { cwd := "/", jail := ⟨.free, "/", none⟩, rootDirectory := "/" }
    let b : Buffer := ⟨["ifdef::x[]", "----", "endif::[]", ":y: 1"].map fun text =>
      ⟨text, { file := "a", line := 1 }⟩⟩
    (∀ line ∈ b.lines, line.IncludeFree ∧ line.BlockForm) ∧ WellNested b.lines ∧
      (outcome (b.reduce (setting.preserving true) "a" {})).map (·.attributes) = .ok [] ∧
      (outcome (b.reduce (setting.preserving false) "a" {})).map (·.attributes) =
        .ok [("y", "1")] := by
  intro setting b
  let line : String → Line := fun text => ⟨text, { file := "a", line := 1 }⟩
  let start : Context := .start setting "a" {}
  have hpreserved : b.reduce (setting.preserving true) "a" {} =
      .ok (Result.ofRun (setting.preserving true) "a" b.lines
        { start with verbatim := some "----" }) := by
    refine Buffer.reduce_of_runWithin 5 ?_
    decide +kernel
  have hnormal : b.reduce (setting.preserving false) "a" {} =
      .ok (Result.ofRun (setting.preserving false) "a" [line ":y: 1"]
        { start with attributes := { values := [("y", "1")] } }) := by
    refine Buffer.reduce_of_runWithin 3 ?_
    decide +kernel
  refine ⟨by decide +kernel, by decide +kernel, ?_, ?_⟩
  · rw [hpreserved]
    rfl
  · rw [hnormal]
    rfl

end Transclude
