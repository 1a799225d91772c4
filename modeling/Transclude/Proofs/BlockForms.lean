import Transclude.Proofs.Commutation
import Transclude.Proofs.Grammar
import Transclude.Proofs.Inline

/-!
# Block forms

Where conditionals are preserved, a conditional with an include as its text is put into block form:
an opening and an `endif` are written around the include, with the target in lower case. They are
read as the opening and the end of one block, whatever the target is, so that the blocks that are
open are the same after the block form as before it, if what is included is balanced.

## Main definitions

* `Balanced`              : lines in which every opening of a block has its `endif`.
* `State.SplicesBalanced` : whether the lines are balanced that take the place of an include.
* `State.BalancedBefore`  : whether they are for every include before some lines.
* `State.Passes`          : a reduction comes to the end of some lines with the same open blocks.

## Main statements

* `Balanced.of_wellNested`   : well-nested lines are balanced.
* `State.passes_of_balanced` : the open blocks are the same after balanced lines.
* `State.passes_blockForm`   : the markers of a block form are read as those of one block.
-/

namespace Transclude

open Transclude.Text

/-! ## The markers of a block form -/

namespace Directive

variable {line keyword : String} {target : List Char} {d : Presence}

/-- A marker is one line. -/
theorem Bracketed.break_not_mem (h : Bracketed line keyword target [])
    (hkeyword : '\n' ∉ keyword.toList) (hsolid : ∀ c ∈ target, isBlank c = false) :
    '\n' ∉ line.toList := by
  have htarget : '\n' ∉ target := fun hmem => absurd (hsolid _ hmem) (by decide)
  rw [h.written]
  simp [hkeyword, htarget]

/-- The opening of a block form is read with the names of the conditional, and without a text. -/
theorem ofLine?_openingMarker (h : ofLine? line = some (.opening (.presence d))) :
    let marker := s!"{(Opening.presence d).keyword}::{d.target}[]"
    ofLine? marker = some (.opening (.presence { d with raw := marker, text := none })) := by
  intro marker
  cases written_of_ofLine? h with
  | presence written solid combines =>
    rename_i negated target text mode names
    -- the target that is written is in lower case, and is not changed when it is read
    have hsolid : ∀ c ∈ lower target, isBlank c = false :=
      fun c hc => not_blank_of_mem_lower hc solid
    have hcombines : Combines (lower (lower target)) mode names := by rwa [lower_lower]
    have hbracketed : Bracketed marker (if negated then "ifndef" else "ifdef") (lower target) [] :=
      ⟨by simp [marker, Opening.keyword, toString], bracket_not_mem_lower written.bracket⟩
    have hread := ofLine?_of_written (.presence hbracketed hsolid hcombines)
      (hbracketed.break_not_mem (by cases negated <;> decide) hsolid)
    rwa [lower_lower] at hread

/-- The end of a block form is read with the target of the conditional, and without a text. -/
theorem ofLine?_closingMarker (h : ofLine? line = some (.opening (.presence d))) :
    let marker := s!"endif::{d.target}[]"
    ofLine? marker = some (.closing ⟨marker, d.target, none⟩) := by
  intro marker
  cases written_of_ofLine? h with
  | presence written solid combines =>
    rename_i negated target text mode names
    have hsolid : ∀ c ∈ lower target, isBlank c = false :=
      fun c hc => not_blank_of_mem_lower hc solid
    have hbracketed : Bracketed marker "endif" (lower target) [] :=
      ⟨by simp [marker, toString], bracket_not_mem_lower written.bracket⟩
    have hread := ofLine?_of_written (.closing hbracketed hsolid)
      (hbracketed.break_not_mem (by decide) hsolid)
    rwa [lower_lower] at hread

end Directive

/-! ## Balanced lines -/

/-- Whether a line neither opens nor ends a block. -/
def Line.Neutral (line : Line) : Prop :=
  (∀ d, Directive.ofLine? (strippedEnd line.text) = some (.opening d) → d.inlineText? ≠ none) ∧
    ∀ e, Directive.ofLine? (strippedEnd line.text) ≠ some (.closing e)

/-- Whether a line is an `endif` for a block with the given target: without a text, and with that
target or none. -/
def Line.EndsBlock (line : Line) (target : String) : Prop :=
  ∃ e, Directive.ofLine? (strippedEnd line.text) = some (.closing e) ∧ e.text = none ∧
    (e.target = "" ∨ e.target = target)

/-- Whether every opening of a block has its `endif` in some lines, and every `endif` its opening.
It is all the same whether an opening has a target. -/
inductive Balanced : List Line → Prop
  | nil : Balanced []
  | line {first : Line} {rest : List Line} (neutral : first.Neutral) (others : Balanced rest) :
    Balanced (first :: rest)
  | block {first ending : Line} {inner rest : List Line} {d : Opening}
    (opens : Directive.ofLine? (strippedEnd first.text) = some (.opening d))
    (block : d.inlineText? = none) (within : Balanced inner) (ends : ending.EndsBlock d.target)
    (others : Balanced rest) : Balanced (first :: (inner ++ ending :: rest))

namespace Balanced

variable {lines more : List Line} {targets : List String} {target : String}

theorem append (h : Balanced lines) (hmore : Balanced more) : Balanced (lines ++ more) := by
  induction h with
  | nil => exact hmore
  | line neutral _ ih => exact .line neutral ih
  | block opens block within ends _ _ ih =>
    rw [List.cons_append, List.append_assoc, List.cons_append]
    exact .block opens block within ends ih

/-- A block form with an include in it is balanced. -/
theorem blockForm {opening : Line} {text : Line} {closing : Line} {d : Opening}
    (hopens : Directive.ofLine? (strippedEnd opening.text) = some (.opening d))
    (hblock : d.inlineText? = none) (htext : text.Neutral) (hends : closing.EndsBlock d.target) :
    Balanced [opening, text, closing] :=
  .block hopens hblock (.line htext .nil) hends .nil

/-- A line that fits is neutral, or opens a block, or ends one. -/
theorem neutral_or_opens_or_ends {line : Line} {between : List String}
    (h : Nesting.after? targets (Directive.ofLine? (strippedEnd line.text)) = some between) :
    (line.Neutral ∧ between = targets) ∨
      (∃ d, Directive.ofLine? (strippedEnd line.text) = some (.opening d) ∧ d.inlineText? = none ∧
        between = d.target :: targets) ∨
      ∃ target, line.EndsBlock target ∧ targets = target :: between := by
  cases hd : Directive.ofLine? (strippedEnd line.text) with
  | none =>
    rw [hd] at h
    cases Nesting.fits_of_after? h
    exact .inl ⟨⟨by simp [hd], by simp [hd]⟩, rfl⟩
  | some d =>
    rw [hd] at h
    cases Nesting.fits_of_after? h with
    | inclusion => exact .inl ⟨⟨by simp [hd], by simp [hd]⟩, rfl⟩
    | inline _ inline => exact .inl ⟨⟨by simp [hd, inline], by simp [hd]⟩, rfl⟩
    | opens _ block => exact .inr (.inl ⟨_, rfl, block, rfl⟩)
    | closes _ bare named => exact .inr (.inr ⟨_, ⟨_, hd, bare, named⟩, rfl⟩)

/-- Lines that end the innermost of some open blocks, and fit the others, have balanced lines before
that end. -/
theorem exists_inner (h : Nesting.afterAll? (target :: targets) lines = some []) :
    ∃ inner ending rest, lines = inner ++ ending :: rest ∧ Balanced inner ∧
      ending.EndsBlock target ∧ Nesting.afterAll? targets rest = some [] := by
  -- by induction on the number of lines, as a block inside is passed over as a whole
  induction hlength : lines.length using Nat.strongRecOn generalizing lines target targets with
  | _ length ih =>
    subst hlength
    cases lines with
    | nil => cases h
    | cons line rest =>
      rw [Nesting.afterAll?_cons] at h
      obtain ⟨between, hline, hrest⟩ := Option.bind_eq_some_iff.1 h
      rcases neutral_or_opens_or_ends hline with
        ⟨hneutral, rfl⟩ | ⟨d, hopens, hblock, rfl⟩ | ⟨_, hends, hopen⟩
      · obtain ⟨inner, ending, rest', rfl, hinner, hends, hrest'⟩ := ih _ (by simp) hrest rfl
        exact ⟨line :: inner, ending, rest', rfl, .line hneutral hinner, hends, hrest'⟩
      · -- the block inside comes first, and the lines after it end the block around it
        obtain ⟨within, ending, others, rfl, hwithin, hends, hothers⟩ := ih _ (by simp) hrest rfl
        obtain ⟨inner, ending', rest', rfl, hinner, hends', hrest'⟩ :=
          ih _ (by simp; omega) hothers rfl
        refine ⟨line :: (within ++ ending :: inner), ending', rest', by simp, ?_, hends', hrest'⟩
        exact .block hopens hblock hwithin hends hinner
      · cases hopen
        exact ⟨[], line, rest, rfl, .nil, hends, hrest⟩

/-- Well-nested lines are balanced. -/
theorem of_wellNested (h : WellNested lines) : Balanced lines := by
  induction hlength : lines.length using Nat.strongRecOn generalizing lines with
  | _ length ih =>
    subst hlength
    cases lines with
    | nil => exact .nil
    | cons line rest =>
      rw [WellNested, Nesting.afterAll?_cons] at h
      obtain ⟨between, hline, hrest⟩ := Option.bind_eq_some_iff.1 h
      rcases neutral_or_opens_or_ends hline with
        ⟨hneutral, rfl⟩ | ⟨d, hopens, hblock, rfl⟩ | ⟨_, -, hopen⟩
      · exact .line hneutral (ih _ (by simp) hrest rfl)
      · obtain ⟨inner, ending, others, rfl, hinner, hends, hothers⟩ := exists_inner hrest
        exact .block hopens hblock hinner hends (ih _ (by simp; omega) hothers rfl)
      · cases hopen

end Balanced

/-- The block form of a conditional with an include as its text is balanced. -/
theorem Opening.balanced_blockForm {d : Presence} {line text : String} (origin : Origin)
    (h : Directive.ofLine? line = some (.opening (.presence d))) (htext : isInclude text = true) :
    Balanced ((Opening.presence d).blockForm text origin) := by
  have hopens := Directive.ofLine?_strippedEnd (Directive.ofLine?_openingMarker h)
  have hends := Directive.ofLine?_strippedEnd (Directive.ofLine?_closingMarker h)
  obtain ⟨i, hinclude⟩ : ∃ i, Directive.ofLine? text = some (.include i) := by
    unfold isInclude at htext
    split at htext
    · exact ⟨_, ‹_›⟩
    · cases htext
  have hneutral : Line.Neutral ⟨text, origin⟩ := by
    simp [Line.Neutral, Directive.ofLine?_strippedEnd hinclude]
  exact .blockForm hopens rfl hneutral ⟨_, hends, rfl, .inr rfl⟩

/-! ## Reading balanced lines -/

namespace State

variable {setting : Setting} {s t : State} {first : Line} {lines rest : List Line}
  {frames : List Frame}

/-- Whether the lines are balanced that take the place of an include that is next. -/
def SplicesBalanced (setting : Setting) (p : State) : Prop :=
  ∀ line rest d lines c, p.pending = line :: rest →
    Directive.ofLine? (strippedEnd line.text) = some (.include d) →
      p.resolve setting d line.origin = .ok (lines, c) → Balanced lines

/-- Whether every include that is next before some last lines has balanced lines. -/
def BalancedBefore (setting : Setting) (s : State) (rest : List Line) : Prop :=
  ∀ p first more, Leads setting s p → p.pending = first :: (more ++ rest) →
    p.SplicesBalanced setting

/-- Whether a reduction comes to some last lines with the given open blocks, unless it is interrupted
before. -/
def Passes (setting : Setting) (s : State) (rest : List Line) (frames : List Frame) : Prop :=
  (∃ t, Leads setting s t ∧ t.pending = rest ∧ t.frames = frames) ∨
    ∃ p first more i, Leads setting s p ∧ p.pending = first :: (more ++ rest) ∧
      p.step setting = .error i

theorem BalancedBefore.of_leads (h : s.BalancedBefore setting rest) (hleads : Leads setting s t) :
    t.BalancedBefore setting rest :=
  fun p first more hp => h p first more (hleads.trans hp)

/-- Fewer lines come before more last lines. -/
theorem BalancedBefore.of_append (h : s.BalancedBefore setting rest) :
    s.BalancedBefore setting (lines ++ rest) := by
  intro p first more hp hpending
  rw [← List.append_assoc] at hpending
  exact h p first (more ++ lines) hp hpending

/-- What is passed after the next line is passed. -/
theorem Passes.of_after (hpending : s.pending = first :: (lines ++ rest))
    (h : ∀ t, After setting t s → t.Passes setting rest frames) :
    s.Passes setting rest frames := by
  cases hstep : s.step setting with
  | error i => exact .inr ⟨s, first, lines, i, .refl s, hpending, hstep⟩
  | ok next =>
    cases next with
    | none =>
      rw [pending_of_end hstep] at hpending
      cases hpending
    | some t =>
      have hafter : After setting t s := hstep
      rcases h t hafter with ⟨u, hu, hended⟩ | ⟨p, first, more, i, hp, herror⟩
      · exact .inl ⟨u, .step hafter hu, hended⟩
      · exact .inr ⟨p, first, more, i, .step hafter hp, herror⟩

/-- What is passed in two parts is passed. -/
theorem Passes.bind {within : List Frame} (h : s.Passes setting (lines ++ rest) within)
    (hlines : ∀ t, Leads setting s t → t.pending = lines ++ rest → t.frames = within →
      t.Passes setting rest frames) : s.Passes setting rest frames := by
  rcases h with ⟨t, ht, hpending, hframes⟩ | ⟨p, first, more, i, hp, hpending, herror⟩
  · rcases hlines t ht hpending hframes with ⟨u, hu, hended⟩ | ⟨p, first, more, i, hp, herror⟩
    · exact .inl ⟨u, ht.trans hu, hended⟩
    · exact .inr ⟨p, first, more, i, ht.trans hp, herror⟩
  · rw [← List.append_assoc] at hpending
    exact .inr ⟨p, first, more ++ lines, i, hp, hpending, herror⟩

section Preserved

variable (hpreserved : setting.options.preserveConditionals.meaning = true)
include hpreserved

/-- A neutral line leaves the open blocks as they are, and balanced lines take its place, if any. -/
theorem After.of_neutral (hafter : After setting t s) (hpending : s.pending = first :: rest)
    (hneutral : first.Neutral) (hspliced : s.SplicesBalanced setting) :
    t.frames = s.frames ∧ ∃ new, t.pending = new ++ rest ∧ Balanced new := by
  obtain ⟨line, rest', hcons, hrule⟩ := hafter.rule
  rw [hpending] at hcons
  cases hcons
  have hnormal : setting.options.preserveConditionals.meaning ≠ false := by simp [hpreserved]
  cases hrule with
  | plain => exact ⟨rfl, [], rfl, .nil⟩
  | entry e => exact ⟨s.toContext.frames_afterEntry e, [], rfl, .nil⟩
  | inclusion d lines c directive resolved =>
    obtain ⟨_, _, rfl⟩ := Context.eq_of_resolve resolved
    exact ⟨rfl, lines, rfl, hspliced _ _ d lines _ hpending directive resolved⟩
  | closingKept d directive => exact absurd directive (hneutral.2 d)
  | inlineRewritten d text directive _ inline included =>
    cases d with
    | comparison => cases inline
    | presence d => exact ⟨rfl, _, rfl, Opening.balanced_blockForm _ directive included⟩
  | inlineKept => exact ⟨rfl, [], rfl, .nil⟩
  | blockKept d _ _ directive _ block => exact absurd block (hneutral.1 d directive)
  | closingDropped _ _ normal | inlineTrue _ _ _ _ normal | inlineFalse _ _ _ _ normal
  | blockTrue _ _ _ normal | blockFalse _ _ _ normal => exact absurd normal hnormal

/-- An opening of a block puts its frame on those of the open blocks. -/
theorem After.of_opening {d : Opening} (hafter : After setting t s)
    (hpending : s.pending = first :: rest)
    (hopens : Directive.ofLine? (strippedEnd first.text) = some (.opening d))
    (hblock : d.inlineText? = none) :
    t.pending = rest ∧ ∃ f, f.target = d.target ∧ t.frames = f :: s.frames := by
  obtain ⟨active, _, hjudged, rfl⟩ := hafter.eq_of_opening_kept hpreserved hpending hopens hblock
  obtain ⟨_, rfl, -⟩ := Context.eq_of_judgeWithin hjudged
  exact ⟨rfl, d.frame active first.origin, rfl, rfl⟩

/-- The end of the innermost block takes its frame away. -/
theorem After.of_endsBlock {f : Frame} (hafter : After setting t s)
    (hpending : s.pending = first :: rest) (hends : first.EndsBlock f.target)
    (hframes : s.frames = f :: frames) : t.pending = rest ∧ t.frames = frames := by
  obtain ⟨e, he, hbare, hnamed⟩ := hends
  obtain rfl := hafter.eq_of_closing_kept hpreserved hpending he
  refine ⟨rfl, ?_⟩
  show (s.afterClosing e first.origin).frames = frames
  rw [Context.afterClosing, hframes, Frame.close_of_ends hbare hnamed]

/-- After balanced lines the same blocks are open as before them. -/
theorem passes_of_balanced (hlines : Balanced lines) (hpending : s.pending = lines ++ rest)
    (hspliced : s.BalancedBefore setting rest) : s.Passes setting rest s.frames := by
  -- by induction on the lines still to be read, as what is included is read line by line, too
  induction hs : s.pending using
    (PendingLt.wellFounded setting.options.maxIncludeDepth.meaning).transGen.induction
    generalizing s lines rest with
  | _ pending ih =>
    subst hs
    cases hlines with
    | nil => exact .inl ⟨s, .refl s, hpending, rfl⟩
    | @line first more neutral others =>
      have hnext : s.pending = first :: (more ++ rest) := hpending
      refine .of_after hnext fun t hafter => ?_
      obtain ⟨hframes, new, hnew, hbalanced⟩ :=
        hafter.of_neutral hpreserved hnext neutral (hspliced s first more (.refl s) hnext)
      rw [← hframes]
      refine ih _ (.single (pendingLt_of_after hafter)) (hbalanced.append others) ?_
        (hspliced.of_leads hafter.leads) rfl
      rw [hnew, List.append_assoc]
    | @block first ending inner more d opens block within ends others =>
      have hnext : s.pending = first :: ((inner ++ ending :: more) ++ rest) := hpending
      refine .of_after hnext fun t hafter => ?_
      obtain ⟨ht, f, htarget, hframes⟩ := hafter.of_opening hpreserved hnext opens block
      have hinner : t.pending = inner ++ ((ending :: more) ++ rest) := by
        rw [ht, List.append_assoc]
      have hspliced := hspliced.of_leads hafter.leads
      have hbelow := pendingLt_of_after hafter
      -- inside the block its frame stays on top, until the `endif` takes it away
      refine (ih _ (.single hbelow) within hinner hspliced.of_append rfl).bind
        fun u hu hending hwithin => .of_after hending fun v hclosed => ?_
      rw [← htarget] at ends
      obtain ⟨hv, hrestored⟩ :=
        hclosed.of_endsBlock hpreserved hending ends (hwithin.trans hframes)
      have hleads := hu.trans hclosed.leads
      rw [← hrestored]
      exact ih _ (hleads.transGen_pendingLt hbelow) others hv (hspliced.of_leads hleads) rfl

/-- A conditional with an include as its text is put into block form. The opening is read as that of
a block, with the keyword, the names and the mode of the conditional, and the `endif` as the end of
that block, whatever the target is. After the block form the same blocks are open as before it,
provided that what is included is balanced. -/
theorem passes_blockForm {d : Presence} {line : Line} {text : String}
    (hpending : s.pending = line :: rest)
    (hd : Directive.ofLine? (strippedEnd line.text) = some (.opening (.presence d)))
    (htext : d.text = some text) (hinclude : isInclude text = true) :
    let opening := s!"{(Opening.presence d).keyword}::{d.target}[]"
    let closing := s!"endif::{d.target}[]"
    let bare : Presence := { d with raw := opening, text := none }
    let rewritten := s.await
      (⟨opening, line.origin⟩ :: ⟨text, line.origin⟩ :: ⟨closing, line.origin⟩ :: rest)
    After setting rewritten s ∧
      Directive.ofLine? opening = some (.opening (.presence bare)) ∧
      (∃ e, Directive.ofLine? closing = some (.closing e) ∧ e.text = none ∧
        ∀ active origin frames,
          Frame.close ((Opening.presence bare).frame active origin :: frames) e = .ok frames) ∧
      (rewritten.BalancedBefore setting rest → rewritten.Passes setting rest s.frames) := by
  intro opening closing bare rewritten
  refine ⟨step_of_inline_rewritten hpreserved hpending hd htext hinclude,
    Directive.ofLine?_openingMarker hd, ⟨_, Directive.ofLine?_closingMarker hd, rfl,
    fun active origin frames => Frame.close_of_ends rfl (.inr rfl)⟩, fun hspliced => ?_⟩
  exact passes_of_balanced hpreserved (Opening.balanced_blockForm line.origin hd hinclude) rfl
    hspliced

end Preserved

/-- A conditional on a name that is longer in lower case, or on another, includes a file with a block
of its own. -/
theorem passes_blockForm_include :
    let setting : Setting := Setting.preserving
      { files := ⟨[(["b"], .file "ifdef::c[]\nendif::[]".toUTF8.data.toList)]⟩, cwd := "/"
        jail := ⟨.free, "/", none⟩, rootDirectory := "/" } true
    let line : String → Line := fun text => ⟨text, { file := "a", line := 1 }⟩
    let d : Presence := ⟨"ifndef::İ,A[include::b[]]", true, "i̇,a", some "include::b[]",
      ["i̇", "a"], .any⟩
    let s : State := ⟨.start setting "a" {}, #[], [line d.raw, line "z"]⟩
    let rewritten := s.await ((Opening.presence d).blockForm "include::b[]" (line d.raw).origin ++
      [line "z"])
    setting.options.preserveConditionals.meaning = true ∧
      Directive.ofLine? (strippedEnd d.raw) = some (.opening (.presence d)) ∧
      isInclude "include::b[]" = true ∧ After setting rewritten s ∧
      rewritten.pending =
        [line "ifndef::i̇,a[]", line "include::b[]", line "endif::i̇,a[]", line "z"] ∧
      rewritten.Passes setting [line "z"] [] := by
  intro setting line d s rewritten
  have hpreserved : setting.options.preserveConditionals.meaning = true := rfl
  have hd : Directive.ofLine? (strippedEnd d.raw) = some (.opening (.presence d)) := by
    decide +kernel
  have hinclude : isInclude "include::b[]" = true := by decide +kernel
  have hpending : rewritten.pending =
      [line "ifndef::i̇,a[]", line "include::b[]", line "endif::i̇,a[]", line "z"] := by
    decide +kernel
  have hspliced : rewritten.BalancedBefore setting [line "z"] := by
    intro p first more hp _ l rest i new c hpending hinclude hresolved
    have horderly : p.SplicesOrderly setting := by
      refine Leads.of_allWithin 7 ?_ hp
      decide +kernel
    exact .of_wellNested (horderly l rest i new c hpending hinclude hresolved).nested
  obtain ⟨hafter, -, -, hpasses⟩ := passes_blockForm (s := s) hpreserved rfl hd rfl hinclude
  exact ⟨hpreserved, hd, hinclude, hafter, hpending, hpasses hspliced⟩

end State

end Transclude
