import Transclude.Proofs.Inline
import Transclude.Proofs.Nesting
import Transclude.Proofs.Omission
import Transclude.Proofs.Renumbering

/-!
# Conditionals in one line and in three

A conditional that is complete in one line says the same as a block around its text. The text of the
one takes its place without any block being open, while the other opens a block and ends it, or is
left out up to its end. If conditionals are not preserved, a document in which the one is written
for the other comes to the same texts and the same attributes, wherever it stands, as long as no
block that the text brings in runs on past it.

## Main definitions

* `State.Confined`       : whether all blocks that are left out end among the lines to be read.
* `Unfolding`            : a conditional that is complete in one line, and its block.
* `Unfolding.Unfolded`   : whether lines have the block in place of the line.
* `Unfolding.Ahead`      : whether a reduction of such lines has come as far as one of the others.

## Main statements

* `State.confined_of_nested` : blocks end among well-nested lines.
* `Unfolding.run_unfolded`   : the line and the block come to the same.
* `Run.reduce_unfolded`      : so they do in a document.
-/

namespace Transclude

open Transclude.Text

/-! ## Conditionals as they are written -/

/-- The conditional on attributes with the given name and text. -/
def Presence.ofName (raw : String) (negated : Bool) (name : String) (text : Option String) :
    Presence :=
  let mode := Directive.modeOf name.toList
  let target := lower name.toList
  ⟨raw, negated, String.ofList target, text, Directive.namesOf mode target, mode⟩

/-- A conditional with a name has a target. -/
theorem Presence.target_ofName {name : String} (hname : name ≠ "") (raw : String) (negated : Bool)
    (text : Option String) : (ofName raw negated name text).target ≠ "" := by
  have hlower : lower name.toList ≠ [] :=
    lower_ne_nil fun hnil => hname (String.toList_eq_nil_iff.1 hnil)
  exact fun hempty => hlower (String.ofList_eq_empty_iff.1 hempty)

/-- A conditional with a name is decided by the name. -/
theorem Presence.decide_ofName {name : String} (hname : name ≠ "") (raw raw' : String)
    (negated : Bool) (text text' : Option String) (evaluator : Evaluator) (a : AttributeSet) :
    (ofName raw' negated name text').decide evaluator a =
      (ofName raw negated name text).decide evaluator a := by
  unfold decide
  rw [if_neg (target_ofName hname raw' negated text'),
    if_neg (target_ofName hname raw negated text)]
  rfl

namespace Directive

section Written

variable {keyword name : String} {text : List Char} (hbracket : '[' ∉ name.toList)
  (hsolid : ∀ c ∈ name.toList, isBlank c = false)
include hbracket hsolid

/-- The name and the text of a conditional are read apart, and an empty text is none. -/
theorem conditionalParts?_eq (htext : '\n' ∉ text) :
    conditionalParts? (name.toList ++ '[' :: (text ++ [']'])) =
      some (name.toList, if text.isEmpty then none else some (String.ofList text)) :=
  conditionalParts?_eq_some_iff.2
    ⟨text, bracketed?_eq_some_iff.2 ⟨hbracket, htext, rfl⟩, hsolid, rfl⟩

/-- A conditional on attributes is read from its keyword, its name and its text. -/
theorem ofLine?_presence {line : String} (hkeyword : keyword = "ifdef" ∨ keyword = "ifndef")
    (htext : '\n' ∉ text) (hline : line.toList =
      keyword.toList ++ "::".toList ++ (name.toList ++ '[' :: (text ++ [']']))) :
    ofLine? line = some (.opening (.presence (.ofName line (keyword == "ifndef") name
      (if text.isEmpty then none else some (String.ofList text))))) := by
  have hparts := conditionalParts?_eq hbracket hsolid htext
  generalize name.toList ++ '[' :: (text ++ [']']) = rest at hline hparts
  rcases hkeyword with rfl | rfl
  · refine ofLine?_eq_some_iff.2 (.inr (.inl ⟨false, rest, hline, ?_⟩))
    rw [presenceOf?, hparts]
    rfl
  · refine ofLine?_eq_some_iff.2 (.inr (.inl ⟨true, rest, hline, ?_⟩))
    rw [presenceOf?, hparts]
    rfl

/-- A conditional with a text. -/
theorem ofLine?_inline {text : String} (hkeyword : keyword = "ifdef" ∨ keyword = "ifndef")
    (htext : text ≠ "") (hbreak : '\n' ∉ text.toList) :
    ofLine? s!"{keyword}::{name}[{text}]" = some (.opening (.presence
      (.ofName s!"{keyword}::{name}[{text}]" (keyword == "ifndef") name (some text)))) := by
  have hsome : text.toList.isEmpty = false :=
    List.isEmpty_eq_false_iff.2 fun hnil => htext (String.toList_eq_nil_iff.1 hnil)
  have hline : (s!"{keyword}::{name}[{text}]").toList =
      keyword.toList ++ "::".toList ++ (name.toList ++ '[' :: (text.toList ++ [']'])) := by
    simp [toString]
  rw [ofLine?_presence hbracket hsolid hkeyword hbreak hline, hsome, String.ofList_toList]
  rfl

/-- The opening of a block. -/
theorem ofLine?_block (hkeyword : keyword = "ifdef" ∨ keyword = "ifndef") :
    ofLine? s!"{keyword}::{name}[]" = some (.opening (.presence
      (.ofName s!"{keyword}::{name}[]" (keyword == "ifndef") name none))) := by
  have hline : (s!"{keyword}::{name}[]").toList =
      keyword.toList ++ "::".toList ++ (name.toList ++ '[' :: ([] ++ [']'])) := by
    simp [toString]
  exact ofLine?_presence hbracket hsolid hkeyword List.not_mem_nil hline

/-- The end of a block. -/
theorem ofLine?_ending : ofLine? s!"endif::{name}[]" =
    some (.closing ⟨s!"endif::{name}[]", String.ofList (lower name.toList), none⟩) := by
  have hline : (s!"endif::{name}[]").toList =
      "endif".toList ++ "::".toList ++ (name.toList ++ ['[', ']']) := by
    simp [toString]
  have hparts : conditionalParts? (name.toList ++ ['[', ']']) = some (name.toList, none) :=
    conditionalParts?_eq hbracket hsolid (List.not_mem_nil (a := '\n'))
  generalize name.toList ++ ['[', ']'] = rest at hline hparts
  refine ofLine?_eq_some_iff.2 (.inr (.inr (.inr ⟨rest, hline, ?_⟩)))
  rw [closingOf?, hparts]
  rfl

end Written

end Directive

/-! ## Blocks that end where they are read -/

/-- Among lines that end all blocks that are open, the innermost one ends, and the lines after its
end are for the others. -/
theorem BlockEnd.exists_find_of_nested {target : String} {targets : List String} {rest : List Line}
    (h : Nesting.afterAll? (target :: targets) rest = some []) :
    ∃ region later, rest = region ++ later ∧ (find target rest).length = some region.length ∧
      Nesting.afterAll? targets later = some [] := by
  have hopen : Nesting.afterAll? ([target] ++ targets) rest = some [] := h
  obtain ⟨region, later, rfl, hcloses, hlater⟩ := Nesting.exists_closes hopen
  exact ⟨region, later, rfl, by rw [find_of_closes hcloses], hlater⟩

namespace State

variable {setting : Setting} {s t : State} {line : Line}

/-- Whether every block that is left out while the lines of a state are read ends among the lines
that are still to be read at that point. -/
def Confined (setting : Setting) (s : State) : Prop :=
  ∀ q, Leads setting s q → q.EndsOmitted setting

theorem Confined.after (h : s.Confined setting) (hafter : After setting t s) :
    t.Confined setting :=
  fun q hleads => h q (.step hafter hleads)

/-- Where no line is left, no block is left out. -/
theorem confined_of_nil (hpending : s.pending = []) : s.Confined setting := by
  intro q hleads line rest d c hq
  cases hleads with
  | refl =>
    rw [hpending] at hq
    cases hq
  | step hafter _ =>
    rw [After, step_of_nil hpending] at hafter
    cases hafter

/-- No block is left out while a line is read that is no directive. -/
theorem confined_of_plain (hpending : s.pending = [line])
    (hplain : Directive.ofLine? (strippedEnd line.text) = none) : s.Confined setting := by
  intro q hleads
  cases hleads with
  | refl =>
    intro first rest d c hs hd
    obtain ⟨rfl, -⟩ := List.cons.inj (hpending.symm.trans hs)
    rw [hplain] at hd
    cases hd
  | @step _ t _ hafter hleads =>
    obtain ⟨first, rest, hs, hrule⟩ := hafter.rule
    obtain ⟨rfl, rfl⟩ := List.cons.inj (hpending.symm.trans hs)
    have hnil : t.pending = [] := by
      cases hrule with
      | plain | entry => rfl
      | inclusion _ _ _ directive | closingDropped _ directive | closingKept _ directive
      | inlineTrue _ _ _ directive | inlineFalse _ _ _ directive | blockTrue _ _ directive
      | blockFalse _ _ directive | inlineRewritten _ _ directive | inlineKept _ _ directive
      | blockKept _ _ _ directive =>
        rw [hplain] at directive
        cases directive
    exact confined_of_nil hnil q hleads

/-- Whether the lines that are still to be read end all blocks that are open, for some open
blocks. -/
def Nested (s : State) : Prop := ∃ targets, Nesting.afterAll? targets s.pending = some []

/-- Whether what takes the place of the next line is well nested: the lines of an include, or the
text of a conditional. -/
def SplicesNested (setting : Setting) (s : State) : Prop :=
  ∀ line rest, s.pending = line :: rest →
    (∀ d lines c, Directive.ofLine? (strippedEnd line.text) = some (.include d) →
      s.resolve setting d line.origin = .ok (lines, c) → WellNested lines) ∧
    ∀ d text, Directive.ofLine? (strippedEnd line.text) = some (.opening d) →
      d.inlineText? = some text → WellNested [⟨text, line.origin⟩]

/-- Lines that end all blocks that are open do so after a step, too. -/
theorem Nested.after (hnormal : setting.options.preserveConditionals.meaning = false)
    (h : s.Nested) (hafter : After setting t s) (hspliced : s.SplicesNested setting) :
    t.Nested := by
  obtain ⟨targets, htargets⟩ := h
  obtain ⟨line, rest, hpending, hrule⟩ := hafter.rule
  obtain ⟨hinclude, hinline⟩ := hspliced line rest hpending
  rw [hpending, Nesting.afterAll?_cons] at htargets
  obtain ⟨inner, hline, hrest⟩ := Option.bind_eq_some_iff.1 htargets
  have hsplice : ∀ new, WellNested new → Nesting.afterAll? inner (new ++ rest) = some [] := by
    intro new hnew
    rw [Nesting.afterAll?_append, Nesting.afterAll?_of_wellNested hnew]
    exact hrest
  cases hrule with
  | plain | entry | closingDropped | inlineFalse | blockTrue => exact ⟨inner, hrest⟩
  | inclusion d lines c directive resolved =>
    exact ⟨inner, hsplice lines (hinclude d lines c directive resolved)⟩
  | inlineTrue d text c directive normal inline judged =>
    exact ⟨inner, hsplice [⟨text, line.origin⟩] (hinline d text directive inline)⟩
  | blockFalse d c directive normal block judged =>
    -- the lines up to the end of the block are gone, and with them the block
    rw [directive] at hline
    obtain ⟨-, rfl⟩ := Nesting.eq_of_after?_opening block hline
    obtain ⟨region, later, rfl, hlength, hlater⟩ := BlockEnd.exists_find_of_nested hrest
    refine ⟨targets, ?_⟩
    rw [skip_of_some hlength]
    show Nesting.afterAll? targets ((region ++ later).drop region.length) = some []
    rw [List.drop_left]
    exact hlater
  | closingKept _ _ preserved | inlineRewritten _ _ _ preserved | inlineKept _ _ _ preserved
  | blockKept _ _ _ _ preserved =>
    rw [hnormal] at preserved
    cases preserved

/-- A block that is left out ends among lines that end all blocks that are open. -/
theorem Nested.endsOmitted (h : s.Nested) : s.EndsOmitted setting := by
  obtain ⟨targets, htargets⟩ := h
  intro line rest d c hpending hd hblock _
  rw [hpending, Nesting.afterAll?_cons, hd] at htargets
  obtain ⟨inner, hline, hrest⟩ := Option.bind_eq_some_iff.1 htargets
  obtain ⟨-, rfl⟩ := Nesting.eq_of_after?_opening hblock hline
  obtain ⟨region, later, -, hlength, -⟩ := BlockEnd.exists_find_of_nested hrest
  rw [hlength]
  exact Option.some_ne_none _

/-- Blocks end where they are read in lines that are well nested, with the lines of all includes and
the texts of all conditionals. -/
theorem confined_of_nested (hnormal : setting.options.preserveConditionals.meaning = false)
    (hnested : s.Nested) (hspliced : ∀ t, Leads setting s t → t.SplicesNested setting) :
    s.Confined setting := by
  intro q hleads
  refine Nested.endsOmitted ?_
  -- on the run: what is spliced in at the first step is well nested, and so it is at the others
  induction hleads with
  | refl => exact hnested
  | step hafter _ ih =>
    refine ih (hnested.after hnormal hafter (hspliced _ (.refl _))) ?_
    exact fun t hleads => hspliced t (.step hafter hleads)

end State

/-! ## A line and its block -/

/-- A conditional that is complete in one line, and the three lines of the block that says the same:
the condition has the same answer, the text is no conditional itself, and the last line ends the
block. -/
structure Unfolding where
  line : Line
  opening : Line
  inner : Line
  closing : Line
  conditional : Opening
  block : Opening
  ending : Closing
  complete : Directive.ofLine? (strippedEnd line.text) = some (.opening conditional)
  inline : conditional.inlineText? = some inner.text
  opens : Directive.ofLine? (strippedEnd opening.text) = some (.opening block)
  isBlock : block.inlineText? = none
  targeted : block.Targeted
  decided : ∀ evaluator a, block.decide evaluator a = conditional.decide evaluator a
  other : inner.isConditional = false
  lineage : inner.origin.lineage = line.origin.lineage
  ends : Directive.ofLine? (strippedEnd closing.text) = some (.closing ending)
  bare : ending.text = none
  named : ending.target = block.target

namespace Unfolding

variable {b : Unfolding}

/-- Whether the second lines are the first ones with the block in place of the line, any number of
times, but for the numbers of lines. -/
inductive Unfolded (b : Unfolding) : List Line → List Line → Prop
  | nil : Unfolded b [] []
  | alike {line line' : Line} {rest rest' : List Line} (line_alike : line.Alike line')
    (unfolded : Unfolded b rest rest') : Unfolded b (line :: rest) (line' :: rest')
  | block {rest rest' : List Line} (unfolded : Unfolded b rest rest') :
    Unfolded b (b.line :: rest) (b.opening :: b.inner :: b.closing :: rest')

/-- In a block that is left out, the line is nothing. -/
theorem left_line {targets : List String} (hopen : targets ≠ []) (rest : List Line) :
    BlockEnd.left targets (b.line :: rest) = BlockEnd.left targets rest := by
  rw [BlockEnd.left, b.complete, BlockEnd.advance_of_inline b.inline, if_neg hopen]

/-- The last line ends the block and no other one. -/
theorem left_inner (b : Unfolding) (targets : List String) (rest : List Line) :
    BlockEnd.left (b.block.target :: targets) (b.inner :: b.closing :: rest) =
      if targets = [] then rest else BlockEnd.left targets rest := by
  have hends : BlockEnd.advance (b.block.target :: targets) (some (.closing b.ending)) =
      (targets, none) := by
    simp [BlockEnd.advance, b.bare, b.named]
  rw [BlockEnd.left, BlockEnd.advance_of_other b.other, if_neg (List.cons_ne_nil _ _),
    BlockEnd.left, b.ends, hends]

/-- In a block that is left out, the block is opened and ended. -/
theorem left_block {targets : List String} (hopen : targets ≠ []) (rest : List Line) :
    BlockEnd.left targets (b.opening :: b.inner :: b.closing :: rest) =
      BlockEnd.left targets rest := by
  rw [BlockEnd.left, b.opens, BlockEnd.advance_of_block b.isBlock b.targeted,
    if_neg (List.cons_ne_nil _ _), b.left_inner, if_neg hopen]

/-- The relation lasts: a line that is dropped is so with its block. -/
theorem Unfolded.lasting (b : Unfolding) : Line.Lasting b.Unfolded where
  append hnew hrest := by
    induction hnew with
    | nil => exact hrest
    | cons hline _ ih => exact .alike hline ih
  left targets hopen h := by
    induction h generalizing targets with
    | nil => exact .nil
    | alike hline hrest ih =>
      rw [BlockEnd.left, BlockEnd.left, hline.text]
      split
      · exact hrest
      · rename_i hinner
        exact ih _ hinner
    | block hrest ih =>
      rw [left_line hopen, left_block hopen]
      exact ih targets hopen

/-- Lines that are alike are so with no block in them, too. -/
theorem Unfolded.of_alike {lines lines' : List Line} (h : List.Forall₂ Line.Alike lines lines') :
    b.Unfolded lines lines' := by
  simpa using (Unfolded.lasting b).append h .nil

/-! ## The reductions -/

/-- The text, as it takes the place of the line. -/
def spliced (b : Unfolding) : Line := ⟨b.inner.text, b.line.origin⟩

/-- Whether a reduction of unfolded lines has come as far as one of the others: they have come to
the same, and what is to be read next are unfolded lines, or what the text has brought in, after
which the block is still to be ended in the one of them. -/
inductive Ahead (setting : Setting) (b : Unfolding) (s u : State) : Prop
  | outside (alike : State.Alike b.Unfolded s u)
  | inside {lines lines' rest rest' : List Line} (pending : s.pending = lines ++ rest)
    (pending' : u.pending = lines' ++ b.closing :: rest') (more : lines ≠ [])
    (alike : State.Alike (List.Forall₂ Line.Alike) (s.await lines) (u.await lines'))
    (unfolded : b.Unfolded rest rest') (confined : (s.await lines).Confined setting)

end Unfolding

/-- In reductions that are alike the same blocks are left out, and end alike. -/
theorem State.EndsOmitted.of_alike {setting : Setting} {s u : State}
    (h : s.EndsOmitted setting) (halike : State.Alike (List.Forall₂ Line.Alike) s u) :
    u.EndsOmitted setting := by
  intro line' rest' d c' hpending' hd hblock hjudged'
  have hlines := halike.pending
  rw [hpending'] at hlines
  obtain ⟨line, rest, hline, hrest, hpending⟩ := List.forall₂_cons_right_iff.1 hlines
  have hdecide : d.decide setting.evaluator u.attributes =
      d.decide setting.evaluator u.attributes := rfl
  have hjudge := halike.context.symm.judge hdecide line'.origin line.origin
  rw [hjudged'] at hjudge
  obtain ⟨⟨_, c⟩, hjudged, rfl, -⟩ := hjudge.exists_ok
  have hfind : BlockEnd.find d.target rest' = BlockEnd.find d.target rest :=
    BlockEnd.findFrom_of_texts (Line.texts_of_forall₂ hrest Line.Alike.text) _ _
  rw [hline.text] at hd
  rw [hfind]
  exact h line rest d c hpending hd hblock hjudged

namespace Unfolding

variable {setting : Setting} {b : Unfolding} {s t u start : State} {rest rest' : List Line}
  (hnormal : setting.options.preserveConditionals.meaning = false)
include hnormal

/-- Where all is read that the text has brought in, the block is ended next. -/
theorem exists_ahead (halike : State.Alike (List.Forall₂ Line.Alike) t u)
    (hconfined : t.Confined setting) (hrest : b.Unfolded rest rest') :
    ∃ v, State.Leads setting (u.queue (b.closing :: rest')) v ∧
      b.Ahead setting (t.queue rest) v := by
  by_cases hnil : t.pending = []
  · -- the end of the block is the next line of the second one, which is dropped
    have hnil' : u.pending = [] := by
      have hlines := halike.pending
      rw [hnil] at hlines
      exact List.forall₂_nil_left_iff.1 hlines
    have hpending : (u.queue (b.closing :: rest')).pending = b.closing :: rest' := by
      show u.pending ++ b.closing :: rest' = b.closing :: rest'
      rw [hnil', List.nil_append]
    have hdone : (t.queue rest).pending = rest := by
      show t.pending ++ rest = rest
      rw [hnil, List.nil_append]
    have hended := State.step_of_closing_dropped hnormal hpending b.ends
    refine ⟨_, .step hended (.refl _), .outside ⟨?_, halike.emitted, ?_⟩⟩
    · exact halike.context.afterClosing_right b.ending b.closing.origin
    · rw [hdone]
      exact hrest
  · exact ⟨_, .refl _, .inside rfl rfl hnil halike hrest hconfined⟩

section Step

variable (hhooks : ∀ p ∈ setting.registry.includeProcessors, p.Unnumbered)
include hhooks

/-- Within what the text brings in, both take the same step. -/
theorem step_inside {lines lines' : List Line} (hpending : s.pending = lines ++ rest)
    (hpending' : u.pending = lines' ++ b.closing :: rest') (hmore : lines ≠ [])
    (halike : State.Alike (List.Forall₂ Line.Alike) (s.await lines) (u.await lines'))
    (hrest : b.Unfolded rest rest') (hconfined : (s.await lines).Confined setting) :
    Parallel (Option.Rel fun t u' => ∃ v, State.Leads setting u' v ∧ b.Ahead setting t v)
      (s.step setting) (u.step setting) := by
  obtain ⟨line, lines, rfl⟩ := List.exists_cons_of_ne_nil hmore
  have hlines := halike.pending
  obtain ⟨line', lines', hline, hlater, rfl⟩ := List.forall₂_cons_left_iff.1 hlines
  rw [List.cons_append] at hpending hpending'
  have hends := hconfined _ (.refl _)
  -- what comes after the lines makes no difference to either step
  rw [State.step_of_cons hpending, State.step_of_cons hpending',
    State.onLine_append (fun _ => hends), State.onLine_append (fun _ => hends.of_alike halike)]
  have hawait : State.Alike (List.Forall₂ Line.Alike) (s.await lines) (u.await lines') :=
    ⟨halike.context, halike.emitted, hlater⟩
  have hstep : Parallel
      (fun t u' => State.Alike (List.Forall₂ Line.Alike) t u' ∧ t.Confined setting)
      (s.onLine setting line lines) (u.onLine setting line' lines') := by
    refine (hawait.onLine Line.Alike.lasting hline hnormal hhooks).imp_of_ok ?_
    intro t u' ht _ hafter
    refine ⟨hafter, hconfined.after ?_⟩
    rw [State.After, State.step_of_cons rfl, State.onLine_await, ht]
    rfl
  have hqueued : Parallel
      (fun t u' => ∃ v, State.Leads setting u' v ∧ b.Ahead setting t v)
      ((s.onLine setting line lines).map (·.queue rest))
      ((u.onLine setting line' lines').map (·.queue (b.closing :: rest'))) :=
    hstep.map fun t u' hafter => exists_ahead hnormal hafter.1 hafter.2 hrest
  exact hqueued.map fun _ _ hahead => .some hahead

omit hhooks in
/-- The line is replaced by its text, or dropped, as the block is opened, or left out. -/
theorem step_block (halike : State.Alike b.Unfolded (s.await rest) (u.await rest'))
    (hpending : s.pending = b.line :: rest)
    (hpending' : u.pending = b.opening :: b.inner :: b.closing :: rest')
    (hconfined : ∀ t, State.After setting t s → t.pending = b.spliced :: rest →
      (t.await [b.spliced]).Confined setting) :
    Parallel (Option.Rel fun t u' => ∃ v, State.Leads setting u' v ∧ b.Ahead setting t v)
      (s.step setting) (u.step setting) := by
  have hjudge := halike.context.judge (b.decided setting.evaluator s.attributes) b.line.origin
    b.opening.origin
  have hs : s.step setting = (s.onOpening setting b.line rest b.conditional).map some :=
    State.step_of_opening_judged hnormal hpending b.complete
  have hu : u.step setting =
      (u.onOpening setting b.opening (b.inner :: b.closing :: rest') b.block).map some :=
    State.step_of_opening_judged hnormal hpending' b.opens
  rw [hs, hu]
  have hjudged : Parallel
      (fun t u' => State.After setting t s → ∃ v, State.Leads setting u' v ∧ b.Ahead setting t v)
      (s.onOpening setting b.line rest b.conditional)
      (u.onOpening setting b.opening (b.inner :: b.closing :: rest') b.block) := by
    refine hjudge.map ?_
    rintro ⟨active, c⟩ ⟨active', c'⟩ ⟨rfl, hcontext⟩ hafter
    refine ⟨_, .refl _, ?_⟩
    dsimp only [State.onJudged] at hafter ⊢
    rw [b.inline] at hafter ⊢
    rw [b.isBlock]
    cases active' with
    | true =>
      -- the text is next in both, and the end of the block comes after it in the second
      have hinner : List.Forall₂ Line.Alike [b.spliced] [b.inner] := .cons ⟨rfl, b.lineage⟩ .nil
      have hentered := hcontext.enter_right b.block b.opening.origin
      exact @Ahead.inside _ _ _ _ [b.spliced] [b.inner] rest rest' rfl rfl (List.cons_ne_nil _ _)
        ⟨hentered, halike.emitted, hinner⟩ halike.pending (hconfined _ hafter rfl)
    | false =>
      obtain ⟨hemitted, journal, heq, -⟩ := (u.withContext c').skip_eq b.opening
        (b.inner :: b.closing :: rest') b.block
      refine .outside ⟨?_, ?_, ?_⟩
      · dsimp only
        rw [heq]
        exact hcontext.of_journal c.journal journal
      · dsimp only
        rw [hemitted]
        exact halike.emitted
      · dsimp only
        rw [State.pending_skip, b.left_inner, if_pos rfl]
        exact halike.pending
  have hahead := hjudged.imp_of_ok fun t _ ht _ hrelated =>
    hrelated (by rw [State.After, hs, ht]; rfl)
  exact hahead.map fun _ _ hahead => .some hahead

/-- A reduction of unfolded lines stays as far as the other one, if it takes the end of a block as
soon as that is next. -/
theorem Ahead.step (hconfined : ∀ t rest, State.After setting t s → t.pending = b.spliced :: rest →
      (t.await [b.spliced]).Confined setting) (h : b.Ahead setting s u) :
    Parallel (Option.Rel fun t u' => ∃ v, State.Leads setting u' v ∧ b.Ahead setting t v)
      (s.step setting) (u.step setting) := by
  cases h with
  | inside hpending hpending' hmore halike hrest hinside =>
    exact step_inside hnormal hhooks hpending hpending' hmore halike hrest hinside
  | outside halike =>
    have hlines := halike.pending
    generalize hpending : s.pending = lines at hlines
    generalize hpending' : u.pending = lines' at hlines
    cases hlines with
    | nil =>
      rw [State.step_of_nil hpending, State.step_of_nil hpending']
      exact .ok .none
    | @alike line line' rest rest' hline hrest =>
      rw [State.step_of_cons hpending, State.step_of_cons hpending']
      have hawait : State.Alike b.Unfolded (s.await rest) (u.await rest') :=
        ⟨halike.context, halike.emitted, hrest⟩
      have hstep := hawait.onLine (Unfolded.lasting b) hline hnormal hhooks
      exact hstep.map fun t u' hafter => .some ⟨u', .refl _, .outside hafter⟩
    | @block rest rest' hrest =>
      have hawait : State.Alike b.Unfolded (s.await rest) (u.await rest') :=
        ⟨halike.context, halike.emitted, hrest⟩
      exact step_block hnormal hawait hpending hpending' fun t => hconfined t rest

/-- Unless conditionals are preserved, a reduction comes to the same texts and the same attributes
with the block in place of the line, or is interrupted for the same reason, if every block that is
left out in what the text brings in ends there. -/
theorem run_unfolded (hconfined : ∀ t rest, State.Leads setting s t →
      t.pending = b.spliced :: rest → (t.await [b.spliced]).Confined setting)
    (h : State.Alike b.Unfolded s u) :
    Parallel (fun p q => q.1.map (·.text) = p.1.map (·.text) ∧ q.2.attributes = p.2.attributes)
      (s.run setting) (u.run setting) := by
  -- the states are those of the one run, as the blocks that its text brings in are known to end
  refine State.run_ahead (R := fun t v => State.Leads setting s t ∧ b.Ahead setting t v) ?_ ?_
    ⟨.refl s, .outside h⟩
  · rintro t v ⟨hleads, hahead⟩
    have hstep := hahead.step hnormal hhooks fun t' rest hafter =>
      hconfined t' rest (hleads.trans hafter.leads)
    refine hstep.imp_of_ok fun next _ ht _ hrelated => ?_
    cases hrelated with
    | none => exact .none
    | some hsome =>
      obtain ⟨w, hw, hafter⟩ := hsome
      exact .some ⟨w, hw, hleads.trans (.step ht (.refl _)), hafter⟩
  · rintro t v ⟨-, hahead⟩
    cases hahead with
    | outside halike => exact ⟨halike.emitted, halike.context.attributes⟩
    | inside _ _ _ halike => exact ⟨halike.emitted, halike.context.attributes⟩

end Step

end Unfolding

/-! ## Documents -/

section Documents

variable {keyword name text : String} (hkeyword : keyword = "ifdef" ∨ keyword = "ifndef")
  (hname : name ≠ "") (hbracket : '[' ∉ name.toList) (hsolid : ∀ c ∈ name.toList, isBlank c = false)
  (htext : text ≠ "") (hbreak : '\n' ∉ text.toList)
  (hother : (Directive.ofLine? (strippedEnd text)).any Directive.isConditional = false)

/-- A conditional on attributes with a text, and the block with the same name around it, at the line
with the given number. -/
def Unfolding.ofName (file : String) (n : Int) : Unfolding where
  line := ⟨s!"{keyword}::{name}[{text}]", { file := file, line := n }⟩
  opening := ⟨s!"{keyword}::{name}[]", { file := file, line := n }⟩
  inner := ⟨text, { file := file, line := n + 1 }⟩
  closing := ⟨s!"endif::{name}[]", { file := file, line := n + 2 }⟩
  conditional := .presence
    (.ofName s!"{keyword}::{name}[{text}]" (keyword == "ifndef") name (some text))
  block := .presence (.ofName s!"{keyword}::{name}[]" (keyword == "ifndef") name none)
  ending := ⟨s!"endif::{name}[]", String.ofList (lower name.toList), none⟩
  complete := Directive.ofLine?_strippedEnd
    (Directive.ofLine?_inline hbracket hsolid hkeyword htext hbreak)
  inline := rfl
  opens := Directive.ofLine?_strippedEnd (Directive.ofLine?_block hbracket hsolid hkeyword)
  isBlock := rfl
  targeted := Presence.target_ofName hname _ _ _
  decided := Presence.decide_ofName hname _ _ _ _ _
  other := hother
  lineage := rfl
  ends := Directive.ofLine?_strippedEnd (Directive.ofLine?_ending hbracket hsolid)
  bare := rfl
  named := rfl

include hkeyword hname hbracket hsolid htext hbreak hother

/-- In a document without preserved conditionals, a conditional on attributes with a text may be
written as a block with three lines: the reduction comes to the same texts and the same attributes,
or is interrupted for the same reason. The text may be anything but a conditional; if it is an
include, then every block that is left out in what it brings in has to end there. -/
theorem Run.reduce_unfolded {r : Run} {before after : List String}
    (hnormal : r.setting.options.preserveConditionals.meaning = false)
    (hhooks : ∀ p ∈ r.setting.registry.includeProcessors, p.Unnumbered)
    (htexts : r.texts = before ++ s!"{keyword}::{name}[{text}]" :: after)
    (hexpansion : ∀ d, Directive.ofLine? (strippedEnd text) = some (.include d) →
      ∀ s rest, r.Reaches s →
        let line : Line := ⟨text, { file := r.file, line := before.length + 1 }⟩
        s.pending = line :: rest → (s.await [line]).Confined r.setting) :
    let unfolded : Run :=
      { r with texts := before ++ s!"{keyword}::{name}[]" :: text :: s!"endif::{name}[]" :: after }
    Parallel
      (fun p q => q.1.lines.map (·.text) = p.1.lines.map (·.text) ∧ q.1.attributes = p.1.attributes)
      (r.buffer.reduce r.setting r.file r.attributes)
      (unfolded.buffer.reduce r.setting r.file r.attributes) := by
  intro unfolded
  let b : Unfolding := .ofName hkeyword hname hbracket hsolid htext hbreak hother r.file
    (before.length + 1)
  let root : Int → Origin := fun n => { file := r.file, line := n }
  have hfolded : r.buffer.lines = Line.number root before ++
      b.line :: Line.number (fun n => root (before.length + (1 + n))) after := by
    rw [Run.buffer, htexts, Line.number_append, Line.number_cons]
    rfl
  have hunfolded : unfolded.buffer.lines = Line.number root before ++ b.opening :: b.inner ::
      b.closing :: Line.number (fun n => root (before.length + (1 + (1 + (1 + n))))) after := by
    have hinner : (before.length : Int) + 1 + 1 = before.length + (1 + 1) := by omega
    have hclosing : (before.length : Int) + 1 + 2 = before.length + (1 + (1 + 1)) := by omega
    show Line.number root (before ++ _ :: _ :: _ :: after) = _
    rw [Line.number_append, Line.number_cons, Line.number_cons, Line.number_cons]
    simp only [b, Unfolding.ofName, hinner, hclosing, root]
  have hpending : b.Unfolded r.buffer.lines unfolded.buffer.lines := by
    rw [hfolded, hunfolded]
    refine (Unfolding.Unfolded.lasting b).append (Line.alike_number before fun _ => rfl) (.block ?_)
    exact .of_alike (Line.alike_number after fun _ => rfl)
  have hstart : State.Alike b.Unfolded r.start.state unfolded.start.state :=
    ⟨⟨rfl, rfl, rfl, List.forall_mem_nil _, List.forall_mem_nil _⟩, rfl, hpending⟩
  -- only an include can bring in a block, as the text is no conditional
  have hconfined : ∀ t rest, State.Leads r.setting r.start.state t →
      t.pending = b.spliced :: rest → (t.await [b.spliced]).Confined r.setting := by
    intro t rest hleads ht
    cases hd : Directive.ofLine? (strippedEnd text) with
    | none => exact State.confined_of_plain rfl hd
    | some d =>
      rw [hd] at hother
      rcases d with d | d | d
      · exact hexpansion d hd t rest hleads ht
      · cases hother
      · cases hother
  have hrun := Unfolding.run_unfolded hnormal hhooks hconfined hstart
  rw [← Loop.run_eq, ← Loop.run_eq] at hrun
  refine hrun.map ?_
  rintro ⟨lines, c⟩ ⟨lines', c'⟩ ⟨hlines, hattributes⟩
  refine ⟨hlines, ?_⟩
  show c'.finish.attributes.values = c.finish.attributes.values
  rw [Context.attributes_finish, Context.attributes_finish, hattributes]

end Documents

/-- An include of a file with a block that is left out and an entry after it: in one line and as a
block, the entry is read and the line after the conditional stays. -/
theorem Run.reduce_unfolded_include :
    let content := "ifdef::y[]\nB\nendif::[]\n:k: 1".toList.map fun c => c.toNat.toUInt8
    let setting : Setting :=
      { files := ⟨[(["b"], .file content)]⟩, cwd := "/", jail := ⟨.free, "/", none⟩
        rootDirectory := "/" }
    let r : Run := ⟨setting, "a", {}, ["u", "ifndef::Y[include::b[]]", "w"]⟩
    let unfolded : Run :=
      { r with texts := ["u", "ifndef::Y[]", "include::b[]", "endif::Y[]", "w"] }
    ∃ p q, r.buffer.reduce setting "a" {} = .ok p ∧ unfolded.buffer.reduce setting "a" {} = .ok q ∧
      p.1.lines.map (·.text) = ["u", ":k: 1", "w"] ∧ p.1.attributes = [("k", "1")] ∧
      q.1.lines.map (·.text) = p.1.lines.map (·.text) ∧ q.1.attributes = p.1.attributes := by
  intro content setting r unfolded
  let keyword := "ifndef"
  let name := "Y"
  let inner : Line := ⟨"include::b[]", { file := "a", line := 2 }⟩
  have hchecked : r.start.state.allWithin setting (fun s => s.pending.head? = some inner →
      (s.await [inner]).allWithin setting (State.EndsOmitted setting) 8 = true) 16 = true := by
    decide +kernel
  have hexpansion : ∀ s rest, r.Reaches s → s.pending = inner :: rest →
      (s.await [inner]).Confined setting := by
    intro s rest hreaches hpending q hleads
    have hs := State.Leads.of_allWithin 16 hchecked hreaches
    exact hleads.of_allWithin 8 (hs (by rw [hpending]; rfl))
  have hwithin : (r.start.state.runWithin setting 16).map
      (fun ended => (ended.1.map (·.text), ended.2.attributes.values)) =
        some (["u", ":k: 1", "w"], [("k", "1")]) := by
    decide +kernel
  have htexts : r.texts = ["u"] ++ s!"{keyword}::{name}[{inner.text}]" :: ["w"] := by
    decide +kernel
  have hunfolded : unfolded.texts = ["u"] ++ s!"{keyword}::{name}[]" :: inner.text ::
      s!"endif::{name}[]" :: ["w"] := by
    decide +kernel
  obtain ⟨⟨lines, c⟩, hrun, hended⟩ := Option.map_eq_some_iff.1 hwithin
  obtain ⟨hlines, hattributes⟩ := Prod.mk.inj hended
  have hreduce := Buffer.reduce_of_runWithin 16 hrun
  have hsolid : ∀ c ∈ name.toList, isBlank c = false := by
    have hname : name.toList = ['Y'] := by decide
    rw [hname]
    exact List.forall_mem_singleton.2 (by decide +kernel)
  have hparallel := reduce_unfolded (.inr rfl) (by decide) (by decide) hsolid (by decide)
    (by decide) (by decide +kernel) rfl (List.forall_mem_nil _) htexts fun _ _ => hexpansion
  rw [← hunfolded, hreduce] at hparallel
  obtain ⟨q, hq, hsame, hsame'⟩ := hparallel.exists_ok
  refine ⟨_, q, hreduce, hq, hlines, ?_, hsame, hsame'⟩
  show c.finish.attributes.values = _
  rw [Context.attributes_finish, hattributes]

end Transclude
