import Transclude.Proofs.Pairing

/-!
# Well-nested blocks

The lines of a document are well nested if every opening of a block has its `endif` in them, and
every `endif` an opening, like brackets. Includes may stand anywhere. Whether lines are well nested
is told by reading them once with a stack of the blocks that are open; where a block that is left
out ends is told by the same stack.

## Main definitions

* `Nesting.after?` : the open blocks after a line that fits them.
* `Nesting.Fits`   : the same, as one rule for each kind of line.
* `WellNested`     : whether lines are well nested.
* `Nesting.Closes` : whether lines end the given blocks, the last one with their last line.

## Main statements

* `Nesting.exists_closes`         : lines that end some blocks begin with lines that end the inner
  ones.
* `Nesting.Closes.append`         : well-nested lines may be put before lines that end blocks.
* `BlockEnd.findFrom_of_closes` : a block that is left out ends where lines end it.
-/

namespace Transclude

open Transclude.Text

namespace Nesting

/-- The open blocks, innermost first, after a line that is the given directive, if that fits them:
an opening has a target just if it needs one, and an `endif` has no text and ends the innermost
block, which it names or not. -/
def after? (targets : List String) : Option Directive → Option (List String)
  | some (.opening d) =>
    if d.inlineText?.isSome then some targets
    else if d.Targeted then some (d.target :: targets) else none
  | some (.closing d) =>
    match targets with
    | [] => none
    | target :: outer =>
      if d.text = none ∧ (d.target = "" ∨ d.target = target) then some outer else none
  | _ => some targets

/-- The open blocks after some lines, if all of them fit. -/
def afterAll? (targets : List String) (lines : List Line) : Option (List String) :=
  (lines.map (·.text)).foldlM
    (fun targets text => after? targets (Directive.ofLine? (strippedEnd text))) targets

end Nesting

/-- Whether lines are well nested: every opening of a block has its `endif`, and every `endif` its
opening. -/
def WellNested (lines : List Line) : Prop := Nesting.afterAll? [] lines = some []

instance (lines : List Line) : Decidable (WellNested lines) :=
  inferInstanceAs (Decidable (_ = _))

namespace Nesting

variable {targets inner outer : List String} {lines region rest : List Line} {line : Line}

/-! ## The stack of open blocks -/

theorem afterAll?_cons (targets : List String) (line : Line) (rest : List Line) :
    afterAll? targets (line :: rest) =
      (after? targets (Directive.ofLine? (strippedEnd line.text))).bind (afterAll? · rest) := by
  simp only [afterAll?, List.map_cons, List.foldlM_cons, Option.bind_eq_bind]

theorem afterAll?_append (targets : List String) (lines more : List Line) :
    afterAll? targets (lines ++ more) = (afterAll? targets lines).bind (afterAll? · more) := by
  rw [afterAll?, List.map_append, List.foldlM_append]
  rfl

/-- What a line that fits does to the open blocks, one rule for each kind of line. -/
inductive Fits : List String → Option Directive → List String → Prop
  | text (targets : List String) : Fits targets none targets
  | inclusion (targets : List String) (d : Include) : Fits targets (some (.include d)) targets
  | inline (targets : List String) {d : Opening} {text : String}
    (inline : d.inlineText? = some text) : Fits targets (some (.opening d)) targets
  | opens (targets : List String) {d : Opening} (block : d.inlineText? = none)
    (targeted : d.Targeted) : Fits targets (some (.opening d)) (d.target :: targets)
  | closes {target : String} (outer : List String) {d : Closing} (bare : d.text = none)
    (named : d.target = "" ∨ d.target = target) : Fits (target :: outer) (some (.closing d)) outer

theorem fits_of_after? {d : Option Directive} (h : after? targets d = some inner) :
    Fits targets d inner := by
  rcases d with _ | d | d | d
  · cases h
    exact .text targets
  · cases h
    exact .inclusion targets d
  · simp only [after?] at h
    cases hinline : d.inlineText? with
    | some text =>
      rw [hinline, Option.isSome_some, if_pos rfl] at h
      cases h
      exact .inline targets hinline
    | none =>
      rw [hinline, Option.isSome_none, if_neg Bool.false_ne_true] at h
      split at h
      · rename_i htargeted
        cases h
        exact .opens targets hinline htargeted
      · cases h
  · cases targets with
    | nil => cases h
    | cons target outer =>
      simp only [after?] at h
      split at h
      · rename_i hends
        cases h
        exact .closes _ hends.1 hends.2
      · cases h

theorem Fits.after?_eq {d : Option Directive} (h : Fits targets d inner) :
    after? targets d = some inner := by
  cases h with
  | text | inclusion => rfl
  | inline _ inline => simp [after?, inline]
  | opens _ block targeted => simp [after?, block, targeted]
  | closes _ bare named => simp [after?, bare, named]

/-- An opening of a block that fits needs a target just if it has one, and opens the block. -/
theorem eq_of_after?_opening {d : Opening} (hblock : d.inlineText? = none)
    (h : after? targets (some (.opening d)) = some inner) :
    d.Targeted ∧ inner = d.target :: targets := by
  cases fits_of_after? h with
  | inline _ inline =>
    rw [hblock] at inline
    cases inline
  | opens _ _ targeted => exact ⟨targeted, rfl⟩

/-- A line that fits some open blocks fits them with other blocks around them. -/
theorem after?_frame {d : Option Directive} (h : after? targets d = some inner)
    (outer : List String) : after? (targets ++ outer) d = some (inner ++ outer) := by
  -- no rule looks below the innermost block
  refine Fits.after?_eq ?_
  cases fits_of_after? h with
  | text => exact .text _
  | inclusion => exact .inclusion _ _
  | inline _ inline => exact .inline _ inline
  | opens _ block targeted => exact .opens _ block targeted
  | closes _ bare named => exact .closes _ bare named

/-- Whether a line fits some open blocks is told by the innermost of them. -/
theorem after?_of_frame {d : Option Directive} {between : List String} (hopen : inner ≠ [])
    (h : after? (inner ++ outer) d = some between) :
    ∃ inner', after? inner d = some inner' ∧ between = inner' ++ outer := by
  obtain ⟨target, inner, rfl⟩ := List.exists_cons_of_ne_nil hopen
  rw [List.cons_append] at h
  cases fits_of_after? h with
  | text => exact ⟨_, (Fits.text _).after?_eq, rfl⟩
  | inclusion => exact ⟨_, (Fits.inclusion _ _).after?_eq, rfl⟩
  | inline _ inline => exact ⟨_, (Fits.inline _ inline).after?_eq, rfl⟩
  | opens _ block targeted => exact ⟨_, (Fits.opens _ block targeted).after?_eq, rfl⟩
  | closes _ bare named => exact ⟨_, (Fits.closes inner bare named).after?_eq, rfl⟩

/-- Lines that fit some open blocks fit them with other blocks around them. -/
theorem afterAll?_frame (h : afterAll? targets lines = some inner) (outer : List String) :
    afterAll? (targets ++ outer) lines = some (inner ++ outer) := by
  induction lines generalizing targets with
  | nil =>
    cases h
    rfl
  | cons line rest ih =>
    rw [afterAll?_cons] at h ⊢
    obtain ⟨between, hline, hrest⟩ := Option.bind_eq_some_iff.1 h
    rw [after?_frame hline outer]
    exact ih hrest

theorem afterAll?_of_wellNested (h : WellNested lines) (targets : List String) :
    afterAll? targets lines = some targets :=
  afterAll?_frame h targets

theorem wellNested_of_texts {more : List Line} (htexts : more.map (·.text) = lines.map (·.text))
    (h : WellNested lines) : WellNested more := by
  unfold WellNested afterAll? at h ⊢
  rw [htexts, h]

/-- Well-nested lines may take the place of an include. -/
theorem wellNested_splice {before new : List Line} {d : Include}
    (hd : Directive.ofLine? (strippedEnd line.text) = some (.include d)) (hnew : WellNested new)
    (h : WellNested (before ++ line :: rest)) : WellNested (before ++ (new ++ rest)) := by
  have hsame : ∀ targets, afterAll? targets (new ++ rest) = afterAll? targets (line :: rest) := by
    intro targets
    rw [afterAll?_cons, hd, afterAll?_append, afterAll?_of_wellNested hnew]
    rfl
  rw [WellNested, afterAll?_append] at h ⊢
  simp only [hsame]
  exact h

/-- A line that fits does to the open blocks what it does in a block that is left out. -/
theorem advance_of_after? {d : Option Directive} (h : after? targets d = some inner) :
    BlockEnd.advance targets d = (inner, none) := by
  cases fits_of_after? h with
  | text | inclusion => rfl
  | inline _ inline => exact BlockEnd.advance_of_inline inline
  | opens _ block targeted => exact BlockEnd.advance_of_block block targeted
  | closes _ bare named => simp [BlockEnd.advance, bare, named]

/-- An `endif` that fits ends the innermost block. -/
theorem close_of_after? {frames : List Frame} {d : Closing}
    (h : after? (frames.map (·.target)) (some (.closing d)) = some inner) :
    ∃ f rest, frames = f :: rest ∧ Frame.close frames d = .ok rest ∧
      inner = rest.map (·.target) := by
  cases frames with
  | nil => cases h
  | cons f rest =>
    rw [List.map_cons] at h
    cases fits_of_after? h with
    | closes _ bare named => exact ⟨f, rest, rfl, Frame.close_of_ends bare named, rfl⟩

/-! ## Lines that end blocks -/

/-- Whether lines end all of the given blocks, and the last of them with their last line. -/
inductive Closes : List String → List Line → Prop
  | done : Closes [] []
  | line {targets inner : List String} {line : Line} {rest : List Line} (isOpen : targets ≠ [])
    (fits : after? targets (Directive.ofLine? (strippedEnd line.text)) = some inner)
    (closes : Closes inner rest) : Closes targets (line :: rest)

theorem Closes.eq_nil (h : Closes targets region) : targets = [] ↔ region = [] := by
  cases h with
  | done => exact iff_of_true rfl rfl
  | line isOpen fits closes => exact iff_of_false isOpen (List.cons_ne_nil _ _)

/-- The first of the lines that end some blocks fits them, and those after it end what is left. -/
theorem Closes.of_cons (h : Closes targets (line :: region)) :
    targets ≠ [] ∧ ∃ inner,
      after? targets (Directive.ofLine? (strippedEnd line.text)) = some inner ∧
        Closes inner region := by
  cases h with
  | line isOpen fits closes => exact ⟨isOpen, _, fits, closes⟩

/-- Lines that end some blocks begin with lines that end the inner ones of them, and go on with
lines that end the others. -/
theorem exists_closes (h : afterAll? (inner ++ outer) lines = some []) :
    ∃ region rest, lines = region ++ rest ∧ Closes inner region ∧
      afterAll? outer rest = some [] := by
  induction lines generalizing inner with
  | nil =>
    obtain ⟨rfl, rfl⟩ := List.append_eq_nil_iff.1 (Option.some.inj h)
    exact ⟨[], [], rfl, .done, rfl⟩
  | cons line rest ih =>
    by_cases hopen : inner = []
    · -- the inner blocks are ended, so all that is left is for the outer ones
      subst hopen
      exact ⟨[], line :: rest, rfl, .done, h⟩
    rw [afterAll?_cons] at h
    obtain ⟨between, hline, hrest⟩ := Option.bind_eq_some_iff.1 h
    obtain ⟨inner', hfits, rfl⟩ := after?_of_frame hopen hline
    obtain ⟨region, rest', rfl, hcloses, houter⟩ := ih hrest
    exact ⟨line :: region, rest', rfl, .line hopen hfits hcloses, houter⟩

/-- Lines that leave more blocks open may be put before lines that end these, too. -/
theorem Closes.append_frame {extra extra' : List String}
    (hlines : afterAll? extra lines = some extra') (hopen : inner ≠ [])
    (h : Closes (extra' ++ inner) region) : Closes (extra ++ inner) (lines ++ region) := by
  -- the inner blocks stay open all the while, so no line before the region ends the last block
  induction lines generalizing extra with
  | nil =>
    cases hlines
    exact h
  | cons line rest ih =>
    rw [afterAll?_cons] at hlines
    obtain ⟨between, hline, hrest⟩ := Option.bind_eq_some_iff.1 hlines
    have hsome : extra ++ inner ≠ [] := List.append_ne_nil_of_right_ne_nil _ hopen
    exact .line hsome (after?_frame hline inner) (ih hrest)

/-- Well-nested lines may be put before lines that end blocks. -/
theorem Closes.append (h : Closes inner region) (hopen : inner ≠ []) (hlines : WellNested lines) :
    Closes inner (lines ++ region) :=
  append_frame hlines hopen h

end Nesting

/-- A block that is left out ends with the last of the lines that end it, and nothing is wrong with
it. -/
theorem BlockEnd.findFrom_of_closes {targets : List String} {region : List Line}
    (h : Nesting.Closes targets region) (hopen : targets ≠ []) (count : Nat) (rest : List Line) :
    findFrom targets count (region ++ rest) = ⟨some (count + region.length), []⟩ := by
  induction h generalizing count with
  | done => exact absurd rfl hopen
  | @line targets inner line region isOpen fits closes ih =>
    have hadvance := Nesting.advance_of_after? fits
    by_cases hinner : inner = []
    · -- this line ends the last block, so it is the last of the lines
      obtain rfl := closes.eq_nil.1 hinner
      rw [List.cons_append, findFrom_of_ended (by rw [hadvance, hinner])]
      rfl
    · rw [List.cons_append, findFrom_of_passed hadvance hinner, ih hinner, List.length_cons,
        Nat.add_assoc, Nat.add_comm 1]

/-- A block with the given target ends with the last of the lines that end it. -/
theorem BlockEnd.find_of_closes {target : String} {region : List Line}
    (h : Nesting.Closes [target] region) (rest : List Line) :
    find target (region ++ rest) = ⟨some region.length, []⟩ := by
  rw [find, findFrom_of_closes h (List.cons_ne_nil _ _), Nat.zero_add]

end Transclude
