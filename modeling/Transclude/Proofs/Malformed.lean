import Transclude.Proofs.Outline

/-!
# Malformed openings

An opening of a block that lacks the target it needs, or has one that it must not have, is
malformed. Where a reduction meets one, it is a false block of its own, which extends to its
`endif`. In a block that is left out it is nothing, so that its `endif` ends the block around it.
Where a block ends therefore depends on its condition, just if there are malformed openings in it.

## Main definitions

* `Outline.Malformed` : a malformed opening with the lines up to its `endif`.
* `Draft`             : the lines of a block, with malformed openings among them.
* `Draft.extent`      : the number of lines before the `endif` that ends a block that is left out.

## Main statements

* `BlockEnd.find_draft`  : where a block that is left out ends.
* `Draft.comes`          : what a block that is read comes to.
* `State.extent_of_block` : the ends of a block with a true condition and with a false one.
-/

namespace Transclude

open Transclude.Text

/-- A malformed opening of a block, some lines, and an `endif` without a target. -/
structure Outline.Malformed where
  line : Line
  opening : Opening
  opens : Directive.ofLine? (strippedEnd line.text) = some (.opening opening)
  block : opening.inlineText? = none
  untargeted : ¬ opening.Targeted
  body : Outline
  ending : Line
  closing : Closing
  closes : Directive.ofLine? (strippedEnd ending.text) = some (.closing closing)
  bare : closing.text = none
  anonymous : closing.target = ""

/-- The lines of a block: a tree, and perhaps malformed openings with trees before and after
them. -/
inductive Draft
  | sound (o : Outline)
  | malformed (before : Outline) (m : Outline.Malformed) (rest : Draft)

namespace Draft

/-- The lines of a draft. -/
def lines : Draft → List Line
  | sound o => o.lines
  | malformed before m rest =>
    before.lines ++ m.line :: (m.body.lines ++ m.ending :: rest.lines)

/-- The number of lines before the `endif` at which a block with these lines ends if it is left
out. -/
def extent : Draft → Nat
  | sound o => o.lines.length
  | malformed before m _ => before.lines.length + 1 + m.body.lines.length

/-- A block that is left out ends with its own `endif` just if there are no malformed openings in
it. -/
theorem extent_eq_iff (d : Draft) : d.extent = d.lines.length ↔ ∃ o, d = .sound o := by
  cases d with
  | sound o => exact iff_of_true rfl ⟨o, rfl⟩
  | malformed before m rest =>
    refine iff_of_false ?_ (fun ⟨o, ho⟩ => nomatch ho)
    simp only [extent, lines, List.length_append, List.length_cons]
    omega

end Draft

/-! ## Malformed openings in blocks that are left out -/

namespace BlockEnd

variable {targets : List String}

/-- In a block that is left out, a malformed opening is nothing. -/
theorem advance_of_malformed (m : Outline.Malformed) :
    advance targets (some (.opening m.opening)) = (targets, none) := by
  have huntargeted := m.untargeted
  cases hopening : m.opening with
  | presence d =>
    rw [hopening] at huntargeted
    have htarget : d.target = "" := not_not.1 huntargeted
    simp [advance, htarget]
  | comparison d =>
    rw [hopening] at huntargeted
    have htarget : d.target ≠ "" := huntargeted
    simp [advance, htarget]

/-- The `endif` of a malformed opening ends the innermost block, whatever its target. -/
theorem advance_of_anonymous (m : Outline.Malformed) (target : String) :
    advance (target :: targets) (some (.closing m.closing)) = (targets, none) := by
  simp [advance, m.bare, m.anonymous]

/-- A block that is left out ends with the `endif` of the first malformed opening in it, or with its
own if there is none. -/
theorem find_draft (b : Outline.Block) (d : Draft) (rest : List Line) :
    find b.opening.target (d.lines ++ b.ending :: rest) = ⟨some (d.extent + 1), []⟩ := by
  cases d with
  | sound o => exact find_lines b o rest
  | malformed before m after =>
    have hopen := List.cons_ne_nil b.opening.target []
    have hpassed : advance [b.opening.target] (Directive.ofLine? (strippedEnd m.line.text)) =
        ([b.opening.target], none) := by
      rw [m.opens, advance_of_malformed]
    have hended : (advance [b.opening.target]
        (Directive.ofLine? (strippedEnd m.ending.text))).1 = [] := by
      rw [m.closes, advance_of_anonymous]
    rw [find, Draft.lines, List.append_assoc, List.cons_append, List.append_assoc,
      List.cons_append, findFrom_lines before hopen, findFrom_of_passed hpassed hopen,
      findFrom_lines m.body hopen, findFrom_of_ended hended, Nat.zero_add]
    rfl

/-- The block of a malformed opening itself ends with its `endif`. -/
theorem find_malformed (m : Outline.Malformed) (rest : List Line) :
    find m.opening.target (m.body.lines ++ m.ending :: rest) =
      ⟨some (m.body.lines.length + 1), []⟩ := by
  have hended : (advance [m.opening.target]
      (Directive.ofLine? (strippedEnd m.ending.text))).1 = [] := by
    rw [m.closes, advance_of_anonymous]
  rw [find, findFrom_lines m.body (List.cons_ne_nil _ _), findFrom_of_ended hended, Nat.zero_add]

end BlockEnd

/-! ## Malformed openings that are read -/

namespace Outline.Malformed

/-- What is wrong with a malformed opening. -/
def error (m : Malformed) : EvaluationError :=
  match m.opening with
  | .presence d => .missingTarget d.raw
  | .comparison d => .targetNotPermitted d.raw

/-- The diagnostic for a malformed opening, which is fatal. -/
def problem (m : Malformed) : Diagnostic := ⟨.fatal, m.error.message, m.line.origin, .evaluation⟩

/-- What is known after a malformed opening and its lines. -/
def meaning (m : Malformed) (r : Reading) : Reading :=
  { r with problems := r.problems ++ [m.problem] }

/-- A malformed opening counts as false, whatever the attributes. -/
theorem judge (m : Malformed) (evaluator : Evaluator) (r : Reading) :
    r.judge evaluator m.opening m.line.origin = .ok (false, m.meaning r) := by
  have huntargeted := m.untargeted
  unfold Reading.judge meaning problem error
  cases hopening : m.opening with
  | presence d =>
    rw [hopening] at huntargeted
    have htarget : d.target = "" := not_not.1 huntargeted
    have hdecide : (Opening.presence d).decide evaluator r.attributes =
        .error (.missingTarget d.raw) := if_pos htarget
    rw [hdecide]
    rfl
  | comparison d =>
    rw [hopening] at huntargeted
    have htarget : d.target ≠ "" := huntargeted
    have hdecide : (Opening.comparison d).decide evaluator r.attributes =
        .error (.targetNotPermitted d.raw) := if_pos htarget
    rw [hdecide]
    rfl

end Outline.Malformed

/-- What is known after a draft: nothing is left of a malformed opening and its lines but the
diagnostic. -/
def Draft.meaning (evaluator : Evaluator) : Draft → Reading → Except NumeralError Reading
  | .sound o, r => o.meaning evaluator r
  | .malformed before m rest, r => do
    let r ← before.meaning evaluator r
    rest.meaning evaluator (m.meaning r)

namespace State

variable {setting : Setting} {s : State} {r : Reading} {frames : List Frame} {rest : List Line}

/-- A malformed opening is dropped with all lines up to its `endif`. -/
theorem Knows.after_of_malformed {m : Outline.Malformed}
    (h : s.Knows r frames (m.line :: (m.body.lines ++ m.ending :: rest)))
    (hnormal : setting.options.preserveConditionals.meaning = false) :
    ∃ t, After setting t s ∧ t.Knows (m.meaning r) frames rest := by
  have hstep := step_of_opening_judged hnormal h.pending m.opens
  have hjudge := h.judge setting m.opening m.line.origin
  rw [m.judge] at hjudge
  obtain ⟨c, hc, hknows⟩ := hjudge
  rw [hc] at hstep
  refine ⟨_, hstep, ?_⟩
  have hskip := hknows.skip_of_find m.line (BlockEnd.find_malformed m rest)
  have hdrop : (m.body.lines ++ m.ending :: rest).drop (m.body.lines.length + 1) = rest := by
    rw [List.drop_append]
    simp
  rw [hdrop] at hskip
  unfold onJudged
  rw [m.block]
  exact hskip

end State

/-- A reduction of a draft, with other lines after it, comes to the meaning of the draft, and opens
or ends no block in all. -/
theorem Draft.comes {setting : Setting}
    (hnormal : setting.options.preserveConditionals.meaning = false) (d : Draft) {s : State}
    {r : Reading} {frames : List Frame} {rest : List Line}
    (hactive : ∀ f ∈ frames, f.active = true) (h : s.Knows r frames (d.lines ++ rest)) :
    s.Comes setting frames rest (d.meaning setting.evaluator r) := by
  -- by induction on the draft: a tree, a malformed opening that is dropped, and what is after it
  induction d generalizing s r with
  | sound o => exact o.comes hnormal hactive h
  | malformed before m more ih =>
    rw [Draft.lines, List.append_assoc, List.cons_append, List.append_assoc, List.cons_append] at h
    refine (before.comes hnormal hactive h).bind fun t n ht => ?_
    obtain ⟨u, hafter, hu⟩ := ht.after_of_malformed hnormal
    exact .of_leads hafter.leads (ih hu)

/-- Where a block with malformed openings in it ends. If its condition is true, its lines are read in
it up to its own `endif`, which ends it. If the condition is false, all that is left out are the
lines up to the `endif` of the first malformed opening. The two are the same line just if there is
no malformed opening. -/
theorem State.extent_of_block {setting : Setting} {s : State} {r : Reading} {frames : List Frame}
    (hnormal : setting.options.preserveConditionals.meaning = false)
    (hactive : ∀ f ∈ frames, f.active = true) (b : Outline.Block) (d : Draft) (rest : List Line)
    (h : s.Knows r frames (b.line :: (d.lines ++ b.ending :: rest))) :
    let within := b.opening.frame true b.line.origin :: frames
    (match r.judge setting.evaluator b.opening b.line.origin with
      | .ok (true, m) =>
        s.Comes setting within (b.ending :: rest) (d.meaning setting.evaluator m) ∧
          ∀ t n, t.Knows n within (b.ending :: rest) →
            ∃ u, After setting u t ∧ u.Knows n frames rest
      | .ok (false, m) =>
        ∃ t, After setting t s ∧ t.Knows m frames ((d.lines ++ b.ending :: rest).drop (d.extent + 1))
      | .error e => ∃ i, s.step setting = .error i ∧ i.abort = .numeral e) ∧
      ((d.lines ++ b.ending :: rest).drop (d.extent + 1) = rest ↔ ∃ o, d = .sound o) := by
  intro within
  have hwithin : ∀ f ∈ within, f.active = true := by
    intro f hf
    rcases List.mem_cons.1 hf with rfl | hf
    · rfl
    · exact hactive f hf
  have hstep := step_of_opening_judged hnormal h.pending b.opens
  have hjudge := h.judge setting b.opening b.line.origin
  refine ⟨?_, ?_⟩
  · cases hdecided : r.judge setting.evaluator b.opening b.line.origin with
    | error e =>
      rw [hdecided] at hjudge
      obtain ⟨i, hi, habort⟩ := hjudge
      rw [hi] at hstep
      exact ⟨i, hstep, habort⟩
    | ok decided =>
      obtain ⟨active, m⟩ := decided
      rw [hdecided] at hjudge
      obtain ⟨c, hc, hknows⟩ := hjudge
      rw [hc] at hstep
      have hafter : After setting
          ((s.withContext c).onJudged b.line (d.lines ++ b.ending :: rest) b.opening active) s := hstep
      unfold onJudged at hafter
      rw [b.block] at hafter
      cases active with
      | true =>
        have hbody := d.comes hnormal hwithin
          ((hknows.enter b.opening b.line.origin).await (d.lines ++ b.ending :: rest))
        exact ⟨.of_leads hafter.leads hbody, fun t n ht => ht.after_of_closing hnormal⟩
      | false => exact ⟨_, hafter, hknows.skip_of_find b.line (BlockEnd.find_draft b d rest)⟩
  · rw [← d.extent_eq_iff]
    refine ⟨fun hdrop => ?_, fun hextent => ?_⟩
    · -- as many lines are dropped as stand before the rest
      have hlength := congrArg List.length hdrop
      simp only [List.length_drop, List.length_append, List.length_cons] at hlength
      have hle := BlockEnd.length_find_le (congrArg BlockEnd.length (BlockEnd.find_draft b d rest))
      simp only [List.length_append, List.length_cons] at hle
      omega
    · rw [hextent, List.drop_append]
      simp

/-- A block with a malformed opening in it: read, it is ended by the last `endif`; left out, by the
one before it, and a line of it is left. -/
theorem State.extent_of_block_nested :
    let setting : Setting := { cwd := "/", jail := ⟨.free, "/", none⟩, rootDirectory := "/" }
    let line : String → Line := fun text => ⟨text, { file := "a", line := 1 }⟩
    let b : Buffer := ⟨["ifdef::a[]", "ifdef::[]", "x", "endif::[]", "y", "endif::[]", "z"].map line⟩
    (∃ t u, Leads setting (Loop.start setting "a" { values := [("a", "")] } b).state t ∧
      t.pending = b.lines.drop 5 ∧ t.emitted = #[line "y"] ∧
      After setting u t ∧ u.pending = b.lines.drop 6 ∧ u.frames = []) ∧
    ∃ t, After setting t (Loop.start setting "a" {} b).state ∧ t.pending = b.lines.drop 4 ∧
      t.frames = [] := by
  intro setting line b
  let outer : Outline.Block :=
    { line := line "ifdef::a[]"
      opening := .presence ⟨"ifdef::a[]", false, "a", none, ["a"], .single⟩
      opens := by decide +kernel
      block := rfl
      targeted := by decide
      ending := line "endif::[]"
      closing := ⟨"endif::[]", "", none⟩
      closes := by decide +kernel
      bare := rfl
      named := .inl rfl }
  let inner : Outline.Malformed :=
    { line := line "ifdef::[]"
      opening := .presence ⟨"ifdef::[]", false, "", none, [""], .single⟩
      opens := by decide +kernel
      block := rfl
      untargeted := by decide
      body := .line ⟨line "x", by decide +kernel⟩ .done
      ending := line "endif::[]"
      closing := ⟨"endif::[]", "", none⟩
      closes := by decide +kernel
      bare := rfl
      anonymous := rfl }
  let d : Draft := .malformed .done inner (.sound (.line ⟨line "y", by decide +kernel⟩ .done))
  have hknows : ∀ attributes : AttributeSet, (Loop.start setting "a" attributes b).state.Knows
      { attributes := attributes } [] (outer.line :: (d.lines ++ outer.ending :: [line "z"])) :=
    fun _ => ⟨rfl, rfl, rfl, rfl, rfl, rfl⟩
  have hnormal : setting.options.preserveConditionals.meaning = false := rfl
  have hactive : ∀ f ∈ ([] : List Frame), f.active = true := fun f hf => absurd hf List.not_mem_nil
  have hjudge : ∀ attributes : AttributeSet, ∀ answer : Bool, attributes.contains "a" = answer →
      Reading.judge setting.evaluator { attributes := attributes } outer.opening outer.line.origin =
        .ok (answer, { attributes := attributes }) := by
    rintro attributes _ rfl
    simp [Reading.judge, outer, Opening.decide, Presence.decide, setting, Evaluator.standard]
  refine ⟨?_, ?_⟩
  · have hextent := (State.extent_of_block hnormal hactive outer d [line "z"]
      (hknows { values := [("a", "")] })).1
    rw [hjudge _ true (by decide +kernel)] at hextent
    obtain ⟨⟨t, hleads, ht⟩, hends⟩ := hextent
    obtain ⟨u, hafter, hu⟩ := hends t _ ht
    refine ⟨t, u, hleads, ht.pending, ?_, hafter, hu.pending, hu.frames⟩
    rw [← Array.toList_inj, ht.emitted]
    decide +kernel
  · have hextent := (State.extent_of_block hnormal hactive outer d [line "z"] (hknows {})).1
    rw [hjudge _ false (by decide +kernel)] at hextent
    obtain ⟨t, hafter, ht⟩ := hextent
    exact ⟨t, hafter, ht.pending, ht.frames⟩

/-- The last `endif` of a document ends its block if the attribute is defined. If it is not, the
block ends before, so that a line of it is left, and the last `endif` ends nothing. -/
theorem Buffer.reduce_malformed_leak :
    let setting : Setting := { cwd := "/", jail := ⟨.free, "/", none⟩, rootDirectory := "/" }
    let line : Nat → String → Line := fun n text => ⟨text, { file := "a", line := n }⟩
    let b : Buffer := ⟨[line 1 "ifdef::a[]", line 2 "ifdef::[]", line 3 "x", line 4 "endif::[]",
      line 5 "y", line 6 "endif::[]", line 7 "z"]⟩
    (∃ t u, State.Leads setting (Loop.start setting "a" { values := [("a", "")] } b).state t ∧
      t.pending = [line 6 "endif::[]", line 7 "z"] ∧ t.frames.map (·.raw) = ["ifdef::a[]"] ∧
      State.After setting u t ∧ u.frames = []) ∧
    BlockEnd.find "a" (b.lines.drop 1) = ⟨some 3, []⟩ ∧
    ∃ r journal, b.reduce setting "a" {} = .ok (r, journal) ∧
      r.lines = [line 5 "y", line 7 "z"] ∧
      r.diagnostics = [.structural "unmatched preprocessor directive: endif::[]"
        { file := "a", line := 6 }] := by
  intro setting line b
  let start : Context := .start setting "a" { values := [("a", "")] }
  let within : Context :=
    { start with frames := [⟨"ifdef::a[]", "a", true, { file := "a", line := 1 }⟩] }
  let missing : Diagnostic := ⟨.fatal, "malformed preprocessor directive - missing target: ifdef::[]",
    { file := "a", line := 2 }, .evaluation⟩
  let found : Context := within.log (.found missing)
  have hopening : State.After setting ⟨within, #[], b.lines.drop 1⟩
      (Loop.start setting "a" { values := [("a", "")] } b).state := by
    refine State.after_of_toOption ?_
    decide +kernel
  have hmalformed : State.After setting ⟨found, #[], b.lines.drop 4⟩
      ⟨within, #[], b.lines.drop 1⟩ := by
    refine State.after_of_toOption ?_
    decide +kernel
  have htext : State.After setting ⟨found, #[line 5 "y"], b.lines.drop 5⟩
      ⟨found, #[], b.lines.drop 4⟩ := by
    refine State.after_of_toOption ?_
    decide +kernel
  have hclosing : State.After setting ⟨{ found with frames := [] }, #[line 5 "y"], b.lines.drop 6⟩
      ⟨found, #[line 5 "y"], b.lines.drop 5⟩ := by
    refine State.after_of_toOption ?_
    decide +kernel
  have hreduce : b.reduce setting "a" {} = .ok (Result.ofRun setting "a" [line 5 "y", line 7 "z"]
      ((Context.start setting "a" {}).report "unmatched preprocessor directive: endif::[]"
        { file := "a", line := 6 })) := by
    refine Buffer.reduce_of_runWithin 5 ?_
    decide +kernel
  have hleads := ((State.After.leads hopening).trans hmalformed.leads).trans htext.leads
  refine ⟨⟨_, _, hleads, rfl, rfl, hclosing, rfl⟩, by decide +kernel, _, _, hreduce, rfl, ?_⟩
  decide +kernel

end Transclude
