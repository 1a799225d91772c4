import Mathlib.Data.List.Forall2
import Transclude.Reduction.Run

/-!
# What stands in a block that is left out

Of a block that is left out, a reduction looks at the openings and the ends of the blocks inside it
only, for these tell how far it goes. All other lines of it may be exchanged for any others, be they
includes of files that exist or do not, attribute entries, delimiters of verbatim blocks or text:
the reduction goes on as if nothing had happened, and notes down the same.

## Main definitions

* `Line.Exchanged`    : whether a line may stand in the place of another in such a block.
* `BlockEnd.Encloses` : the lines that are dropped between the opening of a block and its end.
* `Loop.Omits`        : whether the next turn of a loop leaves out a block.

## Main statements

* `BlockEnd.findFrom_exchanged` : a block ends at the same place after lines of it are exchanged.
* `State.skip_exchanged`        : what is dropped and reported stays the same.
* `Loop.run_exchanged`          : so does all the rest of the reduction.
-/

namespace Transclude

open Transclude.Text

/-! ## Lines that may be exchanged -/

/-- Whether a directive opens or ends a conditional. -/
def Directive.isConditional : Directive → Bool
  | .include _ => false
  | .opening _ => true
  | .closing _ => true

/-- Whether a line opens or ends a conditional. -/
def Line.isConditional (line : Line) : Bool :=
  (Directive.ofLine? (strippedEnd line.text)).any Directive.isConditional

/-- Whether the second line may stand in the place of the first in a block that is left out: it is
the same line, or neither of them opens or ends a conditional. -/
inductive Line.Exchanged : Line → Line → Prop
  | kept (line : Line) : Exchanged line line
  | replaced {line other : Line} (old : line.isConditional = false)
    (new : other.isConditional = false) : Exchanged line other

/-- A line that opens or ends a conditional is kept. -/
theorem Line.Exchanged.eq_of_conditional {line other : Line} (h : line.Exchanged other)
    (hconditional : line.isConditional = true) : other = line := by
  cases h with
  | kept => rfl
  | replaced old new =>
    rw [old] at hconditional
    cases hconditional

/-- Exchanged lines are as many, and those that open or end conditionals stand where they stood. -/
theorem Line.getElem?_exchanged {lines others : List Line}
    (h : List.Forall₂ Line.Exchanged lines others) {n : Nat} {line : Line}
    (hline : lines[n]? = some line) (hconditional : line.isConditional = true) :
    others[n]? = some line := by
  induction h generalizing n with
  | nil => cases hline
  | cons hhead _ ih =>
    cases n with
    | zero =>
      simp only [List.getElem?_cons_zero, Option.some.injEq] at hline
      subst hline
      rw [List.getElem?_cons_zero, hhead.eq_of_conditional hconditional]
    | succ n =>
      rw [List.getElem?_cons_succ] at hline ⊢
      exact ih hline

namespace BlockEnd

variable {targets : List String} {count : Nat} {target : String}
  {lines others inside after : List Line} {line other : Line}

/-! ## The end of a block -/

/-- A line that is no conditional is passed over in a block that is left out. -/
theorem advance_of_other (h : line.isConditional = false) (targets : List String) :
    advance targets (Directive.ofLine? (strippedEnd line.text)) = (targets, none) := by
  unfold Line.isConditional at h
  generalize Directive.ofLine? (strippedEnd line.text) = found at h
  rcases found with _ | d | d | d
  · rfl
  · rfl
  · cases h
  · cases h

/-- A line means the same to the open blocks as the one in whose place it stands. -/
theorem advance_exchanged (h : line.Exchanged other) (targets : List String) :
    advance targets (Directive.ofLine? (strippedEnd other.text)) =
      advance targets (Directive.ofLine? (strippedEnd line.text)) := by
  cases h with
  | kept => rfl
  | replaced old new => rw [advance_of_other old, advance_of_other new]

/-- A block ends at the same place, and the same is wrong with it. -/
theorem findFrom_exchanged (h : List.Forall₂ Line.Exchanged lines others) :
    findFrom targets count others = findFrom targets count lines := by
  induction h generalizing targets count with
  | nil => rfl
  | cons hhead _ ih => simp only [findFrom, advance_exchanged hhead, ih]

/-- What is wrong with a block is wrong with a line that opens or ends a conditional. -/
theorem conditional_of_problem {n : Nat} {message : String}
    (h : (n, message) ∈ (findFrom targets count lines).problems) :
    ∃ line, lines[n - count]? = some line ∧ line.isConditional = true := by
  induction lines generalizing targets count with
  | nil => cases h
  | cons line rest ih =>
    by_cases hended : (advance targets (Directive.ofLine? (strippedEnd line.text))).1 = []
    · rw [findFrom_of_ended hended] at h
      cases h
    rw [problems_findFrom_of_open hended] at h
    rcases List.mem_append.1 h with h | h
    · -- the problem is with this line, and other lines than conditionals have none
      obtain ⟨_, hproblem, heq⟩ := List.mem_map.1 h
      cases heq
      refine ⟨line, by rw [Nat.sub_self, List.getElem?_cons_zero], ?_⟩
      refine eq_true_of_ne_false fun hother => ?_
      rw [advance_of_other hother] at hproblem
      cases hproblem
    · -- the problem is with a later line, which counts from one more
      obtain ⟨later, hlater, hconditional⟩ := ih h
      have hle := (index_problems_findFrom _ h).1
      have hindex : n - count = n - (count + 1) + 1 := by
        dsimp only at hle
        omega
      refine ⟨later, ?_, hconditional⟩
      rw [hindex, List.getElem?_cons_succ, hlater]

/-- Whether `inside` are the lines that are dropped between the opening of a block with the given
target and the end of the block, which is the first line of `after`. If no line ends the block,
everything is dropped. -/
def Encloses (target : String) (inside after : List Line) : Prop :=
  (find target (inside ++ after)).length = some (inside.length + 1) ∨
    (find target (inside ++ after)).length = none ∧ after = []

end BlockEnd

/-! ## The reduction after a block -/

namespace State

variable {setting : Setting} {s : State} {line : Line} {d : Opening}
  {inside others after : List Line}

/-- What is found wrong with a block is found at the same origins. -/
theorem problemsIn_exchanged {lines : List Line} (h : List.Forall₂ Line.Exchanged lines others)
    (target : String) :
    problemsIn others (BlockEnd.find target lines).problems =
      problemsIn lines (BlockEnd.find target lines).problems := by
  refine List.filterMap_congr fun (n, message) hproblem => ?_
  obtain ⟨line, hline, hconditional⟩ := BlockEnd.conditional_of_problem hproblem
  have hother := Line.getElem?_exchanged h hline hconditional
  rw [Nat.sub_zero] at hline hother
  dsimp only
  rw [hline, hother]

/-- A block that is left out is reported on alike, and the same lines are still to be read. -/
theorem skip_exchanged (h : List.Forall₂ Line.Exchanged inside others)
    (hencloses : BlockEnd.Encloses d.target inside after) (s : State) (line : Line) :
    s.skip line (others ++ after) d = s.skip line (inside ++ after) d := by
  have hall : List.Forall₂ Line.Exchanged (inside ++ after) (others ++ after) :=
    List.rel_append h (List.forall₂_same.2 fun l _ => .kept l)
  have hfind : BlockEnd.find d.target (others ++ after) =
      BlockEnd.find d.target (inside ++ after) := BlockEnd.findFrom_exchanged hall
  have hproblems := problemsIn_exchanged hall d.target
  rcases hencloses with hended | ⟨hunended, rfl⟩
  · -- what is left are the lines after the end, and as many are dropped before it
    have hdrop : (others ++ after).drop (inside.length + 1) =
        (inside ++ after).drop (inside.length + 1) := by
      rw [← List.drop_drop, ← List.drop_drop, List.drop_left, h.length_eq, List.drop_left]
    rw [skip_of_some (hfind ▸ hended), skip_of_some hended, hfind, hproblems, hdrop]
  · rw [skip_of_none (hfind ▸ hunended), skip_of_none hunended, hfind, hproblems]

/-- After the opening of a block with a false condition, a reduction goes on alike. -/
theorem run_await_exchanged (hnormal : setting.options.preserveConditionals.meaning = false)
    (hopens : Directive.ofLine? (strippedEnd line.text) = some (.opening d))
    (hblock : d.inlineText? = none) {c : Context}
    (hfalse : s.judge setting d line.origin = .ok (false, c))
    (hencloses : BlockEnd.Encloses d.target inside after)
    (h : List.Forall₂ Line.Exchanged inside others) :
    (s.await (line :: (others ++ after))).run setting =
      (s.await (line :: (inside ++ after))).run setting := by
  have hstep : ∀ rest, (s.await (line :: rest)).step setting =
      .ok (some (((s.await (line :: rest)).withContext c).skip line rest d)) := by
    intro rest
    have hjudge : (s.await (line :: rest)).judge setting d line.origin = .ok (false, c) := hfalse
    rw [step_of_opening_judged hnormal rfl hopens, hjudge]
    simp only [Except.map, onJudged, hblock]
  -- the next state is the same one, so nothing is left to compare
  have hskip : ((s.await (line :: (others ++ after))).withContext c).skip line (others ++ after) d =
      ((s.await (line :: (inside ++ after))).withContext c).skip line (inside ++ after) d :=
    skip_exchanged h hencloses _ line
  rw [run_eq, hstep, run_eq setting (s.await (line :: (inside ++ after))), hstep, hskip]

end State

namespace Loop

/-- Whether the next turn of a loop leaves out a block: its find is the line after `before`, which
opens a block with a false condition, `inside` are the lines that are dropped with it, and `after`
starts with the end of the block, if there is one. -/
structure Omits (setting : Setting) (l : Loop) (d : Opening) (before : List Line) (line : Line)
    (inside after : List Line) : Prop where
  lines : l.buffer.lines = before ++ line :: (inside ++ after)
  found : ∃ verbatim, Scan.inBuffer l.verbatim l.buffer l.cursor =
    .ok (verbatim, some ((before.length : Int), .directive (.opening d)))
  block : d.inlineText? = none
  decided : ∃ c, l.judge setting d line.origin = .ok (false, c)
  encloses : BlockEnd.Encloses d.target inside after

variable {setting : Setting} {l : Loop} {d : Opening} {before inside after others : List Line}
  {line : Line}

/-- A loop that is to leave out a block passes silent lines up to its opening, whatever comes after
that. -/
theorem Omits.leads (h : l.Omits setting d before line inside after) :
    Directive.ofLine? (strippedEnd line.text) = some (.opening d) ∧
      ∃ s : State, (∃ verbatim, s.toContext = { l.toContext with verbatim := verbatim }) ∧
        ∀ rest, State.Leads setting
          ({ l with buffer := ⟨before ++ line :: rest⟩ } : Loop).state
          (s.await (line :: rest)) := by
  obtain ⟨verbatim, hfound⟩ := h.found
  rw [Scan.inBuffer_natCast] at hfound
  obtain ⟨skipped, line', rest', hunread, hindex, hsilent, hhit⟩ :=
    Scan.found_of_next (Except.ok.inj hfound)
  -- the find is the line after `before`, which are the lines up to the cursor and the silent ones
  have hcursor := length_take_cursor hunread
  have hlines : before ++ line :: (inside ++ after) =
      (l.buffer.lines.take l.cursor ++ skipped) ++ line' :: rest' := by
    rw [← h.lines]
    exact lines_of_unread hunread
  have hlength : before.length = (l.buffer.lines.take l.cursor ++ skipped).length := by
    rw [length_before_unread hunread]
    omega
  obtain ⟨hbefore, hrest⟩ := List.append_inj hlines hlength
  obtain ⟨rfl, -⟩ := List.cons.inj hrest
  refine ⟨Hit.directive_of_ofLine? (by rw [hhit]), l.past verbatim skipped [], ⟨verbatim, rfl⟩,
    fun rest => ?_⟩
  have htake : (before ++ line :: rest).take l.cursor = l.buffer.lines.take l.cursor := by
    rw [hbefore, List.append_assoc]
    exact List.take_left' hcursor
  have hdrop : (before ++ line :: rest).drop l.cursor = skipped ++ line :: rest := by
    rw [hbefore, List.append_assoc]
    exact List.drop_left' hcursor
  have hleads := State.leads_of_silent setting hsilent
    ({ l with buffer := ⟨before ++ line :: rest⟩ } : Loop).state rfl hdrop
  simpa [state, past, State.withVerbatim, State.withContext, State.await, htake] using hleads

/-- Unless conditionals are preserved, a loop that is to leave out a block goes on alike after lines
inside the block are exchanged: it ends with the same lines, each of the same origin, with the same
attributes, and with the same journal of what it found, remarked and consulted, or is interrupted
alike. -/
theorem run_exchanged (hnormal : setting.options.preserveConditionals.meaning = false)
    (homits : l.Omits setting d before line inside after)
    (h : List.Forall₂ Line.Exchanged inside others) :
    Loop.run setting { l with buffer := ⟨before ++ line :: (others ++ after)⟩ } =
      l.run setting := by
  obtain ⟨hopens, s, ⟨verbatim, hcontext⟩, hleads⟩ := homits.leads
  obtain ⟨c, hfalse⟩ := homits.decided
  -- the verbatim block has no part in the decision
  have hdecided : s.judge setting d line.origin =
      .ok (false, { c with verbatim := verbatim }) := by
    rw [hcontext]
    unfold Context.judge at hfalse ⊢
    dsimp only
    split at hfalse
    · cases hfalse
      rfl
    · cases hfalse
    · cases hfalse
      rfl
  have hsame : ({ l with buffer := ⟨before ++ line :: (inside ++ after)⟩ } : Loop) = l := by
    rw [← homits.lines]
  have hold := State.run_of_leads (hleads (inside ++ after))
  rw [hsame] at hold
  rw [run_eq, run_eq, State.run_of_leads (hleads (others ++ after)), hold]
  exact State.run_await_exchanged hnormal hopens homits.block hdecided homits.encloses h

/-- A document without files beside it, with a false block in which an include and an `endif` for
another block stand: a delimiter in the place of the include leaves the result as it is, with the
line after the block and the report about the `endif`. -/
theorem run_exchanged_include :
    let setting : Setting := { cwd := "/", jail := ⟨.free, "/", none⟩, rootDirectory := "/" }
    let line : String → Line := fun text => ⟨text, { file := "a", line := 1 }⟩
    let d : Opening := .presence ⟨"ifdef::x[]", false, "x", none, ["x"], .single⟩
    let inside := ["include::b[]", "endif::y[]"].map line
    let others := ["----", "endif::y[]"].map line
    let after := ["endif::x[]", "z"].map line
    let l : Loop := .start setting "a" {} ⟨line "ifdef::x[]" :: (inside ++ after)⟩
    setting.options.preserveConditionals.meaning = false ∧
      l.Omits setting d [] (line "ifdef::x[]") inside after ∧
      List.Forall₂ Line.Exchanged inside others ∧
      ∃ c : Context, c.journal.diagnostics =
          [.structural (mismatched "y" "x") { file := "a", line := 1 }] ∧
        l.run setting = .ok ([line "z"], c) ∧
        Loop.run setting { l with buffer := ⟨line "ifdef::x[]" :: (others ++ after)⟩ } =
          .ok ([line "z"], c) := by
  intro setting line d inside others after l
  have hdecided : l.judge setting d (line "ifdef::x[]").origin = .ok (false, l.toContext) := by
    have hfalse : d.decide setting.evaluator l.attributes = .ok false := by rfl
    rw [Context.judge, hfalse]
  have homits : l.Omits setting d [] (line "ifdef::x[]") inside after :=
    { lines := rfl
      found := ⟨none, (Scan.inBuffer_natCast _ _ _).trans (congrArg Except.ok (by decide +kernel))⟩
      block := rfl
      decided := ⟨_, hdecided⟩
      encloses := .inl (by decide +kernel) }
  have hexchanged : List.Forall₂ Line.Exchanged inside others :=
    .cons (.replaced (by decide +kernel) (by decide +kernel)) (.cons (.kept _) .nil)
  let c : Context := { l.toContext with
    journal := #[.found (.structural (mismatched "y" "x") { file := "a", line := 1 })] }
  have hskip : State.After setting ⟨c, #[], [line "z"]⟩ l.state := by
    refine State.after_of_toOption ?_
    decide +kernel
  have hplain : State.After setting ⟨c, #[line "z"], []⟩ ⟨c, #[], [line "z"]⟩ := by
    refine State.after_of_toOption ?_
    decide +kernel
  have hrun : l.run setting = .ok ([line "z"], c) := by
    rw [run_eq, State.run_of_after hskip, State.run_of_after hplain, State.run_of_nil]
  have hsame := run_exchanged rfl homits hexchanged
  exact ⟨rfl, homits, hexchanged, c, rfl, hrun, hsame.trans hrun⟩

end Loop

end Transclude
