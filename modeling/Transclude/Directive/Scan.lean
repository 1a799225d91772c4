import Transclude.Directive.Parser
import Transclude.Document.Buffer

/-!
# Scanning for directives

A scan reads lines in order and stops at the first that is a directive or an attribute entry. It
remembers whether it is inside a verbatim block (a listing, literal, comment, passthrough or fenced
block), where attribute entries are plain text; directives count everywhere.

## Main definitions

* `Verbatim.advance` : the verbatim state after a line that is no directive.
* `Hit.ofLine?`      : what a scan finds on a line, and the verbatim state after it.
* `Scan.next`        : the first find in a list of lines.
* `BlockEnd.find`    : the end of a conditional block that is skipped.
-/

namespace Transclude

open Transclude.Text

/-- The delimiter of the verbatim block that a scan is in, if it is in one. -/
abbrev Verbatim := Option String

namespace Verbatim

/-- The delimiter that a line is: a fence, which may be followed by text, or at least four copies of
one of the delimiter characters and nothing else. -/
def delimiter? (line : String) : Option String :=
  let s := line.toList
  match after? ['`', '`', '`'] s with
  | some _ => some (String.ofList ['`', '`', '`'])
  | none =>
    match s with
    | [] => none
    | c :: _ =>
      if ['-', '.', '/', '+'].contains c && decide (4 ≤ s.length) && s.all (· == c) then some line
      else none

/-- The verbatim state after a line that is no directive, and whether the line opened or closed a
block. Inside a block only its own delimiter counts. -/
def advance (state : Verbatim) (line : String) : Verbatim × Bool :=
  match delimiter? line with
  | none => (state, false)
  | some delimiter =>
    match state with
    | none => (some delimiter, true)
    | some opened => if opened = delimiter then (none, true) else (state, false)

end Verbatim

/-- What a scan in the given verbatim state finds on a line, and the state after the line. Blanks at
the end of a line do not count. -/
def Hit.ofLine? (state : Verbatim) (text : String) : Verbatim × Option Hit :=
  let line := strippedEnd text
  match Directive.ofLine? line with
  | some d => (state, some (.directive d))
  | none =>
    match state.advance line with
    | (state, true) => (state, none)
    | (none, false) => (none, (AttributeEntry.ofLine? line).map .entry)
    | (some opened, false) => (some opened, none)

/-- A line on which a scan finds a directive is that directive, without the blanks at its end. -/
theorem Hit.directive_of_ofLine? {state : Verbatim} {text : String} {d : Directive}
    (h : (Hit.ofLine? state text).2 = some (.directive d)) :
    Directive.ofLine? (strippedEnd text) = some d := by
  unfold Hit.ofLine? at h
  dsimp only at h
  split at h
  · rename_i d' hd
    simp only [Option.some.injEq, Hit.directive.injEq] at h
    rw [hd, h]
  · split at h
    · cases h
    · obtain ⟨e, -, he⟩ := Option.map_eq_some_iff.1 h
      cases he
    · cases h

/-- A scan finds the directive that a line is, whatever the verbatim state. -/
theorem Hit.ofLine?_of_directive {text : String} {d : Directive} (state : Verbatim)
    (h : Directive.ofLine? (strippedEnd text) = some d) :
    Hit.ofLine? state text = (state, some (.directive d)) := by
  simp [Hit.ofLine?, h]

/-- A line that neither opens nor closes a verbatim block leaves the verbatim state as it is. -/
theorem Verbatim.advance_eq_of_false {state after : Verbatim} {line : String}
    (h : state.advance line = (after, false)) : after = state := by
  unfold Verbatim.advance at h
  split at h
  · cases h
    rfl
  · split at h
    · cases h
    · split at h
      · cases h
      · cases h
        rfl

/-- An entry is no delimiter, as it begins with a colon. -/
theorem Verbatim.delimiter?_of_entry {line : String} {e : AttributeEntry}
    (h : AttributeEntry.ofLine? line = some e) : delimiter? line = none := by
  unfold AttributeEntry.ofLine? at h
  split at h
  · rename_i hcolon
    unfold delimiter?
    rw [hcolon]
    rfl
  · cases h

/-- A line on which a scan finds something leaves the verbatim state as it is. -/
theorem Hit.verbatim_of_ofLine? {state after : Verbatim} {text : String} {hit : Hit}
    (h : Hit.ofLine? state text = (after, some hit)) : after = state := by
  unfold Hit.ofLine? at h
  dsimp only at h
  split at h
  · cases h
    rfl
  · split at h
    · cases h
    · rename_i hadvance
      simp only [Prod.mk.injEq] at h
      rw [← h.1]
      exact Verbatim.advance_eq_of_false hadvance
    · cases h

/-- A line on which a scan finds something other than a directive is no directive. -/
theorem Hit.not_directive_of_ofLine? {state : Verbatim} {text : String}
    (h : ∀ d, (Hit.ofLine? state text).2 ≠ some (.directive d)) :
    Directive.ofLine? (strippedEnd text) = none := by
  cases hd : Directive.ofLine? (strippedEnd text) with
  | none => rfl
  | some d => exact absurd (by rw [Hit.ofLine?_of_directive state hd]) (h d)

namespace Scan

/-- The first find among lines that start at the given index, with its index, and the verbatim state
after the lines read. -/
def next (state : Verbatim) (index : Int) : List Line → Verbatim × Option (Int × Hit)
  | [] => (state, none)
  | line :: rest =>
    match Hit.ofLine? state line.text with
    | (state, some hit) => (state, some (index, hit))
    | (state, none) => next state (index + 1) rest

/-- The lines that are read from an index on. From an index below zero these are the lines that it
counts from the end, and then the whole buffer. -/
def linesFrom (buffer : Buffer) (start : Int) : Except BufferError (List Line) :=
  if 0 ≤ start then .ok (buffer.lines.drop start.toNat)
  else if 0 ≤ start + buffer.size then
    .ok (buffer.lines.drop (start + buffer.size).toNat ++ buffer.lines)
  else .error .outOfRange

/-- The first find in a buffer from an index on. -/
def inBuffer (state : Verbatim) (buffer : Buffer) (start : Int) :
    Except BufferError (Verbatim × Option (Int × Hit)) :=
  (linesFrom buffer start).map (next state start)

theorem linesFrom_natCast (buffer : Buffer) (n : Nat) :
    linesFrom buffer n = .ok (buffer.lines.drop n) := by
  unfold linesFrom
  rw [if_pos (by omega), Int.toNat_natCast]

theorem inBuffer_natCast (state : Verbatim) (buffer : Buffer) (n : Nat) :
    inBuffer state buffer n = .ok (next state n (buffer.lines.drop n)) := by
  rw [inBuffer, linesFrom_natCast]
  rfl

/-- Lines on which a scan finds nothing, with the verbatim states before and after them. -/
inductive Silent : Verbatim → List Line → Verbatim → Prop
  | nil (state : Verbatim) : Silent state [] state
  | cons {state between after : Verbatim} {line : Line} {rest : List Line}
    (nothing : Hit.ofLine? state line.text = (between, none)) (silent : Silent between rest after) :
    Silent state (line :: rest) after

/-- A scan without a find has read silent lines only. -/
theorem silent_of_next {state after : Verbatim} {index : Int} {lines : List Line}
    (h : next state index lines = (after, none)) : Silent state lines after := by
  induction lines generalizing state index with
  | nil =>
    cases h
    exact .nil _
  | cons line rest ih =>
    unfold next at h
    split at h
    · cases h
    · rename_i between hnothing
      exact .cons hnothing (ih h)

/-- A scan finds the first line that is not silent. -/
theorem found_of_next {state after : Verbatim} {index found : Int} {hit : Hit} {lines : List Line}
    (h : next state index lines = (after, some (found, hit))) :
    ∃ skipped line rest, lines = skipped ++ line :: rest ∧ found = index + skipped.length ∧
      Silent state skipped after ∧ Hit.ofLine? after line.text = (after, some hit) := by
  induction lines generalizing state index with
  | nil => cases h
  | cons line rest ih =>
    unfold next at h
    split at h
    · rename_i between hit' hfound
      cases h
      obtain rfl := Hit.verbatim_of_ofLine? hfound
      exact ⟨[], line, rest, rfl, by simp, .nil _, hfound⟩
    · rename_i between hnothing
      obtain ⟨skipped, line', rest', rfl, rfl, hsilent, hhit⟩ := ih h
      refine ⟨line :: skipped, line', rest', rfl, ?_, .cons hnothing hsilent, hhit⟩
      simp only [List.length_cons]
      omega

/-- A scan finds what comes after silent lines. -/
theorem next_of_silent {state between after : Verbatim} {skipped : List Line}
    (hsilent : Silent state skipped between) {line : Line} {hit : Hit}
    (hhit : Hit.ofLine? between line.text = (after, some hit)) (index : Int) (rest : List Line) :
    next state index (skipped ++ line :: rest) = (after, some (index + skipped.length, hit)) := by
  induction hsilent generalizing index with
  | nil =>
    rw [List.nil_append, next, hhit]
    simp
  | cons nothing _ ih =>
    rw [List.cons_append, next, nothing]
    dsimp only
    rw [ih hhit, List.length_cons, Int.natCast_add, Int.natCast_one,
      Int.add_assoc, Int.add_comm 1]

end Scan

/-- The wording of a text in the brackets of an `endif`. -/
def textNotPermitted (raw : String) : String :=
  s!"malformed preprocessor directive - text not permitted: {raw}"

/-- The wording of an `endif` that names another block than the innermost one. -/
def mismatched (target expected : String) : String :=
  s!"mismatched preprocessor directive: endif::{target}[], expected endif::{expected}[]"

/-- The outcome of skipping a conditional block: the number of lines up to and including the `endif`
that ends it, if there is one, and the problems met, each with the number of lines before it. -/
structure BlockEnd where
  length : Option Nat
  problems : List (Nat × String)
  deriving DecidableEq, Repr

namespace BlockEnd

/-- What a line does to the open blocks of a skipped region, innermost first: the open blocks after
it, and a problem. Blocks are matched by name and never evaluated. -/
def advance (targets : List String) : Option Directive → List String × Option String
  | some (.closing d) =>
    match d.text with
    | some _ => (targets, some (textNotPermitted d.raw))
    | none =>
      let expected := targets.headD ""
      if d.target = "" ∨ d.target = expected then (targets.tail, none)
      else (targets, some (mismatched d.target expected))
  | some (.opening (.comparison d)) =>
    (if d.target = "" then "" :: targets else targets, none)
  | some (.opening (.presence d)) =>
    (if d.target ≠ "" ∧ d.text = none then d.target :: targets else targets, none)
  | _ => (targets, none)

/-- The end of the innermost of the given open blocks and all blocks around it, counting lines from
`count` on. -/
def findFrom (targets : List String) (count : Nat) : List Line → BlockEnd
  | [] => ⟨none, []⟩
  | line :: rest =>
    let (targets, problem) := advance targets (Directive.ofLine? (strippedEnd line.text))
    if targets.isEmpty then ⟨some (count + 1), []⟩
    else
      let found := findFrom targets (count + 1) rest
      match problem with
      | none => found
      | some message => ⟨found.length, (count, message) :: found.problems⟩

/-- The end of a block with the given target, in the lines that follow its opening. -/
def find (target : String) (lines : List Line) : BlockEnd := findFrom [target] 0 lines

/-- The index of the `endif` that ends the block opened at an index of a buffer, and the problems
met, each with its index. -/
def inBuffer (buffer : Buffer) (opened : Int) (target : String) :
    Except BufferError (Option Int × List (Int × String)) :=
  (Scan.linesFrom buffer (opened + 1)).map fun lines =>
    let found := find target lines
    (found.length.map fun (n : Nat) => opened + (n : Int),
      found.problems.map fun (n, message) => (opened + 1 + (n : Int), message))

/-- A line that leaves no block open is where the search ends. -/
theorem findFrom_of_ended {targets : List String} {line : Line}
    (h : (advance targets (Directive.ofLine? (strippedEnd line.text))).1 = []) (count : Nat)
    (rest : List Line) : findFrom targets count (line :: rest) = ⟨some (count + 1), []⟩ := by
  unfold findFrom
  dsimp only
  rw [h]
  rfl

/-- After a line without a problem that leaves blocks open the search goes on from the next. -/
theorem findFrom_of_passed {targets inner : List String} {line : Line}
    (h : advance targets (Directive.ofLine? (strippedEnd line.text)) = (inner, none))
    (hinner : inner ≠ []) (count : Nat) (rest : List Line) :
    findFrom targets count (line :: rest) = findFrom inner (count + 1) rest := by
  rw [findFrom]
  simp only [h, List.isEmpty_iff, hinner, if_false]

/-- After a line that leaves blocks open the search goes on. -/
theorem length_findFrom_of_open {targets : List String} {line : Line}
    (h : (advance targets (Directive.ofLine? (strippedEnd line.text))).1 ≠ []) (count : Nat)
    (rest : List Line) :
    (findFrom targets count (line :: rest)).length = (findFrom
      (advance targets (Directive.ofLine? (strippedEnd line.text))).1 (count + 1) rest).length := by
  rw [findFrom]
  dsimp only
  rw [if_neg (by simpa using h)]
  split <;> rfl

/-- After a line that leaves blocks open its problem comes before those of the lines after it. -/
theorem problems_findFrom_of_open {targets : List String} {line : Line}
    (h : (advance targets (Directive.ofLine? (strippedEnd line.text))).1 ≠ []) (count : Nat)
    (rest : List Line) :
    (findFrom targets count (line :: rest)).problems =
      (advance targets (Directive.ofLine? (strippedEnd line.text))).2.toList.map (count, ·) ++
        (findFrom (advance targets (Directive.ofLine? (strippedEnd line.text))).1 (count + 1)
          rest).problems := by
  rw [findFrom]
  dsimp only
  rw [if_neg (by simpa using h)]
  split <;> rename_i hproblem <;> rw [hproblem] <;> rfl

/-- The end of a block is among the lines, counted from `count` on. -/
theorem length_findFrom_le {targets : List String} {count n : Nat} {lines : List Line}
    (h : (findFrom targets count lines).length = some n) : n ≤ count + lines.length := by
  induction lines generalizing targets count with
  | nil => cases h
  | cons line rest ih =>
    rw [List.length_cons]
    by_cases hended : (advance targets (Directive.ofLine? (strippedEnd line.text))).1 = []
    · rw [findFrom_of_ended hended] at h
      cases h
      omega
    · rw [length_findFrom_of_open hended] at h
      have := ih h
      omega

/-- A problem is with one of the lines, counted from `count` on. -/
theorem index_problems_findFrom {targets : List String} {count : Nat} {lines : List Line} :
    ∀ p ∈ (findFrom targets count lines).problems,
      count ≤ p.1 ∧ p.1 < count + lines.length := by
  induction lines generalizing targets count with
  | nil => exact fun p hp => nomatch hp
  | cons line rest ih =>
    intro p hp
    rw [List.length_cons]
    by_cases hended : (advance targets (Directive.ofLine? (strippedEnd line.text))).1 = []
    · rw [findFrom_of_ended hended] at hp
      cases hp
    · rw [problems_findFrom_of_open hended] at hp
      rcases List.mem_append.1 hp with hp | hp
      · obtain ⟨message, -, rfl⟩ := List.mem_map.1 hp
        dsimp only
        omega
      · have := ih p hp
        omega

/-- The end of a block is among the lines that follow its opening. -/
theorem length_find_le {target : String} {n : Nat} {lines : List Line}
    (h : (find target lines).length = some n) : n ≤ lines.length := by
  simpa using length_findFrom_le h

/-- A problem inside a block is with one of the lines that follow its opening. -/
theorem index_problems_find {target : String} {lines : List Line} :
    ∀ p ∈ (find target lines).problems, p.1 < lines.length := fun p hp => by
  simpa using (index_problems_findFrom p hp).2

end BlockEnd

end Transclude
