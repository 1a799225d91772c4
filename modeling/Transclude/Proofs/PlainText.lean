import Mathlib.Data.List.Basic
import Transclude.Reduction.Document

/-!
# Documents without directives

A document in which no line is a directive is left as it is. What is left out is what belongs to no
line: a byte-order mark at the start, and the carriage returns before line feeds. The last line is
ended if it was not. The lines know their numbers in the document, nothing is found wrong, and
reading the result comes to the same lines again, unless what was left out stood there twice.

## Main definitions

* `Text.ended`   : a text with its last line ended.
* `Text.unified` : a text with line feeds for the ends of all its lines.

## Main statements

* `Text.joinLines_splitLines` : the lines of a text, put together again.
* `Text.splitLines_joinLines` : the lines of a text that was put together from lines.
* `State.run_of_plain`        : lines that are no directives are emitted.
* `Document.reduce_plain`     : what a document without directives is reduced to.
-/

namespace Transclude

namespace Text

/-! ## Lines, and texts put together from them -/

/-- The text with a line feed at its end, unless it is empty or has one there. -/
def ended (s : List Char) : List Char :=
  if s = [] ∨ s.getLast? = some '\n' then s else s ++ ['\n']

/-- The text without a byte-order mark, with its last line ended, and with a line feed in the place
of each carriage return and line feed. -/
def unified (text : String) : String :=
  String.ofList (replaced ['\r', '\n'] ['\n'] (ended (dropMark text.toList)))

/-- A text has no line feed, or is a line and its line feed before a shorter text. -/
theorem induction_on_lines {P : List Char → Prop} (last : ∀ s, '\n' ∉ s → P s)
    (line : ∀ s t, '\n' ∉ s → P t → P (s ++ '\n' :: t)) (s : List Char) : P s := by
  induction hlength : s.length using Nat.strongRecOn generalizing s with
  | ind length ih =>
    by_cases hfeed : '\n' ∈ s
    · obtain ⟨first, rest, rfl, hfirst⟩ := List.eq_append_cons_of_mem hfeed
      refine line first rest hfirst (ih rest.length ?_ rest rfl)
      rw [List.length_append, List.length_cons] at hlength
      omega
    · exact last s hfeed

section Pieces

variable {s t : List Char} (hfeed : '\n' ∉ s)
include hfeed

private theorem fields_of_line : fields (· == '\n') s = [s] := by
  refine fields_eq_singleton fun c hc => ?_
  rw [beq_eq_false_iff_ne]
  rintro rfl
  exact hfeed hc

/-- A text without line feeds is one line, if it is not empty. -/
theorem linePieces_of_line (hne : s ≠ []) : linePieces s = [s] := by
  rw [linePieces, fields_of_line hfeed]
  simp [hne]

/-- Before the lines of what follows a line feed there is one more. -/
theorem linePieces_append : linePieces (s ++ '\n' :: t) = s :: linePieces t := by
  have hfields : fields (· == '\n') (s ++ '\n' :: t) = s :: fields (· == '\n') t := by
    have hsplit : fields (· == '\n') (s ++ '\n' :: t) =
        fields (· == '\n') s ++ fields (· == '\n') t := fields_append rfl s t
    rw [hsplit, fields_of_line hfeed, List.singleton_append]
  -- the last piece is that of what follows, for there is one
  obtain ⟨piece, pieces, hpieces⟩ := List.exists_cons_of_ne_nil (fields_ne_nil (· == '\n') t)
  rw [linePieces, linePieces, hfields, hpieces, List.getLast?_cons_cons]
  split
  · rfl
  · rfl

/-- What is replaced in a line and its line feed is a carriage return between them. -/
theorem replaced_append :
    replaced ['\r', '\n'] ['\n'] (s ++ '\n' :: t) =
      dropReturn s ++ '\n' :: replaced ['\r', '\n'] ['\n'] t := by
  unfold replaced
  induction s with
  | nil => rfl
  | cons c s ih =>
    have ih := ih fun hmem => hfeed (List.mem_cons_of_mem _ hmem)
    cases s with
    | nil =>
      by_cases hreturn : c = '\r'
      · subst hreturn
        rfl
      · have hnone : after? ['\r', '\n'] (c :: '\n' :: t) = none := by
          simp [after?, Ne.symm hreturn]
        have hline : dropReturn [c] = [c] := by
          simp [dropReturn, hreturn]
        rw [List.singleton_append, replacedFrom, hnone, hline]
        rfl
    | cons d s =>
      -- the line goes on, so `c` is not before its line feed
      have hd : '\n' ≠ d := by
        rintro rfl
        exact hfeed (by simp)
      have hnone : after? ['\r', '\n'] (c :: d :: (s ++ '\n' :: t)) = none := by
        simp [after?, hd]
      have hline : dropReturn (c :: d :: s) = c :: dropReturn (d :: s) := by
        simp only [dropReturn, List.getLast?_cons_cons, List.dropLast_cons_cons]
        split
        · rfl
        · rfl
      rw [List.cons_append, List.cons_append, replacedFrom, hnone, hline, List.cons_append]
      exact congrArg (c :: ·) ih

end Pieces

/-- A text is ended where what follows a line feed in it is. -/
theorem ended_append (s t : List Char) : ended (s ++ '\n' :: t) = s ++ '\n' :: ended t := by
  have hlast : (s ++ '\n' :: t).getLast? = ('\n' :: t).getLast? :=
    List.getLast?_append_of_ne_nil s (List.cons_ne_nil _ _)
  cases t with
  | nil => simp [ended]
  | cons c t =>
    unfold ended
    rw [hlast, List.getLast?_cons_cons]
    by_cases hfeed : (c :: t).getLast? = some '\n'
    · simp [hfeed]
    · simp [hfeed]

/-- The lines of a text, each with a line feed after it, are the text with its last line ended and
without the carriage returns at the ends of lines. -/
theorem flatMap_linePieces (s : List Char) :
    (linePieces s).flatMap (fun line => dropReturn line ++ ['\n']) =
      replaced ['\r', '\n'] ['\n'] (ended s) := by
  -- the last line is the one that may not have a line feed
  induction s using induction_on_lines with
  | last s hfeed =>
    by_cases hs : s = []
    · subst hs
      rfl
    · have hended : ended s = s ++ ['\n'] := by
        rw [ended, if_neg]
        rintro (hnil | hlast)
        · exact hs hnil
        · exact hfeed (List.mem_of_getLast? hlast)
      rw [linePieces_of_line hfeed hs, hended, replaced_append hfeed]
      simp [replaced, replacedFrom]
  | line s t hfeed ih =>
    rw [linePieces_append hfeed, List.flatMap_cons, ih, ended_append, replaced_append hfeed,
      List.append_assoc, List.singleton_append]

/-- The lines of a text, put together again. -/
theorem joinLines_splitLines (text : String) : joinLines (splitLines text) = unified text := by
  apply String.toList_inj.1
  rw [toList_joinLines, splitLines, List.flatMap_map, unified, String.toList_ofList,
    ← flatMap_linePieces]
  simp

/-- A line has no line feed. -/
theorem feed_not_mem_splitLines {text line : String} (h : line ∈ splitLines text) :
    '\n' ∉ line.toList := by
  obtain ⟨piece, hpiece, rfl⟩ := List.mem_map.1 h
  have hfields : piece ∈ fields (· == '\n') (dropMark text.toList) := by
    unfold linePieces at hpiece
    dsimp only at hpiece
    split at hpiece
    · exact List.dropLast_subset _ hpiece
    · exact hpiece
  intro hfeed
  rw [String.toList_ofList] at hfeed
  have hmem : '\n' ∈ piece := by
    unfold dropReturn at hfeed
    split at hfeed
    · exact List.dropLast_subset _ hfeed
    · exact hfeed
  have hsep := sep_eq_false_of_mem_fields hfields '\n' hmem
  simp at hsep

theorem dropMark_of_head? {s : List Char} (h : s.head? ≠ some '\uFEFF') : dropMark s = s := by
  unfold dropMark
  split
  · exact absurd rfl h
  · rfl

/-- The lines of a text that was put together from lines are these, if none of them has anything
that belongs to no line. -/
theorem splitLines_joinLines {lines : List String} (hfeed : ∀ line ∈ lines, '\n' ∉ line.toList)
    (hreturn : ∀ line ∈ lines, line.toList.getLast? ≠ some '\r')
    (hmark : ∀ line ∈ lines.head?, line.toList.head? ≠ some '\uFEFF') :
    splitLines (joinLines lines) = lines := by
  -- the mark is looked for in the whole text, so the lines are general here
  have hpieces : ∀ lines : List String, (∀ line ∈ lines, '\n' ∉ line.toList) →
      linePieces (lines.flatMap fun line => line.toList ++ ['\n']) = lines.map (·.toList) := by
    intro lines hfeed
    induction lines with
    | nil => rfl
    | cons line lines ih =>
      rw [List.flatMap_cons, List.append_assoc, List.singleton_append,
        linePieces_append (hfeed line List.mem_cons_self),
        ih fun l hl => hfeed l (List.mem_cons_of_mem _ hl), List.map_cons]
  have hkept : dropMark (joinLines lines).toList = (joinLines lines).toList := by
    refine dropMark_of_head? ?_
    rw [toList_joinLines]
    cases lines with
    | nil => simp
    | cons line lines =>
      -- an empty line begins with its line feed
      have hfirst := hmark line rfl
      cases hline : line.toList with
      | nil => simp [hline]
      | cons c s =>
        rw [hline] at hfirst
        simpa [hline] using hfirst
  rw [splitLines, hkept, toList_joinLines, hpieces lines hfeed, List.map_map]
  refine (List.map_congr_left fun line hline => ?_).trans (List.map_id _)
  simp [dropReturn, hreturn line hline]

end Text

open Transclude.Text

/-! ## Lines that are no directives -/

namespace State

variable {setting : Setting} {s : State} {line : Line} {rest : List Line}

/-- A line that is no directive is emitted. No block is opened, and nothing is found wrong. -/
theorem onLine_of_plain (setting : Setting) (s : State) (rest : List Line)
    (h : Directive.ofLine? (strippedEnd line.text) = none) :
    ∃ c : Context, s.onLine setting line rest = .ok ((s.withContext c).emit line rest) ∧
      c.frames = s.frames ∧ c.journal.diagnostics = s.journal.diagnostics := by
  cases hfound : Hit.ofLine? s.verbatim line.text with
  | mk verbatim hit =>
    cases hit with
    | none => exact ⟨_, onLine_of_none hfound, rfl, rfl⟩
    | some hit =>
      obtain rfl := Hit.verbatim_of_ofLine? hfound
      cases hit with
      | directive d =>
        have hdirective := Hit.directive_of_ofLine? (congrArg Prod.snd hfound)
        rw [h] at hdirective
        cases hdirective
      | entry e =>
        refine ⟨s.afterEntry e, ?_, s.toContext.frames_afterEntry e,
          s.toContext.diagnostics_afterEntry e⟩
        rw [onLine_of_some hfound]
        rfl

/-- Lines that are no directives are emitted, all of them. -/
theorem run_of_plain (setting : Setting) (s : State)
    (h : ∀ line ∈ s.pending, Directive.ofLine? (strippedEnd line.text) = none) :
    ∃ c : Context, s.run setting = .ok (s.emitted.toList ++ s.pending, c) ∧
      c.frames = s.frames ∧ c.journal.diagnostics = s.journal.diagnostics := by
  obtain ⟨c, emitted, pending⟩ := s
  -- every line leads to a state with another context and one more line emitted
  induction pending generalizing c emitted with
  | nil =>
    refine ⟨c, ?_, rfl, rfl⟩
    rw [run_of_nil, List.append_nil]
  | cons line rest ih =>
    obtain ⟨next, honLine, hframes, hdiagnostics⟩ :=
      onLine_of_plain setting ⟨c, emitted, line :: rest⟩ rest (h line List.mem_cons_self)
    have hafter : After setting ⟨next, emitted.push line, rest⟩ ⟨c, emitted, line :: rest⟩ := by
      rw [After, step_of_cons rfl, honLine]
      rfl
    obtain ⟨last, hrun, hframes', hdiagnostics'⟩ :=
      ih next (emitted.push line) fun l hl => h l (List.mem_cons_of_mem _ hl)
    refine ⟨last, ?_, hframes'.trans hframes, hdiagnostics'.trans hdiagnostics⟩
    rw [run_of_after hafter, hrun, Array.toList_push, List.append_assoc, List.singleton_append]

end State

/-- A document of which no line is a directive has a result, whichever way conditionals are treated:
its text, with line feeds for the ends of its lines, each line with its number, and nothing wrong.
The lines of this text are those of the document, if none of them ends in a carriage return and the
first does not begin with a byte-order mark. -/
theorem Document.reduce_plain (d : Document) (s : Setting) (attributes : Mapping)
    (hregistry : s.registry.preprocessors = [])
    (hplain : ∀ line ∈ splitLines d.text, Directive.ofLine? (strippedEnd line) = none) :
    ∃ result journal, d.reduce s attributes = .ok (result, journal) ∧
      result.text = unified d.text ∧
      result.lines = Line.number (fun n => { file := d.name, line := n }) (splitLines d.text) ∧
      result.diagnostics = [] ∧
      ((∀ line ∈ splitLines d.text, line.toList.getLast? ≠ some '\r') →
        (∀ line ∈ (splitLines d.text).head?, line.toList.head? ≠ some '\uFEFF') →
          splitLines result.text = splitLines d.text) := by
  let lines := Line.number (fun n => { file := d.name, line := n }) (splitLines d.text)
  have hlines : d.lines s.registry = lines := by
    rw [Document.lines, Registry.preprocess, hregistry]
    rfl
  have htexts : lines.map (·.text) = splitLines d.text := by
    show (Line.number _ _).map _ = _
    rw [Line.number, List.map_map]
    exact List.zipIdx_map_fst 0 _
  let start := AttributeSet.ofOptions attributes (d.intrinsics s.options.safeMode)
  obtain ⟨c, hrun, hframes, hdiagnostics⟩ :=
    State.run_of_plain s (Loop.start s d.name start ⟨lines⟩).state fun line hline =>
      hplain line.text (htexts ▸ List.mem_map_of_mem hline)
  have hreduce : Buffer.reduce s d.name start ⟨d.lines s.registry⟩ =
      .ok (Result.ofRun s d.name lines c) := by
    rw [hlines]
    exact Buffer.reduce_of_run hrun
  have htext : (Result.ofRun s d.name lines c).1.text = joinLines (splitLines d.text) :=
    congrArg joinLines htexts
  refine ⟨_, _, by rw [Document.reduce, hreduce]; rfl, ?_, rfl, ?_, fun hreturn hmark => ?_⟩
  · exact htext.trans (joinLines_splitLines d.text)
  · show c.finish.journal.diagnostics = []
    rw [Context.finish, hframes]
    exact hdiagnostics
  · have hfeed : ∀ line ∈ splitLines d.text, '\n' ∉ line.toList :=
      fun _ => feed_not_mem_splitLines
    exact (congrArg splitLines htext).trans (splitLines_joinLines hfeed hreturn hmark)

/-- A document with a byte-order mark, with entries, a delimiter and what is almost a directive, and
with other line ends: only the mark and the carriage returns are lost. -/
theorem Document.reduce_plain_returns :
    let s : Setting := { cwd := "/", jail := ⟨.free, "/", none⟩, rootDirectory := "/" }
    let d : Document := ⟨"\uFEFF:x: 1\r\n----\r\n\n\\include::b[]\r\ninclude::b", none⟩
    s.registry.preprocessors = [] ∧
      (∀ line ∈ splitLines d.text, Directive.ofLine? (strippedEnd line) = none) ∧
      ∃ result journal, d.reduce s [] = .ok (result, journal) ∧
        result.text = ":x: 1\n----\n\n\\include::b[]\ninclude::b\n" ∧
        result.diagnostics = [] ∧ splitLines result.text = splitLines d.text := by
  intro s d
  have hplain : ∀ line ∈ splitLines d.text, Directive.ofLine? (strippedEnd line) = none := by
    decide +kernel
  obtain ⟨result, journal, hreduce, htext, -, hdiagnostics, hread⟩ :=
    Document.reduce_plain d s [] rfl hplain
  refine ⟨rfl, hplain, result, journal, hreduce, htext.trans ?_, hdiagnostics, hread ?_ ?_⟩
  · decide +kernel
  · decide +kernel
  · decide +kernel

end Transclude
