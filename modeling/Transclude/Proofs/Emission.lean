import Transclude.Proofs.Splicing

/-!
# What is known is what was emitted

Unless conditionals are preserved, nothing but the lines before the cursor makes the attributes and
the verbatim block of a reduction. They are what a scan of these lines from the start tells: it finds
attribute entries only, and each of them was applied once, in order. An include or a condition is
read with the entries before it, and with no others.

## Main definitions

* `Scan.all`                  : all finds of a scan that goes on after each of them.
* `AttributeSet.afterEntries` : the attributes after some entries in turn.
* `Context.ToldBy`            : whether the attributes and the verbatim block are those of some
  lines.

## Main statements

* `State.Rule.told`         : a step keeps to what the emitted lines tell.
* `Buffer.reduce_attributes` : at every turn the attributes are those of the lines before the cursor.
-/

namespace Transclude

open Transclude.Text

/-- The set after some attribute entries in turn. An entry for a locked attribute changes nothing. -/
def AttributeSet.afterEntries (a : AttributeSet) (entries : List AttributeEntry) : AttributeSet :=
  entries.foldl (fun a e => (a.afterEntry? e).getD a) a

/-! ## All finds of a scan -/

namespace Scan

/-- All finds of a scan that goes on after each of them, and the verbatim state after the lines. -/
def all (state : Verbatim) : List Line → Verbatim × List Hit
  | [] => (state, [])
  | line :: rest =>
    match Hit.ofLine? state line.text with
    | (state, none) => all state rest
    | (state, some hit) => ((all state rest).1, hit :: (all state rest).2)

/-- If nothing is found from the start on, nothing is found at all. -/
theorem all_of_next_none {state after : Verbatim} {index : Int} {lines : List Line}
    (h : next state index lines = (after, none)) : all state lines = (after, []) := by
  induction lines generalizing state index with
  | nil =>
    cases h
    rfl
  | cons line rest ih =>
    unfold next at h
    split at h
    · cases h
    · rename_i between hnothing
      rw [all, hnothing]
      exact ih h

/-- After the first find, the scan goes on with the lines after it. -/
theorem all_of_next_some {state after : Verbatim} {index found : Int} {hit : Hit}
    {lines : List Line} (h : next state index lines = (after, some (found, hit))) :
    all state lines =
      ((all after (lines.drop (found + 1 - index).toNat)).1,
        hit :: (all after (lines.drop (found + 1 - index).toNat)).2) := by
  induction lines generalizing state index with
  | nil => cases h
  | cons line rest ih =>
    unfold next at h
    split at h
    · rename_i hhit
      cases h
      have hone : (found + 1 - found).toNat = 1 := by omega
      rw [all, hhit, hone]
      rfl
    · rename_i between hnothing
      obtain ⟨skipped, _, _, _, hfound, -, -⟩ := found_of_next h
      have hsucc : (found + 1 - index).toNat = (found + 1 - (index + 1)).toNat + 1 := by omega
      rw [all, hnothing, hsucc, List.drop_succ_cons]
      exact ih h

theorem verbatim_cons (v : Verbatim) (line : Line) (rest : List Line) :
    (all v (line :: rest)).1 = (all (Hit.ofLine? v line.text).1 rest).1 := by
  rw [all]
  split <;> rename_i hfound <;> rw [hfound]

/-- In silent lines nothing is found. -/
theorem all_of_silent {state after : Verbatim} {lines : List Line}
    (h : Silent state lines after) : all state lines = (after, []) := by
  induction h with
  | nil => rfl
  | cons nothing _ ih =>
    rw [all, nothing]
    exact ih

/-- The finds in lines and in those after them. -/
theorem all_append (state : Verbatim) (lines more : List Line) :
    all state (lines ++ more) =
      ((all (all state lines).1 more).1, (all state lines).2 ++ (all (all state lines).1 more).2) := by
  induction lines generalizing state with
  | nil => rfl
  | cons line rest ih =>
    rw [List.cons_append, all, all]
    split
    · exact ih _
    · rw [ih]
      rfl

end Scan

namespace Context

/-! ## What lines tell -/

/-- Whether the attributes and the verbatim block are those that some lines tell, given the
attributes at their start: a scan of the lines finds attribute entries only, and these are applied in
turn. -/
def ToldBy (start : AttributeSet) (lines : List Line) (c : Context) : Prop :=
  ∃ entries, Scan.all none lines = (c.verbatim, entries.map Hit.entry) ∧
    c.attributes = start.afterEntries entries

variable {start : AttributeSet} {lines : List Line} {line : Line} {c c' : Context}

/-- Only the attributes and the verbatim block count. -/
theorem ToldBy.congr (h : ToldBy start lines c) (hattributes : c'.attributes = c.attributes)
    (hverbatim : c'.verbatim = c.verbatim) : ToldBy start lines c' := by
  rwa [ToldBy, hattributes, hverbatim]

/-- A line without a find may change the verbatim block. -/
theorem ToldBy.silent (h : ToldBy start lines c) {verbatim : Verbatim}
    (nothing : Hit.ofLine? c.verbatim line.text = (verbatim, none)) :
    ToldBy start (lines ++ [line]) { c with verbatim := verbatim } := by
  obtain ⟨entries, hall, hattributes⟩ := h
  refine ⟨entries, ?_, hattributes⟩
  rw [Scan.all_append, hall, Scan.all, nothing]
  simp [Scan.all]

/-- Lines without a find may change the verbatim block. -/
theorem ToldBy.allSilent {skipped : List Line} {verbatim : Verbatim} (h : ToldBy start lines c)
    (hsilent : Scan.Silent c.verbatim skipped verbatim) :
    ToldBy start (lines ++ skipped) { c with verbatim := verbatim } := by
  obtain ⟨entries, hall, hattributes⟩ := h
  refine ⟨entries, ?_, hattributes⟩
  rw [Scan.all_append, hall, Scan.all_of_silent hsilent, List.append_nil]

/-- An attribute entry changes the attributes. -/
theorem ToldBy.entry (h : ToldBy start lines c) {e : AttributeEntry}
    (found : Hit.ofLine? c.verbatim line.text = (c.verbatim, some (.entry e)))
    (hattributes : c'.attributes = (c.attributes.afterEntry? e).getD c.attributes)
    (hverbatim : c'.verbatim = c.verbatim) : ToldBy start (lines ++ [line]) c' := by
  obtain ⟨entries, hall, hbefore⟩ := h
  refine ⟨entries ++ [e], ?_, ?_⟩
  · rw [Scan.all_append, hall, Scan.all, found, hverbatim]
    simp [Scan.all]
  · rw [hattributes, hbefore]
    simp [AttributeSet.afterEntries]

end Context

namespace State

variable {setting : Setting} {start : AttributeSet} {s t : State} {line : Line} {rest : List Line}

/-- Whether what a reduction knows is what the lines emitted tell. All blocks that are open are
true. -/
structure Told (start : AttributeSet) (s : State) : Prop where
  active : ∀ f ∈ s.frames, f.active = true
  told : s.toContext.ToldBy start s.emitted.toList

/-- A step keeps to what the emitted lines tell: it emits a line and takes note of it, or does
neither. -/
theorem Rule.told (h : Rule setting s line rest t)
    (hnormal : setting.options.preserveConditionals.meaning = false) (hs : s.Told start) :
    t.Told start := by
  -- the rules that preserve conditionals are excluded
  have hexcluded : setting.options.preserveConditionals.meaning = true → t.Told start := by
    intro hpreserved
    rw [hnormal] at hpreserved
    cases hpreserved
  cases h with
  | plain verbatim nothing =>
    refine ⟨hs.active, ?_⟩
    show Context.ToldBy start (s.emitted.push line).toList _
    rw [Array.toList_push]
    exact hs.told.silent nothing
  | entry e found =>
    obtain ⟨journal, -, heq⟩ := Context.afterEntry_of_active (Context.active_of_frames hs.active) e
    refine ⟨?_, ?_⟩
    · show ∀ f ∈ (s.afterEntry e).frames, f.active = true
      rw [heq]
      exact hs.active
    · show Context.ToldBy start (s.emitted.push line).toList (s.afterEntry e)
      rw [Array.toList_push, heq]
      exact hs.told.entry found rfl rfl
  | inclusion d lines c _ resolved =>
    obtain ⟨_, _, rfl⟩ := Context.eq_of_resolve resolved
    exact ⟨hs.active, hs.told.congr rfl rfl⟩
  | closingDropped d =>
    obtain ⟨frames, journal, heq, -⟩ := s.toContext.afterClosing_eq d line.origin
    refine ⟨fun f hf => hs.active f (Context.mem_frames_afterClosing hf), ?_⟩
    · show Context.ToldBy start s.emitted.toList (s.afterClosing d line.origin)
      rw [heq]
      exact hs.told.congr rfl rfl
  | inlineTrue d text c _ _ _ judged | inlineFalse d text c _ _ _ judged =>
    obtain ⟨_, rfl, -⟩ := Context.eq_of_judge judged
    exact ⟨hs.active, hs.told.congr rfl rfl⟩
  | blockTrue d c _ _ _ judged =>
    obtain ⟨_, rfl, -⟩ := Context.eq_of_judge judged
    refine ⟨?_, hs.told.congr rfl rfl⟩
    intro f hf
    rcases List.mem_cons.1 hf with rfl | hf
    · rfl
    · exact hs.active f hf
  | blockFalse d c _ _ _ judged =>
    obtain ⟨journal, rfl, -⟩ := Context.eq_of_judge judged
    obtain ⟨hemitted, _, heq, -⟩ :=
      skip_eq (s.withContext { s.toContext with journal := journal }) line rest d
    refine ⟨?_, ?_⟩
    · rw [heq]
      exact hs.active
    · rw [hemitted, heq]
      exact hs.told.congr rfl rfl
  | closingKept _ _ preserved | inlineRewritten _ _ _ preserved | inlineKept _ _ _ preserved
  | blockKept _ _ _ _ preserved => exact hexcluded preserved

/-- So do all steps. -/
theorem Leads.told (h : Leads setting s t)
    (hnormal : setting.options.preserveConditionals.meaning = false) (hs : s.Told start) :
    t.Told start := by
  refine h.preserves hs fun s t hafter hs => ?_
  obtain ⟨_, _, -, hrule⟩ := hafter.rule
  exact hrule.told hnormal hs

/-- At the start nothing is emitted, and nothing else is known than the attributes. -/
theorem told_start (setting : Setting) (file : String) (start : AttributeSet) (b : Buffer) :
    (Loop.start setting file start b).state.Told start :=
  ⟨fun _ hf => (nomatch hf), [], rfl, rfl⟩

end State

/-- Unless conditionals are preserved, at every turn of a loop the attributes and the verbatim block
are those that the lines before the cursor tell, and the turn acts on its find with those that the
lines before the find tell. The attributes of the result are those that its lines tell. -/
theorem Buffer.reduce_attributes (setting : Setting) (file : String) (attributes : AttributeSet)
    (b : Buffer) (hnormal : setting.options.preserveConditionals.meaning = false) :
    (∀ ls, Loop.Trace setting (.start setting file attributes b) ls → ∀ l ∈ ls,
        Context.ToldBy attributes (l.buffer.lines.take l.cursor) l.toContext ∧
        ∀ verbatim index hit,
          Scan.inBuffer l.verbatim l.buffer l.cursor = .ok (verbatim, some (index, hit)) →
            Context.ToldBy attributes (l.buffer.lines.take index.toNat)
              { l.toContext with verbatim := verbatim } ∧
            l.step setting =
              ((l.withContext { l.toContext with verbatim := verbatim }).onHit setting index
                hit).map .next) ∧
      ∀ r journal, b.reduce setting file attributes = .ok (r, journal) →
        ∃ verbatim entries, Scan.all none r.lines = (verbatim, entries.map .entry) ∧
          r.attributes = (attributes.afterEntries entries).values := by
  have hstart := State.told_start setting file attributes b
  refine ⟨fun ls htrace l hl => ?_, fun r journal hreduce => ?_⟩
  · have htold := ((htrace.leads l hl).told hnormal hstart).told
    refine ⟨htold, fun verbatim index hit hfind => ⟨?_, ?_⟩⟩
    · rw [Scan.inBuffer_natCast] at hfind
      obtain ⟨skipped, line, rest, hunread, rfl, hsilent, -⟩ :=
        Scan.found_of_next (Except.ok.inj hfind)
      -- the lines before the find are those before the cursor and the silent ones after it
      have htake : l.buffer.lines.take ((l.cursor : Int) + skipped.length).toNat =
          l.buffer.lines.take l.cursor ++ skipped := by
        have hlength : ((l.cursor : Int) + skipped.length).toNat = l.cursor + skipped.length := by
          omega
        rw [hlength, List.take_add, hunread, List.take_left]
      rw [htake]
      exact htold.allSilent hsilent
    · rw [Loop.step, hfind]
  · obtain ⟨⟨lines, c⟩, hrun, hresult⟩ := eq_ok_of_map hreduce
    cases hresult
    rw [Loop.run_eq] at hrun
    obtain ⟨entries, hall, hentries⟩ :=
      ((State.leads_of_run hrun).told hnormal hstart).told
    refine ⟨c.verbatim, entries, hall, ?_⟩
    show c.finish.attributes.values = _
    obtain ⟨_, heq, -⟩ := c.reportAll_eq
      (c.frames.reverse.map fun frame => (Context.unterminated frame.raw, frame.origin))
    rw [Context.finish, heq]
    exact congrArg AttributeSet.values hentries

/-- A document without files beside it, in which a condition stands before the entry that would make
it true: the condition is false, and the entry alone makes the attributes. -/
theorem Buffer.reduce_attributes_forward :
    let setting : Setting := { cwd := "/", jail := ⟨.free, "/", none⟩, rootDirectory := "/" }
    let line : String → Line := fun text => ⟨text, { file := "a", line := 1 }⟩
    setting.options.preserveConditionals.meaning = false ∧
      ∃ r journal, Buffer.reduce setting "a" {} ⟨[line "ifdef::x[y]", line ":x: 1"]⟩ =
          .ok (r, journal) ∧ r.lines = [line ":x: 1"] ∧
        ∃ verbatim entries, Scan.all none r.lines = (verbatim, entries.map .entry) ∧
          r.attributes = (AttributeSet.afterEntries {} entries).values ∧
          r.attributes = [("x", "1")] := by
  intro setting line
  let start : Context := .start setting "a" {}
  let last : Context := { start with attributes := { values := [("x", "1")] } }
  have hfirst : State.After setting ⟨start, #[], [line ":x: 1"]⟩
      (Loop.start setting "a" {} ⟨[line "ifdef::x[y]", line ":x: 1"]⟩).state := by
    refine State.after_of_toOption ?_
    decide +kernel
  have hsecond : State.After setting ⟨last, #[line ":x: 1"], []⟩
      ⟨start, #[], [line ":x: 1"]⟩ := by
    refine State.after_of_toOption ?_
    decide +kernel
  have hreduce : Buffer.reduce setting "a" {} ⟨[line "ifdef::x[y]", line ":x: 1"]⟩ =
      .ok (Result.ofRun setting "a" [line ":x: 1"] last) := by
    rw [Buffer.reduce, Loop.run_eq, State.run_of_after hfirst, State.run_of_after hsecond,
      State.run_of_nil]
    rfl
  obtain ⟨-, hresult⟩ := Buffer.reduce_attributes setting "a" {}
    ⟨[line "ifdef::x[y]", line ":x: 1"]⟩ rfl
  obtain ⟨verbatim, entries, hall, hattributes⟩ := hresult _ _ hreduce
  exact ⟨rfl, _, _, hreduce, rfl, verbatim, entries, hall, hattributes, rfl⟩

end Transclude
