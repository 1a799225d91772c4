import Transclude.Reduction.Run

/-!
# The loop and its reference

The loop over a buffer is held against a reduction that has no buffer and no cursor: it takes the
first of the lines still to be read, and emits it, puts other lines in its place, or drops it with
some of those after it. Both come to the same result, and the cursor of the loop never looks back:
what stands before it is settled, and no line is handed twice to the tracker of verbatim blocks.

## Main definitions

* `State.reduce` : the result of the reduction line by line.
* `State.Moves`  : what a line may do to the lines emitted and to those still to be read.
* `Loop.Trace`   : the loops that turns go through.
* `Loop.tracked` : the lines that a turn hands to the tracker of verbatim blocks.
* `Loop.Settled` : what a loop leaves as it is from one point to a later one.

## Main statements

* `Buffer.reduce_refines` : the loop comes to the result of its reference, and never looks back.
-/

namespace Transclude

open Transclude.Text

/-! ## The tracker of verbatim blocks -/

/-- The verbatim block after some lines, each of them handed to the tracker. -/
def Verbatim.afterAll (state : Verbatim) (lines : List Line) : Verbatim :=
  lines.foldl (fun state line => (state.advance (strippedEnd line.text)).1) state

namespace Scan

/-- The lines that a scan hands to the tracker of verbatim blocks, each with its index: those that
it reads, except a directive. -/
def tracked (state : Verbatim) (index : Nat) : List Line → List (Line × Nat)
  | [] => []
  | line :: rest =>
    match Hit.ofLine? state line.text with
    | (_, some (.directive _)) => []
    | (_, some (.entry _)) => [(line, index)]
    | (state, none) => (line, index) :: tracked state (index + 1) rest

/-- A silent line is handed to the tracker. -/
theorem advance_of_silent {state after : Verbatim} {text : String}
    (h : Hit.ofLine? state text = (after, none)) :
    (state.advance (strippedEnd text)).1 = after := by
  unfold Hit.ofLine? at h
  dsimp only at h
  split at h
  · cases h
  · split at h
    · rename_i hadvance
      cases h
      rw [hadvance]
    · rename_i hadvance
      simp only [Prod.mk.injEq] at h
      rw [hadvance, h.1]
    · rename_i hadvance
      cases h
      rw [hadvance]

/-- An entry is handed to the tracker, which it leaves as it is. -/
theorem advance_of_entry {state : Verbatim} {text : String} {e : AttributeEntry}
    (h : Hit.ofLine? state text = (state, some (.entry e))) :
    (state.advance (strippedEnd text)).1 = state := by
  unfold Hit.ofLine? at h
  dsimp only at h
  split at h
  · cases h
  · split at h
    · cases h
    · rename_i hadvance
      rw [hadvance, Verbatim.advance_eq_of_false hadvance]
    · cases h

/-- All silent lines are handed to the tracker, in order. -/
theorem tracked_of_silent {state after : Verbatim} {skipped : List Line}
    (h : Silent state skipped after) (index : Nat) (rest : List Line) :
    tracked state index (skipped ++ rest) =
      skipped.zipIdx index ++ tracked after (index + skipped.length) rest := by
  induction h generalizing index with
  | nil => rfl
  | cons nothing _ ih =>
    rw [List.cons_append, tracked, nothing]
    dsimp only
    rw [ih, List.zipIdx_cons, List.length_cons, List.cons_append, Nat.add_assoc, Nat.add_comm 1]

/-- The lines handed to the tracker are in order, from the index on at which the scan starts. -/
theorem tracked_sorted (state : Verbatim) (index : Nat) (lines : List Line) :
    (∀ p ∈ tracked state index lines, index ≤ p.2) ∧
      (tracked state index lines).Pairwise fun p q => p.2 < q.2 := by
  -- the order of the lines after the first is that from the next index on
  induction lines generalizing state index with
  | nil => simp [tracked]
  | cons line rest ih =>
    unfold tracked
    split
    · simp
    · simp
    · rename_i between _
      obtain ⟨hle, hsorted⟩ := ih between (index + 1)
      refine ⟨?_, List.pairwise_cons.2 ⟨?_, hsorted⟩⟩
      · intro p hp
        rcases List.mem_cons.1 hp with rfl | hp
        · exact Nat.le_refl _
        · exact Nat.le_of_succ_le (hle p hp)
      · exact fun p hp => hle p hp

/-- The state after silent lines is that of the tracker. -/
theorem afterAll_of_silent {state after : Verbatim} {skipped : List Line}
    (h : Silent state skipped after) : state.afterAll skipped = after := by
  induction h with
  | nil => rfl
  | cons nothing _ ih =>
    rw [Verbatim.afterAll, List.foldl_cons, advance_of_silent nothing]
    exact ih

/-- Of a find, only an entry is handed to the tracker, which it leaves as it is. -/
theorem tracked_of_hit {state : Verbatim} {line : Line} {hit : Hit}
    (h : Hit.ofLine? state line.text = (state, some hit)) (index : Nat) (rest : List Line) :
    (∀ p ∈ tracked state index (line :: rest), p = (line, index) ∧ ∃ e, hit = .entry e) ∧
      state.afterAll ((tracked state index (line :: rest)).map (·.1)) = state := by
  cases hit with
  | directive d =>
    have hnone : tracked state index (line :: rest) = [] := by
      rw [tracked, h]
    rw [hnone]
    exact ⟨by simp, rfl⟩
  | entry e =>
    have hentry : tracked state index (line :: rest) = [(line, index)] := by
      rw [tracked, h]
    rw [hentry]
    exact ⟨by simp, advance_of_entry h⟩

end Scan

/-! ## The reference -/

namespace State

/-- The result of reducing lines one by one, and the journal of the reduction. -/
def reduce (setting : Setting) (file : String) (attributes : AttributeSet) (lines : List Line) :
    Except Interruption (Result × Journal) :=
  (run setting { toContext := .start setting file attributes, pending := lines }).map
    fun (lines, c) => Result.ofRun setting file lines c

/-- What a line may do to the lines emitted and to those still to be read, after it is taken from
them: it is emitted, other lines take its place, or it is dropped with some of those after it. -/
inductive Moves (s t : State) : Prop
  | emits (line : Line) (taken : s.pending = line :: t.pending)
    (emitted : t.emitted = s.emitted.push line)
  | replaces (line : Line) (rest new : List Line) (taken : s.pending = line :: rest)
    (emitted : t.emitted = s.emitted) (pending : t.pending = new ++ rest)
  | drops (line : Line) (rest : List Line) (n : Nat) (taken : s.pending = line :: rest)
    (emitted : t.emitted = s.emitted) (pending : t.pending = rest.drop n)

variable {setting : Setting} {s t : State}

/-- A block that is left out is dropped up to some line. -/
theorem skip_moves {line : Line} {rest : List Line} (taken : s.pending = line :: rest)
    (c : Context) (d : Opening) : Moves s ((s.withContext c).skip line rest d) := by
  unfold skip
  dsimp only
  split
  · rename_i n _
    exact .drops line rest n taken rfl rfl
  · exact .drops line rest rest.length taken rfl (List.drop_length).symm

/-- The rules of a step are moves. -/
theorem Rule.moves {line : Line} {rest : List Line} (taken : s.pending = line :: rest)
    (h : Rule setting s line rest t) : Moves s t := by
  cases h with
  | plain | entry | closingKept | inlineKept | blockKept => exact .emits line taken rfl
  | inclusion d lines => exact .replaces line rest lines taken rfl rfl
  | inlineTrue d text => exact .replaces line rest [⟨text, line.origin⟩] taken rfl rfl
  | inlineRewritten d text =>
    exact .replaces line rest (d.blockForm text line.origin) taken rfl rfl
  | closingDropped | inlineFalse | blockTrue => exact .drops line rest 0 taken rfl rfl
  | blockFalse d c => exact skip_moves taken c d

/-- Every step of the reference takes a line, follows one of the rules, and is one of the moves. -/
theorem moves_of_after (h : After setting t s) :
    ∃ line rest, s.pending = line :: rest ∧ Rule setting s line rest t ∧ Moves s t := by
  obtain ⟨line, rest, taken, honLine⟩ := onLine_of_step h
  have hrule := rule_of_onLine honLine
  exact ⟨line, rest, taken, hrule, hrule.moves taken⟩

/-- Lines that are emitted stay. -/
theorem Moves.emitted_stays (h : Moves s t) : s.emitted.toList <+: t.emitted.toList := by
  cases h with
  | emits line taken emitted =>
    rw [emitted, Array.toList_push]
    exact List.prefix_append _ _
  | replaces line rest new taken emitted | drops line rest n taken emitted =>
    simp only [emitted, List.prefix_refl]

/-- Lines that are emitted are among those of the result. -/
theorem emitted_of_run {s : State} {lines : List Line} {c : Context}
    (h : s.run setting = .ok (lines, c)) : s.emitted.toList <+: lines := by
  fun_induction State.run setting s with
  | case1 s hstep =>
    cases h
    exact List.prefix_refl _
  | case2 s t hstep ih =>
    obtain ⟨_, _, -, -, hmoves⟩ := moves_of_after hstep
    exact hmoves.emitted_stays.trans (ih h)
  | case3 s i hstep => cases h

/-- An entry is emitted. -/
theorem emitted_of_entry {line : Line} {rest : List Line} {e : AttributeEntry}
    (h : s.onHit setting line rest (.entry e) = .ok t) : t.emitted = s.emitted.push line := by
  cases h
  rfl

/-- What a find does leaves the verbatim block as it is. -/
theorem Rule.verbatim_eq {line : Line} {rest : List Line} {hit : Hit}
    (h : Rule setting s line rest t)
    (hfound : Hit.ofLine? s.verbatim line.text = (s.verbatim, some hit)) :
    t.verbatim = s.verbatim := by
  cases h with
  | plain verbatim nothing =>
    rw [nothing] at hfound
    cases hfound
  | entry e =>
    obtain ⟨_, _, heq, -⟩ := s.toContext.afterEntry_eq e
    show (s.afterEntry e).verbatim = s.verbatim
    rw [heq]
  | inclusion d lines c _ resolved =>
    obtain ⟨_, _, rfl⟩ := Context.eq_of_resolve resolved
    rfl
  | closingDropped d | closingKept d =>
    obtain ⟨_, _, heq, -⟩ := s.toContext.afterClosing_eq d line.origin
    show (s.afterClosing d line.origin).verbatim = s.verbatim
    rw [heq]
  | inlineTrue d text c _ _ _ judged | inlineFalse d text c _ _ _ judged
  | blockTrue d c _ _ _ judged =>
    obtain ⟨_, rfl, -⟩ := Context.eq_of_judge judged
    rfl
  | blockFalse d c _ _ _ judged =>
    obtain ⟨_, rfl, -⟩ := Context.eq_of_judge judged
    obtain ⟨-, _, heq, -⟩ := skip_eq (s.withContext _) line rest d
    rw [heq]
    rfl
  | blockKept d active c _ _ _ judged =>
    obtain ⟨_, rfl, -⟩ := Context.eq_of_judgeWithin judged
    rfl
  | inlineRewritten | inlineKept => rfl

end State

namespace Loop

/-- The lines that a turn hands to the tracker of verbatim blocks, each with its index. -/
def tracked (l : Loop) : List (Line × Nat) :=
  Scan.tracked l.verbatim l.cursor (l.buffer.lines.drop l.cursor)

/-- The loops that turns go through from one on, in order, as far as some turn that is not the
last. -/
inductive Trace (setting : Setting) : Loop → List Loop → Prop
  | single (l : Loop) : Trace setting l [l]
  | cons {l m : Loop} {ls : List Loop} (turn : l.step setting = .ok (.next m))
    (trace : Trace setting m ls) : Trace setting l (l :: ls)

/-- What a loop leaves as it is from one point to a later one: the cursor does not move backwards,
the lines before it do not change, and the lines that were handed to the tracker lie before it. -/
structure Settled (l m : Loop) : Prop where
  cursor_le : l.cursor ≤ m.cursor
  take_eq : m.buffer.lines.take l.cursor = l.buffer.lines.take l.cursor
  tracked : ∀ p ∈ l.tracked, p.2 < m.cursor ∧ m.buffer.lines[p.2]? = some p.1

variable {setting : Setting} {l m k : Loop}

/-- What is settled stays settled. -/
theorem Settled.trans (hlm : Settled l m) (hmk : Settled m k) : Settled l k := by
  have hle := hlm.cursor_le
  have hle' := hmk.cursor_le
  refine ⟨by omega, ?_, ?_⟩
  · -- the lines before the first cursor are among those before the second
    have := congrArg (List.take l.cursor) hmk.take_eq
    rw [List.take_take, List.take_take, Nat.min_eq_left hle] at this
    rw [this, hlm.take_eq]
  · intro p hp
    obtain ⟨hlt, hline⟩ := hlm.tracked p hp
    refine ⟨by omega, ?_⟩
    have := congrArg (·[p.2]?) hmk.take_eq
    simp only [List.getElem?_take, hlt, if_true] at this
    rw [this, hline]

/-- A line that is emitted stands before the cursor, where its place among those emitted is. -/
theorem getElem?_emitted {t : State} {before emitted : List Line}
    (h : t.emitted.toList = before ++ emitted) :
    ∀ p ∈ emitted.zipIdx before.length,
      p.2 < t.loop.cursor ∧ t.loop.buffer.lines[p.2]? = some p.1 := by
  intro p hp
  obtain ⟨hle, hline⟩ := List.mem_zipIdx_iff_le_and_getElem?_sub.1 hp
  obtain ⟨hlt, -⟩ := List.getElem?_eq_some_iff.1 hline
  have hsize : t.loop.cursor = before.length + emitted.length := by
    show t.emitted.size = _
    rw [← Array.length_toList, h, List.length_append]
  have hlines : t.loop.buffer.lines = before ++ (emitted ++ t.pending) := by
    show t.emitted.toList ++ t.pending = _
    rw [h, List.append_assoc]
  refine ⟨by omega, ?_⟩
  rw [hlines, List.getElem?_append_right hle, List.getElem?_append_left (by omega), hline]

/-- A turn leaves what stands before the cursor as it is, and hands the lines up to its find to the
tracker. -/
theorem settled_of_step (h : l.step setting = .ok (.next m)) :
    Settled l m ∧ m.verbatim = l.verbatim.afterAll (l.tracked.map (·.1)) := by
  obtain ⟨verbatim, skipped, line, rest, hit, t, hunread, hsilent, hhit, honHit, rfl⟩ :=
    found_of_step h
  have hrule := State.rule_of_onHit (s := l.past verbatim skipped (line :: rest)) hhit honHit
  have hcursor := length_take_cursor hunread
  -- what was emitted before the find stays in front of what the find adds
  obtain ⟨more, hmore⟩ := (hrule.moves rfl).emitted_stays
  have hemitted : t.emitted.toList = l.buffer.lines.take l.cursor ++ (skipped ++ more) := by
    rw [← List.append_assoc]
    exact hmore.symm
  -- the tracker has the silent lines, and the find if it is an entry
  have htracked : l.tracked = skipped.zipIdx l.cursor ++
      Scan.tracked verbatim (l.cursor + skipped.length) (line :: rest) := by
    rw [tracked, hunread, Scan.tracked_of_silent hsilent]
  obtain ⟨htail, hafter⟩ := Scan.tracked_of_hit hhit (l.cursor + skipped.length) rest
  have hplaces : ∀ p ∈ l.tracked, p ∈ (skipped ++ more).zipIdx l.cursor := by
    intro p hp
    rw [List.zipIdx_append]
    rw [htracked] at hp
    rcases List.mem_append.1 hp with hp | hp
    · exact List.mem_append_left _ hp
    · -- an entry is emitted by the turn that finds it, so it is the first line that is added
      obtain ⟨rfl, e, rfl⟩ := htail p hp
      rw [State.emitted_of_entry honHit, Array.toList_push] at hmore
      rw [List.append_cancel_left hmore]
      exact List.mem_append_right _ List.mem_cons_self
  refine ⟨⟨?_, ?_, ?_⟩, ?_⟩
  · show l.cursor ≤ t.emitted.size
    rw [← Array.length_toList, hemitted, List.length_append, hcursor]
    exact Nat.le_add_right _ _
  · show (t.emitted.toList ++ t.pending).take l.cursor = _
    rw [hemitted, List.append_assoc, List.take_append_of_le_length (by omega),
      List.take_of_length_le (by omega)]
  · intro p hp
    refine getElem?_emitted hemitted p ?_
    rw [hcursor]
    exact hplaces p hp
  · have hskipped := Scan.afterAll_of_silent hsilent
    rw [Verbatim.afterAll] at hskipped hafter
    rw [htracked, List.map_append, List.zipIdx_map_fst, Verbatim.afterAll, List.foldl_append,
      hskipped, hafter]
    exact State.Rule.verbatim_eq hrule hhit

/-- The last turn hands all lines that are left to the tracker, and changes none. -/
theorem verbatim_of_last (h : l.step setting = .ok (.last m)) :
    m.verbatim = l.verbatim.afterAll (l.tracked.map (·.1)) := by
  cases hnext : Scan.next l.verbatim l.cursor (l.buffer.lines.drop l.cursor) with
  | mk verbatim found =>
    unfold step at h
    rw [Scan.inBuffer_natCast, hnext] at h
    cases found with
    | none =>
      cases h
      have hsilent := Scan.silent_of_next hnext
      have htracked := Scan.tracked_of_silent hsilent l.cursor []
      rw [List.append_nil] at htracked
      rw [tracked, htracked, Scan.tracked, List.append_nil, List.zipIdx_map_fst]
      exact (Scan.afterAll_of_silent hsilent).symm
    | some found =>
      obtain ⟨_, _, hnext⟩ := eq_ok_of_map h
      cases hnext

/-! ## Whole runs -/

variable {ls : List Loop}

/-- What a loop leaves as it is, is so at all later points of a trace. -/
theorem Trace.settled (h : Trace setting l ls) : ∀ m ∈ ls, l = m ∨ Settled l m := by
  induction h with
  | single l =>
    intro m hm
    exact .inl (List.mem_singleton.1 hm).symm
  | @cons l next ls turn _ ih =>
    intro m hm
    have hsettled := (settled_of_step turn).1
    rcases List.mem_cons.1 hm with rfl | hm
    · exact .inl rfl
    · rcases ih m hm with rfl | hlater
      · exact .inr hsettled
      · exact .inr (hsettled.trans hlater)

/-- At no point of a trace does a loop change what was settled at an earlier one. -/
theorem Trace.pairwise (h : Trace setting l ls) : ls.Pairwise Settled := by
  induction h with
  | single l => exact List.pairwise_singleton _ _
  | @cons l next ls turn trace ih =>
    refine List.pairwise_cons.2 ⟨fun m hm => ?_, ih⟩
    have hsettled := (settled_of_step turn).1
    rcases trace.settled m hm with rfl | hlater
    · exact hsettled
    · exact hsettled.trans hlater

/-- In a trace the lines are handed to the tracker in order, so none is handed to it twice. -/
theorem Trace.tracked_sorted (h : Trace setting l ls) :
    (ls.flatMap tracked).Pairwise fun p q => p.2 < q.2 := by
  refine List.pairwise_flatMap.2 ⟨fun m _ => (Scan.tracked_sorted _ _ _).2, ?_⟩
  -- the earlier turn has the lines before the later cursor, the later one those from it on
  refine h.pairwise.imp fun {m k} hsettled p hp q hq => ?_
  have hlt := (hsettled.tracked p hp).1
  have hle := (Scan.tracked_sorted _ _ _).1 q hq
  omega

/-- A turn of a trace leaves the verbatim block that the tracker tells. -/
theorem verbatim_of_turn (h : l.step setting = .ok (.next m) ∨ l.step setting = .ok (.last m)) :
    m.verbatim = l.verbatim.afterAll (l.tracked.map (·.1)) := by
  rcases h with h | h
  · exact (settled_of_step h).2
  · exact verbatim_of_last h

/-- Every point of a trace is reached line by line. -/
theorem Trace.leads (h : Trace setting l ls) :
    ∀ m ∈ ls, State.Leads setting l.state m.state := by
  induction h with
  | single l =>
    intro m hm
    rw [List.mem_singleton.1 hm]
    exact .refl _
  | @cons l next ls turn _ ih =>
    intro m hm
    obtain ⟨u, hleads, hafter, -, -⟩ := arrives_of_step turn
    rcases List.mem_cons.1 hm with rfl | hm
    · exact .refl _
    · exact (hleads.trans hafter.leads).trans (ih m hm)

/-- A run goes on from every point of a trace. -/
theorem Trace.run_eq (h : Trace setting l ls) : ∀ m ∈ ls, m.run setting = l.run setting := by
  induction h with
  | single l =>
    intro m hm
    rw [List.mem_singleton.1 hm]
  | @cons l next ls turn _ ih =>
    intro m hm
    have hnext : next.run setting = l.run setting := by
      have hfollows := l.follows setting
      rw [turn] at hfollows
      obtain ⟨s, t, hleads, hafter, rfl⟩ := hfollows
      rw [Loop.run_eq, Loop.run_eq, state_loop, State.run_of_leads hleads,
        State.run_of_after hafter]
    rcases List.mem_cons.1 hm with rfl | hm
    · rfl
    · rw [ih m hm, hnext]

/-- The lines before the cursor are among those of the result. -/
theorem take_prefix_of_run {lines : List Line} {c : Context}
    (h : l.run setting = .ok (lines, c)) : l.buffer.lines.take l.cursor <+: lines := by
  rw [Loop.run_eq] at h
  exact State.emitted_of_run h

end Loop

/-- The loop over a buffer comes to the result of the reduction line by line, of which every step
takes the next line by one of its rules and is one of its moves. In all turns of the loop the cursor
does not move backwards, what stands before it does not change until the end, and the lines are
handed to the tracker of verbatim blocks in order, which alone makes the verbatim block after a
turn: no line is handed to it twice. -/
theorem Buffer.reduce_refines (setting : Setting) (file : String) (attributes : AttributeSet)
    (b : Buffer) :
    b.reduce setting file attributes = State.reduce setting file attributes b.lines ∧
      (∀ s t, State.After setting t s →
        ∃ line rest, s.pending = line :: rest ∧ State.Rule setting s line rest t ∧
          State.Moves s t) ∧
      ∀ ls, Loop.Trace setting (.start setting file attributes b) ls →
        ls.Pairwise Loop.Settled ∧
        (ls.flatMap Loop.tracked).Pairwise (fun p q => p.2 < q.2) ∧
        (∀ l ∈ ls, ∀ m,
          l.step setting = .ok (.next m) ∨ l.step setting = .ok (.last m) →
            m.verbatim = l.verbatim.afterAll (l.tracked.map (·.1))) ∧
        ∀ l ∈ ls, ∀ r journal, b.reduce setting file attributes = .ok (r, journal) →
          l.buffer.lines.take l.cursor <+: r.lines := by
  refine ⟨?_, fun s t => State.moves_of_after, fun ls htrace => ?_⟩
  · rw [Buffer.reduce, State.reduce, Loop.run_eq]
    rfl
  · refine ⟨htrace.pairwise, htrace.tracked_sorted, fun l _ m => Loop.verbatim_of_turn, ?_⟩
    intro l hl r journal hreduce
    obtain ⟨⟨lines, c⟩, hrun, hresult⟩ := eq_ok_of_map hreduce
    -- the run from the start is the run from this point of the trace
    rw [← htrace.run_eq l hl] at hrun
    cases hresult
    exact Loop.take_prefix_of_run hrun

end Transclude
