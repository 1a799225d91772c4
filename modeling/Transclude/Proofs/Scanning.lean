import Transclude.Proofs.Emission

/-!
# Scanning in pieces

A reduction scans its buffer in pieces: each scan begins on the line after the last find, in the
verbatim state in which the scan before it stopped. The pieces make no difference. Every directive
is found once, in the order of the lines, and so is every attribute entry that lies outside of the
verbatim blocks. Where these begin and end is said of the lines alone.

## Main definitions

* `Verbatim.Delimits` : the delimiter that a text is.
* `Verbatim.Opened`   : a verbatim block from its first line on, as far as it is not closed.
* `Verbatim.Clear`    : whether a line is reached outside of all verbatim blocks.
* `Scan.Reports`      : the finds of scans of which each begins after the find of the last.

## Main statements

* `Verbatim.clear_iff` : a scan is in no verbatim block just if the lines say so.
* `Scan.reports_all`   : what the scans of a buffer find.
-/

namespace Transclude

open Transclude.Text

/-! ## Verbatim blocks -/

/-- The delimiter that a text is: a fence, whatever follows it, or at least four copies of one of
the delimiter characters and nothing else. -/
inductive Verbatim.Delimits (text : String) : String → Prop
  | fence {rest : List Char} (starts : text.toList = '`' :: '`' :: '`' :: rest) :
    Delimits text (String.ofList ['`', '`', '`'])
  | rule {c : Char} {n : Nat} (drawn : c ∈ ['-', '.', '/', '+']) (long : 4 ≤ n)
    (only : text.toList = List.replicate n c) : Delimits text text

/-- Whether a line is no directive, but the given delimiter, without the blanks at its end. -/
def Line.Delimits (line : Line) (delimiter : String) : Prop :=
  Directive.ofLine? (strippedEnd line.text) = none ∧
    Verbatim.Delimits (strippedEnd line.text) delimiter

namespace Verbatim

/-- Whether a block begins at line `i` and none of the lines after it and before line `j` is its
delimiter. Other delimiters are content. -/
structure Opened (lines : List Line) (delimiter : String) (i j : Nat) : Prop where
  before : i < j
  opens : ∃ line, lines[i]? = some line ∧ line.Delimits delimiter
  content : ∀ k line, i < k → k < j → lines[k]? = some line → ¬ line.Delimits delimiter

/-- Whether a line is reached outside of all blocks: the first line is, and so are the line after
one outside that is no delimiter, and the line after one that closes a block. -/
inductive Clear (lines : List Line) : Nat → Prop
  | start : Clear lines 0
  | text {i : Nat} {line : Line} (clear : Clear lines i) (here : lines[i]? = some line)
    (plain : ∀ delimiter, ¬ line.Delimits delimiter) : Clear lines (i + 1)
  | block {i j : Nat} {delimiter : String} {line : Line} (clear : Clear lines i)
    (opened : Opened lines delimiter i j) (here : lines[j]? = some line)
    (closes : line.Delimits delimiter) : Clear lines (j + 1)

theorem delimiter?_eq_some_iff {text delimiter : String} :
    delimiter? text = some delimiter ↔ Delimits text delimiter := by
  unfold delimiter?
  dsimp only
  constructor
  · intro h
    split at h
    · rename_i rest hfence
      cases h
      exact .fence (after?_eq_some_iff.1 hfence)
    · split at h
      · cases h
      · rename_i c rest htext
        split at h
        · rename_i hrule
          cases h
          simp only [Bool.and_eq_true, decide_eq_true_eq, List.contains_iff_mem] at hrule
          obtain ⟨⟨hdrawn, hlong⟩, hall⟩ := hrule
          refine .rule hdrawn hlong (List.eq_replicate_iff.2 ⟨rfl, fun x hx => ?_⟩)
          exact eq_of_beq (List.all_eq_true.1 hall x hx)
        · cases h
  · rintro (⟨hstarts⟩ | ⟨hdrawn, hlong, honly⟩)
    · rw [hstarts]
      rfl
    · rename_i c n
      obtain ⟨m, rfl⟩ : ∃ m, n = m + 1 := ⟨n - 1, by omega⟩
      have hnone : after? ['`', '`', '`'] text.toList = none := by
        rw [honly, List.replicate_succ, after?, if_neg]
        rintro rfl
        exact absurd hdrawn (by decide)
      rw [hnone, honly, List.replicate_succ]
      dsimp only
      rw [if_pos]
      rw [Bool.and_eq_true, Bool.and_eq_true, ← List.replicate_succ]
      exact ⟨⟨List.contains_iff_mem.2 hdrawn, by simpa using hlong⟩, by simp⟩

end Verbatim

/-! ## The verbatim state between the lines -/

section

variable {lines : List Line} {line : Line} {delimiter : String} {i j n : Nat}

/-- A line that is no delimiter leaves the verbatim state as it is. -/
theorem Line.verbatim_of_plain (plain : ∀ delimiter, ¬ line.Delimits delimiter)
    (state : Verbatim) : (Hit.ofLine? state line.text).1 = state := by
  unfold Hit.ofLine?
  dsimp only
  split
  · rfl
  · rename_i hdirective
    have hdelimiter : Verbatim.delimiter? (strippedEnd line.text) = none :=
      Option.eq_none_iff_forall_ne_some.2 fun delimiter h =>
        plain delimiter ⟨hdirective, Verbatim.delimiter?_eq_some_iff.1 h⟩
    have hadvance : state.advance (strippedEnd line.text) = (state, false) := by
      rw [Verbatim.advance, hdelimiter]
    rw [hadvance]
    cases state <;> rfl

/-- A delimiter opens a block outside of all blocks, closes the block that it opens, and is content
of any other. -/
theorem Line.verbatim_of_delimits (h : line.Delimits delimiter) (state : Verbatim) :
    (Hit.ofLine? state line.text).1 =
      match state with
      | none => some delimiter
      | some opened => if opened = delimiter then none else some opened := by
  unfold Hit.ofLine?
  dsimp only
  rw [h.1]
  dsimp only
  rw [Verbatim.advance, Verbatim.delimiter?_eq_some_iff.2 h.2]
  cases state with
  | none => rfl
  | some opened => by_cases hsame : opened = delimiter <;> simp [hsame]

namespace Verbatim

/-- The verbatim state in which a scan of the lines from the start reaches line `n`. -/
def before (lines : List Line) (n : Nat) : Verbatim := (Scan.all none (lines.take n)).1

theorem before_succ (here : lines[n]? = some line) :
    before lines (n + 1) = (Hit.ofLine? (before lines n) line.text).1 := by
  rw [before, List.take_add_one, here, Option.toList_some, Scan.all_append]
  dsimp only
  rw [Scan.verbatim_cons]
  rfl

/-- The first line of a block opens it, if a scan reaches it outside of all blocks, and its content
keeps it open. -/
theorem before_of_opened (hbefore : before lines i = none) (opened : Opened lines delimiter i j)
    (hj : j ≤ lines.length) : before lines j = some delimiter := by
  obtain ⟨hij, ⟨line, here, hdelimits⟩, hcontent⟩ := opened
  induction hij with
  | refl => rw [before_succ here, hbefore, Line.verbatim_of_delimits hdelimits]
  | @step j hij ih =>
    have hopen := ih (by omega) fun k line hik hkj => hcontent k line hik (by omega)
    have hj : lines[j]? = some lines[j] := List.getElem?_eq_getElem (by omega)
    have hother := hcontent j _ hij (by omega) hj
    rw [before_succ hj, hopen]
    by_cases hplain : ∀ other, ¬ lines[j].Delimits other
    · exact Line.verbatim_of_plain hplain _
    · obtain ⟨other, hdelimits⟩ : ∃ other, lines[j].Delimits other := by simpa using hplain
      rw [Line.verbatim_of_delimits hdelimits]
      refine if_neg ?_
      rintro rfl
      exact hother hdelimits

/-- A scan reaches the lines outside of all blocks in no block. -/
theorem before_of_clear (clear : Clear lines n) : before lines n = none := by
  induction clear with
  | start => rfl
  | text _ here plain ih => rw [before_succ here, ih, Line.verbatim_of_plain plain]
  | block _ opened here closes ih =>
    have hlength := (List.getElem?_eq_some_iff.1 here).1
    rw [before_succ here, before_of_opened ih opened (Nat.le_of_lt hlength),
      Line.verbatim_of_delimits closes]
    exact if_pos rfl

/-- A line is reached outside of all blocks, or in a block that began outside of all others and was
not closed since. -/
theorem clear_or_opened (hn : n ≤ lines.length) :
    Clear lines n ∨ ∃ i delimiter, Clear lines i ∧ Opened lines delimiter i n := by
  induction n with
  | zero => exact .inl .start
  | succ n ih =>
    have here : lines[n]? = some lines[n] := List.getElem?_eq_getElem (by omega)
    rcases ih (by omega) with hclear | ⟨i, delimiter, hclear, hin, hopens, hcontent⟩
    · by_cases hplain : ∀ delimiter, ¬ lines[n].Delimits delimiter
      · exact .inl (.text hclear here hplain)
      · obtain ⟨delimiter, hdelimits⟩ : ∃ delimiter, lines[n].Delimits delimiter := by
          simpa using hplain
        exact .inr ⟨n, delimiter, hclear, by omega, ⟨_, here, hdelimits⟩,
          fun k line hnk hkn => by omega⟩
    · by_cases hcloses : lines[n].Delimits delimiter
      · exact .inl (.block hclear ⟨hin, hopens, hcontent⟩ here hcloses)
      · refine .inr ⟨i, delimiter, hclear, by omega, hopens, fun k line hik hkn hk => ?_⟩
        rcases Nat.lt_succ_iff_lt_or_eq.1 hkn with hkn | rfl
        · exact hcontent k line hik hkn hk
        · rw [here] at hk
          cases hk
          exact hcloses

/-- A scan reaches a line in no block just if it is outside of all blocks. -/
theorem clear_iff (hn : n ≤ lines.length) : before lines n = none ↔ Clear lines n := by
  refine ⟨fun hnone => ?_, before_of_clear⟩
  rcases clear_or_opened hn with hclear | ⟨i, delimiter, hclear, hopened⟩
  · exact hclear
  · rw [before_of_opened (before_of_clear hclear) hopened hn] at hnone
    cases hnone

end Verbatim

end

/-! ## Scans one after another -/

/-- A scan finds a directive wherever it is, and an attribute entry in no block. -/
theorem Hit.ofLine?_eq_some_iff {state : Verbatim} {text : String} {hit : Hit} :
    (Hit.ofLine? state text).2 = some hit ↔
      (∃ d, hit = .directive d ∧ Directive.ofLine? (strippedEnd text) = some d) ∨
        ∃ e, hit = .entry e ∧ Directive.ofLine? (strippedEnd text) = none ∧
          AttributeEntry.ofLine? (strippedEnd text) = some e ∧ state = none := by
  cases hdirective : Directive.ofLine? (strippedEnd text) with
  | some d =>
    rw [Hit.ofLine?_of_directive state hdirective]
    simp [eq_comm]
  | none =>
    unfold Hit.ofLine?
    dsimp only
    rw [hdirective]
    dsimp only
    cases hentry : AttributeEntry.ofLine? (strippedEnd text) with
    | none => split <;> simp
    | some e =>
      -- an entry is no delimiter, so the state tells whether it counts
      rw [Verbatim.advance, Verbatim.delimiter?_of_entry hentry]
      cases state <;> simp [eq_comm]

namespace Scan

/-- What scans of a buffer find, of which the first begins at the given index in the given verbatim
state, and each other on the line after the find before it, in the state in which that was found.
The last one finds nothing. -/
inductive Reports (buffer : Buffer) : Verbatim → Int → List (Int × Hit) → Prop
  | done {state after : Verbatim} {start : Int}
    (nothing : inBuffer state buffer start = .ok (after, none)) : Reports buffer state start []
  | found {state after : Verbatim} {start index : Int} {hit : Hit} {later : List (Int × Hit)}
    (first : inBuffer state buffer start = .ok (after, some (index, hit)))
    (onward : Reports buffer after (index + 1) later) :
    Reports buffer state start ((index, hit) :: later)

/-- The finds are determined by where the first scan begins. -/
theorem Reports.unique {buffer : Buffer} {state : Verbatim} {start : Int}
    {found found' : List (Int × Hit)} (h : Reports buffer state start found)
    (h' : Reports buffer state start found') : found' = found := by
  induction h generalizing found' with
  | done nothing =>
    cases h' with
    | done => rfl
    | found first => exact absurd (nothing.symm.trans first) (by simp)
  | found first _ ih =>
    cases h' with
    | done nothing => exact absurd (nothing.symm.trans first) (by simp)
    | found first' onward' =>
      have hsame := first.symm.trans first'
      simp only [Except.ok.injEq, Prod.mk.injEq, Option.some.injEq] at hsame
      obtain ⟨rfl, rfl, rfl⟩ := hsame
      rw [ih onward']

/-- Whether a scan of the lines from the start finds something on line `n`. -/
def FindsAt (lines : List Line) (n : Nat) (hit : Hit) : Prop :=
  ∃ line, lines[n]? = some line ∧ (Hit.ofLine? (Verbatim.before lines n) line.text).2 = some hit

variable {lines : List Line} {n : Nat}

/-- Silent lines lead from one verbatim state between the lines to another, without a find. -/
theorem Silent.spans {skipped rest : List Line} {after : Verbatim}
    (hsilent : Silent (Verbatim.before lines n) skipped after)
    (hlines : lines.drop n = skipped ++ rest) :
    Verbatim.before lines (n + skipped.length) = after ∧
      ∀ m hit, n ≤ m → m < n + skipped.length → ¬ FindsAt lines m hit := by
  generalize hstate : Verbatim.before lines n = state at hsilent
  induction hsilent generalizing n with
  | nil => exact ⟨hstate, fun m hit hnm hm => absurd hm (by simp; omega)⟩
  | @cons _ _ _ line skipped nothing _ ih =>
    have here : lines[n]? = some line := by
      have := congrArg (·[0]?) hlines
      simpa using this
    have hnext : Verbatim.before lines (n + 1) = _ := Verbatim.before_succ here
    rw [hstate, nothing] at hnext
    have hdrop : lines.drop (n + 1) = skipped ++ rest := by
      rw [← List.drop_drop, hlines]
      rfl
    obtain ⟨hafter, hnone⟩ := ih hdrop hnext
    rw [List.length_cons, ← Nat.add_assoc, Nat.add_right_comm]
    refine ⟨hafter, fun m hit hnm hm => ?_⟩
    rcases Nat.eq_or_lt_of_le hnm with rfl | hnm
    · rintro ⟨line', here', hfound⟩
      rw [here] at here'
      cases here'
      rw [hstate, nothing] at hfound
      cases hfound
    · exact hnone m hit hnm hm

theorem FindsAt.lt_length {hit : Hit} (h : FindsAt lines n hit) : n < lines.length := by
  obtain ⟨line, here, -⟩ := h
  exact (List.getElem?_eq_some_iff.1 here).1

/-- A line has one find at most. -/
theorem FindsAt.unique {hit hit' : Hit} (h : FindsAt lines n hit) (h' : FindsAt lines n hit') :
    hit' = hit := by
  obtain ⟨line, here, hfound⟩ := h
  obtain ⟨line', here', hfound'⟩ := h'
  rw [here] at here'
  cases here'
  rw [hfound] at hfound'
  exact (Option.some.inj hfound').symm

/-- A scan without a find has passed over lines without finds. -/
theorem not_findsAt_of_next {after : Verbatim} {m : Nat} {hit : Hit}
    (h : next (Verbatim.before lines n) n (lines.drop n) = (after, none)) (hnm : n ≤ m) :
    ¬ FindsAt lines m hit := by
  intro hfinds
  obtain ⟨-, hnone⟩ := (silent_of_next h).spans (List.append_nil _).symm
  have hm := hfinds.lt_length
  exact hnone m hit hnm (by rw [List.length_drop]; omega) hfinds

/-- A scan that begins on a line finds what one scan from the start finds first from there on, and
stops in the verbatim state in which the line after the find is reached. -/
theorem findsAt_of_next {after : Verbatim} {index : Int} {hit : Hit}
    (h : next (Verbatim.before lines n) n (lines.drop n) = (after, some (index, hit))) :
    ∃ m : Nat, index = m ∧ n ≤ m ∧ FindsAt lines m hit ∧ Verbatim.before lines (m + 1) = after ∧
      ∀ k other, n ≤ k → k < m → ¬ FindsAt lines k other := by
  obtain ⟨skipped, line, rest, hlines, hindex, hsilent, hhit⟩ := found_of_next h
  obtain ⟨hafter, hnone⟩ := hsilent.spans hlines
  have here : lines[n + skipped.length]? = some line := by
    rw [← List.getElem?_drop, hlines, List.getElem?_append_right (Nat.le_refl _), Nat.sub_self]
    rfl
  refine ⟨n + skipped.length, by omega, by omega, ⟨line, here, by rw [hafter, hhit]⟩, ?_, hnone⟩
  -- the find itself leaves the state as it is
  rw [Verbatim.before_succ here, hafter, hhit]

/-- Scans that go on from a line find, in order, what one scan from the start finds from that line
on. -/
theorem exists_reports (buffer : Buffer) (n : Nat) :
    ∃ found, Reports buffer (Verbatim.before buffer.lines n) n found ∧
      found.Pairwise (fun p q => p.1 < q.1) ∧
      ∀ index hit, (index, hit) ∈ found ↔
        ∃ m : Nat, index = m ∧ n ≤ m ∧ FindsAt buffer.lines m hit := by
  -- after every find there are fewer lines left
  induction hleft : buffer.lines.length - n using Nat.strongRecOn generalizing n with
  | ind left ih =>
    have hscan := inBuffer_natCast (Verbatim.before buffer.lines n) buffer n
    cases hnext : next (Verbatim.before buffer.lines n) n (buffer.lines.drop n) with
    | mk after find =>
      rw [hnext] at hscan
      cases find with
      | none =>
        refine ⟨[], .done hscan, .nil, fun index hit => ⟨fun h => (nomatch h), ?_⟩⟩
        rintro ⟨m, -, hnm, hfinds⟩
        exact absurd hfinds (not_findsAt_of_next hnext hnm)
      | some find =>
        obtain ⟨index, hit⟩ := find
        obtain ⟨first, rfl, hle, hfinds, hstate, hnone⟩ := findsAt_of_next hnext
        have hlength := hfinds.lt_length
        obtain ⟨later, hreports, hpairwise, hmem⟩ :=
          ih (buffer.lines.length - (first + 1)) (by omega) (first + 1) rfl
        rw [hstate] at hreports
        refine ⟨(↑first, hit) :: later, .found hscan hreports, ?_, fun index' hit' => ?_⟩
        · refine List.pairwise_cons.2 ⟨fun p hp => ?_, hpairwise⟩
          obtain ⟨m, hm, hlt, -⟩ := (hmem p.1 p.2).1 hp
          dsimp only
          omega
        · rw [List.mem_cons, hmem, Prod.mk.injEq]
          constructor
          · rintro (⟨rfl, rfl⟩ | ⟨m, rfl, hm, hlater⟩)
            · exact ⟨first, rfl, hle, hfinds⟩
            · exact ⟨m, rfl, by omega, hlater⟩
          · -- before the first find there is none, and on its line no other
            rintro ⟨m, rfl, hnm, hfinds'⟩
            rcases Nat.lt_trichotomy m first with hm | rfl | hm
            · exact absurd hfinds' (hnone m hit' hnm hm)
            · exact .inl ⟨rfl, hfinds.unique hfinds'⟩
            · exact .inr ⟨m, rfl, hm, hfinds'⟩

/-- Scans of a buffer from its start on, of which each begins on the line after the find of the one
before it, find certain lines and no others, in their order, and each once: the lines that are
directives, wherever they are, and the lines that are attribute entries, no directives and outside
of all verbatim blocks. Blanks at the end of a line do not count. -/
theorem reports_all (buffer : Buffer) :
    ∃ hits : List (Int × Hit), (∀ found, Reports buffer none 0 found ↔ found = hits) ∧
      hits.Pairwise (fun p q => p.1 < q.1) ∧
      ∀ index hit, (index, hit) ∈ hits ↔
        ∃ (n : Nat) (line : Line), index = n ∧ buffer.lines[n]? = some line ∧
          ((∃ d, hit = .directive d ∧ Directive.ofLine? (strippedEnd line.text) = some d) ∨
            ∃ e, hit = .entry e ∧ Directive.ofLine? (strippedEnd line.text) = none ∧
              AttributeEntry.ofLine? (strippedEnd line.text) = some e ∧
              Verbatim.Clear buffer.lines n) := by
  obtain ⟨hits, hreports, hpairwise, hmem⟩ := exists_reports buffer 0
  refine ⟨hits, fun found => ⟨hreports.unique, ?_⟩, hpairwise, fun index hit => ?_⟩
  · rintro rfl
    exact hreports
  · rw [hmem]
    constructor
    · rintro ⟨n, rfl, -, line, here, hfound⟩
      have hn := (List.getElem?_eq_some_iff.1 here).1
      rw [Hit.ofLine?_eq_some_iff, Verbatim.clear_iff (Nat.le_of_lt hn)] at hfound
      exact ⟨n, line, rfl, here, hfound⟩
    · rintro ⟨n, line, rfl, here, hfound⟩
      have hn := (List.getElem?_eq_some_iff.1 here).1
      refine ⟨n, rfl, Nat.zero_le _, line, here, ?_⟩
      rwa [Hit.ofLine?_eq_some_iff, Verbatim.clear_iff (Nat.le_of_lt hn)]

end Scan

end Transclude
