import Mathlib.Data.List.Forall2
import Transclude.Proofs.Splicing

/-!
# Which block an `endif` ends

In a document without includes the openings of blocks and the `endif`s can be paired from the texts
alone, by one stack. A reduction keeps to this pairing, whatever the attributes: the `endif` that is
paired with an opening ends its block if the block is true, and is where the lines that are left out
end if it is false. That a structural problem is found depends on the pairing only.

## Main definitions

* `Marker`           : what a line means to the pairing.
* `Pairing`          : the openings and the `endif`s that are paired.
* `Line.Regular`     : the lines of the documents for which the pairing is made.
* `State.Matched`    : whether a reduction stands where the pairing says.
* `State.KeepsPairs` : what a step does about blocks.

## Main statements

* `Pairing.perm_marked`   : every marker is in one pair, or is left over.
* `State.Rule.keepsPairs` : every step keeps to the pairing.
* `Buffer.reduce_paired`  : a whole reduction keeps to the pairing.
-/

namespace Transclude

open Transclude.Text

/-! ## The pairing of a document -/

/-- What a line means to the pairing: it opens a block with a target, it ends a block, perhaps one
with a target, or it is an `endif` with a text, which ends none. -/
inductive Marker
  | opens (target : String)
  | closes (target : String)
  | misplaced
  deriving DecidableEq, Repr

/-- The marker that a directive is. A conditional with a text opens no block. -/
def Marker.ofDirective? : Directive → Option Marker
  | .include _ => none
  | .opening d => if d.inlineText?.isSome then none else some (.opens d.target)
  | .closing d => some (if d.text.isSome then .misplaced else .closes d.target)

/-- The marker that a line is. -/
def Marker.ofText? (text : String) : Option Marker :=
  (Directive.ofLine? (strippedEnd text)).bind ofDirective?

/-- The pairing of some lines: the openings that are not paired yet, innermost first, each with its
target, the pairs of an opening and an `endif`, and the `endif`s that are paired with none. -/
structure Pairing where
  opened : List (Nat × String) := []
  pairs : List (Nat × Nat) := []
  stray : List Nat := []
  deriving DecidableEq, Repr

namespace Pairing

/-- The pairing with an `endif` left over. -/
def leave (p : Pairing) (index : Nat) : Pairing := { p with stray := index :: p.stray }

/-- The pairing after the line with the given index. An `endif` is paired with the innermost opening
if it has no target or the same one, and is left over otherwise. -/
def read (p : Pairing) (index : Nat) : Option Marker → Pairing
  | none => p
  | some (.opens target) => { p with opened := (index, target) :: p.opened }
  | some .misplaced => p.leave index
  | some (.closes target) =>
    match p.opened with
    | [] => p.leave index
    | (opening, expected) :: outer =>
      if target = "" ∨ target = expected then
        { p with opened := outer, pairs := (opening, index) :: p.pairs }
      else p.leave index

/-- The pairing after some lines, the first of which has the given index. -/
def readFrom (p : Pairing) (index : Nat) : List Line → Pairing
  | [] => p
  | line :: rest => readFrom (p.read index (Marker.ofText? line.text)) (index + 1) rest

/-- The pairing of the lines of a document. -/
def ofLines (lines : List Line) : Pairing := readFrom {} 0 lines

/-- Whether nothing is paired with the line of the given index. -/
def Unpaired (p : Pairing) (i : Nat) : Prop := ∀ j, (i, j) ∉ p.pairs ∧ (j, i) ∉ p.pairs

/-- The indices of all lines that the pairing has seen to be markers. -/
def indices (p : Pairing) : List Nat :=
  p.opened.map (·.1) ++ (p.pairs.flatMap fun pair => [pair.1, pair.2]) ++ p.stray

/-- The indices of the lines that are markers, if the first line has the given index. -/
def marked (index : Nat) (lines : List Line) : List Nat :=
  ((lines.zipIdx index).filter fun entry => (Marker.ofText? entry.1.text).isSome).map (·.2)

variable {p : Pairing} {index : Nat} {lines : List Line}

/-- An `endif` outside of all blocks is left over. -/
theorem read_of_nil (target : String) (h : p.opened = []) :
    p.read index (some (.closes target)) = p.leave index := by
  simp only [read, h]

/-- An `endif` is paired with the innermost opening. -/
theorem read_of_paired {i : Nat} {target expected : String} {outer : List (Nat × String)}
    (h : p.opened = (i, expected) :: outer) (hends : target = "" ∨ target = expected) :
    p.read index (some (.closes target)) =
      { p with opened := outer, pairs := (i, index) :: p.pairs } := by
  simp only [read, h, if_pos hends]

/-- An `endif` that names another block is left over. -/
theorem read_of_mismatched {i : Nat} {target expected : String} {outer : List (Nat × String)}
    (h : p.opened = (i, expected) :: outer) (hends : ¬ (target = "" ∨ target = expected)) :
    p.read index (some (.closes target)) = p.leave index := by
  simp only [read, h, if_neg hends]

theorem readFrom_append (p : Pairing) (index : Nat) (lines more : List Line) :
    p.readFrom index (lines ++ more) =
      (p.readFrom index lines).readFrom (index + lines.length) more := by
  induction lines generalizing p index with
  | nil => rfl
  | cons line rest ih =>
    rw [List.cons_append, readFrom, ih, readFrom, List.length_cons, Nat.add_assoc, Nat.add_comm 1]

/-- The pairing of one line more. -/
theorem ofLines_take_succ {n : Nat} {line : Line} (h : lines[n]? = some line) :
    ofLines (lines.take (n + 1)) =
      (ofLines (lines.take n)).read n (Marker.ofText? line.text) := by
  obtain ⟨hlt, -⟩ := List.getElem?_eq_some_iff.1 h
  rw [ofLines, List.take_add_one, h, readFrom_append, List.length_take, Nat.min_eq_left (Nat.le_of_lt hlt),
    Nat.zero_add, Option.toList_some, readFrom, readFrom]
  rfl

/-- The pairing of some lines more. -/
theorem ofLines_take_add (n k : Nat) (h : n ≤ lines.length) :
    ofLines (lines.take (n + k)) =
      (ofLines (lines.take n)).readFrom n ((lines.drop n).take k) := by
  rw [ofLines, List.take_add, readFrom_append, List.length_take, Nat.min_eq_left h, Nat.zero_add]
  rfl

/-- What is paired stays paired, and what is left over stays left over. -/
theorem subset_read (m : Option Marker) :
    p.pairs ⊆ (p.read index m).pairs ∧ p.stray ⊆ (p.read index m).stray := by
  have hstray : p.pairs ⊆ (p.leave index).pairs ∧ p.stray ⊆ (p.leave index).stray :=
    ⟨List.Subset.refl _, List.subset_cons_self _ _⟩
  unfold read
  split
  · exact ⟨List.Subset.refl _, List.Subset.refl _⟩
  · exact ⟨List.Subset.refl _, List.Subset.refl _⟩
  · exact hstray
  · split
    · exact hstray
    · split
      · exact ⟨List.subset_cons_self _ _, List.Subset.refl _⟩
      · exact hstray

/-- So it does after all lines. -/
theorem subset_readFrom (p : Pairing) (index : Nat) (lines : List Line) :
    p.pairs ⊆ (p.readFrom index lines).pairs ∧ p.stray ⊆ (p.readFrom index lines).stray := by
  induction lines generalizing p index with
  | nil => exact ⟨List.Subset.refl _, List.Subset.refl _⟩
  | cons line rest ih =>
    obtain ⟨hpairs, hstray⟩ := ih (p.read index (Marker.ofText? line.text)) (index + 1)
    rw [readFrom]
    exact ⟨List.Subset.trans (subset_read _).1 hpairs, List.Subset.trans (subset_read _).2 hstray⟩

/-- What is paired in the first lines of a document is paired in the document. -/
theorem subset_ofLines (n : Nat) (lines : List Line) :
    (ofLines (lines.take n)).pairs ⊆ (ofLines lines).pairs ∧
      (ofLines (lines.take n)).stray ⊆ (ofLines lines).stray := by
  have h := subset_readFrom (ofLines (lines.take n)) (0 + (lines.take n).length) (lines.drop n)
  rwa [ofLines, ← readFrom_append, List.take_append_drop] at h

/-! ## Every marker has its place -/

/-- A marker is added to the indices, and all others stay there. -/
theorem perm_read (p : Pairing) (index : Nat) (m : Marker) :
    (p.read index (some m)).indices.Perm (index :: p.indices) := by
  have hstray : (p.leave index).indices.Perm (index :: p.indices) := List.perm_middle
  unfold read
  cases m with
  | opens target => exact List.Perm.refl _
  | misplaced => exact hstray
  | closes target =>
    dsimp only
    split
    · exact hstray
    · rename_i opening expected outer hopened
      split
      · -- the opening moves to the pairs
        simp only [indices, hopened, List.map_cons, List.flatMap_cons, List.append_assoc,
          List.cons_append, List.nil_append]
        refine List.perm_middle.trans ?_
        refine (List.Perm.cons _ List.perm_middle).trans ?_
        exact List.Perm.swap _ _ _
      · exact hstray

theorem marked_cons (index : Nat) (line : Line) (rest : List Line) :
    marked index (line :: rest) = if (Marker.ofText? line.text).isSome
      then index :: marked (index + 1) rest else marked (index + 1) rest := by
  unfold marked
  rw [List.zipIdx_cons, List.filter_cons]
  split <;> rfl

/-- All markers are added to the indices. -/
theorem perm_readFrom (p : Pairing) (index : Nat) (lines : List Line) :
    (p.readFrom index lines).indices.Perm (marked index lines ++ p.indices) := by
  induction lines generalizing p index with
  | nil => exact List.Perm.refl _
  | cons line rest ih =>
    have hrest := ih (p.read index (Marker.ofText? line.text)) (index + 1)
    rw [readFrom, marked_cons]
    cases hmarker : Marker.ofText? line.text with
    | none =>
      rw [hmarker] at hrest
      exact hrest
    | some m =>
      rw [hmarker] at hrest
      refine hrest.trans ?_
      exact ((perm_read p index m).append_left _).trans List.perm_middle

/-- Every marker of a document is an opening that is not paired, is in one pair, or is an `endif`
that is not paired, and is only one of these. -/
theorem perm_marked (lines : List Line) : (ofLines lines).indices.Perm (marked 0 lines) := by
  have h := perm_readFrom {} 0 lines
  rwa [show indices {} = [] from rfl, List.append_nil] at h

/-- The markers of a document are different lines. -/
theorem nodup_marked (index : Nat) (lines : List Line) : (marked index lines).Nodup := by
  have hsub : (marked index lines).Sublist ((lines.zipIdx index).map (·.2)) :=
    List.Sublist.map _ List.filter_sublist
  rw [List.zipIdx_map_snd] at hsub
  exact hsub.nodup List.nodup_range'

theorem mem_marked {i : Nat} :
    i ∈ marked 0 lines ↔ ∃ line, lines[i]? = some line ∧ (Marker.ofText? line.text).isSome := by
  simp only [marked, List.mem_map, List.mem_filter, List.mem_zipIdx_iff_getElem?]
  constructor
  · rintro ⟨⟨line, i⟩, ⟨hline, hmarker⟩, rfl⟩
    exact ⟨line, hline, hmarker⟩
  · rintro ⟨line, hline, hmarker⟩
    exact ⟨(line, i), ⟨hline, hmarker⟩, rfl⟩

/-- The lines that are paired are those in pairs. -/
theorem unpaired_iff {i : Nat} :
    p.Unpaired i ↔ i ∉ p.pairs.flatMap fun pair => [pair.1, pair.2] := by
  simp only [Unpaired, List.mem_flatMap, List.mem_cons, List.not_mem_nil, or_false]
  constructor
  · rintro hunpaired ⟨⟨i, j⟩, hpair, rfl | rfl⟩
    · exact (hunpaired j).1 hpair
    · exact (hunpaired i).2 hpair
  · intro h j
    exact ⟨fun hpair => h ⟨_, hpair, .inl rfl⟩, fun hpair => h ⟨_, hpair, .inr rfl⟩⟩

/-- What is left over is unpaired. -/
theorem unpaired_of_left {i : Nat}
    (h : i ∈ (ofLines lines).opened.map (·.1) ∨ i ∈ (ofLines lines).stray) :
    (ofLines lines).Unpaired i := by
  have hnodup := (perm_marked lines).nodup_iff.2 (nodup_marked 0 lines)
  generalize ofLines lines = p at h hnodup
  simp only [indices, List.append_assoc, List.nodup_append, List.mem_append] at hnodup
  obtain ⟨-, ⟨-, -, hpairs⟩, hopened⟩ := hnodup
  refine unpaired_iff.2 fun hmem => ?_
  rcases h with h | h
  · exact hopened i h i (.inl hmem) rfl
  · exact hpairs i hmem i h rfl

/-- Some marker of a document is unpaired if an opening or an `endif` is left over. -/
theorem exists_unpaired_iff :
    (∃ i line, lines[i]? = some line ∧ (Marker.ofText? line.text).isSome ∧
        (ofLines lines).Unpaired i) ↔
      (ofLines lines).opened ≠ [] ∨ (ofLines lines).stray ≠ [] := by
  have hperm := perm_marked lines
  constructor
  · rintro ⟨i, line, hline, hmarker, hunpaired⟩
    have hi := hperm.mem_iff.2 (mem_marked.2 ⟨line, hline, hmarker⟩)
    rcases List.mem_append.1 hi with hi | hi
    · rcases List.mem_append.1 hi with hi | hi
      · exact .inl fun hnone => by simp [hnone] at hi
      · exact absurd hi (unpaired_iff.1 hunpaired)
    · exact .inr (List.ne_nil_of_mem hi)
  · intro hleft
    have hfound : ∃ i, i ∈ (ofLines lines).opened.map (·.1) ∨ i ∈ (ofLines lines).stray := by
      rcases hleft with hleft | hleft
      · obtain ⟨opening, hopening⟩ := List.exists_mem_of_ne_nil _ hleft
        exact ⟨_, .inl (List.mem_map.2 ⟨_, hopening, rfl⟩)⟩
      · obtain ⟨i, hi⟩ := List.exists_mem_of_ne_nil _ hleft
        exact ⟨i, .inr hi⟩
    obtain ⟨i, hi⟩ := hfound
    have hindex : i ∈ (ofLines lines).indices := by
      rcases hi with hi | hi
      · exact List.mem_append_left _ (List.mem_append_left _ hi)
      · exact List.mem_append_right _ hi
    obtain ⟨line, hline, hmarker⟩ := mem_marked.1 (hperm.mem_iff.1 hindex)
    exact ⟨i, line, hline, hmarker, unpaired_of_left hi⟩

end Pairing

/-! ## The lines of the documents -/

/-- Whether a conditional has a target where it needs one, and has none where it must not. -/
def Opening.Targeted : Opening → Prop
  | .presence d => d.target ≠ ""
  | .comparison d => d.target = ""

instance (d : Opening) : Decidable d.Targeted :=
  match d with
  | .presence d => inferInstanceAs (Decidable (d.target ≠ ""))
  | .comparison d => inferInstanceAs (Decidable (d.target = ""))

/-- Whether a directive may stand in a document that can be paired: it is no include, a conditional
has a target just if it needs one, and a text that is complete in one line is no directive. -/
def Directive.Regular : Directive → Prop
  | .include _ => False
  | .opening d => d.Targeted ∧
    ∀ text ∈ d.inlineText?, Directive.ofLine? (strippedEnd text) = none
  | .closing _ => True

instance (d : Directive) : Decidable d.Regular :=
  match d with
  | .include _ => inferInstanceAs (Decidable False)
  | .opening d => inferInstanceAs (Decidable (d.Targeted ∧
    ∀ text ∈ d.inlineText?, Directive.ofLine? (strippedEnd text) = none))
  | .closing _ => inferInstanceAs (Decidable True)

/-- Whether a line may stand in a document that can be paired. -/
def Line.Regular (line : Line) : Prop :=
  ∀ d ∈ Directive.ofLine? (strippedEnd line.text), d.Regular

instance (line : Line) : Decidable line.Regular :=
  inferInstanceAs (Decidable (∀ d ∈ Directive.ofLine? (strippedEnd line.text), d.Regular))

namespace Line.Regular

variable {line : Line} {d : Opening}

theorem closed (h : line.Regular) (d : Include) :
    Directive.ofLine? (strippedEnd line.text) ≠ some (.include d) := h (.include d)

theorem targeted (h : line.Regular)
    (hd : Directive.ofLine? (strippedEnd line.text) = some (.opening d)) : d.Targeted :=
  (h (.opening d) hd).1

theorem plain {text : String} (h : line.Regular)
    (hd : Directive.ofLine? (strippedEnd line.text) = some (.opening d))
    (hinline : d.inlineText? = some text) : Directive.ofLine? (strippedEnd text) = none :=
  (h (.opening d) hd).2 text hinline

end Line.Regular

namespace BlockEnd

variable {d : Opening} {targets : List String}

/-- In a block that is left out, the opening of another block is one more opening. -/
theorem advance_of_block (hblock : d.inlineText? = none) (htargeted : d.Targeted) :
    advance targets (some (.opening d)) = (d.target :: targets, none) := by
  cases d with
  | presence d => exact congrArg (·, none) (if_pos ⟨htargeted, hblock⟩)
  | comparison d =>
    have htarget : d.target = "" := htargeted
    simp [advance, Opening.target, htarget]

/-- In a block that is left out, a conditional that is complete in one line is nothing. -/
theorem advance_of_inline {text : String} (hinline : d.inlineText? = some text) :
    advance targets (some (.opening d)) = (targets, none) := by
  cases d with
  | presence d =>
    have htext : d.text = some text := hinline
    simp [advance, htext]
  | comparison d => cases hinline

end BlockEnd

/-! ## Blocks that are left out -/

namespace Pairing

variable {p : Pairing} {i : Nat} {target : String} {deeper outer : List (Nat × String)}
  {lines : List Line}

/-- In a block that is left out, opened by line `i`, a line is paired as the search for the end of
the block says: it ends the block, or the block goes on, with a problem if it is left over. -/
theorem read_of_advance {line : Line} (hregular : line.Regular)
    (hopened : p.opened = deeper ++ (i, target) :: outer) {index : Nat} {after : Pairing}
    {met : List String × Option String} (hafter : p.read index (Marker.ofText? line.text) = after)
    (hmet : BlockEnd.advance (deeper.map (·.2) ++ [target])
      (Directive.ofLine? (strippedEnd line.text)) = met) :
    (met = ([], none) ∧ after.opened = outer ∧ (i, index) ∈ after.pairs ∧
        after.stray = p.stray) ∨
      ∃ deeper', met.1 = deeper'.map (·.2) ++ [target] ∧
        after.opened = deeper' ++ (i, target) :: outer ∧
        (after.stray = [] ↔ p.stray = [] ∧ met.2 = none) := by
  have hclosed := hregular.closed
  have htargeted : ∀ d, Directive.ofLine? (strippedEnd line.text) = some (.opening d) →
    d.Targeted := fun d => hregular.targeted
  subst hafter hmet
  unfold Marker.ofText?
  generalize Directive.ofLine? (strippedEnd line.text) = found at hclosed htargeted
  rcases found with _ | (d | d | d)
  · exact .inr ⟨deeper, rfl, hopened, by simp [read, BlockEnd.advance]⟩
  · exact absurd rfl (hclosed d)
  · cases hinline : d.inlineText? with
    | some text =>
      simp only [Option.bind_some, Marker.ofDirective?, hinline, BlockEnd.advance_of_inline hinline]
      exact .inr ⟨deeper, rfl, hopened, by simp [read]⟩
    | none =>
      simp only [Option.bind_some, Marker.ofDirective?, hinline,
        BlockEnd.advance_of_block hinline (htargeted d rfl)]
      exact .inr ⟨(index, d.target) :: deeper, rfl, by simp [read, hopened], by simp [read]⟩
  · cases htext : d.text with
    | some text =>
      simp only [Option.bind_some, Marker.ofDirective?, htext, BlockEnd.advance]
      exact .inr ⟨deeper, rfl, hopened, by simp [read, leave]⟩
    | none =>
      simp only [Option.bind_some, Marker.ofDirective?, htext, BlockEnd.advance]
      -- the innermost opening is that of the block itself, or one inside it
      cases deeper with
      | nil =>
        by_cases hends : d.target = "" ∨ d.target = target
        · exact .inl (by simp [read, hopened, hends])
        · exact .inr ⟨[], by simp [read, leave, hopened, hends]⟩
      | cons inner deeper =>
        by_cases hends : d.target = "" ∨ d.target = inner.2
        · exact .inr ⟨deeper, by simp [read, hopened, hends]⟩
        · exact .inr ⟨inner :: deeper, by simp [read, leave, hopened, hends]⟩

/-- A block that is left out ends where its opening is paired, and the `endif`s that are left over
in it are its problems. -/
theorem readFrom_of_findFrom {count n : Nat} (index : Nat) (hregular : ∀ line ∈ lines, line.Regular)
    (hopened : p.opened = deeper ++ (i, target) :: outer)
    (hfound : (BlockEnd.findFrom (deeper.map (·.2) ++ [target]) count lines).length = some n) :
    ∃ k, n = count + k + 1 ∧
      (p.readFrom index (lines.take (k + 1))).opened = outer ∧
      (i, index + k) ∈ (p.readFrom index (lines.take (k + 1))).pairs ∧
      ((p.readFrom index (lines.take (k + 1))).stray = [] ↔ p.stray = [] ∧
        (BlockEnd.findFrom (deeper.map (·.2) ++ [target]) count lines).problems = []) := by
  -- by induction on the lines, with the openings inside the block that are still to be paired
  induction lines generalizing p deeper count index with
  | nil => cases hfound
  | cons line rest ih =>
    have hline := hregular line List.mem_cons_self
    have hrest : ∀ line ∈ rest, line.Regular := fun l hl => hregular l (List.mem_cons_of_mem _ hl)
    rcases read_of_advance hline hopened (Eq.refl (p.read index _)) rfl with
      ⟨hmet, hafter, hpair, hstray⟩ | ⟨deeper', hmet, hafter, hstray⟩
    · rw [BlockEnd.findFrom_of_ended (by rw [hmet])] at hfound ⊢
      cases hfound
      refine ⟨0, rfl, ?_⟩
      rw [List.take_succ_cons, List.take_zero, readFrom, readFrom]
      exact ⟨hafter, hpair, by simp [hstray]⟩
    · have hopen : (BlockEnd.advance (deeper.map (·.2) ++ [target])
          (Directive.ofLine? (strippedEnd line.text))).1 ≠ [] := by simp [hmet]
      rw [BlockEnd.length_findFrom_of_open hopen, hmet] at hfound
      rw [BlockEnd.problems_findFrom_of_open hopen, hmet]
      obtain ⟨k, rfl, houter, hpair, hlater⟩ := ih (index + 1) hrest hafter hfound
      have hindex : index + (k + 1) = index + 1 + k := by omega
      refine ⟨k + 1, by omega, ?_⟩
      rw [List.take_succ_cons, readFrom, hindex]
      refine ⟨houter, hpair, hlater.trans ?_⟩
      rw [hstray]
      simp [and_assoc]

/-- If a block that is left out has no end, its opening is left over. -/
theorem opened_of_findFrom {count : Nat} (index : Nat) (hregular : ∀ line ∈ lines, line.Regular)
    (hopened : p.opened = deeper ++ (i, target) :: outer)
    (hfound : (BlockEnd.findFrom (deeper.map (·.2) ++ [target]) count lines).length = none) :
    ∃ deeper', (p.readFrom index lines).opened = deeper' ++ (i, target) :: outer := by
  induction lines generalizing p deeper count index with
  | nil => exact ⟨deeper, hopened⟩
  | cons line rest ih =>
    have hline := hregular line List.mem_cons_self
    have hrest : ∀ line ∈ rest, line.Regular := fun l hl => hregular l (List.mem_cons_of_mem _ hl)
    rcases read_of_advance hline hopened (Eq.refl (p.read index _)) rfl with
      ⟨hmet, -⟩ | ⟨deeper', hmet, hafter, -⟩
    · rw [BlockEnd.findFrom_of_ended (by rw [hmet])] at hfound
      cases hfound
    · have hopen : (BlockEnd.advance (deeper.map (·.2) ++ [target])
          (Directive.ofLine? (strippedEnd line.text))).1 ≠ [] := by simp [hmet]
      rw [BlockEnd.length_findFrom_of_open hopen, hmet] at hfound
      rw [readFrom]
      exact ih (index + 1) hrest hafter hfound

variable {n : Nat}

/-- So it is for a block of which no line is read yet. -/
theorem readFrom_of_find (index : Nat) (hregular : ∀ line ∈ lines, line.Regular)
    (hopened : p.opened = (i, target) :: outer)
    (hfound : (BlockEnd.find target lines).length = some n) :
    ∃ k, n = k + 1 ∧ (p.readFrom index (lines.take (k + 1))).opened = outer ∧
      (i, index + k) ∈ (p.readFrom index (lines.take (k + 1))).pairs ∧
      ((p.readFrom index (lines.take (k + 1))).stray = [] ↔ p.stray = [] ∧
        (BlockEnd.find target lines).problems = []) := by
  have hlength : (BlockEnd.findFrom (([] : List (Nat × String)).map (·.2) ++ [target]) 0
      lines).length = some n := hfound
  obtain ⟨k, hn, hafter⟩ := readFrom_of_findFrom index hregular hopened hlength
  exact ⟨k, by omega, hafter⟩

/-- So it is for a block of which no line is read yet. -/
theorem opened_of_find (index : Nat) (hregular : ∀ line ∈ lines, line.Regular)
    (hopened : p.opened = (i, target) :: outer)
    (hfound : (BlockEnd.find target lines).length = none) :
    (i, target) ∈ (p.readFrom index lines).opened := by
  have hlength : (BlockEnd.findFrom (([] : List (Nat × String)).map (·.2) ++ [target]) 0
      lines).length = none := hfound
  obtain ⟨deeper, hleft⟩ := opened_of_findFrom index hregular hopened hlength
  rw [hleft]
  exact List.mem_append_right _ List.mem_cons_self

end Pairing

/-! ## Reductions keep to the pairing -/

/-- Whether a problem of the structure of the document is found. -/
def Journal.Structural (j : Journal) : Prop := ∃ d ∈ j.diagnostics, d.category = .structural

/-- Whether an open block is that of an opening of a document, given by its index and its target,
and is true. -/
def Frame.OpenedBy (lines : List Line) (f : Frame) (opening : Nat × String) : Prop :=
  ∃ line d, lines[opening.1]? = some line ∧
    Directive.ofLine? (strippedEnd line.text) = some (.opening d) ∧
    f = d.frame true line.origin ∧ opening.2 = d.target

namespace Context

variable {setting : Setting} {c after : Context} {d : Opening} {origin : Origin} {active : Bool}

/-- A report is of a problem of the structure. -/
theorem structural_report (c : Context) (message : String) (origin : Origin) :
    (c.report message origin).journal.Structural :=
  ⟨.structural message origin, by simp, rfl⟩

/-- Reports are, if there are any. -/
theorem structural_reportAll (c : Context) (problems : List (String × Origin)) :
    (c.reportAll problems).journal.Structural ↔ c.journal.Structural ∨ problems ≠ [] := by
  unfold Journal.Structural
  rw [diagnostics_reportAll]
  constructor
  · rintro ⟨p, hp, hcategory⟩
    rcases List.mem_append.1 hp with hp | hp
    · exact .inl ⟨p, hp, hcategory⟩
    · exact .inr fun hnone => by simp [hnone] at hp
  · rintro (⟨p, hp, hcategory⟩ | hproblems)
    · exact ⟨p, List.mem_append_left _ hp, hcategory⟩
    · obtain ⟨problem, hproblem⟩ := List.exists_mem_of_ne_nil _ hproblems
      exact ⟨_, List.mem_append_right _ (List.mem_map.2 ⟨problem, hproblem, rfl⟩), rfl⟩

/-- A decision finds none. -/
theorem structural_of_judge (h : c.judge setting d origin = .ok (active, after)) :
    after.journal.Structural ↔ c.journal.Structural := by
  obtain ⟨found, hdiagnostics, hfound⟩ := diagnostics_of_judge h
  unfold Journal.Structural
  rw [hdiagnostics]
  constructor
  · rintro ⟨p, hp, hcategory⟩
    rcases List.mem_append.1 hp with hp | hp
    · exact ⟨p, hp, hcategory⟩
    · obtain ⟨-, hevaluation⟩ := hfound p (Option.mem_toList.1 hp)
      rw [hcategory] at hevaluation
      cases hevaluation
  · rintro ⟨p, hp, hcategory⟩
    exact ⟨p, List.mem_append_left _ hp, hcategory⟩

end Context

namespace State

/-- Whether the line of the given index is the next that is read, and all lines after it are still
to be read. -/
def Reads (lines : List Line) (s : State) (i : Nat) (line : Line) : Prop :=
  lines[i]? = some line ∧ s.pending = line :: lines.drop (i + 1)

/-- Whether a reduction stands where the pairing of a document says: some of its lines are read, the
blocks that are open are those of the openings among them that are not paired yet, and a problem is
found if an `endif` among them is left over. Once a block without an end is left out, no line is
left. -/
inductive Matched (lines : List Line) (s : State) : Prop
  | reading (n : Nat) (fresh : List Line) (pending : s.pending = fresh ++ lines.drop n)
    (plain : ∀ line ∈ fresh, Directive.ofLine? (strippedEnd line.text) = none)
    (frames : List.Forall₂ (Frame.OpenedBy lines) s.frames (Pairing.ofLines (lines.take n)).opened)
    (recorded : s.journal.Structural ↔ (Pairing.ofLines (lines.take n)).stray ≠ [])
  | cutShort (pending : s.pending = []) (recorded : s.journal.Structural)
    (unended : (Pairing.ofLines lines).opened ≠ [])

/-- What a step does about blocks, as the pairing of the document says. -/
inductive KeepsPairs (setting : Setting) (lines : List Line) (s t : State) : Prop
  /-- The opening of a true block is dropped, and the block is open. -/
  | entered (i : Nat) (line : Line) (d : Opening) (c : Context) (reads : s.Reads lines i line)
    (opens : Directive.ofLine? (strippedEnd line.text) = some (.opening d))
    (block : d.inlineText? = none) (judged : s.judge setting d line.origin = .ok (true, c))
    (emitted : t.emitted = s.emitted) (pending : t.pending = lines.drop (i + 1))
    (frames : t.frames = d.frame true line.origin :: s.frames)
  /-- A false block is dropped through the `endif` that is paired with its opening, or to the end of
  the document if none is. -/
  | removed (i : Nat) (line : Line) (d : Opening) (c : Context) (reads : s.Reads lines i line)
    (opens : Directive.ofLine? (strippedEnd line.text) = some (.opening d))
    (block : d.inlineText? = none) (judged : s.judge setting d line.origin = .ok (false, c))
    (emitted : t.emitted = s.emitted)
    (pending : (∃ j, (i, j) ∈ (Pairing.ofLines lines).pairs ∧ t.pending = lines.drop (j + 1)) ∨
      (Pairing.ofLines lines).Unpaired i ∧ t.pending = [])
    (frames : t.frames = s.frames)
  /-- An `endif` that is paired is dropped, and ends the block of its opening. -/
  | ended (i j : Nat) (line : Line) (d : Closing) (f : Frame) (target : String)
    (reads : s.Reads lines j line)
    (closes : Directive.ofLine? (strippedEnd line.text) = some (.closing d))
    (paired : (i, j) ∈ (Pairing.ofLines lines).pairs) (opened : f.OpenedBy lines (i, target))
    (emitted : t.emitted = s.emitted) (pending : t.pending = lines.drop (j + 1))
    (frames : s.frames = f :: t.frames)
  /-- An `endif` that is left over is dropped and reported, and ends no block. -/
  | reported (j : Nat) (line : Line) (d : Closing) (reads : s.Reads lines j line)
    (closes : Directive.ofLine? (strippedEnd line.text) = some (.closing d))
    (unpaired : (Pairing.ofLines lines).Unpaired j) (recorded : t.journal.Structural)
    (emitted : t.emitted = s.emitted) (pending : t.pending = lines.drop (j + 1))
    (frames : t.frames = s.frames)
  /-- Any other line leaves the blocks, and the lines after it, as they are. -/
  | other (line : Line) (rest new : List Line) (taken : s.pending = line :: rest)
    (unmarked : Marker.ofText? line.text = none) (pending : t.pending = new ++ rest)
    (frames : t.frames = s.frames)

variable {setting : Setting} {s t : State} {line : Line} {rest lines : List Line}

/-- A line that is no directive leaves the blocks, and what is found wrong, as they are. -/
theorem Rule.of_plain (h : Rule setting s line rest t)
    (hplain : Directive.ofLine? (strippedEnd line.text) = none) :
    t.pending = rest ∧ t.frames = s.frames ∧
      t.journal.diagnostics = s.journal.diagnostics := by
  have hnot : ∀ {d : Directive}, Directive.ofLine? (strippedEnd line.text) ≠ some d := by
    intro d hd
    rw [hplain] at hd
    cases hd
  cases h with
  | plain => exact ⟨rfl, rfl, rfl⟩
  | entry e =>
    exact ⟨rfl, s.toContext.frames_afterEntry e, s.toContext.diagnostics_afterEntry e⟩
  | inclusion _ _ _ directive | closingDropped _ directive | closingKept _ directive
  | inlineTrue _ _ _ directive | inlineFalse _ _ _ directive | blockTrue _ _ directive
  | blockFalse _ _ directive | inlineRewritten _ _ directive | inlineKept _ _ directive
  | blockKept _ _ _ directive => exact absurd directive hnot

variable {n : Nat}

/-- What is read when the line of an index is. -/
theorem Reads.of_drop (h : lines.drop n = line :: rest) : lines[n]? = some line ∧
    rest = lines.drop (n + 1) := by
  have hline : lines[n]? = some line := by
    rw [← List.head?_drop, h, List.head?_cons]
  refine ⟨hline, ?_⟩
  rw [← List.tail_drop, h, List.tail_cons]

/-- A problem is found with a block that is left out if one is found in it, or if it has no end. -/
theorem structural_skip (s : State) (line : Line) (rest : List Line) (d : Opening) :
    (s.skip line rest d).journal.Structural ↔ s.journal.Structural ∨
      (BlockEnd.find d.target rest).problems ≠ [] ∨ (BlockEnd.find d.target rest).length = none := by
  have hproblems : problemsIn rest (BlockEnd.find d.target rest).problems = [] ↔
      (BlockEnd.find d.target rest).problems = [] :=
    problemsIn_eq_nil_iff BlockEnd.index_problems_find
  cases hlength : (BlockEnd.find d.target rest).length with
  | some n =>
    rw [skip_of_some hlength]
    refine (Context.structural_reportAll _ _).trans ?_
    rw [Ne, hproblems]
    simp
  | none =>
    rw [skip_of_none hlength]
    exact iff_of_true (Context.structural_report _ _ _) (.inr (.inr rfl))

section Reading

variable (hreads : s.Reads lines n line)
include hreads

/-- An `endif` that is left over is reported. -/
theorem keepsPairs_of_left {d : Closing} {problem : String}
    (hd : Directive.ofLine? (strippedEnd line.text) = some (.closing d))
    (hframes : List.Forall₂ (Frame.OpenedBy lines) s.frames
      (Pairing.ofLines (lines.take n)).opened)
    (hclose : Frame.close s.frames d = .error problem)
    (hleft : Pairing.ofLines (lines.take (n + 1)) = (Pairing.ofLines (lines.take n)).leave n) :
    let t := (s.withContext (s.afterClosing d line.origin)).await (lines.drop (n + 1))
    t.Matched lines ∧ KeepsPairs setting lines s t := by
  have hcontext : s.afterClosing d line.origin = s.report problem line.origin := by
    rw [Context.afterClosing, hclose]
  have hstructural := s.toContext.structural_report problem line.origin
  have hstray := (Pairing.subset_ofLines (n + 1) lines).2
  rw [hleft] at hstray
  rw [hcontext]
  refine ⟨.reading (n + 1) [] rfl (fun _ h => nomatch h) ?_ ?_,
    .reported n line d hreads hd ?_ hstructural rfl rfl rfl⟩
  · rw [hleft]
    exact hframes
  · rw [hleft]
    exact iff_of_true hstructural (List.cons_ne_nil _ _)
  · exact Pairing.unpaired_of_left (.inr (hstray List.mem_cons_self))

/-- An `endif` that is paired ends the block of its opening. -/
theorem keepsPairs_of_paired {d : Closing} {f : Frame} {frames : List Frame} {i : Nat}
    {target : String} {outer : List (Nat × String)}
    (hd : Directive.ofLine? (strippedEnd line.text) = some (.closing d))
    (hstack : s.frames = f :: frames) (hopened : f.OpenedBy lines (i, target))
    (hframes : List.Forall₂ (Frame.OpenedBy lines) frames outer)
    (hrecorded : s.journal.Structural ↔ (Pairing.ofLines (lines.take n)).stray ≠ [])
    (hclose : Frame.close s.frames d = .ok frames)
    (hpaired : Pairing.ofLines (lines.take (n + 1)) = { Pairing.ofLines (lines.take n) with
      opened := outer, pairs := (i, n) :: (Pairing.ofLines (lines.take n)).pairs }) :
    let t := (s.withContext (s.afterClosing d line.origin)).await (lines.drop (n + 1))
    t.Matched lines ∧ KeepsPairs setting lines s t := by
  have hcontext : s.afterClosing d line.origin = { s.toContext with frames := frames } := by
    rw [Context.afterClosing, hclose]
  have hpairs := (Pairing.subset_ofLines (n + 1) lines).1
  rw [hpaired] at hpairs
  rw [hcontext]
  refine ⟨.reading (n + 1) [] rfl (fun _ h => nomatch h) ?_ ?_,
    .ended i n line d f target hreads hd (hpairs List.mem_cons_self) hopened rfl rfl hstack⟩
  · rw [hpaired]
    exact hframes
  · rw [hpaired]
    exact hrecorded

variable
  (hframes : List.Forall₂ (Frame.OpenedBy lines) s.frames (Pairing.ofLines (lines.take n)).opened)
  (hrecorded : s.journal.Structural ↔ (Pairing.ofLines (lines.take n)).stray ≠ [])
include hframes hrecorded

/-- An `endif` does what the pairing says. -/
theorem keepsPairs_of_closing {d : Closing}
    (hd : Directive.ofLine? (strippedEnd line.text) = some (.closing d)) :
    let t := (s.withContext (s.afterClosing d line.origin)).await (lines.drop (n + 1))
    t.Matched lines ∧ KeepsPairs setting lines s t := by
  have hread := Pairing.ofLines_take_succ hreads.1
  rw [Marker.ofText?, hd, Option.bind_some, Marker.ofDirective?] at hread
  cases htext : d.text with
  | some text =>
    have hclose : Frame.close s.frames d = .error (textNotPermitted d.raw) := by
      simp only [Frame.close, htext]
    rw [htext] at hread
    exact keepsPairs_of_left hreads hd hframes hclose hread
  | none =>
    rw [htext] at hread
    simp only [Option.isSome_none, Bool.false_eq_true, if_false] at hread
    -- the blocks that are open are those of the openings that are not paired yet
    have hstack := hframes
    cases hopened : (Pairing.ofLines (lines.take n)).opened with
    | nil =>
      rw [hopened, List.forall₂_nil_right_iff] at hstack
      have hclose : Frame.close s.frames d =
          .error s!"unmatched preprocessor directive: endif::{d.target}[]" := by
        simp only [Frame.close, htext, hstack]
      rw [Pairing.read_of_nil _ hopened] at hread
      exact keepsPairs_of_left hreads hd hframes hclose hread
    | cons opening outer =>
      rw [hopened, List.forall₂_cons_right_iff] at hstack
      obtain ⟨f, frames, hf, houter, hstack⟩ := hstack
      have htarget : f.target = opening.2 := by
        obtain ⟨_, _, -, -, rfl, htarget⟩ := hf
        exact htarget.symm
      by_cases hends : d.target = "" ∨ d.target = opening.2
      · have hclose : Frame.close s.frames d = .ok frames := by
          rw [hstack]
          exact Frame.close_of_ends htext (by rwa [htarget])
        rw [Pairing.read_of_paired hopened hends] at hread
        exact keepsPairs_of_paired hreads hd hstack hf houter hrecorded hclose hread
      · have hclose : Frame.close s.frames d = .error (mismatched d.target f.target) := by
          have hnot : d.target ≠ "" ∧ d.target ≠ f.target := by
            rw [htarget]
            exact not_or.1 hends
          simp only [Frame.close, htext, hstack, if_pos hnot]
        rw [Pairing.read_of_mismatched hopened hends] at hread
        exact keepsPairs_of_left hreads hd hframes hclose hread

/-- A block that is left out is dropped up to where the pairing says. -/
theorem keepsPairs_of_skip {d : Opening} {c : Context} (hregular : ∀ line ∈ lines, line.Regular)
    (hd : Directive.ofLine? (strippedEnd line.text) = some (.opening d))
    (hblock : d.inlineText? = none) (hjudged : s.judge setting d line.origin = .ok (false, c))
    (ht : t = (s.withContext c).skip line (lines.drop (n + 1)) d) :
    t.Matched lines ∧ KeepsPairs setting lines s t := by
  have hread := Pairing.ofLines_take_succ hreads.1
  rw [Marker.ofText?, hd, Option.bind_some, Marker.ofDirective?, hblock] at hread
  simp only [Option.isSome_none, Bool.false_eq_true, if_false, Pairing.read] at hread
  have hopened : (Pairing.ofLines (lines.take (n + 1))).opened =
      (n, d.target) :: (Pairing.ofLines (lines.take n)).opened := by rw [hread]
  have hsame : (Pairing.ofLines (lines.take (n + 1))).stray =
      (Pairing.ofLines (lines.take n)).stray := by rw [hread]
  have hafter : ∀ line ∈ lines.drop (n + 1), line.Regular :=
    fun l hl => hregular l (List.mem_of_mem_drop hl)
  obtain ⟨hlt, -⟩ := List.getElem?_eq_some_iff.1 hreads.1
  -- the skip changes the journal and the lines still to be read
  have hstructural := structural_skip (s.withContext c) line (lines.drop (n + 1)) d
  obtain ⟨hemitted, _, hskip, -⟩ := skip_eq (s.withContext c) line (lines.drop (n + 1)) d
  rw [← ht] at hstructural hemitted hskip
  have hcontext : (s.withContext c).journal.Structural ↔ s.journal.Structural :=
    Context.structural_of_judge hjudged
  have hstack : t.frames = s.frames := by
    obtain ⟨_, rfl, -⟩ := Context.eq_of_judge hjudged
    rw [hskip]
    rfl
  rw [hcontext] at hstructural
  cases hlength : (BlockEnd.find d.target (lines.drop (n + 1))).length with
  | some m =>
    obtain ⟨k, rfl, houter, hpair, hstray⟩ := Pairing.readFrom_of_find (n + 1) hafter hopened hlength
    rw [← Pairing.ofLines_take_add (n + 1) (k + 1) hlt] at houter hpair hstray
    have hpending : t.pending = lines.drop (n + 1 + (k + 1)) := by
      rw [ht, skip_of_some hlength]
      exact List.drop_drop
    have hpairs := (Pairing.subset_ofLines (n + 1 + (k + 1)) lines).1
    refine ⟨.reading (n + 1 + (k + 1)) [] hpending (fun _ h => nomatch h) ?_ ?_,
      .removed n line d c hreads hd hblock hjudged hemitted
        (.inl ⟨n + 1 + k, hpairs hpair, hpending⟩) hstack⟩
    · rw [hstack, houter]
      exact hframes
    · refine Iff.trans ?_ (not_congr hstray).symm
      rw [hstructural, hlength, hsame, not_and_or, hrecorded]
      simp
  | none =>
    have hleft := Pairing.opened_of_find (n + 1) hafter hopened hlength
    have hpending : t.pending = [] := by
      rw [ht, skip_of_none hlength]
      rfl
    have hall : (Pairing.ofLines (lines.take (n + 1))).readFrom (n + 1) (lines.drop (n + 1)) =
        Pairing.ofLines lines := by
      have := Pairing.ofLines_take_add (n + 1) (lines.drop (n + 1)).length hlt
      rwa [List.take_length, List.length_drop, Nat.add_sub_cancel' hlt, List.take_length, eq_comm]
        at this
    rw [hall] at hleft
    exact ⟨.cutShort hpending (hstructural.2 (.inr (.inr hlength))) (List.ne_nil_of_mem hleft),
      .removed n line d c hreads hd hblock hjudged hemitted
        (.inr ⟨Pairing.unpaired_of_left (.inl (List.mem_map.2 ⟨_, hleft, rfl⟩)), hpending⟩) hstack⟩

/-- A line that is no marker leaves all as it is, but for what is read in its place. -/
theorem keepsPairs_of_unmarked (new : List Line) (hmarker : Marker.ofText? line.text = none)
    (hnew : ∀ line ∈ new, Directive.ofLine? (strippedEnd line.text) = none)
    (hpending : t.pending = new ++ lines.drop (n + 1)) (hstack : t.frames = s.frames)
    (hjournal : t.journal.Structural ↔ s.journal.Structural) :
    t.Matched lines ∧ KeepsPairs setting lines s t := by
  have hread := Pairing.ofLines_take_succ hreads.1
  rw [hmarker, Pairing.read] at hread
  refine ⟨.reading (n + 1) new hpending hnew ?_ ?_,
    .other line (lines.drop (n + 1)) new hreads.2 hmarker hpending hstack⟩
  · rw [hstack, hread]
    exact hframes
  · rw [hjournal, hread]
    exact hrecorded

/-- A conditional that is complete in one line leaves its text or nothing. -/
theorem keepsPairs_of_inline {d : Opening} {text : String} {active : Bool} {c : Context}
    (new : List Line) (hregular : line.Regular)
    (hd : Directive.ofLine? (strippedEnd line.text) = some (.opening d))
    (hinline : d.inlineText? = some text) (hjudged : s.judge setting d line.origin = .ok (active, c))
    (hnew : ∀ l ∈ new, l.text = text) :
    let t := (s.withContext c).await (new ++ lines.drop (n + 1))
    t.Matched lines ∧ KeepsPairs setting lines s t := by
  have hmarker : Marker.ofText? line.text = none := by
    simp [Marker.ofText?, hd, Marker.ofDirective?, hinline]
  have hstack : c.frames = s.frames := by
    obtain ⟨_, rfl, -⟩ := Context.eq_of_judge hjudged
    rfl
  refine keepsPairs_of_unmarked hreads hframes hrecorded new hmarker (fun l hl => ?_) rfl hstack
    (Context.structural_of_judge hjudged)
  rw [hnew l hl]
  exact hregular.plain hd hinline

/-- The opening of a true block is one more opening that is not paired yet. -/
theorem keepsPairs_of_enter {d : Opening} {c : Context}
    (hd : Directive.ofLine? (strippedEnd line.text) = some (.opening d))
    (hblock : d.inlineText? = none) (hjudged : s.judge setting d line.origin = .ok (true, c)) :
    let t := (s.withContext (c.enter d true line.origin)).await (lines.drop (n + 1))
    t.Matched lines ∧ KeepsPairs setting lines s t := by
  have hread := Pairing.ofLines_take_succ hreads.1
  rw [Marker.ofText?, hd, Option.bind_some, Marker.ofDirective?, hblock] at hread
  simp only [Option.isSome_none, Bool.false_eq_true, if_false, Pairing.read] at hread
  have hstructural := Context.structural_of_judge hjudged
  have hstack : (c.enter d true line.origin).frames = d.frame true line.origin :: s.frames := by
    obtain ⟨_, rfl, -⟩ := Context.eq_of_judge hjudged
    rfl
  refine ⟨.reading (n + 1) [] rfl (fun _ h => nomatch h) ?_ ?_,
    .entered n line d c hreads hd hblock hjudged rfl rfl hstack⟩
  · show List.Forall₂ _ (c.enter d true line.origin).frames _
    rw [hstack, hread]
    exact .cons ⟨line, d, hreads.1, hd, rfl, rfl⟩ hframes
  · rw [hread]
    exact hstructural.trans hrecorded

end Reading

/-- Every step keeps to the pairing of a document. -/
theorem Rule.keepsPairs (h : Rule setting s line rest t) (hpending : s.pending = line :: rest)
    (hnormal : setting.options.preserveConditionals.meaning = false)
    (hregular : ∀ line ∈ lines, line.Regular) (hs : s.Matched lines) :
    t.Matched lines ∧ KeepsPairs setting lines s t := by
  -- the rules that preserve conditionals are excluded
  have hexcluded : setting.options.preserveConditionals.meaning = true →
      t.Matched lines ∧ KeepsPairs setting lines s t := by
    intro hpreserved
    rw [hnormal] at hpreserved
    cases hpreserved
  cases hs with
  | cutShort hnone =>
    rw [hnone] at hpending
    cases hpending
  | reading n fresh hread hfresh hframes hrecorded =>
    rw [hpending] at hread
    cases fresh with
    | cons first fresh =>
      -- the line is the text of a conditional, which is no directive
      obtain ⟨rfl, rfl⟩ := List.cons.inj hread
      have hplain := hfresh line List.mem_cons_self
      obtain ⟨hafter, hstack, hdiagnostics⟩ := h.of_plain hplain
      refine ⟨.reading n fresh hafter (fun l hl => hfresh l (List.mem_cons_of_mem _ hl)) ?_ ?_,
        .other line _ [] hpending (by rw [Marker.ofText?, hplain]; rfl) hafter hstack⟩
      · rw [hstack]
        exact hframes
      · rw [Journal.Structural, hdiagnostics]
        exact hrecorded
    | nil =>
      obtain ⟨hline, rfl⟩ := Reads.of_drop hread.symm
      have hreads : s.Reads lines n line := ⟨hline, hpending⟩
      have hregular' := hregular line (List.mem_of_getElem? hline)
      have hordinary : Directive.ofLine? (strippedEnd line.text) = none →
          t.Matched lines ∧ KeepsPairs setting lines s t := by
        intro hplain
        obtain ⟨hafter, hstack, hdiagnostics⟩ := h.of_plain hplain
        exact keepsPairs_of_unmarked hreads hframes hrecorded []
          (by rw [Marker.ofText?, hplain]; rfl) (fun _ h => nomatch h) hafter hstack
          (by rw [Journal.Structural, hdiagnostics]; rfl)
      cases h with
      | plain verbatim nothing =>
        exact hordinary (Hit.not_directive_of_ofLine? fun d hd => by rw [nothing] at hd; cases hd)
      | entry e found =>
        exact hordinary (Hit.not_directive_of_ofLine? fun d hd => by rw [found] at hd; cases hd)
      | inclusion d _ _ directive => exact absurd directive (hregular'.closed d)
      | closingDropped d directive => exact keepsPairs_of_closing hreads hframes hrecorded directive
      | inlineTrue d text c directive _ inline judged =>
        exact keepsPairs_of_inline hreads hframes hrecorded [⟨text, line.origin⟩] hregular'
          directive inline judged fun l hl => by rw [List.mem_singleton.1 hl]
      | inlineFalse d text c directive _ inline judged =>
        exact keepsPairs_of_inline hreads hframes hrecorded [] hregular' directive inline judged
          fun _ h => nomatch h
      | blockTrue d c directive _ block judged =>
        exact keepsPairs_of_enter hreads hframes hrecorded directive block judged
      | blockFalse d c directive _ block judged =>
        exact keepsPairs_of_skip hreads hframes hrecorded hregular directive block judged rfl
      | closingKept _ _ preserved | inlineRewritten _ _ _ preserved | inlineKept _ _ _ preserved
      | blockKept _ _ _ _ preserved => exact hexcluded preserved

/-- Every state that is reached stands where the pairing says. -/
theorem Leads.matched (h : Leads setting s t)
    (hnormal : setting.options.preserveConditionals.meaning = false)
    (hregular : ∀ line ∈ lines, line.Regular) (hs : s.Matched lines) : t.Matched lines := by
  refine h.preserves hs fun s t hafter hs => ?_
  obtain ⟨_, _, hpending, hrule⟩ := hafter.rule
  exact (hrule.keepsPairs hpending hnormal hregular hs).1

/-- No line that is next is an include. -/
theorem Matched.closed (hs : s.Matched lines) (hregular : ∀ line ∈ lines, line.Regular)
    (hpending : s.pending = line :: rest) (d : Include) :
    Directive.ofLine? (strippedEnd line.text) ≠ some (.include d) := by
  cases hs with
  | cutShort hnone =>
    rw [hnone] at hpending
    cases hpending
  | reading n fresh hread hfresh =>
    rw [hpending] at hread
    have hmem : line ∈ fresh ++ lines.drop n := by
      rw [← hread]
      exact List.mem_cons_self
    rcases List.mem_append.1 hmem with hmem | hmem
    · rw [hfresh line hmem]
      exact fun h => nomatch h
    · exact (hregular line (List.mem_of_mem_drop hmem)).closed d

/-- Where no include is next, a step is interrupted only because a number in a condition cannot be
read. -/
theorem abort_of_step {i : Interruption} (h : s.step setting = .error i)
    (hclosed : ∀ line rest, s.pending = line :: rest →
      ∀ d, Directive.ofLine? (strippedEnd line.text) ≠ some (.include d)) :
    ∃ e, i.abort = .numeral e := by
  obtain ⟨line, rest, hpending, ⟨d, hinclude, -⟩ | ⟨d, -, -, hjudge⟩⟩ := error_of_step h
  · exact absurd hinclude (hclosed line rest hpending d)
  · obtain ⟨e, rfl⟩ := Context.eq_of_judge_error hjudge
    exact ⟨e, rfl⟩

/-- At the start nothing of a document is read. -/
theorem matched_start (setting : Setting) (file : String) (attributes : AttributeSet)
    (b : Buffer) : (Loop.start setting file attributes b).state.Matched b.lines := by
  refine .reading 0 [] rfl (fun _ h => nomatch h) .nil (iff_of_false ?_ fun h => h rfl)
  rintro ⟨_, hd, -⟩
  cases hd

/-- Where no line is left, a problem is found or a block is open if some marker is unpaired. -/
theorem Matched.structural_iff (hs : s.Matched lines) (hpending : s.pending = []) :
    s.journal.Structural ∨ s.frames ≠ [] ↔
      (Pairing.ofLines lines).opened ≠ [] ∨ (Pairing.ofLines lines).stray ≠ [] := by
  cases hs with
  | cutShort _ hrecorded hunended => exact iff_of_true (.inl hrecorded) (.inl hunended)
  | reading n fresh hread hfresh hframes hrecorded =>
    rw [hpending, eq_comm, List.append_eq_nil_iff, List.drop_eq_nil_iff] at hread
    rw [List.take_of_length_le hread.2] at hframes hrecorded
    have hnone : s.frames = [] ↔ (Pairing.ofLines lines).opened = [] := by
      rw [← List.length_eq_zero_iff, hframes.length_eq, List.length_eq_zero_iff]
    rw [hrecorded, Ne, Ne, hnone]
    exact Or.comm

end State

/-- A problem of the structure is found in a document if one is found up to its end, or if a block is
still open there. -/
theorem Context.structural_finish (c : Context) :
    c.finish.journal.Structural ↔ c.journal.Structural ∨ c.frames ≠ [] := by
  rw [finish, structural_reportAll]
  simp

/-- Take a document without includes, in which a conditional has a target just if it needs one, and
no text that is complete in one line is a directive. Unless conditionals are preserved, and whatever
the attributes, every turn of its reduction keeps to the pairing of its lines, and a problem of the
structure is found if, and only if, some opening or `endif` is unpaired. The reduction comes to its
end, unless a number in a condition cannot be read. -/
theorem Buffer.reduce_paired (setting : Setting) (file : String) (attributes : AttributeSet)
    (b : Buffer) (hnormal : setting.options.preserveConditionals.meaning = false)
    (hregular : ∀ line ∈ b.lines, line.Regular) :
    (∀ ls, Loop.Trace setting (.start setting file attributes b) ls → ∀ l ∈ ls,
        l.state.Matched b.lines ∧
        ∀ m, l.step setting = .ok (.next m) →
          ∃ u : State, u.loop.buffer = l.buffer ∧
            u.toContext = { l.toContext with verbatim := u.verbatim } ∧
            State.KeepsPairs setting b.lines u m.state) ∧
      match b.reduce setting file attributes with
      | .ok (r, _) => (∃ d ∈ r.diagnostics, d.category = .structural) ↔
          ∃ i line, b.lines[i]? = some line ∧ (Marker.ofText? line.text).isSome ∧
            (Pairing.ofLines b.lines).Unpaired i
      | .error i => ∃ e, i.abort = .numeral e := by
  have hstart := State.matched_start setting file attributes b
  refine ⟨fun ls htrace l hl => ?_, ?_⟩
  · have hmatched := (htrace.leads l hl).matched hnormal hregular hstart
    refine ⟨hmatched, fun m hturn => ?_⟩
    obtain ⟨u, hleads, hafter, hbuffer, hcontext⟩ := Loop.arrives_of_step hturn
    obtain ⟨_, _, hpending, hrule⟩ := hafter.rule
    exact ⟨u, hbuffer, hcontext, (hrule.keepsPairs hpending hnormal hregular
      (hleads.matched hnormal hregular hmatched)).2⟩
  · rw [Buffer.reduce, Loop.run_eq]
    cases hrun : (Loop.start setting file attributes b).state.run setting with
    | ok ended =>
      obtain ⟨lines, c⟩ := ended
      have hended := (State.leads_of_run hrun).matched hnormal hregular hstart
      rw [Pairing.exists_unpaired_iff]
      exact c.structural_finish.trans (hended.structural_iff rfl)
    | error i =>
      obtain ⟨u, hleads, herror⟩ := State.leads_of_run_error hrun
      exact State.abort_of_step herror fun line rest hpending =>
        (hleads.matched hnormal hregular hstart).closed hregular hpending

/-- A document without files beside it: in a block that is left out, an `endif` with another name is
left over, and reported. -/
theorem Buffer.reduce_paired_mismatched :
    let setting : Setting := { cwd := "/", jail := ⟨.free, "/", none⟩, rootDirectory := "/" }
    let line : String → Line := fun text => ⟨text, { file := "a", line := 1 }⟩
    let b : Buffer := ⟨["ifdef::x[]", "endif::y[]", "endif::x[]"].map line⟩
    setting.options.preserveConditionals.meaning = false ∧ (∀ line ∈ b.lines, line.Regular) ∧
      (Pairing.ofLines b.lines).pairs = [(0, 2)] ∧
      ∃ r journal, b.reduce setting "a" {} = .ok (r, journal) ∧
        ∃ d ∈ r.diagnostics, d.category = .structural := by
  intro setting line b
  let start : Context := .start setting "a" {}
  let last : Context := start.report (mismatched "y" "x") { file := "a", line := 1 }
  have hregular : ∀ line ∈ b.lines, line.Regular := by decide +kernel
  have hfirst : State.After setting ⟨last, #[], []⟩ (Loop.start setting "a" {} b).state := by
    refine State.after_of_toOption ?_
    decide +kernel
  have hreduce : b.reduce setting "a" {} = .ok (Result.ofRun setting "a" [] last) := by
    rw [Buffer.reduce, Loop.run_eq, State.run_of_after hfirst, State.run_of_nil]
    rfl
  have hpaired := (Buffer.reduce_paired setting "a" {} b rfl hregular).2
  rw [hreduce] at hpaired
  have hleft : 1 ∈ (Pairing.ofLines b.lines).stray := by decide +kernel
  refine ⟨rfl, hregular, by decide +kernel, _, _, hreduce, hpaired.2 ?_⟩
  exact ⟨1, _, rfl, by decide +kernel, Pairing.unpaired_of_left (.inr hleft)⟩

/-- A document without files beside it, with an opening that is unpaired: if the number in its
condition cannot be read, the reduction is interrupted before that is reported. -/
theorem Buffer.reduce_unpaired_interrupted :
    let setting : Setting := { cwd := "/", jail := ⟨.free, "/", none⟩, rootDirectory := "/" }
    let attributes : AttributeSet := { values := [("x", "\x1c5")] }
    let b : Buffer := ⟨[⟨"ifeval::[\x7bx\x7d == 5]", { file := "a", line := 1 }⟩]⟩
    setting.options.preserveConditionals.meaning = false ∧ (∀ line ∈ b.lines, line.Regular) ∧
      (∃ i line, b.lines[i]? = some line ∧ (Marker.ofText? line.text).isSome ∧
        (Pairing.ofLines b.lines).Unpaired i) ∧
      b.reduce setting "a" attributes = .error ⟨.numeral (.notAnInteger 10 "\x1c5"), #[]⟩ := by
  intro setting attributes b
  have hregular : ∀ line ∈ b.lines, line.Regular := by decide +kernel
  have hopened : (Pairing.ofLines b.lines).opened ≠ [] := by decide +kernel
  refine ⟨rfl, hregular, Pairing.exists_unpaired_iff.2 (.inl hopened), ?_⟩
  have hstep : (Loop.start setting "a" attributes b).state.step setting =
      .error ⟨.numeral (.notAnInteger 10 "\x1c5"), #[]⟩ := by decide +kernel
  rw [Buffer.reduce, Loop.run_eq, State.run_of_error hstep]
  rfl

end Transclude
