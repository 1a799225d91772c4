import Transclude.Proofs.Preservation

/-!
# Conditionals that are complete in one line

A conditional with a text stands for the text if its condition is true, and for nothing otherwise.
If conditionals are preserved it is emitted as it stands, and its text is not read, whatever the
condition: an attribute entry in it is not applied. So the attributes at the end are those of the
entries that fill lines of their own, and they are the same without conditionals preserved unless
the text of a true conditional is an entry itself, or a delimiter.

## Main definitions

* `Line.SelfContained` : whether a line is no directive, or a conditional that is complete in
  itself.
* `Scan.entries`       : the attribute entries that a scan finds.
* `State.SilentText`   : whether the text of a true conditional that is next is neither an entry nor
  a delimiter.

## Main statements

* `Buffer.reduce_inline` : the attributes at the end, with conditionals preserved and without.
-/

namespace Transclude

open Transclude.Text

/-! ## Lines that are complete in themselves -/

/-- A directive ends with a bracket. -/
theorem Directive.toList_of_ofLine? {text : String} {d : Directive}
    (h : Directive.ofLine? text = some d) : ∃ front, text.toList = front ++ [']'] := by
  obtain ⟨keyword, rest, htext, -, -, hkind⟩ := rest_of_directive h
  -- whatever the keyword, what comes after it is read up to a last bracket
  have hbracketed : ∃ parts, bracketed? rest = some parts := by
    rcases hkind with hd | ⟨negated, hd⟩ | hd | hd
    · unfold includeOf? at hd
      split at hd
      · exact ⟨_, ‹_›⟩
      · cases hd
    all_goals
      obtain ⟨_, hparts, -⟩ := Option.map_eq_some_iff.1 hd
      unfold conditionalParts? at hparts
      split at hparts
      · exact ⟨_, ‹_›⟩
      · cases hparts
  obtain ⟨⟨target, attrList⟩, hparts⟩ := hbracketed
  obtain ⟨-, rfl⟩ := eq_of_bracketed? hparts
  exact ⟨keyword ++ target ++ '[' :: attrList, by rw [htext]; simp⟩

/-- No blanks are removed from the end of a directive. -/
theorem Directive.strippedEnd_of_ofLine? {text : String} {d : Directive}
    (h : Directive.ofLine? text = some d) : strippedEnd text = text := by
  obtain ⟨front, htext⟩ := toList_of_ofLine? h
  have hbracket : isBlank ']' = false := by decide
  rw [strippedEnd, htext, trimEnd, List.reverse_append, List.reverse_singleton,
    List.singleton_append, List.dropWhile_cons, hbracket]
  simp [← htext]

/-- A directive is found on its line. -/
theorem Directive.ofLine?_strippedEnd {text : String} {d : Directive} (h : ofLine? text = some d) :
    ofLine? (strippedEnd text) = some d := by
  rw [strippedEnd_of_ofLine? h, h]

/-- A text that is no directive without the blanks at its end is no include. -/
theorem isInclude_of_none {text : String} (h : Directive.ofLine? (strippedEnd text) = none) :
    isInclude text = false := by
  unfold isInclude
  split
  · rename_i d hd
    rw [Directive.strippedEnd_of_ofLine? hd, hd] at h
    cases h
  · rfl

/-- Whether a line is no directive, or a conditional on attributes that is complete in itself, with
a target, and with a text that is no directive. -/
inductive Line.SelfContained (line : Line) : Prop
  | other (plain : Directive.ofLine? (strippedEnd line.text) = none)
  | inline (d : Presence) (text : String)
    (opens : Directive.ofLine? (strippedEnd line.text) = some (.opening (.presence d)))
    (inline : d.text = some text) (targeted : d.target ≠ "")
    (plain : Directive.ofLine? (strippedEnd text) = none)

/-- The attribute entries that a scan finds. -/
def Scan.entries (state : Verbatim) (lines : List Line) : List AttributeEntry :=
  (all state lines).2.filterMap Hit.entry?

theorem Scan.entries_cons (state : Verbatim) (line : Line) (rest : List Line) :
    entries state (line :: rest) = ((Hit.ofLine? state line.text).2.bind Hit.entry?).toList ++
      entries (Hit.ofLine? state line.text).1 rest := by
  unfold entries
  rw [all]
  split <;> rename_i hfound <;> rw [hfound]
  · rfl
  · rename_i hit
    cases hentry : hit.entry? <;> simp [hentry]

theorem Scan.entries_cons_of_directive {line : Line} {d : Directive} (state : Verbatim)
    (hd : Directive.ofLine? (strippedEnd line.text) = some d) (rest : List Line) :
    entries state (line :: rest) = entries state rest := by
  rw [entries_cons, Hit.ofLine?_of_directive state hd]
  rfl

theorem AttributeSet.afterEntries_append (a : AttributeSet) (entries more : List AttributeEntry) :
    a.afterEntries (entries ++ more) = (a.afterEntries entries).afterEntries more :=
  List.foldl_append

namespace State

variable {setting : Setting} {s : State} {line : Line} {rest : List Line}

/-- Whether the text of a true conditional that is next is neither an attribute entry nor a
delimiter. -/
def SilentText (setting : Setting) (n : State) : Prop :=
  ∀ line rest d text c, n.pending = line :: rest →
    Directive.ofLine? (strippedEnd line.text) = some (.opening d) → d.inlineText? = some text →
      n.judge setting d line.origin = .ok (true, c) →
        Hit.ofLine? n.verbatim text = (n.verbatim, none)

instance (setting : Setting) (n : State) : Decidable (n.SilentText setting) :=
  decidable_of_iff (∀ line ∈ n.pending.head?, ∀ d ∈ line.opening?, ∀ text ∈ d.inlineText?,
      (n.judge setting d line.origin).toOption.map (·.1) = some true →
        Hit.ofLine? n.verbatim text = (n.verbatim, none)) <| by
    constructor
    · intro h line rest d text c hpending hd hinline hjudged
      rw [hpending] at h
      exact h line rfl d (Line.mem_opening?.2 hd) text hinline (map_fst_toOption.2 ⟨c, hjudged⟩)
    · intro h line hline d hd text hinline hjudged
      obtain ⟨rest, hpending⟩ := List.head?_eq_some_iff.1 hline
      obtain ⟨c, hjudged⟩ := map_fst_toOption.1 hjudged
      exact h line rest d text c hpending (Line.mem_opening?.1 hd) hinline hjudged

/-- Outside of all blocks, the entry on the first line is applied before those on the others. -/
theorem afterEntries_cons (hframes : s.frames = []) (line : Line) (rest : List Line) :
    s.attributes.afterEntries (Scan.entries s.verbatim (line :: rest)) =
      (s.attributesAfter line).afterEntries
        (Scan.entries (Hit.ofLine? s.verbatim line.text).1 rest) := by
  have hactive : s.active = true := by
    rw [Context.active, hframes]
    rfl
  rw [Scan.entries_cons, AttributeSet.afterEntries_append, attributesAfter, if_pos hactive]

theorem attributesAfter_of_silent (line : Line)
    (h : Hit.ofLine? s.verbatim line.text = (s.verbatim, none)) :
    s.attributesAfter line = s.attributes := by
  rw [attributesAfter, h]
  exact ite_self _

/-- With conditionals preserved all lines are emitted, and the entries are applied that fill lines
of their own. -/
theorem run_of_selfContained_kept (hpreserved : setting.options.preserveConditionals.meaning = true)
    {lines : List Line} (hlines : ∀ line ∈ lines, line.SelfContained) (hpending : s.pending = lines)
    (hframes : s.frames = []) :
    ∃ c, s.run setting = .ok (s.emitted.toList ++ lines, c) ∧
      c.attributes = s.attributes.afterEntries (Scan.entries s.verbatim lines) := by
  induction lines generalizing s with
  | nil => exact ⟨s.toContext, by rw [run_of_end (step_of_nil hpending), List.append_nil], rfl⟩
  | cons line rest ih =>
    obtain ⟨hline, hrest⟩ := List.forall_mem_cons.1 hlines
    cases hline with
    | other plain =>
      obtain ⟨journal, hafter⟩ := after_of_other setting hpending plain
      obtain ⟨c, hrun, hattributes⟩ := ih (s := s.afterOther line rest journal) hrest rfl hframes
      refine ⟨c, ?_, ?_⟩
      · rw [run_of_after hafter, hrun]
        simp [afterOther]
      · rw [hattributes, afterOther_attributes, afterOther_verbatim, afterEntries_cons hframes]
    | inline d text opens inline targeted plain =>
      -- the condition is not looked at
      have hafter : After setting (s.emit line rest) s :=
        step_of_inline_kept hpreserved hpending opens inline (isInclude_of_none plain)
      obtain ⟨c, hrun, hattributes⟩ := ih (s := s.emit line rest) hrest rfl hframes
      refine ⟨c, ?_, ?_⟩
      · rw [run_of_after hafter, hrun]
        simp [emit]
      · rw [hattributes, Scan.entries_cons_of_directive _ opens]
        rfl

/-- A conditional on attributes with a target is decided. -/
theorem judge_of_targeted (setting : Setting) (s : State) {d : Presence} (htargeted : d.target ≠ "")
    (origin : Origin) :
    ∃ active, s.judge setting (.presence d) origin = .ok (active, s.toContext) := by
  have hdecided : ∃ active, d.decide setting.evaluator s.attributes = .ok active := by
    unfold Presence.decide
    rw [if_neg htargeted]
    exact ⟨_, rfl⟩
  obtain ⟨active, hactive⟩ := hdecided
  refine ⟨active, ?_⟩
  rw [Context.judge, Opening.decide, hactive]

/-- Without conditionals preserved the reduction comes to its end, too. If no text of a true
conditional is an entry or a delimiter, the same entries are applied. -/
theorem run_of_selfContained_normal (hnormal : setting.options.preserveConditionals.meaning = false)
    {lines : List Line} (hlines : ∀ line ∈ lines, line.SelfContained) (hpending : s.pending = lines)
    (hframes : s.frames = []) :
    ∃ lines' c, s.run setting = .ok (lines', c) ∧
      ((∀ n, Leads setting s n → n.SilentText setting) →
        c.attributes = s.attributes.afterEntries (Scan.entries s.verbatim lines)) := by
  induction lines generalizing s with
  | nil => exact ⟨_, _, run_of_end (step_of_nil hpending), fun _ => rfl⟩
  | cons line rest ih =>
    obtain ⟨hline, hrest⟩ := List.forall_mem_cons.1 hlines
    cases hline with
    | other plain =>
      obtain ⟨journal, hafter⟩ := after_of_other setting hpending plain
      obtain ⟨lines', c, hrun, hsilent⟩ :=
        ih (s := s.afterOther line rest journal) hrest rfl hframes
      refine ⟨lines', c, by rw [run_of_after hafter, hrun], fun hs => ?_⟩
      rw [hsilent fun n hn => hs n (.step hafter hn), afterOther_attributes, afterOther_verbatim,
        afterEntries_cons hframes]
    | inline d text opens inline targeted plain =>
      obtain ⟨active, hjudged⟩ := judge_of_targeted setting s targeted line.origin
      have hstep := step_of_opening_judged hnormal hpending opens
      have htext : (Opening.presence d).inlineText? = some text := inline
      rw [hjudged] at hstep
      simp only [Except.map, onJudged, htext] at hstep
      cases active with
      | false =>
        -- nothing stands for the conditional
        have hafter : After setting (s.await rest) s := hstep
        obtain ⟨lines', c, hrun, hsilent⟩ := ih (s := s.await rest) hrest rfl hframes
        refine ⟨lines', c, by rw [run_of_after hafter, hrun], fun hs => ?_⟩
        rw [hsilent fun n hn => hs n (.step hafter hn), Scan.entries_cons_of_directive _ opens]
        rfl
      | true =>
        -- the text is read next, and is no directive
        have hafter : After setting (s.await (⟨text, line.origin⟩ :: rest)) s := hstep
        obtain ⟨journal, hafter'⟩ := after_of_other (s := s.await (⟨text, line.origin⟩ :: rest))
          setting rfl plain
        obtain ⟨lines', c, hrun, hsilent⟩ := ih (s := (s.await (⟨text, line.origin⟩ ::
          rest)).afterOther ⟨text, line.origin⟩ rest journal) hrest rfl hframes
        refine ⟨lines', c, by rw [run_of_after hafter, run_of_after hafter', hrun], fun hs => ?_⟩
        let t := s.await (⟨text, line.origin⟩ :: rest)
        have hnothing : Hit.ofLine? t.verbatim text = (t.verbatim, none) :=
          hs s (.refl s) line rest _ text _ hpending opens htext hjudged
        rw [hsilent fun n hn => hs n (.step hafter (.step hafter' hn)), afterOther_attributes,
          afterOther_verbatim, attributesAfter_of_silent ⟨text, line.origin⟩ hnothing, hnothing,
          Scan.entries_cons_of_directive _ opens]
        rfl

end State

/-- A reduction of a document of which every conditional is complete in one line comes to its end.
With conditionals preserved it changes no line, and applies the entries that fill lines of their
own, whatever the conditions. Without, it ends with the same attributes, if the text of no true
conditional is an entry or a delimiter. -/
theorem Buffer.reduce_inline {setting : Setting} {file : String} {attributes : AttributeSet}
    {b : Buffer} (hlines : ∀ line ∈ b.lines, line.SelfContained) :
    ∃ r journal r' journal',
      b.reduce (setting.preserving true) file attributes = .ok (r, journal) ∧
      b.reduce (setting.preserving false) file attributes = .ok (r', journal') ∧
      r.lines = b.lines ∧
      r.attributes = (attributes.afterEntries (Scan.entries none b.lines)).values ∧
      ((∀ n, State.Leads (setting.preserving false)
          (Loop.start (setting.preserving false) file attributes b).state n →
            n.SilentText (setting.preserving false)) → r'.attributes = r.attributes) := by
  let p := (Loop.start (setting.preserving true) file attributes b).state
  let n := (Loop.start (setting.preserving false) file attributes b).state
  obtain ⟨c, hp, hkept⟩ := State.run_of_selfContained_kept (s := p)
    (setting.meaning_preserving true) hlines rfl rfl
  obtain ⟨lines', c', hn, hnormal⟩ := State.run_of_selfContained_normal (s := n)
    (setting.meaning_preserving false) hlines rfl rfl
  have hattributes : c.finish.attributes.values =
      (attributes.afterEntries (Scan.entries none b.lines)).values := by
    rw [Context.attributes_finish, hkept]
    rfl
  -- the report of open blocks at the end leaves the attributes as they are
  refine ⟨_, _, _, _, Buffer.reduce_of_run hp, Buffer.reduce_of_run hn, rfl, hattributes,
    fun hsilent => ?_⟩
  show c'.finish.attributes.values = c.finish.attributes.values
  rw [hattributes, Context.attributes_finish, hnormal hsilent]
  rfl

/-- A document in which a true conditional has a text, and a false one an entry: that entry is not
applied, whether or not conditionals are preserved, and the one on a line of its own is. -/
theorem Buffer.reduce_inline_false :
    let setting : Setting := { cwd := "/", jail := ⟨.free, "/", none⟩, rootDirectory := "/" }
    let b : Buffer := ⟨["ifndef::x[text]", "ifdef::x[:y: 1]", ":z: 2"].map fun text =>
      ⟨text, { file := "a", line := 1 }⟩⟩
    (∀ line ∈ b.lines, line.SelfContained) ∧
      (∀ n, State.Leads (setting.preserving false)
          (Loop.start (setting.preserving false) "a" {} b).state n →
            n.SilentText (setting.preserving false)) ∧
      ∃ r journal r' journal',
        b.reduce (setting.preserving true) "a" {} = .ok (r, journal) ∧
        b.reduce (setting.preserving false) "a" {} = .ok (r', journal') ∧
        r.lines = b.lines ∧ r.attributes = [("z", "2")] ∧ r'.attributes = [("z", "2")] := by
  intro setting b
  have hinline : Directive.ofLine? (strippedEnd "ifndef::x[text]") = some (.opening (.presence
      ⟨"ifndef::x[text]", true, "x", some "text", ["x"], .single⟩)) := by decide +kernel
  have hfalse : Directive.ofLine? (strippedEnd "ifdef::x[:y: 1]") = some (.opening (.presence
      ⟨"ifdef::x[:y: 1]", false, "x", some ":y: 1", ["x"], .single⟩)) := by decide +kernel
  have hlines : ∀ line ∈ b.lines, line.SelfContained := by
    refine List.forall_mem_cons.2 ⟨?_, List.forall_mem_cons.2 ⟨?_, List.forall_mem_singleton.2 ?_⟩⟩
    · exact .inline _ "text" hinline rfl (by decide) (by decide +kernel)
    · exact .inline _ ":y: 1" hfalse rfl (by decide) (by decide +kernel)
    · exact .other (by decide +kernel)
  have hsilent : ∀ n, State.Leads (setting.preserving false)
      (Loop.start (setting.preserving false) "a" {} b).state n →
        n.SilentText (setting.preserving false) := by
    intro n hn
    refine State.Leads.of_allWithin 5 ?_ hn
    decide +kernel
  have hscan : ((AttributeSet.afterEntries {} (Scan.entries none b.lines)).values) =
      [("z", "2")] := by decide +kernel
  obtain ⟨r, journal, r', journal', hkept, hnormal, hsame, hattributes, hagree⟩ :=
    @Buffer.reduce_inline setting "a" {} b hlines
  rw [hscan] at hattributes
  exact ⟨hlines, hsilent, r, journal, r', journal', hkept, hnormal, hsame, hattributes,
    (hagree hsilent).trans hattributes⟩

/-- A document of which the one line is a true conditional with an entry: the entry is not applied
if conditionals are preserved. -/
theorem Buffer.reduce_inline_entry :
    let setting : Setting := { cwd := "/", jail := ⟨.free, "/", none⟩, rootDirectory := "/" }
    let b : Buffer := ⟨[⟨"ifndef::x[:y: 1]", { file := "a", line := 1 }⟩]⟩
    (∀ line ∈ b.lines, line.SelfContained) ∧
      (outcome (b.reduce (setting.preserving true) "a" {})).map (·.attributes) = .ok [] ∧
      (outcome (b.reduce (setting.preserving false) "a" {})).map (·.attributes) =
        .ok [("y", "1")] := by
  intro setting b
  let line : String → Line := fun text => ⟨text, { file := "a", line := 1 }⟩
  let start : Context := .start setting "a" {}
  have hpreserved : b.reduce (setting.preserving true) "a" {} =
      .ok (Result.ofRun (setting.preserving true) "a" b.lines start) := by
    refine Buffer.reduce_of_runWithin 2 ?_
    decide +kernel
  have hnormal : b.reduce (setting.preserving false) "a" {} =
      .ok (Result.ofRun (setting.preserving false) "a" [line ":y: 1"]
        { start with attributes := { values := [("y", "1")] } }) := by
    refine Buffer.reduce_of_runWithin 3 ?_
    decide +kernel
  have hinline : Directive.ofLine? (strippedEnd "ifndef::x[:y: 1]") = some (.opening (.presence
      ⟨"ifndef::x[:y: 1]", true, "x", some ":y: 1", ["x"], .single⟩)) := by decide +kernel
  refine ⟨List.forall_mem_singleton.2 ?_, ?_, ?_⟩
  · exact .inline _ ":y: 1" hinline rfl (by decide) (by decide +kernel)
  · rw [hpreserved]
    rfl
  · rw [hnormal]
    rfl

end Transclude
