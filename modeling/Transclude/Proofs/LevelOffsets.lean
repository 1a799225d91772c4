import Mathlib.Data.List.DropRight
import Transclude.Proofs.Emission
import Transclude.Proofs.Endings
import Transclude.Proofs.Locks

/-!
# Level offsets are put back

An include with a level offset puts an entry before its lines that sets the attribute, and one after
them that puts the former value back. The former value is kept in the text of the second entry and
nowhere else, so it has to come through being read again. It does, if it has no blanks at its ends,
no line feed, and no brace that a reference may begin with. Whatever the lines of the include do to
the attribute, it is what it was before the include when the second entry has been read. Where the
attribute is locked, neither of the entries counts, and nothing else does.

## Main definitions

* `Legible`         : whether a value can be read back from an entry.
* `Finding.content` : the lines that an include brings in.

## Main statements

* `Hit.ofLine?_restoring`     : the entry is read back with the former value.
* `AttributeSet.get?_restored` : it puts the value back, if only entries were read in between.
* `Run.leveloffset_restored`  : after an include the level offset is what it was before.
-/

namespace Transclude

open Transclude.Text

/-! ## The entry that puts a value back -/

/-- Whether a value can be read back from an entry: it has no blanks at its ends, no line feed, and
no brace that a reference may begin with. -/
structure Legible (value : String) : Prop where
  trimmed : trim value.toList = value.toList
  unbroken : '\n' ∉ value.toList
  plain : '{' ∉ value.toList

/-- A text that can be read back is trimmed at its end, too. -/
theorem Legible.trimEnd_eq {value : String} (h : Legible value) :
    trimEnd value.toList = value.toList := by
  have hidempotent : ∀ s : List Char, trimEnd (trimEnd s) = trimEnd s := by
    intro s
    rw [trimEnd, trimEnd, List.reverse_reverse, List.dropWhile_idempotent]
  calc trimEnd value.toList = trimEnd (trim value.toList) := by rw [h.trimmed]
    _ = trim value.toList := hidempotent _
    _ = value.toList := h.trimmed

/-- What follows the name in an entry is the value. -/
theorem Legible.valueOf?_eq {value : String} (h : Legible value) :
    AttributeEntry.valueOf? (' ' :: value.toList) = some value.toList := by
  have hbreak : '\n' ∉ ' ' :: value.toList := by
    rw [List.mem_cons, not_or]
    exact ⟨by decide, h.unbroken⟩
  have hlast : (' ' :: value.toList).getLast? ≠ some '\n' :=
    fun hlast => hbreak (List.mem_of_getLast? hlast)
  have hbody : (' ' :: value.toList).contains '\n' = false :=
    eq_false_of_ne_true fun hbody => hbreak (List.contains_iff_mem.1 hbody)
  unfold AttributeEntry.valueOf?
  rw [if_neg hlast]
  simp only [hbody]
  exact (if_pos rfl).trans (congrArg some h.trimmed)

/-- An entry that sets the level offset is read with its value. -/
theorem AttributeEntry.ofLine?_offset {value : String} (h : Legible value) :
    ∃ raw, ofLine? (strippedEnd s!":leveloffset: {value}") =
      some ⟨raw, "leveloffset", some value⟩ := by
  by_cases hempty : value = ""
  · -- the blank before an empty value is stripped with the end of the line
    subst hempty
    exact ⟨":leveloffset:", by decide +kernel⟩
  · have hne : trimEnd value.toList ≠ [] := by
      rw [h.trimEnd_eq]
      exact fun hnil => hempty (String.toList_eq_nil_iff.1 hnil)
    have htext : (strippedEnd s!":leveloffset: {value}").toList =
        ':' :: ("leveloffset".toList ++ ':' :: ' ' :: value.toList) := by
      rw [strippedEnd, String.toList_ofList]
      have hraw : (s!":leveloffset: {value}").toList =
          ":leveloffset: ".toList ++ value.toList := by
        simp [toString]
      rw [hraw, trimEnd_append hne, h.trimEnd_eq]
      rfl
    have hcut : cut (· == ':') ("leveloffset".toList ++ ':' :: ' ' :: value.toList) =
        ("leveloffset".toList, some (' ' :: value.toList)) := by
      refine cut_eq_some_iff.2 ⟨':', rfl, fun c hc => beq_eq_false_iff_ne.2 ?_, rfl⟩
      rintro rfl
      exact absurd hc (by decide)
    refine ⟨strippedEnd s!":leveloffset: {value}", ?_⟩
    unfold ofLine?
    rw [htext]
    have hname : isName "leveloffset".toList = true := by decide +kernel
    have hlower : nameOf "leveloffset".toList = "leveloffset" := by decide +kernel
    simp only [hcut]
    rw [if_pos hname, h.valueOf?_eq, Option.map_some]
    split
    · rename_i hbang
      cases hbang
    · rw [if_neg (by decide), hlower, String.ofList_toList]

/-- Outside of verbatim blocks, the entry that puts the former level offset back is read with it. -/
theorem Hit.ofLine?_restoring {a : AttributeSet}
    (h : ∀ former, a.get? "leveloffset" = some former → Legible former) :
    ∃ raw, Hit.ofLine? none (Resolution.restoring a) =
      (none, some (.entry ⟨raw, "leveloffset", a.get? "leveloffset"⟩)) := by
  unfold Resolution.restoring
  cases hformer : a.get? "leveloffset" with
  | none => exact ⟨":leveloffset!:", by decide +kernel⟩
  | some former =>
    dsimp only
    have hrestores : Resolution.OffsetEntry a "" s!":leveloffset: {former}" :=
      .restores former hformer
    have hdirective : Directive.ofLine? (strippedEnd s!":leveloffset: {former}") = none :=
      not_directive_of_bracketWeight (bracketWeight_offsetEntry hrestores)
    obtain ⟨raw, hentry⟩ := AttributeEntry.ofLine?_offset (h former hformer)
    have hdelimiter := Verbatim.delimiter?_of_entry hentry
    refine ⟨raw, ?_⟩
    unfold Hit.ofLine? Verbatim.advance
    dsimp only
    rw [hdirective, hdelimiter, hentry]
    rfl

/-! ## The attributes in between -/

namespace AttributeSet

/-- Entries leave the locked attributes as they are, and no other attribute becomes locked. -/
theorem afterEntries_locked (a : AttributeSet) (entries : List AttributeEntry) :
    (a.afterEntries entries).locked = a.locked ∧
      ∀ name, a.isLocked name = true → (a.afterEntries entries).get? name = a.get? name := by
  induction entries generalizing a with
  | nil => exact ⟨rfl, fun _ _ => rfl⟩
  | cons e entries ih =>
    have hentry := a.afterEntry?_eq e
    have hcons : a.afterEntries (e :: entries) =
        ((a.afterEntry? e).getD a).afterEntries entries := rfl
    rw [hcons]
    split at hentry
    · -- the entry is for a locked attribute, and nothing happens
      rw [hentry]
      exact ih a
    · rename_i hfree
      obtain ⟨after, hafter, hlocked, hvalues, -⟩ := hentry
      obtain ⟨hkept, hfixed⟩ := ih after
      rw [hafter]
      refine ⟨hkept.trans hlocked, fun name hname => ?_⟩
      have hstill : after.isLocked name = true := by
        rw [isLocked, hlocked]
        exact hname
      -- an attribute that is set is not locked, so it is another one
      have hother : lowered e.name ≠ lowered name := by
        intro hsame
        rw [isLocked, hsame] at hfree
        exact hfree hname
      calc (after.afterEntries entries).get? name = after.get? name := hfixed name hstill
        _ = a.get? name := by rw [hvalues name, if_neg hother]

/-- An entry with a former value puts it back, whatever entries were read before and after that was
the value: where the attribute is locked, none of them counts. -/
theorem get?_restored {start : AttributeSet} {before later : List AttributeEntry}
    {raw name : String} (hplain : ∀ former, (start.afterEntries before).get? name = some former →
      '{' ∉ former.toList) :
    let a := start.afterEntries before
    let b := start.afterEntries later
    ((b.afterEntry? ⟨raw, name, a.get? name⟩).getD b).get? name = a.get? name := by
  intro a b
  obtain ⟨hlocked, hfixed⟩ := start.afterEntries_locked before
  obtain ⟨hlocked', hfixed'⟩ := start.afterEntries_locked later
  have hentry := b.afterEntry?_eq ⟨raw, name, a.get? name⟩
  split at hentry
  · -- a locked attribute is as it was at the start, both times
    rename_i hname
    have hname : start.isLocked name = true := by rwa [isLocked, hlocked'] at hname
    rw [hentry]
    exact (hfixed' name hname).trans (hfixed name hname).symm
  · -- any other one gets the value of the entry, in which no reference is replaced
    obtain ⟨after, hafter, -, hvalues, -⟩ := hentry
    rw [hafter]
    show after.get? name = a.get? name
    rw [hvalues name, if_pos rfl, assigned]
    cases hformer : a.get? name with
    | none => rfl
    | some former =>
      dsimp only [Option.map]
      rw [substitute_of_plain b (hplain former hformer)]

end AttributeSet

/-! ## Includes with a level offset -/

/-- The lines that an include brings in from elsewhere. -/
def Finding.content (request : IncludeRequest) : Finding → List Line
  | .supplied _ texts => Resolution.suppliedLines request texts
  | .file path selection => Resolution.fileLines request path selection
  | .link | .problem _ => []

/-- What takes the place of an include that brings in lines is these, perhaps between entries. -/
theorem Resolution.lines_of_content {s : Setting} {directories : Table String} {a : AttributeSet}
    {request : IncludeRequest} {finding : Finding} (h : finding.content request ≠ []) :
    (ofFinding s directories a request finding).lines =
      offsetLines a request (finding.content request) := by
  cases finding with
  | supplied | file => rfl
  | link | problem => exact absurd rfl h

/-- Unless conditionals are preserved, an entry that is next outside of verbatim blocks counts. -/
theorem State.after_of_entry {setting : Setting} {start : AttributeSet} {s : State} {line : Line}
    {rest : List Line} {e : AttributeEntry} (htold : s.Told start)
    (hpending : s.pending = line :: rest)
    (hfound : Hit.ofLine? s.verbatim line.text = (s.verbatim, some (.entry e))) :
    ∃ t, After setting t s ∧ t.pending = rest ∧
      t.attributes = (s.attributes.afterEntry? e).getD s.attributes := by
  have hactive := Context.active_of_frames htold.active
  obtain ⟨journal, -, hentry⟩ := Context.afterEntry_of_active hactive e
  refine ⟨(s.withContext (s.afterEntry e)).emit line rest, ?_, rfl, ?_⟩
  · rw [After, step_of_cons hpending, onLine_of_some hfound]
    rfl
  · show (s.afterEntry e).attributes = _
    rw [hentry]

/-- An include outside of verbatim blocks that has a level offset and brings in lines puts them
between two entries. If a reduction gets from the first of these to the second one, outside of
verbatim blocks again, then the level offset is what it was before the include as soon as the second
one has been read. Which blocks are open, which other offsets were set in between and whether the
attribute is locked makes no difference, if the former value can be read back from an entry. -/
theorem Run.leveloffset_restored {r : Run} {s : State} {request : IncludeRequest}
    {finding : Finding} {first : Line} {rest : List Line} {offset : String}
    (hnormal : r.setting.options.preserveConditionals.meaning = false)
    (hresolves : r.Resolves s request) (hpending : s.pending = first :: rest)
    (hfinds : Search.Finds r.setting
      (Resolution.baseDirectory r.setting s.directories request.origin) request finding)
    (hcontent : finding.content request ≠ [])
    (hoffset : request.attributes.get? "leveloffset" = some offset) (hne : offset ≠ "")
    (hverbatim : s.verbatim = none)
    (hlegible : ∀ former, s.attributes.get? "leveloffset" = some former → Legible former) :
    let opening : Line := ⟨s!":leveloffset: {offset}", request.origin⟩
    let closing : Line := ⟨Resolution.restoring s.attributes, request.origin⟩
    ∃ t, State.After r.setting t s ∧
      t.pending = opening :: (finding.content request ++ closing :: rest) ∧
      ∀ u, State.Leads r.setting t u → u.pending = closing :: rest → u.verbatim = s.verbatim →
        ∃ v, State.After r.setting v u ∧ v.pending = rest ∧
          v.attributes.get? "leveloffset" = s.attributes.get? "leveloffset" := by
  intro opening closing
  obtain ⟨_, _, journal, hnext, -, hafter⟩ := hresolves.exists_after hfinds
  obtain ⟨rfl, rfl⟩ := List.cons.inj (hpending.symm.trans hnext)
  refine ⟨_, hafter, ?_, fun u hleads hclosing hu => ?_⟩
  · show (Resolution.ofFinding r.setting s.directories s.attributes request finding).lines ++ rest =
      opening :: (finding.content request ++ closing :: rest)
    rw [Resolution.lines_of_content hcontent, Resolution.offsetLines_eq _ hoffset hne hcontent,
      List.cons_append, List.append_assoc]
    rfl
  · -- the attributes are what the entries read so far make of those at the start, at both points
    have hstart := State.told_start r.setting r.file r.attributes r.buffer
    have hs := State.Leads.told hresolves.reaches hnormal hstart
    have htold := (hresolves.reaches.trans (.step hafter hleads)).told hnormal hstart
    obtain ⟨before, -, hbefore⟩ := hs.told
    obtain ⟨later, -, hlater⟩ := htold.told
    obtain ⟨raw, hread⟩ := Hit.ofLine?_restoring hlegible
    have hfound : Hit.ofLine? u.verbatim closing.text = (u.verbatim,
        some (.entry ⟨raw, "leveloffset", s.attributes.get? "leveloffset"⟩)) := by
      rw [hu, hverbatim]
      exact hread
    obtain ⟨v, hv, hrest, hattributes⟩ := State.after_of_entry htold hclosing hfound
    refine ⟨v, hv, hrest, ?_⟩
    rw [hattributes, hlater, hbefore]
    refine AttributeSet.get?_restored fun former hformer => ?_
    rw [← hbefore] at hformer
    exact (hlegible former hformer).plain

/-- A file with a level offset includes another one with a level offset of its own, and sets the
offset after it: once the file is read, the level offset is that of the document again. -/
theorem Run.leveloffset_restored_nested :
    let file : String → Node := fun text => .file (text.toList.map fun c => c.toNat.toUInt8)
    let setting : Setting :=
      { files := ⟨[(["b"], file "include::c[leveloffset=2]\n:leveloffset: 7"), (["c"], file "y")]⟩
        cwd := "/", jail := ⟨.free, "/", none⟩, rootDirectory := "/" }
    let r : Run := ⟨setting, "a", {}, [":leveloffset: 1", "include::b[leveloffset=+1]", "z"]⟩
    let origin : Origin := { file := "a", line := 2 }
    let closing : Line := ⟨":leveloffset: 1", origin⟩
    let rest : List Line := [⟨"z", { file := "a", line := 3 }⟩]
    ∃ s t u v, r.Reaches s ∧ s.attributes.get? "leveloffset" = some "1" ∧
      State.After setting t s ∧ State.Leads setting t u ∧ u.pending = closing :: rest ∧
      u.attributes.get? "leveloffset" = some "7" ∧ State.After setting v u ∧ v.pending = rest ∧
      v.attributes.get? "leveloffset" = some "1" := by
  intro file setting r origin closing rest
  let request : IncludeRequest := ⟨"b", [("leveloffset", "+1")], origin,
    ⟨"include::b[leveloffset=+1]", "b", "leveloffset=+1"⟩, [("leveloffset", "1")]⟩
  let finding : Finding :=
    .file "/b" ⟨[(1, "include::c[leveloffset=2]"), (2, ":leveloffset: 7")], []⟩
  have hahead : ((r.start.state.ahead? setting 1).bind fun s => (s.ahead? setting 7).map fun u =>
      ((s.pending, s.verbatim, s.attributes, s.directories.get? "a"),
        u.pending, u.verbatim, u.attributes)) =
      some ((⟨"include::b[leveloffset=+1]", origin⟩ :: rest, none, ⟨[("leveloffset", "1")], []⟩,
        some "/"), closing :: rest, none, ⟨[("leveloffset", "7")], []⟩) := by
    decide +kernel
  obtain ⟨s, hreaches, hlater⟩ := Option.bind_eq_some_iff.1 hahead
  obtain ⟨u, hleads, hstates⟩ := Option.map_eq_some_iff.1 hlater
  simp only [Prod.mk.injEq] at hstates
  obtain ⟨⟨hpending, hverbatim, hattributes, hdirectory⟩, hclosing, houtside, hmiddle⟩ := hstates
  have hformer : s.attributes.get? "leveloffset" = some "1" := by
    rw [hattributes]
    decide +kernel
  have hresolves : r.Resolves s request := by
    refine ⟨.of_ahead? 1 hreaches, _, rest, hpending, by decide +kernel, ?_⟩
    rw [hattributes]
    decide +kernel
  have hfinds : Search.Finds setting (Resolution.baseDirectory setting s.directories origin) request
      finding := by
    refine Search.finds_of_finding ?_
    rw [Resolution.baseDirectory, hdirectory]
    decide +kernel
  have hcontent : finding.content request ≠ [] := by decide +kernel
  have hoffset : request.attributes.get? "leveloffset" = some "+1" := by decide +kernel
  have hlegible : ∀ former, s.attributes.get? "leveloffset" = some former → Legible former := by
    intro former h
    obtain rfl := Option.some.inj (hformer.symm.trans h)
    exact ⟨by decide +kernel, by decide, by decide⟩
  obtain ⟨t, hafter, -, hrestored⟩ := Run.leveloffset_restored rfl hresolves hpending hfinds
    hcontent hoffset (by decide) hverbatim hlegible
  have hinside : State.Leads setting t u := by
    rw [State.ahead?, hafter] at hleads
    exact .of_ahead? 6 hleads
  have hsame : Resolution.restoring s.attributes = closing.text := by
    rw [hattributes]
    decide +kernel
  rw [hsame] at hrestored
  obtain ⟨v, hv, hrest, hvalue⟩ := hrestored u hinside hclosing (houtside.trans hverbatim.symm)
  refine ⟨s, t, u, v, hresolves.reaches, hformer, hafter, hinside, hclosing, ?_, hv, hrest,
    hvalue.trans hformer⟩
  rw [hmiddle]
  decide +kernel

end Transclude
