import Transclude.Proofs.FixedPoint

/-!
# Locked attributes

The caller's attributes win over those of the document. What the caller sets or unsets, and does
not mark as soft, is as it was at the start at every turn of a reduction. Any other attribute is
what the last entry made of it that was applied. Names differ by more than letter case: every name
in a set is its own lower case, and is found by all its spellings.

## Main definitions

* `AttributeSet.isSoft`  : whether a caller marks an attribute as soft.
* `Loop.applied?`        : the entry that the next turn of a loop applies.
* `Loop.assignments`     : what the turns of loops make of an attribute.
* `AttributeSet.Follows` : whether a set is what turns make of the set at the start.

## Main statements

* `AttributeSet.isLocked_ofOptions` : the locked attributes are those that the caller does not mark
  as soft.
* `AttributeSet.Follows.turn`       : what holds of the set before a turn holds of the set after it.
* `Buffer.reduce_locked`            : locked attributes never change, and all others follow the
  entries that are applied.
-/

namespace Transclude

open Transclude.Text

namespace AttributeSet

/-! ## Names -/

/-- The name of a caller's attribute is its own lower case, as it is what decorations leave of a
text in lower case. -/
theorem Request.lowered_name (spelling : String) :
    lowered (Request.ofName spelling).name = (Request.ofName spelling).name := by
  have hsmall : ∀ c ∈ lower (trim spelling.toList), Small c :=
    fun c hc => small_of_mem_lowerFrom hc
  unfold Request.ofName
  dsimp only
  -- without the mark for soft attributes
  have hbare : ∀ c ∈ (if (lower (trim spelling.toList)).getLast? == some '@'
      then (lower (trim spelling.toList)).dropLast else lower (trim spelling.toList)), Small c := by
    intro c hc
    split at hc
    · exact hsmall c ((List.dropLast_sublist _).subset hc)
    · exact hsmall c hc
  generalize (if (lower (trim spelling.toList)).getLast? == some '@'
      then (lower (trim spelling.toList)).dropLast else lower (trim spelling.toList)) = name at hbare
  split
  · exact lowered_of_small fun c hc => hbare c (List.mem_cons_of_mem _ hc)
  · split
    · exact lowered_of_small fun c hc => hbare c ((List.dropLast_sublist _).subset hc)
    · exact lowered_of_small hbare

/-- Whether a caller marks an attribute as soft: by the spelling of the name, or by the value if the
attribute is to be set. -/
def isSoft (spelling : String) (v : Value) : Bool :=
  let r := Request.ofName spelling
  r.soft || (!(r.unset || v == .null || v == .bool false) && (valueOf v).2)

/-- Whether all names of a set are their own lower case. -/
def Folded (a : AttributeSet) : Prop := ∀ key ∈ a.names, lowered key = key

variable {a : AttributeSet} {name : String}

/-- An attribute is found by all spellings of its name. -/
theorem Folded.get?_eq (h : a.Folded) {key : String} (hkey : key ∈ a.names)
    (hname : lowered name = lowered key) : a.get? name = a.values.get? key := by
  rw [get?, hname, h key hkey]

/-- An attribute that is set keeps the names in lower case. -/
theorem Folded.insert (h : a.Folded) (hname : lowered name = name) (value : String)
    (locked : List String) : Folded ⟨a.values.insert name value, locked⟩ := by
  intro key hkey
  rcases Table.mem_keys_insert hkey with rfl | hkey
  · exact hname
  · exact h key hkey

/-- An attribute that is unset keeps the names in lower case. -/
theorem Folded.erase (h : a.Folded) (name : String) (locked : List String) :
    Folded ⟨a.values.erase name, locked⟩ :=
  fun key hkey => h key (Table.mem_keys_erase hkey)

/-- So does a caller's attribute. -/
theorem Folded.request (h : a.Folded) (spelling : String) (v : Value) :
    (a.request spelling v).Folded := by
  have hname := Request.lowered_name spelling
  unfold AttributeSet.request
  dsimp only
  by_cases hunset : ((Request.ofName spelling).unset || v == .null || v == .bool false) = true
  · rw [if_pos hunset, if_pos hunset]
    exact h.erase _ _
  · rw [if_neg hunset, if_neg hunset]
    exact h.insert hname _ _

/-- So do the attributes of a document. -/
theorem Folded.insertAll (h : a.Folded) (others : Table String)
    (hothers : ∀ key ∈ others.keys, lowered key = key) :
    Folded ⟨a.values.insertAll others, a.locked⟩ := by
  unfold Table.insertAll
  induction others generalizing a with
  | nil => exact h
  | cons entry others ih =>
    rw [List.foldl_cons]
    refine ih (h.insert (hothers _ List.mem_cons_self) entry.2 a.locked) ?_
    exact fun key hkey => hothers key (List.mem_cons_of_mem _ hkey)

/-- The names at the start are in lower case if those of the document's own attributes are. -/
theorem folded_ofOptions (attributes : Mapping) {intrinsics : Table String}
    (h : ∀ key ∈ intrinsics.keys, lowered key = key) :
    (ofOptions attributes intrinsics).Folded := by
  have hbuiltin : Folded { values := builtin } := by
    intro key hkey
    simp only [names, Table.keys, builtin, List.map_cons, List.map_nil, List.mem_cons,
      List.not_mem_nil, or_false] at hkey
    rcases hkey with rfl | rfl | rfl | rfl | rfl <;> decide +kernel
  unfold ofOptions
  generalize hstart : ({ values := builtin.insertAll intrinsics } : AttributeSet) = start
  have hfolded : start.Folded := hstart ▸ hbuiltin.insertAll intrinsics h
  clear hstart
  -- one of the caller's attributes after the other
  induction attributes generalizing start with
  | nil => exact hfolded
  | cons entry attributes ih =>
    rw [List.foldl_cons]
    exact ih _ (hfolded.request _ _)

/-! ## Locks -/

/-- A caller's attribute locks its name unless it is soft. -/
theorem mem_locked_request (a : AttributeSet) (spelling : String) (v : Value) :
    name ∈ (a.request spelling v).locked ↔
      name ∈ a.locked ∨ isSoft spelling v = false ∧ (Request.ofName spelling).name = name := by
  have hlocked : (a.request spelling v).locked =
      if isSoft spelling v || a.locked.contains (Request.ofName spelling).name then a.locked
      else a.locked ++ [(Request.ofName spelling).name] := by
    unfold request isSoft
    dsimp only
    -- a value that is not set has no mark
    by_cases hunset : ((Request.ofName spelling).unset || v == .null || v == .bool false) = true
    · simp only [hunset, if_true, Bool.not_true, Bool.false_and]
    · rw [Bool.not_eq_true] at hunset
      simp only [hunset, Bool.false_eq_true, if_false, Bool.not_false, Bool.true_and]
  rw [hlocked]
  cases hsoft : isSoft spelling v with
  | true => simp
  | false =>
    by_cases hthere : (Request.ofName spelling).name ∈ a.locked
    · simp only [List.contains_iff_mem, hthere, Bool.false_or, if_true, true_and]
      constructor
      · exact .inl
      · rintro (hname | rfl)
        · exact hname
        · exact hthere
    · have hnew : name ∈ a.locked ++ [(Request.ofName spelling).name] ↔
          name ∈ a.locked ∨ (Request.ofName spelling).name = name := by
        rw [List.mem_append, List.mem_singleton, eq_comm]
      simpa only [List.contains_iff_mem, hthere, Bool.false_or, if_false, true_and] using hnew

/-- The locked attributes are those that the caller sets or unsets without marking them as soft. -/
theorem isLocked_ofOptions (attributes : Mapping) (intrinsics : Table String) (name : String) :
    (ofOptions attributes intrinsics).isLocked name = true ↔
      ∃ entry ∈ attributes, isSoft entry.1.asText entry.2 = false ∧
        (Request.ofName entry.1.asText).name = lowered name := by
  have hfoldl : ∀ start : AttributeSet,
      lowered name ∈
          (attributes.foldl (fun a entry => a.request entry.1.asText entry.2) start).locked ↔
        lowered name ∈ start.locked ∨ ∃ entry ∈ attributes,
          isSoft entry.1.asText entry.2 = false ∧
            (Request.ofName entry.1.asText).name = lowered name := by
    intro start
    induction attributes generalizing start with
    | nil => simp
    | cons entry attributes ih =>
      rw [List.foldl_cons, ih, mem_locked_request, or_assoc]
      simp only [List.mem_cons, exists_eq_or_imp]
  rw [isLocked, List.contains_iff_mem, ofOptions, hfoldl]
  simp

end AttributeSet

/-! ## Entries that are applied -/

namespace AttributeSet

/-- What an entry makes of its attribute: its value with the references replaced, or nothing. -/
def assigned (a : AttributeSet) (e : AttributeEntry) : Option String :=
  e.value.map fun value => (a.substitute value).text

/-- An entry for an attribute that is locked is ignored; any other makes of its attribute what it
says, and leaves all others as they are. -/
theorem afterEntry?_eq (a : AttributeSet) (e : AttributeEntry) :
    if a.isLocked e.name then a.afterEntry? e = none
    else ∃ after, a.afterEntry? e = some after ∧ after.locked = a.locked ∧
      (∀ name, after.get? name =
        if lowered e.name = lowered name then a.assigned e else a.get? name) ∧
      (a.Folded → after.Folded) := by
  unfold afterEntry? assigned
  cases hvalue : e.value with
  | none =>
    by_cases hlocked : a.isLocked e.name = true
    · simp [unset?, hlocked]
    · simp only [unset?, hlocked]
      refine ⟨_, rfl, rfl, fun name => ?_, fun h => h.erase _ _⟩
      exact Table.get?_erase _ _ _
  | some value =>
    by_cases hlocked : a.isLocked e.name = true
    · simp [set?, hlocked]
    · simp only [set?, hlocked]
      refine ⟨_, rfl, rfl, fun name => ?_, fun h => h.insert (lowered_lowered _) _ _⟩
      exact Table.get?_insert _ _ _ _

end AttributeSet

namespace Loop

/-- The entry that the next turn of a loop applies: the one that it finds, if entries count there,
and if it is not for an attribute that is locked. -/
def applied? (l : Loop) : Option AttributeEntry :=
  match Scan.inBuffer l.verbatim l.buffer l.cursor with
  | .ok (_, some (_, .entry e)) =>
    if l.active && !l.attributes.isLocked e.name then some e else none
  | _ => none

/-- What the turns of loops make of an attribute, in order, by the entries that they apply. -/
def assignments (name : String) (ls : List Loop) : List (Option String) :=
  ls.filterMap fun l =>
    (l.applied?.filter fun e => lowered e.name == lowered name).map l.attributes.assigned

end Loop

/-- Whether a set is what the turns of some loops make of the set at the start: the locked
attributes are as they were, and any other is what was last made of it. -/
structure AttributeSet.Follows (start : AttributeSet) (ls : List Loop) (a : AttributeSet) : Prop where
  locked : a.locked = start.locked
  fixed : ∀ name, start.isLocked name = true → a.get? name = start.get? name
  last : ∀ name, start.isLocked name = false →
    a.get? name = ((Loop.assignments name ls).getLast?).getD (start.get? name)
  folded : a.Folded

/-! ## Turns -/

/-- Of what is found, only an entry changes the attributes. -/
theorem State.Rule.attributes_of_hit {setting : Setting} {s t : State} {line : Line}
    {rest : List Line} {hit : Hit} (h : State.Rule setting s line rest t)
    (hfound : Hit.ofLine? s.verbatim line.text = (s.verbatim, some hit)) :
    (∃ e, hit = .entry e ∧ t.attributes = (s.afterEntry e).attributes) ∨
      (∀ e, hit ≠ .entry e) ∧ t.attributes = s.attributes := by
  -- a directive is no entry
  have hother : ∀ {d : Directive}, Directive.ofLine? (strippedEnd line.text) = some d →
      ∀ e, hit ≠ .entry e := by
    rintro d hd e rfl
    rw [Hit.ofLine?_of_directive _ hd] at hfound
    cases hfound
  cases h with
  | plain verbatim nothing =>
    rw [nothing] at hfound
    cases hfound
  | entry e found =>
    rw [found] at hfound
    cases hfound
    exact .inl ⟨e, rfl, rfl⟩
  | inclusion d lines c directive resolved =>
    obtain ⟨_, _, rfl⟩ := Context.eq_of_resolve resolved
    exact .inr ⟨hother directive, rfl⟩
  | closingDropped d directive | closingKept d directive =>
    obtain ⟨_, _, heq, -⟩ := s.toContext.afterClosing_eq d line.origin
    refine .inr ⟨hother directive, ?_⟩
    show (s.afterClosing d line.origin).attributes = s.attributes
    rw [heq]
  | inlineTrue d text c directive _ _ judged | inlineFalse d text c directive _ _ judged
  | blockTrue d c directive _ _ judged =>
    obtain ⟨_, rfl, -⟩ := Context.eq_of_judge judged
    exact .inr ⟨hother directive, rfl⟩
  | blockFalse d c directive _ _ judged =>
    obtain ⟨_, rfl, -⟩ := Context.eq_of_judge judged
    obtain ⟨-, _, heq, -⟩ := skip_eq (s.withContext _) line rest d
    refine .inr ⟨hother directive, ?_⟩
    rw [heq]
    rfl
  | blockKept d active c directive _ _ judged =>
    obtain ⟨_, rfl, -⟩ := Context.eq_of_judgeWithin judged
    exact .inr ⟨hother directive, rfl⟩
  | inlineRewritten d text directive | inlineKept d text directive =>
    exact .inr ⟨hother directive, rfl⟩

/-- An entry changes the attributes if entries count, and if its attribute is not locked. -/
theorem Context.attributes_afterEntry (c : Context) (e : AttributeEntry) :
    if c.active && !c.attributes.isLocked e.name then
      c.attributes.afterEntry? e = some (c.afterEntry e).attributes
    else (c.afterEntry e).attributes = c.attributes := by
  have hentry := c.attributes.afterEntry?_eq e
  unfold Context.afterEntry
  cases hactive : c.active with
  | false => rfl
  | true =>
    cases hlocked : c.attributes.isLocked e.name with
    | true =>
      rw [hlocked] at hentry
      rw [hentry]
      rfl
    | false =>
      rw [hlocked] at hentry
      obtain ⟨after, hafter, -⟩ := hentry
      rw [hafter]
      rfl

namespace Loop

variable {setting : Setting} {l m : Loop} {ls before after : List Loop} {start : AttributeSet}

/-- A turn applies the entry that is to be applied, and if there is none, it leaves the attributes
as they are. -/
theorem attributes_of_step (h : l.step setting = .ok (.next m)) :
    (∃ e, l.applied? = some e ∧ l.attributes.isLocked e.name = false ∧
        l.attributes.afterEntry? e = some m.attributes) ∨
      l.applied? = none ∧ m.attributes = l.attributes := by
  obtain ⟨verbatim, skipped, line, rest, hit, t, hunread, hsilent, hhit, honHit, rfl⟩ :=
    found_of_step h
  have hrule := State.rule_of_onHit (s := l.past verbatim skipped (line :: rest)) hhit honHit
  have happlied : l.applied? = match hit with
      | .entry e => if l.active && !l.attributes.isLocked e.name then some e else none
      | .directive _ => none := by
    unfold applied?
    rw [Scan.inBuffer_natCast, hunread, Scan.next_of_silent hsilent hhit]
    cases hit <;> rfl
  rw [happlied]
  rcases hrule.attributes_of_hit hhit with ⟨e, rfl, hattributes⟩ | ⟨hother, hattributes⟩
  · have hentry := (l.past verbatim skipped (line :: rest)).attributes_afterEntry e
    rw [← hattributes] at hentry
    dsimp only
    by_cases hcounts : (l.active && !l.attributes.isLocked e.name) = true
    · rw [if_pos hcounts]
      refine .inl ⟨e, rfl, ?_, ?_⟩
      · rw [Bool.and_eq_true, Bool.not_eq_true'] at hcounts
        exact hcounts.2
      · exact (if_pos hcounts).mp hentry
    · rw [if_neg hcounts]
      exact .inr ⟨rfl, (if_neg hcounts).mp hentry⟩
  · cases hit with
    | entry e => exact absurd rfl (hother e)
    | directive d => exact .inr ⟨rfl, hattributes⟩

/-- After the last turn the attributes are as before it. -/
theorem attributes_of_last (h : l.step setting = .ok (.last m)) :
    l.applied? = none ∧ m.attributes = l.attributes := by
  unfold step at h
  unfold applied?
  cases hnext : Scan.inBuffer l.verbatim l.buffer l.cursor with
  | error e =>
    rw [hnext] at h
    cases h
  | ok scanned =>
    obtain ⟨verbatim, _ | ⟨index, hit⟩⟩ := scanned
    · rw [hnext] at h
      cases h
      exact ⟨rfl, rfl⟩
    · rw [hnext] at h
      obtain ⟨_, -, hturn⟩ := eq_ok_of_map h
      cases hturn

/-- What turns make of an attribute is what the first ones make of it, and then the others. -/
theorem assignments_append (name : String) (before after : List Loop) :
    assignments name (before ++ after) = assignments name before ++ assignments name after :=
  List.filterMap_append

/-- A turn that applies nothing makes nothing of an attribute. -/
theorem assignments_of_none (name : String) (h : l.applied? = none) :
    assignments name [l] = [] := by
  simp [assignments, h]

/-- A turn that applies an entry makes of its attribute what the entry says, and nothing of all
others. -/
theorem assignments_of_some (name : String) {e : AttributeEntry} (h : l.applied? = some e) :
    assignments name [l] =
      if lowered e.name = lowered name then [l.attributes.assigned e] else [] := by
  rw [assignments, List.filterMap_cons, List.filterMap_nil, h]
  by_cases hname : lowered e.name = lowered name
  · simp [Option.filter, hname]
  · simp [Option.filter, hname]

end Loop

namespace AttributeSet.Follows

variable {setting : Setting} {l m : Loop} {ls before : List Loop} {start a : AttributeSet}

/-- At the start there were no turns yet. -/
theorem refl (h : start.Folded) : Follows start [] start :=
  ⟨rfl, fun _ _ => rfl, fun _ _ => rfl, h⟩

/-- Turns that apply nothing make no difference. -/
theorem idle (h : Follows start before a) (hnone : l.applied? = none) :
    Follows start (before ++ [l]) a := by
  refine ⟨h.locked, h.fixed, fun name hname => ?_, h.folded⟩
  rw [Loop.assignments_append, Loop.assignments_of_none name hnone, List.append_nil]
  exact h.last name hname

/-- What holds of the attributes before a turn holds of those after it: a locked attribute is not
changed, and any other is what the entry makes of it, if the turn applies one for it. -/
theorem turn (h : Follows start before l.attributes) (hturn : l.step setting = .ok (.next m)) :
    Follows start (before ++ [l]) m.attributes := by
  rcases Loop.attributes_of_step hturn with ⟨e, happlied, hfree, hentry⟩ | ⟨hnone, hsame⟩
  · have hchange := l.attributes.afterEntry?_eq e
    rw [hfree] at hchange
    obtain ⟨after, hafter, hlocked, hvalue, hfolded⟩ := hchange
    obtain rfl : after = m.attributes := Option.some.inj (hafter.symm.trans hentry)
    refine ⟨hlocked.trans h.locked, fun name hname => ?_, fun name hname => ?_, hfolded h.folded⟩
    · -- the entry is for another attribute, as that one is not locked
      have hother : lowered e.name ≠ lowered name := by
        intro heq
        rw [isLocked, h.locked, heq] at hfree
        rw [isLocked, hfree] at hname
        cases hname
      rw [hvalue, if_neg hother]
      exact h.fixed name hname
    · rw [hvalue, Loop.assignments_append, Loop.assignments_of_some name happlied]
      by_cases heq : lowered e.name = lowered name
      · rw [if_pos heq, if_pos heq, List.getLast?_concat]
        rfl
      · rw [if_neg heq, if_neg heq, List.append_nil]
        exact h.last name hname
  · rw [hsame]
    exact h.idle hnone

/-- What holds of the attributes at the first point of a trace holds at every point of it. -/
theorem trace (h : Follows start before l.attributes) (htrace : Loop.Trace setting l ls)
    {passed rest : List Loop} (hls : ls = passed ++ m :: rest) :
    Follows start (before ++ passed) m.attributes := by
  induction htrace generalizing before passed with
  | single l =>
    cases passed with
    | nil =>
      cases hls
      rwa [List.append_nil]
    | cons first passed => simp at hls
  | @cons l next ls turn _ ih =>
    cases passed with
    | nil =>
      cases hls
      rwa [List.append_nil]
    | cons first passed =>
      rw [List.cons_append, List.cons.injEq] at hls
      obtain ⟨rfl, hls⟩ := hls
      rw [List.append_cons]
      exact ih (h.turn turn) hls

end AttributeSet.Follows

/-- A run that comes to its end goes through the loops of a trace, up to one whose turn is the
last. -/
theorem Loop.exists_trace {setting : Setting} {l : Loop} {lines : List Line} {c : Context}
    (h : l.run setting = .ok (lines, c)) :
    ∃ before last m, Loop.Trace setting l (before ++ [last]) ∧ last.step setting = .ok (.last m) ∧
      m.toContext = c := by
  fun_induction Loop.run setting l with
  | case1 l m hstep =>
    cases h
    exact ⟨[], l, m, .single l, hstep, rfl⟩
  | case2 l m hstep ih =>
    obtain ⟨before, last, k, htrace, hlast, hc⟩ := ih h
    exact ⟨l :: before, last, k, .cons hstep htrace, hlast, hc⟩
  | case3 l i hstep => cases h

/-- The caller's attributes win over those of the document, whatever it holds or includes: those
that are set or unset without being marked as soft are locked, and have at every turn, and in the
result, the value that they had at the start, or none. Any other attribute has the value that was
last made of it by an entry that a turn applied. Names that differ in letter case only are one name:
what is found under a name is found by all its spellings. -/
theorem Buffer.reduce_locked (setting : Setting) (file : String) (attributes : Mapping)
    (intrinsics : Table String) (b : Buffer)
    (hintrinsics : ∀ key ∈ intrinsics.keys, lowered key = key) :
    let start := AttributeSet.ofOptions attributes intrinsics
    (∀ name, start.isLocked name = true ↔
      ∃ entry ∈ attributes, AttributeSet.isSoft entry.1.asText entry.2 = false ∧
        (AttributeSet.Request.ofName entry.1.asText).name = lowered name) ∧
    (∀ before l after,
      Loop.Trace setting (.start setting file start b) (before ++ l :: after) →
        start.Follows before l.attributes ∧
        ∀ key ∈ l.attributes.names, ∀ name, lowered name = lowered key →
          l.attributes.get? name = l.attributes.values.get? key) ∧
    ∀ r journal, b.reduce setting file start = .ok (r, journal) →
      ∃ before last m, Loop.Trace setting (.start setting file start b) (before ++ [last]) ∧
        last.step setting = .ok (.last m) ∧
        start.Follows (before ++ [last]) { start with values := r.attributes } := by
  intro start
  have hstart : start.Follows [] start :=
    .refl (AttributeSet.folded_ofOptions attributes hintrinsics)
  refine ⟨AttributeSet.isLocked_ofOptions attributes intrinsics, ?_, ?_⟩
  · intro before l after htrace
    have hfollows := AttributeSet.Follows.trace (l := .start setting file start b) hstart htrace rfl
    exact ⟨hfollows, fun key hkey name => hfollows.folded.get?_eq hkey⟩
  · intro r journal hreduce
    obtain ⟨⟨lines, c⟩, hrun, hresult⟩ := eq_ok_of_map hreduce
    obtain ⟨before, last, m, htrace, hlast, rfl⟩ := Loop.exists_trace hrun
    refine ⟨before, last, m, htrace, hlast, ?_⟩
    have hfollows := AttributeSet.Follows.trace (l := .start setting file start b) hstart htrace rfl
    obtain ⟨hnone, hsame⟩ := Loop.attributes_of_last hlast
    -- the report of blocks that were never ended changes nothing
    have hfinal : ({ start with values := r.attributes } : AttributeSet) = last.attributes := by
      cases hresult
      show ({ start with values := m.toContext.finish.attributes.values } : AttributeSet) = _
      rw [Context.attributes_finish, hsame, ← hfollows.locked]
    rw [hfinal]
    exact hfollows.idle hnone

/-- A document without files beside it, whose entries set an attribute that the caller has set in
capitals, and another one by a reference to it: the first entry is ignored. -/
theorem Buffer.reduce_locked_entry :
    let setting : Setting := { cwd := "/", jail := ⟨.free, "/", none⟩, rootDirectory := "/" }
    let line : String → Line := fun text => ⟨text, { file := "a", line := 1 }⟩
    let intrinsics : Table String := [("docname", "a")]
    let start := AttributeSet.ofOptions [(.text "A", .text "1")] intrinsics
    (∀ key ∈ intrinsics.keys, lowered key = key) ∧ start.isLocked "a" = true ∧
      start.isLocked "b" = false ∧
      ∃ r journal,
        Buffer.reduce setting "a" start ⟨[line ":a: 2", line ":B: \x7bA\x7d"]⟩ = .ok (r, journal) ∧
        r.attributes.get? "a" = some "1" ∧ r.attributes.get? "b" = some "1" ∧
        ∃ before last, start.Follows (before ++ [last]) { start with values := r.attributes } := by
  intro setting line intrinsics start
  have hintrinsics : ∀ key ∈ intrinsics.keys, lowered key = key := by decide +kernel
  have hvalues : ((Loop.start setting "a" start
      ⟨[line ":a: 2", line ":B: \x7bA\x7d"]⟩).state.runWithin setting 3).map
        (fun result =>
          (result.2.attributes.values.get? "a", result.2.attributes.values.get? "b")) =
      some (some "1", some "1") := by
    decide +kernel
  obtain ⟨⟨lines, c⟩, hrun, hc⟩ := Option.map_eq_some_iff.1 hvalues
  obtain ⟨ha, hb⟩ := Prod.mk.inj hc
  have hreduce := Buffer.reduce_of_runWithin 3 hrun
  obtain ⟨hlocked, -, hresult⟩ := Buffer.reduce_locked setting "a" [(.text "A", .text "1")]
    intrinsics ⟨[line ":a: 2", line ":B: \x7bA\x7d"]⟩ hintrinsics
  obtain ⟨before, last, -, -, -, hfollows⟩ := hresult _ _ hreduce
  refine ⟨hintrinsics, ?_, ?_, _, _, hreduce, ?_, ?_, before, last, hfollows⟩
  · exact (hlocked "a").2 ⟨_, List.mem_cons_self, by decide +kernel, by decide +kernel⟩
  · decide +kernel
  · show c.finish.attributes.values.get? "a" = some "1"
    rw [Context.attributes_finish, ha]
  · show c.finish.attributes.values.get? "b" = some "1"
    rw [Context.attributes_finish, hb]

end Transclude
