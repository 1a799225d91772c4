import Transclude.Proofs.Regions

/-!
# Files with any markers

The markers of a file may be missing, crossed, repeated or never opened. A request still takes lines
of the file that hold no marker, in order; the tag that the pass over the file keeps beside its
stack is that of the top; and what is odd is told region by region and tag by tag.

## Main definitions

* `TagFilter.Rule.tracks`   : whether the markers of a tag count.
* `TagFilter.Rule.openings` : the regions that start in a file.
* `TagFilter.absent`        : the tags that a request takes and that no marker starts.

## Main statements

* `TagFilter.State.openings_foldl`  : the regions that are open were started, in that order.
* `TagFilter.State.mem_found_foldl` : the tags that were found are those that a marker starts.
* `TagFilter.warnings_select`       : the kinds of warnings.
* `TagFilter.select_of_any_file`    : what a request takes, and all the warnings.
-/

namespace Transclude

namespace TagFilter

/-! ## Markers that count -/

/-- Whether the markers of a tag count: the request names it, or says what becomes of all others. -/
def Rule.tracks (rule : Rule) (tag : String) : Bool :=
  rule.tags.contains tag || rule.wildcard.isSome

/-- The region that a line starts, with the number of the line. -/
def Rule.opening? (rule : Rule) (line : Nat × String) : Option (String × Nat) :=
  match TagMarker.ofLine? line.2 with
  | some ⟨false, tag⟩ => if rule.tracks tag then some (tag, line.1) else none
  | _ => none

/-- The regions that start in some lines, with the numbers of their lines. -/
def Rule.openings (rule : Rule) (lines : List (Nat × String)) : List (String × Nat) :=
  lines.filterMap rule.opening?

/-- The tag of a region, with the number of the line that started it. -/
def Region.opening (region : Region) : String × Nat := (region.tag, region.start)

/-- The warning about a marker that ends a region which is not open. -/
def unexpectedEnd (tag : String) (number : Nat) (source : String) : String :=
  s!"unexpected end tag '{tag}' {located number source}"

/-- The warning about a marker that ends a region around the innermost one. -/
def mismatchedEnd (expected tag : String) (number : Nat) (source : String) : String :=
  s!"mismatched end tag (expected '{expected}' but found '{tag}') {located number source}"

/-- Whether a warning is about a marker on a line that ends a region. -/
def EndsOddly (source : String) (line : Nat × String) (warning : String) : Prop :=
  ∃ tag, TagMarker.ofLine? line.2 = some ⟨true, tag⟩ ∧
    (warning = unexpectedEnd tag line.1 source ∨
      ∃ expected, warning = mismatchedEnd expected tag line.1 source)

variable {rule : Rule} {source tag : String}

namespace State

/-- Whether a region that starts now is taken. -/
def admits (rule : Rule) (tag : String) (s : State) : Bool :=
  match rule.tags.get? tag with
  | some taken => taken
  | none => (s.regions.isEmpty || s.takes rule) && rule.wildcard.getD false

/-- A marker that counts starts a region. Its tag is found if the request takes it. -/
theorem enter_of_tracked (h : rule.tracks tag = true) (number : Nat) (s : State) :
    s.enter rule number tag =
      { s with regions := ⟨tag, s.admits rule tag, number⟩ :: s.regions
               found := if rule.tags.get? tag = some true then tag :: s.found else s.found } := by
  unfold enter admits
  cases htag : rule.tags.get? tag with
  | some taken => cases taken with
    | false => rfl
    | true => rfl
  | none =>
    -- the marker counts although the request does not name it, so there is a wildcard
    have hwildcard : rule.wildcard.isSome = true := by
      simpa [Rule.tracks, Table.contains, htag] using h
    obtain ⟨wildcard, hwildcard⟩ := Option.isSome_iff_exists.1 hwildcard
    rw [hwildcard]
    -- a region inside one that is left out is left out
    cases hempty : s.regions.isEmpty with
    | true => simp
    | false => cases s.takes rule <;> simp

/-- One that does not count is nothing. -/
theorem enter_of_untracked (h : rule.tracks tag = false) (number : Nat) (s : State) :
    s.enter rule number tag = s := by
  obtain ⟨htag, hwildcard⟩ : rule.tags.get? tag = none ∧ rule.wildcard = none := by
    simpa [Rule.tracks, Table.contains] using h
  unfold enter
  rw [htag, hwildcard]

/-- The ways in which a marker that ends a region changes the state. -/
inductive Leaves (rule : Rule) (source : String) (number : Nat) (tag : String) (s : State) :
    State → Prop
  | innermost {region : Region} {outer : List Region} (regions : s.regions = region :: outer)
    (ends : tag = region.tag) : Leaves rule source number tag s { s with regions := outer }
  | crossed {region : Region} {outer : List Region} (regions : s.regions = region :: outer)
    (other : tag ≠ region.tag) (named : rule.tags.contains tag = true) :
    Leaves rule source number tag s
      { s with regions := region :: outer.eraseP (·.tag == tag)
               warnings := mismatchedEnd region.tag tag number source :: s.warnings }
  | unexpected (named : rule.tags.contains tag = true) :
    Leaves rule source number tag s
      { s with warnings := unexpectedEnd tag number source :: s.warnings }
  | ignored : Leaves rule source number tag s s

theorem leaves (rule : Rule) (source : String) (number : Nat) (tag : String) (s : State) :
    Leaves rule source number tag s (s.leave rule source number tag) := by
  unfold leave
  dsimp only
  split
  · -- no region is open
    split
    · rename_i hnamed
      exact .unexpected hnamed
    · exact .ignored
  · rename_i region outer hregions
    split
    · rename_i hends
      exact .innermost hregions hends
    · -- the nearest region around the innermost one that has the tag ends, if there is one
      rename_i hother
      split
      · rename_i hnamed
        split
        · exact .crossed hregions hother hnamed
        · exact .unexpected hnamed
      · exact .ignored

namespace Leaves

variable {number : Nat} {s t : State}

theorem sublist_regions (h : Leaves rule source number tag s t) : t.regions.Sublist s.regions := by
  cases h with
  | innermost hregions =>
    rw [hregions]
    exact List.sublist_cons_self _ _
  | crossed hregions =>
    rw [hregions]
    exact List.eraseP_sublist.cons_cons _
  | unexpected | ignored => exact List.Sublist.refl _

theorem found_eq (h : Leaves rule source number tag s t) : t.found = s.found := by
  cases h with
  | innermost | crossed | unexpected | ignored => rfl

theorem mem_warnings (h : Leaves rule source number tag s t) {warning : String}
    (hwarning : warning ∈ t.warnings) : warning ∈ s.warnings ∨
      (warning = unexpectedEnd tag number source ∨
        ∃ expected, warning = mismatchedEnd expected tag number source) := by
  cases h with
  | innermost | ignored => exact .inl hwarning
  | crossed => exact (List.mem_cons.1 hwarning).symm.imp_right fun heq => .inr ⟨_, heq⟩
  | unexpected => exact (List.mem_cons.1 hwarning).symm.imp_right .inl

end Leaves

/-- A tag is found at the marker that starts a region of it, if the request takes it. -/
theorem found_enter (number : Nat) (tag : String) (s : State) :
    (s.enter rule number tag).found =
      if rule.tags.get? tag = some true then tag :: s.found else s.found := by
  unfold enter
  cases rule.tags.get? tag with
  | some taken => cases taken with
    | false => rfl
    | true => rfl
  | none => cases rule.wildcard with
    | none => rfl
    | some wildcard => rfl

@[simp] theorem warnings_enter (number : Nat) (tag : String) (s : State) :
    (s.enter rule number tag).warnings = s.warnings := by
  unfold enter
  split
  · rfl
  · split <;> rfl

/-- The state after a line with a marker. -/
theorem step_of_marker {line : Nat × String} {marker : TagMarker}
    (h : TagMarker.ofLine? line.2 = some marker) (s : State) :
    s.step rule source line = if marker.ends then s.leave rule source line.1 marker.tag
      else s.enter rule line.1 marker.tag := by
  rw [step, h]

/-- The state after a line without one. -/
theorem step_of_plain {line : Nat × String} (h : TagMarker.ofLine? line.2 = none) (s : State) :
    s.step rule source line = if s.takes rule then { s with taken := line :: s.taken } else s := by
  rw [step, h]

/-- A line with a marker is not taken. -/
theorem taken_step_of_marker {line : Nat × String} {marker : TagMarker}
    (h : TagMarker.ofLine? line.2 = some marker) (s : State) :
    (s.step rule source line).taken = s.taken := by
  rw [step_of_marker h]
  split
  · exact taken_leave ..
  · exact taken_enter ..

/-! ### What lines leave behind -/

/-- The regions that are open after a line were open before it or are started by it. -/
theorem openings_step (s : State) (line : Nat × String) :
    ((s.step rule source line).regions.reverse.map Region.opening).Sublist
      (s.regions.reverse.map Region.opening ++ (rule.opening? line).toList) := by
  cases hmarker : TagMarker.ofLine? line.2 with
  | none =>
    have hregions : (s.step rule source line).regions = s.regions := by
      rw [step_of_plain hmarker]
      split
      · rfl
      · rfl
    rw [hregions]
    exact List.sublist_append_left _ _
  | some marker =>
    obtain ⟨ends, tag⟩ := marker
    rw [step_of_marker hmarker]
    cases ends with
    | true =>
      -- a region ends anywhere in the stack, and the others keep their order
      have hsublist := (s.leaves rule source line.1 tag).sublist_regions
      exact (hsublist.reverse.map Region.opening).trans (List.sublist_append_left _ _)
    | false =>
      cases htracked : rule.tracks tag with
      | true =>
        have hopening : rule.opening? line = some (tag, line.1) := by
          simp [Rule.opening?, hmarker, htracked]
        simp [enter_of_tracked htracked, hopening, Region.opening]
      | false =>
        rw [if_neg Bool.false_ne_true, enter_of_untracked htracked]
        exact List.sublist_append_left _ _

/-- The regions that are open after some lines, outermost first, are regions that were open or that
start in these lines, in this order. -/
theorem openings_foldl (lines : List (Nat × String)) (s : State) :
    ((lines.foldl (step rule source) s).regions.reverse.map Region.opening).Sublist
      (s.regions.reverse.map Region.opening ++ rule.openings lines) := by
  -- the state is general: what the first line starts is open before the others
  induction lines generalizing s with
  | nil => exact List.sublist_append_left _ _
  | cons line lines ih =>
    have hopenings : rule.openings (line :: lines) =
        (rule.opening? line).toList ++ rule.openings lines := by
      rw [Rule.openings, List.filterMap_cons]
      cases rule.opening? line with
      | none => rfl
      | some opening => rfl
    rw [hopenings, ← List.append_assoc]
    exact (ih _).trans ((openings_step s line).append_right _)

/-- The tags that are found are those that the request takes and that a line starts. -/
theorem mem_found_step {s : State} {line : Nat × String} :
    tag ∈ (s.step rule source line).found ↔ tag ∈ s.found ∨
      rule.tags.get? tag = some true ∧ TagMarker.ofLine? line.2 = some ⟨false, tag⟩ := by
  cases hmarker : TagMarker.ofLine? line.2 with
  | none =>
    rw [step_of_plain hmarker]
    split
    · simp
    · simp
  | some marker =>
    obtain ⟨ends, started⟩ := marker
    rw [step_of_marker hmarker]
    cases ends with
    | true => simp [(s.leaves rule source line.1 started).found_eq]
    | false =>
      -- the tag is noted again at each region of it
      rw [if_neg Bool.false_ne_true, found_enter]
      split
      · rename_i htaken
        constructor
        · intro hfound
          rcases List.mem_cons.1 hfound with rfl | hfound
          · exact .inr ⟨htaken, rfl⟩
          · exact .inl hfound
        · rintro (hfound | ⟨-, hstarted⟩)
          · exact List.mem_cons_of_mem started hfound
          · cases hstarted
            exact List.mem_cons_self
      · rename_i htaken
        constructor
        · exact .inl
        · rintro (hfound | ⟨hget, hstarted⟩)
          · exact hfound
          · cases hstarted
            exact absurd hget htaken

theorem mem_found_foldl (lines : List (Nat × String)) {s : State} :
    tag ∈ (lines.foldl (step rule source) s).found ↔ tag ∈ s.found ∨
      rule.tags.get? tag = some true ∧
        ∃ line ∈ lines, TagMarker.ofLine? line.2 = some ⟨false, tag⟩ := by
  induction lines generalizing s with
  | nil => simp
  | cons line lines ih =>
    rw [List.foldl_cons, ih, mem_found_step, or_assoc, ← and_or_left]
    simp

/-- What is noted after some lines was noted before them or is noted at one of them, if that is so
of each line. -/
theorem mem_foldl {α : Type} (view : State → List α) {P : Nat × String → α → Prop}
    (hstep : ∀ s line x, x ∈ view (step rule source s line) → x ∈ view s ∨ P line x)
    {lines : List (Nat × String)} {s : State} {x : α}
    (h : x ∈ view (lines.foldl (step rule source) s)) :
    x ∈ view s ∨ ∃ line ∈ lines, P line x := by
  induction lines generalizing s with
  | nil => exact .inl h
  | cons line lines ih =>
    rcases ih h with hbefore | ⟨later, hlater, hnoted⟩
    · exact (hstep s line x hbefore).imp_right fun hnoted => ⟨line, List.mem_cons_self, hnoted⟩
    · exact .inr ⟨later, List.mem_cons_of_mem line hlater, hnoted⟩

/-- A line that is taken holds no marker. -/
theorem mem_taken_step (s : State) (line x : Nat × String)
    (h : x ∈ (s.step rule source line).taken) :
    x ∈ s.taken ∨ x = line ∧ TagMarker.ofLine? line.2 = none := by
  cases hmarker : TagMarker.ofLine? line.2 with
  | none =>
    rcases taken_step rule source s line with hkept | htaken
    · rw [hkept] at h
      exact .inl h
    · rw [htaken] at h
      exact (List.mem_cons.1 h).symm.imp_right fun hx => ⟨hx, rfl⟩
  | some marker =>
    rw [taken_step_of_marker hmarker] at h
    exact .inl h

/-- A warning that a line gives is about a marker on it that ends a region. -/
theorem mem_warnings_step (s : State) (line : Nat × String) (warning : String)
    (h : warning ∈ (s.step rule source line).warnings) :
    warning ∈ s.warnings ∨ EndsOddly source line warning := by
  cases hmarker : TagMarker.ofLine? line.2 with
  | none =>
    rw [step_of_plain hmarker] at h
    split at h
    · exact .inl h
    · exact .inl h
  | some marker =>
    obtain ⟨ends, tag⟩ := marker
    rw [step_of_marker hmarker] at h
    cases ends with
    | true =>
      refine ((s.leaves rule source line.1 tag).mem_warnings h).imp_right fun hodd => ?_
      exact ⟨tag, hmarker, hodd⟩
    | false =>
      rw [if_neg Bool.false_ne_true, warnings_enter] at h
      exact .inl h

end State

/-! ## What is told -/

/-- Whether a tag stands for others in a request. -/
def isWildcard (tag : String) : Bool := tag == "*" || tag == "**"

/-- The tags that a request takes and that no marker in some lines starts, in the order of the
request. -/
def absent (tags : Table Bool) (lines : List (Nat × String)) : List String :=
  Table.keys (tags.filter fun entry => !isWildcard entry.1 && entry.2 &&
    !lines.any fun line => TagMarker.ofLine? line.2 == some ⟨false, entry.1⟩)

/-- Whether a warning is about a region that no marker ends. -/
def tellsUnclosed (warning : String) : Bool :=
  "detected unclosed tag".toList.isPrefixOf warning.toList

/-- Whether a warning is about tags that no marker starts. -/
def tellsAbsent (warning : String) : Bool := "tag".toList.isPrefixOf warning.toList

/-- The tags that a rule names are those of the request, apart from the wildcards. -/
theorem Rule.tags_ofTags (tags : Table Bool) :
    (Rule.ofTags tags).tags = tags.filter fun entry => !isWildcard entry.1 := by
  have hfilter : (tags.erase "**").erase "*" = tags.filter fun entry => !isWildcard entry.1 := by
    rw [Table.erase, Table.erase, List.filter_filter]
    refine List.filter_congr fun entry _ => ?_
    rw [isWildcard, Bool.not_or]
    rfl
  rw [← hfilter]
  -- a wildcard that the request does not name may be taken out of it all the same
  unfold Rule.ofTags
  split
  · dsimp only
    split
    · rfl
    · rename_i hnone
      exact (Table.erase_eq_self hnone).symm
  · rename_i hnone
    rw [Table.erase_eq_self hnone]
    split
    · rfl
    · rename_i hnone
      exact (Table.erase_eq_self hnone).symm

/-- The lines that a request takes, and the warnings, told by the state after the last line. -/
theorem select_eq_of_foldl {tags : Table Bool} (htags : tags.keys.Nodup) (source : String)
    (lines : List (Nat × String)) :
    let s := lines.foldl (State.step (.ofTags tags) source) {}
    select tags source lines = ⟨s.taken.reverse,
      s.warnings.reverse ++ s.regions.reverse.map (unclosed source) ++
        notFound source (absent tags lines)⟩ := by
  intro s
  have hnames : (Rule.ofTags tags).tags.keys.Nodup := by
    rw [Rule.tags_ofTags]
    exact htags.sublist (List.filter_sublist.map _)
  have habsent : Table.keys ((Rule.ofTags tags).tags.filter fun entry =>
      entry.2 && !s.found.contains entry.1) = absent tags lines := by
    rw [absent, Rule.tags_ofTags, List.filter_filter]
    refine congrArg Table.keys (List.filter_congr fun entry hentry => ?_)
    obtain ⟨tag, wanted⟩ := entry
    cases hwildcard : isWildcard tag with
    | true => simp
    | false =>
      cases wanted with
      | false => simp
      | true =>
        -- the request takes the tag, so it is found exactly if a marker starts a region of it
        have hget : (Rule.ofTags tags).tags.get? tag = some true := by
          rw [Table.get?_eq_some_iff hnames, Rule.tags_ofTags]
          exact List.mem_filter.2 ⟨hentry, by simp [hwildcard]⟩
        have hfound : s.found.contains tag =
            lines.any fun line => TagMarker.ofLine? line.2 == some ⟨false, tag⟩ := by
          rw [Bool.eq_iff_iff]
          simp [s, State.mem_found_foldl, hget]
        simp only [hfound, Bool.true_and, Bool.not_false, Bool.and_true]
  rw [select, habsent]

/-- The texts of warnings tell what they are about. -/
theorem tellsUnclosed_unclosed (source : String) (region : Region) :
    tellsUnclosed (unclosed source region) = true ∧
      tellsAbsent (unclosed source region) = false := by
  unfold tellsUnclosed tellsAbsent unclosed
  simp only [String.toList_append]
  exact ⟨rfl, rfl⟩

theorem tellsAbsent_notFound {source warning : String} {tags : List String}
    (h : warning ∈ notFound source tags) :
    tellsAbsent warning = true ∧ tellsUnclosed warning = false := by
  unfold notFound at h
  split at h
  · cases h
  · obtain rfl := List.mem_singleton.1 h
    unfold tellsAbsent tellsUnclosed
    simp only [String.toList_append]
    exact ⟨rfl, rfl⟩

theorem EndsOddly.not_tells {line : Nat × String} {warning : String}
    (h : EndsOddly source line warning) :
    tellsUnclosed warning = false ∧ tellsAbsent warning = false := by
  unfold tellsUnclosed tellsAbsent
  obtain ⟨tag, -, rfl | ⟨expected, rfl⟩⟩ := h
  · unfold unexpectedEnd
    simp only [String.toList_append]
    exact ⟨rfl, rfl⟩
  · unfold mismatchedEnd
    simp only [String.toList_append]
    exact ⟨rfl, rfl⟩

/-- The warnings of one kind are picked out by what tells them from those before and after them. -/
theorem filter_kind {tells : String → Bool} {before kind after : List String}
    (hbefore : ∀ warning ∈ before, tells warning = false)
    (hkind : ∀ warning ∈ kind, tells warning = true)
    (hafter : ∀ warning ∈ after, tells warning = false) :
    (before ++ kind ++ after).filter tells = kind := by
  have hnone : ∀ other : List String, (∀ warning ∈ other, tells warning = false) →
      other.filter tells = [] := fun other hother =>
    List.filter_eq_nil_iff.2 fun warning hwarning => ne_true_of_eq_false (hother warning hwarning)
  rw [List.filter_append, List.filter_append, hnone before hbefore, hnone after hafter,
    List.filter_eq_self.2 hkind, List.nil_append, List.append_nil]

/-- A line that a request takes holds no marker. -/
theorem plain_of_mem_select {tags : Table Bool} {source : String} {file : List (Nat × String)}
    {line : Nat × String} (h : line ∈ (select tags source file).lines) :
    TagMarker.ofLine? line.2 = none := by
  obtain ⟨other, -, rfl, hplain⟩ := (State.mem_foldl State.taken State.mem_taken_step
    (List.mem_reverse.1 h)).resolve_left List.not_mem_nil
  exact hplain

/-- The warnings of a request are of three kinds: about the regions that are open at the end, about
the tags that no marker starts, and about markers that end regions. -/
theorem warnings_select {tags : Table Bool} (htags : tags.keys.Nodup) (source : String)
    (file : List (Nat × String)) :
    let s := file.foldl (State.step (.ofTags tags) source) {}
    let warnings := (select tags source file).warnings
    warnings.filter tellsUnclosed = s.regions.reverse.map (unclosed source) ∧
      warnings.filter tellsAbsent = notFound source (absent tags file) ∧
      ∀ warning ∈ warnings, tellsUnclosed warning = true ∨ tellsAbsent warning = true ∨
        ∃ line ∈ file, EndsOddly source line warning := by
  intro s warnings
  have hwarnings : warnings = s.warnings.reverse ++ s.regions.reverse.map (unclosed source) ++
      notFound source (absent tags file) :=
    congrArg Selection.warnings (select_eq_of_foldl htags source file)
  have hodd : ∀ warning ∈ s.warnings.reverse, ∃ line ∈ file, EndsOddly source line warning :=
    fun warning hwarning => (State.mem_foldl State.warnings State.mem_warnings_step
      (List.mem_reverse.1 hwarning)).resolve_left List.not_mem_nil
  have hunclosed : ∀ warning ∈ s.regions.reverse.map (unclosed source),
      tellsUnclosed warning = true ∧ tellsAbsent warning = false := by
    intro warning hwarning
    obtain ⟨region, -, rfl⟩ := List.mem_map.1 hwarning
    exact tellsUnclosed_unclosed source region
  have habsent : ∀ warning ∈ notFound source (absent tags file),
      tellsAbsent warning = true ∧ tellsUnclosed warning = false :=
    fun warning => tellsAbsent_notFound
  rw [hwarnings]
  refine ⟨?_, ?_, fun warning hwarning => ?_⟩
  · refine filter_kind (fun warning hwarning => ?_) (fun warning hwarning => ?_)
      fun warning hwarning => (habsent warning hwarning).2
    · obtain ⟨line, -, hends⟩ := hodd warning hwarning
      exact hends.not_tells.1
    · exact (hunclosed warning hwarning).1
  · -- nothing comes after the tags that were not found
    rw [← List.append_nil (_ ++ notFound source (absent tags file))]
    refine filter_kind (fun warning hwarning => ?_) (fun warning hwarning => ?_) nofun
    · rcases List.mem_append.1 hwarning with hwarning | hwarning
      · obtain ⟨line, -, hends⟩ := hodd warning hwarning
        exact hends.not_tells.2
      · exact (hunclosed warning hwarning).2
    · exact (habsent warning hwarning).1
  · rcases List.mem_append.1 hwarning with hwarning | hwarning
    · rcases List.mem_append.1 hwarning with hwarning | hwarning
      · exact .inr (.inr (hodd warning hwarning))
      · exact .inl (hunclosed warning hwarning).1
    · exact .inr (.inl (habsent warning hwarning).1)

/-- A request takes lines of a file that hold no marker, each with its number and in order, whatever
the markers are. One pass with a stack makes this selection: it never takes an entry off an empty
stack, and the tag that it keeps beside the stack is always that of the top. The warnings about
unclosed regions are those about the regions that are left on the stack, in the order in which they
were started; the last warning names the tags that the request takes and no marker starts; and all
others are about markers that end regions. -/
theorem select_of_any_file (tags : Table Bool) (htags : tags.keys.Nodup) (source : String)
    (lines : List String) :
    let rule := Rule.ofTags tags
    let file := Selection.numbered lines
    let selection := select tags source file
    let start : Register := { takes := rule.base }
    (selection.lines.Pairwise fun l m => l.1 < m.1) ∧
      (∀ line ∈ selection.lines, line ∈ file ∧ TagMarker.ofLine? line.2 = none) ∧
      Register.select tags source file = some selection ∧
      (∀ before, before <+: file → ∃ r, before.foldlM (Register.step rule source) start = some r ∧
        r.active = r.stack.head?.map (·.tag)) ∧
      ∃ r, file.foldlM (Register.step rule source) start = some r ∧
        (r.stack.reverse.map Region.opening).Sublist (rule.openings file) ∧
        selection.warnings.filter tellsUnclosed = r.stack.reverse.map (unclosed source) ∧
        selection.warnings.filter tellsAbsent = notFound source (absent tags file) ∧
        ∀ warning ∈ selection.warnings, tellsUnclosed warning = true ∨ tellsAbsent warning = true ∨
          ∃ line ∈ file, EndsOddly source line warning := by
  intro rule file selection start
  have hsublist : selection.lines.Sublist file := sublist_select tags source file
  have hincreasing : selection.lines.Pairwise fun l m => l.1 < m.1 :=
    (Selection.pairwise_numbered lines).sublist hsublist
  -- what the pass with a stack keeps is read off the state at every line
  have hpass : ∀ before : List (Nat × String), before.foldlM (Register.step rule source) start =
      some (.ofState rule (before.foldl (State.step rule source) {})) :=
    Register.foldlM_ofState {}
  obtain ⟨hunclosed, habsent, htold⟩ := warnings_select htags source file
  refine ⟨hincreasing, fun line hline => ⟨hsublist.subset hline, plain_of_mem_select hline⟩,
    Register.select_eq tags source file, fun before _ => ⟨_, hpass before, rfl⟩, ?_⟩
  exact ⟨_, hpass file, State.openings_foldl file {}, hunclosed, habsent, htold⟩

/-- A region that is ended before it starts, two that cross, and a tag without a marker. -/
theorem select_of_any_file_crossed :
    let tags : Table Bool := [("a", true), ("b", true), ("c", true)]
    let file := Selection.numbered
      ["// end::b[]", "// tag::a[]", "// tag::b[]", "x", "// end::a[]", "y"]
    tags.keys.Nodup ∧
      (select tags "f" file).warnings.filter tellsUnclosed =
        ["detected unclosed tag 'b' starting at line 3 of include file: f"] ∧
      (select tags "f" file).warnings.filter tellsAbsent =
        ["tag 'c' not found in include file: f"] := by
  intro tags file
  have htags : tags.keys.Nodup := by decide
  obtain ⟨-, -, -, -, r, hpass, -, hunclosed, habsent, -⟩ := select_of_any_file tags htags "f"
    ["// end::b[]", "// tag::a[]", "// tag::b[]", "x", "// end::a[]", "y"]
  have hstack : r.stack = [⟨"b", true, 3⟩] := by
    have hlast : (file.foldlM (Register.step (.ofTags tags) "f")
        { takes := (Rule.ofTags tags).base }).map (·.stack) = some [⟨"b", true, 3⟩] := by
      decide +kernel
    rw [hpass] at hlast
    exact Option.some.inj hlast
  have hmissing : absent tags file = ["c"] := by decide +kernel
  rw [hstack] at hunclosed
  rw [hmissing] at habsent
  exact ⟨htags, hunclosed, habsent⟩

end TagFilter

end Transclude
