import Transclude.Proofs.RegionWarnings

/-!
# Well-nested regions

A file whose markers are well nested is a tree of regions. Which of its lines a request takes is
then told by the regions around each line: the innermost region decides if the request names its
tag, and otherwise the wildcard does, unless the region lies inside one that is left out. The pass
over the lines, which knows of a stack of regions only, takes the same lines, and nothing is odd
about the regions.

## Main definitions

* `TagFilter.Rule.WellNested`  : the markers that count come out even against a stack.
* `TagFilter.Layout`           : a file as a tree of regions.
* `TagFilter.Layout.enclosed`  : the lines of a file, each with the regions around it.
* `TagFilter.Rule.selects`     : whether lines inside of given regions are taken.

## Main statements

* `TagFilter.exists_layout_iff`    : the well-nested files are those that are trees.
* `TagFilter.State.foldl_layout`   : what the pass over the lines of a tree takes.
* `TagFilter.select_of_wellNested` : what a request takes from a well-nested file.
-/

namespace Transclude

namespace TagFilter

/-! ## Files as trees -/

namespace Layout

/-- A line without a marker that counts. -/
structure Content (rule : Rule) where
  line : Nat × String
  untracked : ∀ marker, TagMarker.ofLine? line.2 = some marker → rule.tracks marker.tag = false

/-- The two lines of a region whose markers count. -/
structure Bounds (rule : Rule) where
  tag : String
  tracked : rule.tracks tag = true
  opener : Nat × String
  opens : TagMarker.ofLine? opener.2 = some ⟨false, tag⟩
  closer : Nat × String
  closes : TagMarker.ofLine? closer.2 = some ⟨true, tag⟩

end Layout

/-- A file as a tree of lines and regions. -/
inductive Layout (rule : Rule)
  | done
  | line (content : Layout.Content rule) (rest : Layout rule)
  | region (bounds : Layout.Bounds rule) (body rest : Layout rule)

variable {rule : Rule} {source tag : String} {tags : List String} {file : List (Nat × String)}

namespace Layout

/-- The lines of a tree. -/
def lines : Layout rule → List (Nat × String)
  | done => []
  | line content rest => content.line :: rest.lines
  | region bounds body rest => bounds.opener :: (body.lines ++ bounds.closer :: rest.lines)

/-- The lines of a tree, each with the tags of the regions around it, innermost first. The tree lies
inside of regions with the given tags. -/
def enclosed (tags : List String) : Layout rule → List ((Nat × String) × List String)
  | done => []
  | line content rest => (content.line, tags) :: rest.enclosed tags
  | region bounds body rest =>
    (bounds.opener, tags) ::
      (body.enclosed (bounds.tag :: tags) ++ (bounds.closer, tags) :: rest.enclosed tags)

end Layout

/-- Whether lines inside of regions with the given tags, innermost first, are taken. -/
def Rule.selects (rule : Rule) : List String → Bool
  | [] => rule.base
  | tag :: outer =>
    match rule.tags.get? tag with
    | some taken => taken
    | none =>
      if outer ≠ [] ∧ rule.selects outer = false then false else rule.wildcard.getD false

/-- The lines of a tree without markers that are taken by the regions around them. -/
def Layout.selected (tags : List String) (layout : Layout rule) : List (Nat × String) :=
  ((layout.enclosed tags).filter fun entry =>
    (TagMarker.ofLine? entry.1.2).isNone && rule.selects entry.2).map Prod.fst

/-! ## Well-nested files -/

/-- The tags of the regions that are open after a line, innermost first, if its marker fits them. -/
def Rule.after? (rule : Rule) (tags : List String) (line : Nat × String) : Option (List String) :=
  match TagMarker.ofLine? line.2 with
  | none => some tags
  | some ⟨ends, tag⟩ =>
    if rule.tracks tag then
      if ends then
        match tags with
        | [] => none
        | innermost :: outer => if innermost = tag then some outer else none
      else some (tag :: tags)
    else some tags

/-- Whether each marker that counts and ends a region ends the innermost one, and all regions
end. -/
def Rule.WellNested (rule : Rule) (lines : List (Nat × String)) : Prop :=
  lines.foldlM rule.after? [] = some []

instance (rule : Rule) (lines : List (Nat × String)) : Decidable (rule.WellNested lines) :=
  inferInstanceAs (Decidable (lines.foldlM rule.after? [] = some []))

namespace Rule

theorem after?_content (content : Layout.Content rule) (tags : List String) :
    rule.after? tags content.line = some tags := by
  unfold after?
  split
  · rfl
  · rename_i ends tag hmarker
    rw [if_neg (ne_true_of_eq_false (content.untracked _ hmarker))]

theorem after?_opener (bounds : Layout.Bounds rule) (tags : List String) :
    rule.after? tags bounds.opener = some (bounds.tag :: tags) := by
  simp [after?, bounds.opens, bounds.tracked]

theorem after?_closer (bounds : Layout.Bounds rule) (tags : List String) :
    rule.after? (bounds.tag :: tags) bounds.closer = some tags := by
  simp [after?, bounds.closes, bounds.tracked]

/-- After the lines of a tree the same regions are open as before. -/
theorem foldlM_lines (layout : Layout rule) (tags : List String) :
    layout.lines.foldlM rule.after? tags = some tags := by
  induction layout generalizing tags with
  | done => rfl
  | line content rest ih =>
    rw [Layout.lines, List.foldlM_cons, after?_content]
    exact ih tags
  | region bounds body rest ihBody ih =>
    rw [Layout.lines, List.foldlM_cons, after?_opener]
    show (body.lines ++ bounds.closer :: rest.lines).foldlM rule.after? (bounds.tag :: tags) = _
    rw [List.foldlM_append, ihBody]
    show (bounds.closer :: rest.lines).foldlM rule.after? (bounds.tag :: tags) = _
    rw [List.foldlM_cons, after?_closer]
    exact ih tags

/-- What a line that fits does to the open regions, one rule for each kind of line. -/
inductive Fits (rule : Rule) (line : Nat × String) : List String → List String → Prop
  | content (tags : List String)
    (untracked : ∀ marker, TagMarker.ofLine? line.2 = some marker →
      rule.tracks marker.tag = false) : Fits rule line tags tags
  | opens {tag : String} (tags : List String) (tracked : rule.tracks tag = true)
    (opens : TagMarker.ofLine? line.2 = some ⟨false, tag⟩) : Fits rule line tags (tag :: tags)
  | closes {tag : String} (tags : List String) (tracked : rule.tracks tag = true)
    (closes : TagMarker.ofLine? line.2 = some ⟨true, tag⟩) : Fits rule line (tag :: tags) tags

theorem fits_of_after? {line : Nat × String} {inner : List String}
    (h : rule.after? tags line = some inner) : rule.Fits line tags inner := by
  unfold after? at h
  split at h
  · rename_i hmarker
    cases h
    exact .content tags fun marker hother => by rw [hmarker] at hother; cases hother
  · rename_i ends tag hmarker
    split at h
    · -- the marker counts: it starts a region, or it ends the innermost one
      rename_i htracked
      cases ends with
      | false =>
        cases h
        exact .opens tags htracked hmarker
      | true =>
        rw [if_pos rfl] at h
        split at h
        · cases h
        · split at h
          · rename_i hends
            cases h
            subst hends
            exact .closes _ htracked hmarker
          · cases h
    · rename_i hcounts
      cases h
      refine .content tags fun marker hother => ?_
      rw [hmarker] at hother
      cases hother
      exact eq_false_of_ne_true hcounts

/-- Lines that end the open regions one after the other, innermost first, with a tree before each
end and one after the last. -/
inductive Closes (rule : Rule) : List String → List (Nat × String) → Prop
  | all (layout : Layout rule) : Closes rule [] layout.lines
  | next {tag : String} {tags : List String} {closer : Nat × String} {rest : List (Nat × String)}
    (layout : Layout rule) (tracked : rule.tracks tag = true)
    (closes : TagMarker.ofLine? closer.2 = some ⟨true, tag⟩) (outer : Closes rule tags rest) :
    Closes rule (tag :: tags) (layout.lines ++ closer :: rest)

/-- What stands before these lines may be a part of the first tree. -/
theorem Closes.prepend (added : List (Nat × String)) (grow : Layout rule → Layout rule)
    (hgrow : ∀ layout, (grow layout).lines = added ++ layout.lines) (h : rule.Closes tags file) :
    rule.Closes tags (added ++ file) := by
  cases h with
  | all layout =>
    rw [← hgrow]
    exact .all (grow layout)
  | next layout tracked closes outer =>
    rw [← List.append_assoc, ← hgrow]
    exact .next (grow layout) tracked closes outer

/-- Lines after which no region is open end those that are open before them. -/
theorem closes_of_foldlM (h : file.foldlM rule.after? tags = some []) : rule.Closes tags file := by
  induction file generalizing tags with
  | nil =>
    cases h
    exact .all .done
  | cons line rest ih =>
    rw [List.foldlM_cons] at h
    obtain ⟨inner, hline, hrest⟩ := Option.bind_eq_some_iff.1 h
    have hcloses := ih hrest
    cases fits_of_after? hline with
    | content _ untracked =>
      -- the line stands in the tree before the first end
      exact hcloses.prepend [line] (.line ⟨line, untracked⟩) fun _ => rfl
    | closes _ tracked closes => exact .next .done tracked closes hcloses
    | @opens tag _ tracked opens =>
      -- the line starts a region, which ends where the lines after it end this one
      cases hcloses with
      | @next _ _ closer _ body _ closes outer =>
        let bounds : Layout.Bounds rule := ⟨tag, tracked, line, opens, closer, closes⟩
        have hlines := outer.prepend (line :: (body.lines ++ [closer])) (.region bounds body)
          fun after => by simp [Layout.lines, bounds]
        simpa using hlines

end Rule

/-- A file is well nested exactly if it is a tree. -/
theorem exists_layout_iff :
    rule.WellNested file ↔ ∃ layout : Layout rule, layout.lines = file := by
  constructor
  · intro h
    cases hcloses : Rule.closes_of_foldlM h with
    | all layout => exact ⟨layout, rfl⟩
  · rintro ⟨layout, rfl⟩
    exact Rule.foldlM_lines layout []

/-! ## The pass over a tree -/

namespace Layout

theorem selected_line (content : Content rule) (rest : Layout rule) :
    (line content rest).selected tags =
      (if (TagMarker.ofLine? content.line.2).isNone && rule.selects tags then [content.line]
        else []) ++ rest.selected tags := by
  rw [selected, enclosed, List.filter_cons]
  split
  · rfl
  · rfl

/-- The two lines of a region hold markers, so that they are not taken. -/
theorem selected_region (bounds : Bounds rule) (body rest : Layout rule) :
    (region bounds body rest).selected tags =
      body.selected (bounds.tag :: tags) ++ rest.selected tags := by
  simp [selected, enclosed, bounds.opens, bounds.closes]

end Layout

namespace State

variable {s t : State}

/-- Whether a state is inside of regions with the given tags, innermost first. -/
structure Inside (rule : Rule) (s : State) (tags : List String) : Prop where
  tags_eq : s.regions.map (·.tag) = tags
  tracked : ∀ region ∈ s.regions, rule.tracks region.tag = true
  takes_eq : s.takes rule = rule.selects tags

namespace Inside

/-- Only the regions matter. -/
theorem of_regions (h : s.Inside rule tags) (hregions : t.regions = s.regions) :
    t.Inside rule tags := by
  obtain ⟨htags, htracked, htakes⟩ := h
  refine ⟨by rw [hregions, htags], by rwa [hregions], ?_⟩
  rw [← htakes, State.takes, State.takes, hregions]

/-- A region that starts is taken as the regions around it say. -/
theorem admits_eq (h : s.Inside rule tags) (tag : String) :
    s.admits rule tag = rule.selects (tag :: tags) := by
  have hopen : s.regions.isEmpty = decide (tags = []) := by
    rw [← h.tags_eq]
    cases s.regions with
    | nil => rfl
    | cons region outer => rfl
  unfold State.admits Rule.selects
  cases rule.tags.get? tag with
  | some taken => rfl
  | none =>
    rw [hopen, h.takes_eq]
    by_cases hnone : tags = []
    · simp [hnone]
    · cases hselects : rule.selects tags with
      | false => simp [hnone]
      | true => simp

/-- The state in a region that starts. -/
theorem enter (h : s.Inside rule tags) (htracked : rule.tracks tag = true) (number : Nat) :
    (s.enter rule number tag).Inside rule (tag :: tags) := by
  rw [enter_of_tracked htracked]
  refine ⟨congrArg (tag :: ·) h.tags_eq, fun region hregion => ?_, h.admits_eq tag⟩
  rcases List.mem_cons.1 hregion with rfl | hregion
  · exact htracked
  · exact h.tracked region hregion

/-- A marker that does not count changes nothing. -/
theorem leave_eq (h : s.Inside rule tags) (huntracked : rule.tracks tag = false) (number : Nat) :
    s.leave rule source number tag = s := by
  have hunnamed : rule.tags.contains tag = false := (Bool.or_eq_false_iff.1 huntracked).1
  unfold leave
  dsimp only
  split
  · rw [if_neg (ne_true_of_eq_false hunnamed)]
  · rename_i region outer hregions
    have hcounts := h.tracked region (by rw [hregions]; exact List.mem_cons_self)
    have hother : tag ≠ region.tag := by
      rintro rfl
      rw [huntracked] at hcounts
      cases hcounts
    rw [if_neg hother, if_neg (ne_true_of_eq_false hunnamed)]

/-- A line without a marker that counts is taken if the regions around it say so. -/
theorem step_content (h : s.Inside rule tags) (content : Layout.Content rule) :
    s.step rule source content.line =
      if (TagMarker.ofLine? content.line.2).isNone && rule.selects tags then
        { s with taken := content.line :: s.taken }
      else s := by
  cases hmarker : TagMarker.ofLine? content.line.2 with
  | none =>
    rw [step_of_plain hmarker, h.takes_eq]
    rfl
  | some marker =>
    have huntracked := content.untracked marker hmarker
    rw [step_of_marker hmarker, h.leave_eq huntracked, enter_of_untracked huntracked, ite_self]
    rfl

end Inside

/-- A marker ends the innermost region if it has its tag. -/
theorem leave_innermost {region : Region} {outer : List Region} (h : s.regions = region :: outer)
    (htag : tag = region.tag) (number : Nat) :
    s.leave rule source number tag = { s with regions := outer } := by
  unfold leave
  rw [h]
  dsimp only
  rw [if_pos htag]

/-- The pass over the lines of a tree takes those that are selected, gives no warning and comes back
to the regions that were open before. -/
theorem foldl_layout (source : String) (layout : Layout rule) (h : s.Inside rule tags) :
    ∃ found, layout.lines.foldl (step rule source) s =
      { s with taken := (layout.selected tags).reverse ++ s.taken, found := found } := by
  -- the body of a region lies inside of one region more, so that the regions around are general
  induction layout generalizing s tags with
  | done => exact ⟨s.found, rfl⟩
  | line content rest ih =>
    rw [Layout.lines, List.foldl_cons, h.step_content, Layout.selected_line]
    split
    · have hafter : Inside rule { s with taken := content.line :: s.taken } tags := h.of_regions rfl
      obtain ⟨found, hrest⟩ := ih hafter
      rw [hrest]
      exact ⟨found, by simp⟩
    · exact ih h
  | region bounds body rest ihBody ih =>
    have hopened : s.step rule source bounds.opener = s.enter rule bounds.opener.1 bounds.tag := by
      rw [step_of_marker bounds.opens]
      rfl
    obtain ⟨inner, hbody⟩ := ihBody (h.enter bounds.tracked bounds.opener.1)
    -- the last line of the region leaves the regions around it
    let ended : State := { s with taken := (body.selected (bounds.tag :: tags)).reverse ++ s.taken
                                  found := inner }
    have hclosed : (body.lines.foldl (step rule source)
        (s.enter rule bounds.opener.1 bounds.tag)).step rule source bounds.closer = ended := by
      rw [hbody, step_of_marker bounds.closes, if_pos rfl, enter_of_tracked bounds.tracked]
      exact leave_innermost (by rfl) (by rfl) bounds.closer.1
    have hended : ended.Inside rule tags := h.of_regions rfl
    obtain ⟨found, hrest⟩ := ih hended
    rw [Layout.lines, List.foldl_cons, List.foldl_append, List.foldl_cons, hopened, hclosed, hrest,
      Layout.selected_region]
    exact ⟨found, by simp [ended]⟩

end State

/-- From a well-nested file a request takes the lines without markers that the regions around them
say, and the only warning is about the tags that the request takes and no marker starts. -/
theorem select_of_wellNested (tags : Table Bool) (htags : tags.keys.Nodup) (source : String)
    (file : List (Nat × String)) (h : (Rule.ofTags tags).WellNested file) :
    (∃ layout : Layout (.ofTags tags), layout.lines = file) ∧
      ∀ layout : Layout (.ofTags tags), layout.lines = file →
        select tags source file =
          ⟨((layout.enclosed []).filter fun entry => (TagMarker.ofLine? entry.1.2).isNone &&
              (Rule.ofTags tags).selects entry.2).map Prod.fst,
            notFound source (absent tags file)⟩ := by
  refine ⟨exists_layout_iff.1 h, ?_⟩
  rintro layout rfl
  have hstart : State.Inside (.ofTags tags) {} [] :=
    ⟨rfl, fun _ hregion => absurd hregion List.not_mem_nil, rfl⟩
  obtain ⟨found, hpass⟩ := State.foldl_layout source layout hstart
  have hselected := select_eq_of_foldl htags source layout.lines
  rw [hpass] at hselected
  -- no region is open and nothing was told
  rw [hselected]
  simp [Layout.selected]

/-- A region that is left out lies inside one that the wildcard takes, and holds a third one. -/
theorem select_of_wellNested_inner :
    let tags : Table Bool := [("*", true), ("b", false)]
    let file := Selection.numbered ["x", "// tag::a[]", "y", "// tag::b[]", "// tag::c[]", "z",
      "// end::c[]", "// end::b[]", "u", "// end::a[]"]
    tags.keys.Nodup ∧ (Rule.ofTags tags).WellNested file ∧
      select tags "f" file = ⟨[(3, "y"), (9, "u")], []⟩ := by
  intro tags file
  have htags : tags.keys.Nodup := by decide
  have hnested : (Rule.ofTags tags).WellNested file := by decide +kernel
  refine ⟨htags, hnested, ?_⟩
  let rule := Rule.ofTags tags
  let plain (number : Nat) (text : String) (h : TagMarker.ofLine? text = none) :
      Layout.Content rule :=
    ⟨(number, text), fun marker hmarker => by rw [h] at hmarker; cases hmarker⟩
  let a : Layout.Bounds rule := ⟨"a", by decide +kernel, (2, "// tag::a[]"), by decide +kernel,
    (10, "// end::a[]"), by decide +kernel⟩
  let b : Layout.Bounds rule := ⟨"b", by decide +kernel, (4, "// tag::b[]"), by decide +kernel,
    (8, "// end::b[]"), by decide +kernel⟩
  let c : Layout.Bounds rule := ⟨"c", by decide +kernel, (5, "// tag::c[]"), by decide +kernel,
    (7, "// end::c[]"), by decide +kernel⟩
  -- the tree of the file, from the inside out
  let inner : Layout rule := .region c (.line (plain 6 "z" (by decide +kernel)) .done) .done
  let body : Layout rule := .line (plain 3 "y" (by decide +kernel))
    (.region b inner (.line (plain 9 "u" (by decide +kernel)) .done))
  let layout : Layout rule := .line (plain 1 "x" (by decide +kernel)) (.region a body .done)
  rw [(select_of_wellNested tags htags "f" file hnested).2 layout rfl]
  decide +kernel

end TagFilter

end Transclude
