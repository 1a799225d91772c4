import Transclude.Proofs.RegionWarnings

/-!
# A tag and its negation

A request for one tag and a request with an exclamation mark before it share out the lines of a file
that hold no marker, whatever the markers are. The two passes over the file go through the same
regions. The one takes all of these and the other none, and outside of them it is the other way
round; for the tag of all lines there are no regions, and the one takes every line.

## Main definitions

* `TagFilter.Rule.Opposes`  : two rules that decide the opposite.
* `TagFilter.State.Opposes` : two states in the same regions, which the one takes and the other not.

## Main statements

* `TagFilter.State.exists_shares`   : the lines that two opposed passes take.
* `Selection.partition_of_negation` : the lines that a tag and its negation select.
-/

namespace Transclude

open Transclude.Text

namespace TagFilter

/-- Two rules for which the same markers count. The first takes all regions, the second none, and
outside of regions they decide the opposite. -/
structure Rule.Opposes (rule other : Rule) : Prop where
  base : other.base = !rule.base
  tags : ∀ tag, rule.tags.get? tag = none ∧ other.tags.get? tag = none ∨
    rule.tags.get? tag = some true ∧ other.tags.get? tag = some false
  wildcard : rule.wildcard = none ∧ other.wildcard = none ∨
    rule.wildcard = some true ∧ other.wildcard = some false

namespace Rule.Opposes

variable {rule other : Rule}

theorem contains_eq (h : rule.Opposes other) (tag : String) :
    other.tags.contains tag = rule.tags.contains tag := by
  unfold Table.contains
  rcases h.tags tag with ⟨hnone, hother⟩ | ⟨hsome, hother⟩
  · rw [hnone, hother]
  · rw [hsome, hother]
    rfl

theorem tracks_eq (h : rule.Opposes other) (tag : String) : other.tracks tag = rule.tracks tag := by
  unfold Rule.tracks
  rw [h.contains_eq]
  rcases h.wildcard with ⟨hnone, hother⟩ | ⟨hsome, hother⟩
  · rw [hnone, hother]
  · rw [hsome, hother]
    rfl

/-- The second rule takes no region that starts. -/
theorem not_admits (h : rule.Opposes other) (t : State) (tag : String) :
    t.admits other tag = false := by
  unfold State.admits
  rcases h.tags tag with ⟨-, hnone⟩ | ⟨-, hsome⟩
  · -- not by its name, and a wildcard leaves it out as well
    rcases h.wildcard with ⟨-, hnothing⟩ | ⟨-, hwildcard⟩
    · rw [hnone, hnothing]
      exact Bool.and_false _
    · rw [hnone, hwildcard]
      exact Bool.and_false _
  · rw [hsome]

end Rule.Opposes

/-- A request for one tag and one with its negation are opposed. -/
theorem Rule.opposes_ofTags (tag : String) :
    (Rule.ofTags [(tag, true)]).Opposes (.ofTags [(tag, false)]) := by
  by_cases hall : tag = "**"
  · -- no marker counts
    subst hall
    exact ⟨rfl, fun _ => .inl ⟨rfl, rfl⟩, .inl ⟨rfl, rfl⟩⟩
  · by_cases hany : tag = "*"
    · -- all markers count, and none of them is named
      subst hany
      exact ⟨rfl, fun _ => .inl ⟨rfl, rfl⟩, .inr ⟨rfl, rfl⟩⟩
    · -- the markers of the tag count
      have hrule : ∀ taken, Rule.ofTags [(tag, taken)] = ⟨!taken, none, [(tag, taken)]⟩ := by
        intro taken
        cases taken <;> simp [Rule.ofTags, Table.get?, hall, hany, Table.values]
      rw [hrule, hrule]
      refine ⟨rfl, fun name => ?_, .inl ⟨rfl, rfl⟩⟩
      by_cases hname : tag = name
      · exact .inr (by simp [Table.get?, hname])
      · exact .inl (by simp [Table.get?, hname])

namespace State

variable {rule other : Rule} {source tag : String} {s t : State}

/-- Two states that are in regions with the same tags, all of which the first takes and none of
which the second takes. -/
structure Opposes (s t : State) : Prop where
  tags : s.regions.map (·.tag) = t.regions.map (·.tag)
  takes : ∀ region ∈ s.regions, region.taken = true
  omits : ∀ region ∈ t.regions, region.taken = false

/-- The tags of the regions that are open after a marker that ends a region. -/
def leftOpen (named : Bool) (tag : String) : List String → List String
  | [] => []
  | innermost :: outer =>
    if tag = innermost then outer
    else if named then innermost :: outer.erase tag else innermost :: outer

theorem tags_leave (rule : Rule) (source : String) (number : Nat) (tag : String) (s : State) :
    (s.leave rule source number tag).regions.map (·.tag) =
      leftOpen (rule.tags.contains tag) tag (s.regions.map (·.tag)) := by
  obtain ⟨taken, regions, found, warnings⟩ := s
  cases regions with
  | nil =>
    unfold leave
    dsimp only
    split
    · rfl
    · rfl
  | cons region outer =>
    unfold leave
    simp only [List.map_cons, leftOpen]
    split
    · rfl
    · split
      · -- the nearest region with the tag ends, if there is one
        have herase : (outer.map (·.tag)).erase tag =
            (outer.eraseP (·.tag == tag)).map (·.tag) := by
          rw [List.erase_eq_eraseP', List.eraseP_map]
          rfl
        rw [herase]
        split
        · rfl
        · rename_i hnone
          have hsame : outer.eraseP (·.tag == tag) = outer :=
            List.eraseP_of_forall_not fun region hregion htag =>
              hnone (List.any_eq_true.2 ⟨region, hregion, htag⟩)
          rw [hsame]
          rfl
      · rfl

namespace Opposes

/-- Two opposed states decide the opposite. -/
theorem takes_eq (h : s.Opposes t) (hrule : rule.Opposes other) :
    t.takes other = !s.takes rule := by
  obtain ⟨htags, htakes, homits⟩ := h
  unfold State.takes
  cases hs : s.regions with
  | nil =>
    rw [hs] at htags
    rw [List.map_eq_nil_iff.1 htags.symm]
    exact hrule.base
  | cons region outer =>
    rw [hs] at htags
    obtain ⟨region', outer', ht, -, -⟩ := List.map_eq_cons_iff.1 htags.symm
    have htaken := htakes region (by rw [hs]; exact List.mem_cons_self)
    have homitted := homits region' (by rw [ht]; exact List.mem_cons_self)
    rw [ht]
    dsimp only
    rw [htaken, homitted]
    rfl

/-- The first state takes every region that starts. -/
theorem admits_eq (h : s.Opposes t) (hrule : rule.Opposes other)
    (htracked : rule.tracks tag = true) : s.admits rule tag = true := by
  -- the wildcard does not matter inside a region that is left out, but there is none
  have hopen : (s.regions.isEmpty || s.takes rule) = true := by
    unfold State.takes
    cases hs : s.regions with
    | nil => rfl
    | cons region outer => exact h.takes region (by rw [hs]; exact List.mem_cons_self)
  unfold State.admits
  rcases hrule.tags tag with ⟨hnone, -⟩ | ⟨hsome, -⟩
  · rcases hrule.wildcard with ⟨hnothing, -⟩ | ⟨hwildcard, -⟩
    · simp [Rule.tracks, Table.contains, hnone, hnothing] at htracked
    · rw [hnone, hwildcard, hopen]
      rfl
  · rw [hsome]

/-- Only the regions matter. -/
theorem of_regions {s' t' : State} (h : s.Opposes t) (hs : s'.regions = s.regions)
    (ht : t'.regions = t.regions) : s'.Opposes t' := by
  obtain ⟨htags, htakes, homits⟩ := h
  exact ⟨by rw [hs, ht, htags], by rwa [hs], by rwa [ht]⟩

/-- A marker that ends a region ends the same one in both. -/
theorem leave (h : s.Opposes t) (hrule : rule.Opposes other) (number : Nat) (tag : String) :
    (s.leave rule source number tag).Opposes (t.leave other source number tag) := by
  refine ⟨by rw [tags_leave, tags_leave, hrule.contains_eq, h.tags], fun region hregion => ?_,
    fun region hregion => ?_⟩
  · exact h.takes region ((s.leaves rule source number tag).sublist_regions.subset hregion)
  · exact h.omits region ((t.leaves other source number tag).sublist_regions.subset hregion)

/-- A marker that starts a region starts the same one in both, if it counts. The first takes it, for
it is in no region that it leaves out, and the second does not. -/
theorem enter (h : s.Opposes t) (hrule : rule.Opposes other) (number : Nat) (tag : String) :
    (s.enter rule number tag).Opposes (t.enter other number tag) := by
  cases htracked : rule.tracks tag with
  | false =>
    rw [enter_of_untracked htracked, enter_of_untracked (hrule.tracks_eq tag ▸ htracked)]
    exact h
  | true =>
    have hother : other.tracks tag = true := hrule.tracks_eq tag ▸ htracked
    rw [enter_of_tracked htracked, enter_of_tracked hother]
    refine ⟨congrArg (tag :: ·) h.tags, fun region hregion => ?_, fun region hregion => ?_⟩
    · rcases List.mem_cons.1 hregion with rfl | hregion
      · exact h.admits_eq hrule htracked
      · exact h.takes region hregion
    · rcases List.mem_cons.1 hregion with rfl | hregion
      · exact hrule.not_admits t tag
      · exact h.omits region hregion

/-- The two states after a line are opposed. -/
theorem step (h : s.Opposes t) (hrule : rule.Opposes other) (line : Nat × String) :
    (s.step rule source line).Opposes (t.step other source line) := by
  cases hmarker : TagMarker.ofLine? line.2 with
  | none =>
    rw [step_of_plain hmarker, step_of_plain hmarker]
    refine h.of_regions ?_ ?_
    · split <;> rfl
    · split <;> rfl
  | some marker =>
    rw [step_of_marker hmarker, step_of_marker hmarker]
    split
    · exact h.leave hrule line.1 marker.tag
    · exact h.enter hrule line.1 marker.tag

end Opposes

/-- Two opposed passes share out the lines that hold no marker. -/
theorem exists_shares (hrule : rule.Opposes other) (source : String) (h : s.Opposes t)
    (lines : List (Nat × String)) :
    ∃ taken left, (lines.foldl (step rule source) s).taken.reverse = s.taken.reverse ++ taken ∧
      (lines.foldl (step other source) t).taken.reverse = t.taken.reverse ++ left ∧
      (taken ++ left).Perm (lines.filter fun line => (TagMarker.ofLine? line.2).isNone) := by
  -- the two passes go on from states that are opposed again
  induction lines generalizing s t with
  | nil => exact ⟨[], [], by simp, by simp, .refl _⟩
  | cons line lines ih =>
    obtain ⟨taken, left, htaken, hleft, hperm⟩ := ih (h.step hrule line)
    rw [List.foldl_cons, List.foldl_cons, htaken, hleft, List.filter_cons]
    cases hmarker : TagMarker.ofLine? line.2 with
    | some marker =>
      rw [taken_step_of_marker hmarker, taken_step_of_marker hmarker]
      exact ⟨taken, left, rfl, rfl, hperm⟩
    | none =>
      -- one of the two takes the line
      have hopposite : t.takes other = !s.takes rule := h.takes_eq hrule
      rw [step_of_plain hmarker, step_of_plain hmarker, hopposite]
      cases s.takes rule with
      | true => exact ⟨line :: taken, left, by simp, by simp, hperm.cons line⟩
      | false =>
        exact ⟨taken, line :: left, by simp, by simp, List.perm_middle.trans (hperm.cons line)⟩

end State

/-! ## Requests for one tag -/

/-- A text is trimmed if its string is. -/
theorem trim_of_stripped {s : String} (h : stripped s = s) : trim s.toList = s.toList :=
  String.toList_ofList.symm.trans (congrArg String.toList h)

/-- A tag that is trimmed and does not begin with an exclamation mark is requested as it is. -/
theorem request?_tag {tag : String} (htag : tag ≠ "") (hstripped : stripped tag = tag)
    (hpositive : tag.toList.head? ≠ some '!') : request? tag.toList = some (tag, true) := by
  unfold request?
  rw [trim_of_stripped hstripped]
  split
  · rename_i hnil
    exact absurd (String.toList_eq_nil_iff.1 hnil) htag
  · rename_i hmark
    rw [hmark] at hpositive
    exact absurd rfl hpositive
  · rename_i hmark
    rw [hmark] at hpositive
    exact absurd rfl hpositive
  · rw [String.ofList_toList]

/-- With an exclamation mark before it, it is requested as one to leave out. -/
theorem request?_negation {tag : String} (htag : tag ≠ "") (hstripped : stripped tag = tag) :
    request? ("!" ++ tag).toList = some (tag, false) := by
  have hchars : ("!" ++ tag).toList = '!' :: tag.toList := by
    rw [String.toList_append]
    rfl
  have hne : tag.toList ≠ [] := fun hnil => htag (String.toList_eq_nil_iff.1 hnil)
  -- the mark is not blank
  have htrim : trim ('!' :: tag.toList) = '!' :: tag.toList :=
    trim_cons (trim_of_stripped hstripped) hne (by decide)
  unfold request?
  rw [hchars, htrim]
  split
  · rename_i hnil
    cases hnil
  · rename_i hmark
    exact absurd (List.cons.inj hmark).2 hne
  · rename_i rest _ hmark
    rw [← (List.cons.inj hmark).2, String.ofList_toList]
  · rename_i hother
    exact absurd rfl (hother tag.toList)

end TagFilter

/-- A tag and its negation share out the lines that hold no marker. -/
theorem Selection.partition_of_negation (attrs : Table String) (source : String)
    (lines : List String) {tag : String} (htag : tag ≠ "") (hstripped : stripped tag = tag)
    (hpositive : tag.toList.head? ≠ some '!')
    (hlines : LineRange.parse ((attrs.get? "lines").getD "") = .ok []) :
    ∃ taken left,
      ofAttributes (attrs.insert "tag" tag) source lines = .ok taken ∧
      ofAttributes (attrs.insert "tag" ("!" ++ tag)) source lines = .ok left ∧
      (∀ number ∈ taken.lines.map Prod.fst, number ∉ left.lines.map Prod.fst) ∧
      ∀ number, number ∈ taken.lines.map Prod.fst ∨ number ∈ left.lines.map Prod.fst ↔
        ∃ text, (number, text) ∈ numbered lines ∧ TagMarker.ofLine? text = none := by
  -- without line ranges a request for one tag is all that counts
  have hselect : ∀ (value : String) (wanted : Bool),
      TagFilter.request? value.toList = some (tag, wanted) →
        ofAttributes (attrs.insert "tag" value) source lines =
          .ok (TagFilter.select [(tag, wanted)] source (numbered lines)) := by
    intro value wanted hrequest
    unfold ofAttributes TagFilter.requested?
    rw [Table.get?_insert, Table.get?_insert, if_neg (by decide), if_pos rfl]
    dsimp only
    rw [hlines, hrequest]
    rfl
  have hopposed : TagFilter.State.Opposes {} {} := ⟨rfl, nofun, nofun⟩
  obtain ⟨taken, left, htaken, hleft, hperm⟩ := TagFilter.State.exists_shares
    (TagFilter.Rule.opposes_ofTags tag) source hopposed (numbered lines)
  have hnumbers := hperm.map Prod.fst
  refine ⟨_, _, hselect tag true (TagFilter.request?_tag htag hstripped hpositive),
    hselect ("!" ++ tag) false (TagFilter.request?_negation htag hstripped), ?_⟩
  have htakenLines : (TagFilter.select [(tag, true)] source (numbered lines)).lines = taken :=
    htaken
  have hleftLines : (TagFilter.select [(tag, false)] source (numbered lines)).lines = left :=
    hleft
  rw [htakenLines, hleftLines]
  rw [List.map_append] at hnumbers
  constructor
  · -- no number stands twice among those of the lines without markers
    have hnodup : (((numbered lines).filter fun line =>
        (TagMarker.ofLine? line.2).isNone).map Prod.fst).Nodup := by
      refine List.pairwise_map.2 (((pairwise_numbered lines).sublist List.filter_sublist).imp ?_)
      exact Nat.ne_of_lt
    have hapart := (List.nodup_append.1 (hnumbers.nodup_iff.2 hnodup)).2.2
    exact fun number htaken hleft => hapart number htaken number hleft rfl
  · intro number
    rw [← List.mem_append, hnumbers.mem_iff]
    simp

/-- A file in which a region ends before it starts, and another one does not end. -/
theorem Selection.partition_of_negation_unclosed :
    let lines := ["x", "// end::a[]", "y", "// tag::a[]", "z", "// tag::b[]", "u"]
    "a" ≠ "" ∧ stripped "a" = "a" ∧ "a".toList.head? ≠ some '!' ∧ LineRange.parse "" = .ok [] ∧
      ∃ taken left, ofAttributes [("tag", "a")] "f" lines = .ok taken ∧
        ofAttributes [("tag", "!a")] "f" lines = .ok left ∧
        (∀ number ∈ taken.lines.map Prod.fst, number ∉ left.lines.map Prod.fst) ∧
        (3 ∈ taken.lines.map Prod.fst ∨ 3 ∈ left.lines.map Prod.fst) := by
  intro lines
  have htag : "a" ≠ "" := by decide
  have hstripped : stripped "a" = "a" := by decide +kernel
  have hpositive : "a".toList.head? ≠ some '!' := by decide
  have hlines : LineRange.parse "" = .ok [] := rfl
  obtain ⟨taken, left, htaken, hleft, hapart, hshared⟩ :=
    partition_of_negation [] "f" lines htag hstripped hpositive hlines
  exact ⟨htag, hstripped, hpositive, hlines, taken, left, htaken, hleft, hapart,
    (hshared 3).2 ⟨"y", by decide +kernel, by decide +kernel⟩⟩

end Transclude
