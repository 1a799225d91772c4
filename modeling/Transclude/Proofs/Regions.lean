import Transclude.Include.TagFilter

/-!
# Open regions as a stack

The lines that an include asks for by tag can be selected in one pass that keeps a stack of the open
regions and, beside it, the tag of the innermost one and whether lines are taken. A marker that ends
the innermost region takes an entry off the stack, which fails where the stack is empty. It never
is: the tag beside the stack is that of its top, so there is a top if a marker has that tag. The
pass selects what `TagFilter.select` does.

## Main definitions

* `TagFilter.Register`        : what the pass keeps.
* `TagFilter.Register.step`   : the pass over one line, which may fail.
* `TagFilter.Register.select` : the selection by the pass.

## Main statements

* `TagFilter.Register.select_eq` : the pass does not fail, and selects the same.
-/

namespace Transclude

namespace TagFilter

/-- What one pass over the lines keeps: the lines taken, latest first, the stack of open regions,
the tag of the region that it is in, whether lines are taken, the tags to take that were found, and
the warnings, latest first. -/
structure Register where
  taken : List (Nat × String) := []
  stack : List Region := []
  active : Option String := none
  takes : Bool
  found : List String := []
  warnings : List String := []
  deriving DecidableEq, Repr

namespace Register

/-- The stack without its top, if it has one. -/
def pop? : List Region → Option (List Region)
  | [] => none
  | _ :: rest => some rest

/-- The register with another stack: the tag and whether lines are taken are those of its top. -/
def resume (rule : Rule) (r : Register) (stack : List Region) : Register :=
  match stack with
  | [] => { r with stack := [], active := none, takes := rule.base }
  | top :: rest => { r with stack := top :: rest, active := some top.tag, takes := top.taken }

/-- The register after a marker that ends a region. -/
def leave (rule : Rule) (source : String) (number : Nat) (tag : String) (r : Register) :
    Option Register :=
  let place := located number source
  if r.active = some tag then (pop? r.stack).map (r.resume rule)
  else if rule.tags.contains tag then
    if r.stack.any (·.tag == tag) then
      let expected := r.active.getD "None"
      some { r with
        stack := r.stack.eraseP (·.tag == tag)
        warnings :=
          s!"mismatched end tag (expected '{expected}' but found '{tag}') {place}" :: r.warnings }
    else some { r with warnings := s!"unexpected end tag '{tag}' {place}" :: r.warnings }
  else some r

/-- The register in a region that starts. -/
def push (r : Register) (region : Region) : Register :=
  { r with stack := region :: r.stack, active := some region.tag, takes := region.taken }

/-- The register after a marker that starts a region. -/
def enter (rule : Rule) (number : Nat) (tag : String) (r : Register) : Register :=
  match rule.tags.get? tag with
  | some taken =>
    { r with found := if taken then tag :: r.found else r.found }.push ⟨tag, taken, number⟩
  | none =>
    match rule.wildcard with
    | some wildcard =>
      r.push ⟨tag, if r.active.isSome && !r.takes then false else wildcard, number⟩
    | none => r

/-- The register after a line. -/
def step (rule : Rule) (source : String) (r : Register) (line : Nat × String) : Option Register :=
  match TagMarker.ofLine? line.2 with
  | none => some (if r.takes then { r with taken := line :: r.taken } else r)
  | some marker =>
    if marker.ends then r.leave rule source line.1 marker.tag
    else some (r.enter rule line.1 marker.tag)

/-- The selection that one pass over the lines makes. -/
def select (tags : Table Bool) (source : String) (lines : List (Nat × String)) :
    Option Selection :=
  let rule := Rule.ofTags tags
  (lines.foldlM (step rule source) { takes := rule.base }).map fun r =>
    let missing := Table.keys (rule.tags.filter fun entry => entry.2 && !r.found.contains entry.1)
    ⟨r.taken.reverse,
      r.warnings.reverse ++ r.stack.reverse.map (unclosed source) ++ notFound source missing⟩

/-- A marker with the tag beside the stack takes an entry off. -/
theorem leave_of_active {rule : Rule} {source tag : String} {number : Nat} {r : Register}
    (h : r.active = some tag) :
    r.leave rule source number tag = (pop? r.stack).map (r.resume rule) := by
  unfold leave
  dsimp only
  rw [if_pos h]

/-! ## The register and the open regions -/

/-- The register of a state: what stands beside the stack is read off its top. -/
def ofState (rule : Rule) (s : State) : Register :=
  { taken := s.taken
    stack := s.regions
    active := s.regions.head?.map (·.tag)
    takes := s.takes rule
    found := s.found
    warnings := s.warnings }

variable {rule : Rule} {source : String}

theorem resume_ofState (s : State) (regions : List Region) :
    (ofState rule s).resume rule regions = ofState rule { s with regions := regions } := by
  cases regions with
  | nil => rfl
  | cons region outer => rfl

/-- A marker that starts a region does the same. -/
theorem enter_ofState (number : Nat) (tag : String) (s : State) :
    (ofState rule s).enter rule number tag = ofState rule (s.enter rule number tag) := by
  unfold enter State.enter
  cases rule.tags.get? tag with
  | some taken => rfl
  | none =>
    cases rule.wildcard with
    | none => rfl
    | some wildcard =>
      have hopen : (ofState rule s).active.isSome = !s.regions.isEmpty := by
        cases hregions : s.regions with
        | nil => simp [ofState, hregions]
        | cons region outer => simp [ofState, hregions]
      dsimp only
      rw [hopen]
      rfl

/-- A marker that ends a region does the same, and there is an entry on the stack if it takes one
off. -/
theorem leave_ofState (number : Nat) (tag : String) (s : State) :
    (ofState rule s).leave rule source number tag =
      some (ofState rule (s.leave rule source number tag)) := by
  obtain ⟨taken, regions, found, warnings⟩ := s
  cases regions with
  | nil =>
    -- no tag is active, so nothing is taken off
    cases htags : rule.tags.contains tag with
    | true => simp [leave, State.leave, ofState, State.takes, htags]
    | false => simp [leave, State.leave, ofState, State.takes, htags]
  | cons region outer =>
    by_cases htag : tag = region.tag
    · have hactive : (ofState rule ⟨taken, region :: outer, found, warnings⟩).active = some tag :=
        congrArg some htag.symm
      have hended : State.leave rule source number tag ⟨taken, region :: outer, found, warnings⟩ =
          ⟨taken, outer, found, warnings⟩ := by
        simp [State.leave, htag]
      rw [leave_of_active hactive, hended]
      exact congrArg some (resume_ofState ⟨taken, region :: outer, found, warnings⟩ outer)
    · -- the region that ends, if there is one, is around the innermost
      have hother : ¬ region.tag = tag := fun h => htag h.symm
      cases htags : rule.tags.contains tag with
      | false => simp [leave, State.leave, ofState, State.takes, htag, hother, htags]
      | true =>
        cases hany : outer.any (·.tag == tag) with
        | true => simp [leave, State.leave, ofState, State.takes, htag, hother, htags, hany]
        | false => simp [leave, State.leave, ofState, State.takes, htag, hother, htags, hany]

/-- So does every line. -/
theorem step_ofState (s : State) (line : Nat × String) :
    (ofState rule s).step rule source line = some (ofState rule (s.step rule source line)) := by
  unfold step State.step
  cases TagMarker.ofLine? line.2 with
  | none =>
    dsimp only
    have htakes : (ofState rule s).takes = s.takes rule := rfl
    rw [htakes]
    split
    · rfl
    · rfl
  | some marker =>
    dsimp only
    split
    · exact leave_ofState line.1 marker.tag s
    · exact congrArg some (enter_ofState line.1 marker.tag s)

/-- So do all lines, and the stack is never empty where an entry is taken off. -/
theorem foldlM_ofState (s : State) (lines : List (Nat × String)) :
    lines.foldlM (step rule source) (ofState rule s) =
      some (ofState rule (lines.foldl (State.step rule source) s)) := by
  induction lines generalizing s with
  | nil => rfl
  | cons line lines ih =>
    rw [List.foldlM_cons, step_ofState, List.foldl_cons]
    exact ih (s.step rule source line)

/-- The pass comes to its end, and selects what the request takes. -/
theorem select_eq (tags : Table Bool) (source : String) (lines : List (Nat × String)) :
    select tags source lines = some (TagFilter.select tags source lines) := by
  have hstart : ({ takes := (Rule.ofTags tags).base } : Register) = ofState (.ofTags tags) {} := rfl
  have hpass : lines.foldlM (step (.ofTags tags) source) (ofState (.ofTags tags) {}) =
      some (ofState (.ofTags tags) (lines.foldl (State.step (.ofTags tags) source) {})) :=
    foldlM_ofState {} lines
  unfold select
  dsimp only
  rw [hstart, hpass]
  rfl

end Register

end TagFilter

end Transclude
