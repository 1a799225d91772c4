import Transclude.Include.LineRange
import Transclude.Table
import Transclude.Text.Word

/-!
# Tagged regions

The lines of a file that an include asks for by tag. A region starts at a line with the marker
`tag::name[]` and ends at one with `end::name[]`; regions may lie inside each other. A request names
tags to take, or with an exclamation mark to leave out; `*` stands for all other tags and `**` for
all lines outside of regions.

## Main definitions

* `TagFilter.requested?` : the tags that an include requests.
* `TagMarker.ofLine?`    : the marker on a line.
* `TagFilter.select`     : the lines of a file that a request takes, and what is odd about them.
-/

namespace Transclude

open Transclude.Text

/-- The lines that were selected, with their numbers, and warnings about the selection. -/
structure Selection where
  lines : List (Nat × String)
  warnings : List String
  deriving DecidableEq, Repr

/-- A marker: the start or the end of a region. -/
structure TagMarker where
  ends : Bool
  tag : String
  deriving DecidableEq, Repr

namespace TagMarker

/-- Whether a marker's brackets stand at the start of a text, followed by the end of the line, a
space or a carriage return. -/
def closes : List Char → Bool
  | '[' :: ']' :: after => after.isEmpty || after == ['\n'] || after.head? == some ' '
      || after.head? == some '\r'
  | _ => false

/-- The shortest name at the start of a text that a marker's brackets follow. Its beginning is given
in reverse. -/
def name? (before : List Char) : List Char → Option (List Char)
  | [] => none
  | c :: rest =>
    if isBlank c then none
    else if closes rest then some (c :: before).reverse
    else name? (c :: before) rest

/-- The marker at the start of a text. -/
def atStart? (s : List Char) : Option TagMarker :=
  match after? "tag::".toList s with
  | some rest => (name? [] rest).map fun name => ⟨false, String.ofList name⟩
  | none =>
    match after? "end::".toList s with
    | some rest => (name? [] rest).map fun name => ⟨true, String.ofList name⟩
    | none => none

/-- The first marker in a text. A marker does not follow a word character, and `inWord` says whether
one precedes the text. -/
def find? (inWord : Bool) : List Char → Option TagMarker
  | [] => none
  | c :: rest =>
    match if inWord then none else atStart? (c :: rest) with
    | some marker => some marker
    | none => find? (isWord c) rest

/-- The first marker on a line. -/
def ofLine? (line : String) : Option TagMarker := find? false line.toList

end TagMarker

namespace TagFilter

/-- A tag and whether it is taken, in the spelling of a request. -/
def request? (s : List Char) : Option (String × Bool) :=
  match trim s with
  | [] => none
  | ['!'] => none
  | '!' :: tag => some (String.ofList tag, false)
  | tag => some (String.ofList tag, true)

/-- The tags that an include requests: the one under `tag`, or else those under `tags`. -/
def requested? (attrs : Table String) : Option (Table Bool) :=
  match attrs.get? "tag" with
  | some value => (request? value.toList).map fun entry => [entry]
  | none =>
    match attrs.get? "tags" with
    | some value =>
      let tags := Table.ofList ((fields LineRange.isSeparator value.toList).filterMap request?)
      if tags.isEmpty then none else some tags
    | none => none

/-- What a request means: whether lines outside of regions are taken, whether the regions of tags
that are not named are taken if they count at all, and the tags that are named. -/
structure Rule where
  base : Bool
  wildcard : Option Bool
  tags : Table Bool
  deriving DecidableEq, Repr

/-- The meaning of a request. -/
def Rule.ofTags (tags : Table Bool) : Rule :=
  match tags.get? "**" with
  | some base =>
    let tags := tags.erase "**"
    match tags.get? "*" with
    | some wildcard => ⟨base, some wildcard, tags.erase "*"⟩
    | none => ⟨base, if !base && tags.values.head? == some false then some true else none, tags⟩
  | none =>
    match tags.get? "*" with
    | some wildcard =>
      ⟨tags.keys.head? == some "*" && !wildcard, some wildcard, tags.erase "*"⟩
    | none => ⟨!tags.values.contains true, none, tags⟩

/-- A region that is open: its tag, whether its lines are taken, and the number of the line that
started it. -/
structure Region where
  tag : String
  taken : Bool
  start : Nat
  deriving DecidableEq, Repr

/-- What is known after some lines: the lines taken, latest first, the open regions, innermost
first, the tags to take that were found, and the warnings, latest first. -/
structure State where
  taken : List (Nat × String) := []
  regions : List Region := []
  found : List String := []
  warnings : List String := []
  deriving DecidableEq, Repr

/-- Whether a line in the innermost open region is taken. -/
def State.takes (rule : Rule) (s : State) : Bool :=
  match s.regions with
  | [] => rule.base
  | region :: _ => region.taken

/-- The place of a marker in words. -/
def located (number : Nat) (source : String) : String :=
  s!"at line {number} of include file: {source}"

/-- The state after a marker that starts a region. A region that is not named takes its meaning from
the wildcard, but inside a region that is left out it is left out. -/
def State.enter (rule : Rule) (number : Nat) (tag : String) (s : State) : State :=
  match rule.tags.get? tag with
  | some taken =>
    { s with
      regions := ⟨tag, taken, number⟩ :: s.regions
      found := if taken then tag :: s.found else s.found }
  | none =>
    match rule.wildcard with
    | some wildcard =>
      let taken := if !s.regions.isEmpty && !s.takes rule then false else wildcard
      { s with regions := ⟨tag, taken, number⟩ :: s.regions }
    | none => s

/-- The state after a marker that ends a region: the innermost one, or else, with a warning, the
nearest one around it with that tag. -/
def State.leave (rule : Rule) (source : String) (number : Nat) (tag : String) (s : State) :
    State :=
  let place := located number source
  match s.regions with
  | [] =>
    if rule.tags.contains tag then
      { s with warnings := s!"unexpected end tag '{tag}' {place}" :: s.warnings }
    else s
  | region :: outer =>
    if tag = region.tag then { s with regions := outer }
    else if rule.tags.contains tag then
      if outer.any (·.tag == tag) then
        let expected := region.tag
        { s with
          regions := region :: outer.eraseP (·.tag == tag)
          warnings :=
            s!"mismatched end tag (expected '{expected}' but found '{tag}') {place}" :: s.warnings }
      else { s with warnings := s!"unexpected end tag '{tag}' {place}" :: s.warnings }
    else s

/-- The state after a line. Lines with markers are not taken. -/
def State.step (rule : Rule) (source : String) (s : State) (line : Nat × String) : State :=
  match TagMarker.ofLine? line.2 with
  | none => if s.takes rule then { s with taken := line :: s.taken } else s
  | some marker =>
    if marker.ends then s.leave rule source line.1 marker.tag
    else s.enter rule line.1 marker.tag

/-- The warning about a region that no marker ends. -/
def unclosed (source : String) (region : Region) : String :=
  s!"detected unclosed tag '{region.tag}' starting at line {region.start} of include file: {source}"

/-- The warning about tags that no marker starts. -/
def notFound (source : String) (tags : List String) : List String :=
  match tags with
  | [] => []
  | _ =>
    let plural := if tags.length > 1 then "s" else ""
    let names := ", ".intercalate tags
    [s!"tag{plural} '{names}' not found in include file: {source}"]

/-- The lines of a file that a request takes, and what is odd about its regions. -/
def select (tags : Table Bool) (source : String) (lines : List (Nat × String)) : Selection :=
  let rule := Rule.ofTags tags
  let s := lines.foldl (State.step rule source) {}
  let missing := Table.keys (rule.tags.filter fun entry => entry.2 && !s.found.contains entry.1)
  ⟨s.taken.reverse,
    s.warnings.reverse ++ s.regions.reverse.map (unclosed source) ++ notFound source missing⟩

/-! ## What is taken -/

@[simp] theorem State.taken_enter (rule : Rule) (number : Nat) (tag : String) (s : State) :
    (s.enter rule number tag).taken = s.taken := by
  unfold State.enter
  split
  · rfl
  · split <;> rfl

@[simp] theorem State.taken_leave (rule : Rule) (source : String) (number : Nat) (tag : String)
    (s : State) : (s.leave rule source number tag).taken = s.taken := by
  unfold State.leave
  dsimp only
  repeat' split
  all_goals rfl

/-- A line takes itself or nothing. -/
theorem State.taken_step (rule : Rule) (source : String) (s : State) (line : Nat × String) :
    (s.step rule source line).taken = s.taken ∨
      (s.step rule source line).taken = line :: s.taken := by
  unfold State.step
  split
  · split
    · exact .inr rfl
    · exact .inl rfl
  · split
    · exact .inl (State.taken_leave ..)
    · exact .inl (State.taken_enter ..)

/-- Some lines take some of themselves, in order. -/
theorem State.taken_foldl (rule : Rule) (source : String) (lines : List (Nat × String))
    (s : State) : ∃ taken, (lines.foldl (State.step rule source) s).taken.reverse =
      s.taken.reverse ++ taken ∧ taken.Sublist lines := by
  induction lines generalizing s with
  | nil => exact ⟨[], (List.append_nil _).symm, .slnil⟩
  | cons line lines ih =>
    obtain ⟨taken, heq, hsublist⟩ := ih (s.step rule source line)
    rw [List.foldl_cons, heq]
    rcases State.taken_step rule source s line with hstep | hstep
    · exact ⟨taken, by rw [hstep], hsublist.cons line⟩
    · refine ⟨line :: taken, ?_, hsublist.cons_cons line⟩
      rw [hstep, List.reverse_cons, List.append_assoc, List.singleton_append]

/-- The lines that a request takes are lines of the file, in order. -/
theorem sublist_select (tags : Table Bool) (source : String) (lines : List (Nat × String)) :
    (select tags source lines).lines.Sublist lines := by
  obtain ⟨taken, heq, hsublist⟩ := State.taken_foldl (.ofTags tags) source lines {}
  rw [select, heq]
  exact hsublist

end TagFilter

namespace Selection

/-- The lines of a file with their numbers. -/
def numbered (lines : List String) : List (Nat × String) :=
  lines.zipIdx.map fun (text, i) => (i + 1, text)

/-- The lines of a file that the attributes of an include ask for. Line ranges win over tags; without
either all lines are taken. -/
def ofAttributes (attrs : Table String) (source : String) (lines : List String) :
    Except NumeralError Selection :=
  let numberedLines := numbered lines
  match LineRange.parse ((attrs.get? "lines").getD "") with
  | .error e => .error e
  | .ok (range :: ranges) => .ok ⟨LineRange.select (range :: ranges) numberedLines, []⟩
  | .ok [] =>
    match TagFilter.requested? attrs with
    | some tags => .ok (TagFilter.select tags source numberedLines)
    | none => .ok ⟨numberedLines, []⟩

/-- The numbers of lines are those in the file, from one on. -/
theorem mem_numbered_iff {lines : List String} {n : Nat} {text : String} :
    (n, text) ∈ numbered lines ↔ ∃ i, n = i + 1 ∧ lines[i]? = some text := by
  simp only [numbered, List.mem_map, Prod.exists, List.mem_zipIdx_iff_getElem?, Prod.mk.injEq]
  constructor
  · rintro ⟨text, i, hline, rfl, rfl⟩
    exact ⟨i, rfl, hline⟩
  · rintro ⟨i, rfl, hline⟩
    exact ⟨text, i, hline, rfl, rfl⟩

/-- Whatever an include asks for, and in whatever order, it is given lines of the file with their
numbers, in the order of the file. -/
theorem sublist_of_ofAttributes {attrs : Table String} {source : String} {lines : List String}
    {selection : Selection} (h : ofAttributes attrs source lines = .ok selection) :
    selection.lines.Sublist (numbered lines) := by
  unfold ofAttributes at h
  dsimp only at h
  split at h
  · cases h
  · cases h
    exact List.filter_sublist
  · split at h
    · cases h
      exact TagFilter.sublist_select _ _ _
    · cases h
      exact List.Sublist.refl _

/-- The numbers of lines go up. -/
theorem pairwise_numbered (lines : List String) :
    (numbered lines).Pairwise fun l m => l.1 < m.1 := by
  have hindices : (lines.zipIdx.map Prod.snd).Pairwise (· < ·) := by
    rw [List.zipIdx_map_snd]
    exact List.pairwise_lt_range'
  rw [numbered, List.pairwise_map]
  exact (List.pairwise_map.1 hindices).imp Nat.succ_lt_succ

end Selection

end Transclude
