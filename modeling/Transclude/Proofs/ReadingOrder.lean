import Transclude.Proofs.Preservation
import Transclude.Proofs.Provenance

/-!
# Lines in reading order

The key of a line is the way to it: the numbers of the lines whose includes lead there, from the
root document down, and then its own. Whatever is included, selected, dropped or supplied by an
extension, the lines of a reduction stand in the order of their keys. Two lines have a key in
common, or one key goes on from the other, only where entries for a level offset are put around the
lines of an include, or markers around the text of a conditional that is preserved. Otherwise the
keys go up from line to line.

## Main definitions

* `Origin.key`       : the way to a line.
* `Precedes`         : whether a key is before another one, and will be however both go on.
* `Line.Stays`       : whether no other lines take the place of a line.
* `Line.Ordered`     : how a line stands to a later one.
* `Line.Substitutes` : whether lines may take the place of one with a given key.

## Main statements

* `Resolution.substitutes_ofFinding` : the lines of an include may take its place.
* `State.Rule.ordered`               : a step keeps the lines in order.
* `Buffer.reduce_ordered`            : the lines of a result are in order.
-/

namespace Transclude

open Transclude.Text

/-! ## Keys -/

/-- The way to a line: the numbers of the lines with the includes that lead there, from the root
document down, and then its own. -/
def Origin.key (o : Origin) : List Int := o.chain.map (·.line) ++ [o.line]

@[simp] theorem Origin.key_child (o : Origin) (file : String) (n : Int) :
    (o.child file n).key = o.key ++ [n] := by
  simp [key, child, place]

/-- Whether a key is before another one, and will be however both go on: after what they have in
common, each has a number, and the first has the smaller one. -/
inductive Precedes : List Int → List Int → Prop
  | here {m n : Int} {k l : List Int} (lt : m < n) : Precedes (m :: k) (n :: l)
  | later {n : Int} {k l : List Int} (precedes : Precedes k l) : Precedes (n :: k) (n :: l)

namespace Precedes

variable {k l k' l' : List Int}

/-- What precedes a key is smaller in the order of dictionaries. -/
theorem lt (h : Precedes k l) : k < l := by
  induction h with
  | here lt => exact .rel lt
  | later _ ih => exact .cons ih

/-- Keys that go on from others are in their order. -/
theorem of_prefix (h : Precedes k l) (hk : k <+: k') (hl : l <+: l') : Precedes k' l' := by
  obtain ⟨k₁, rfl⟩ := hk
  obtain ⟨l₁, rfl⟩ := hl
  induction h with
  | here lt => exact .here lt
  | later _ ih => exact .later ih

/-- Of the lines of one file that are reached in one way, the first is that with the smaller
number. -/
theorem snoc (key : List Int) {m n : Int} (h : m < n) : Precedes (key ++ [m]) (key ++ [n]) := by
  induction key with
  | nil => exact .here h
  | cons _ _ ih => exact .later ih

end Precedes

/-! ## Lines that stay -/

/-- Whether no other lines take the place of a line: it is no include, and no conditional of which
the text is put in its place or between markers. -/
structure Line.Stays (setting : Setting) (line : Line) : Prop where
  not_include : ∀ d, Directive.ofLine? (strippedEnd line.text) ≠ some (.include d)
  not_inline : ∀ d text, Directive.ofLine? (strippedEnd line.text) = some (.opening d) →
    d.inlineText? = some text →
      setting.options.preserveConditionals.meaning = true ∧ isInclude text = false

/-- A line that is no directive stays. -/
theorem Line.stays_of_none (setting : Setting) {line : Line}
    (h : Directive.ofLine? (strippedEnd line.text) = none) : line.Stays setting := by
  refine ⟨fun d hd => ?_, fun d text hd => ?_⟩
  · rw [h] at hd
    cases hd
  · rw [h] at hd
    cases hd

/-- So do the entries around the lines of an include. -/
theorem Resolution.OffsetEntry.stays (setting : Setting) {a : AttributeSet} {offset : String}
    {line : Line} (h : OffsetEntry a offset line.text) : line.Stays setting :=
  Line.stays_of_none setting (not_directive_of_bracketWeight (bracketWeight_offsetEntry h))

/-- So do the markers around a text. -/
theorem Opening.stays_of_marker {setting : Setting} {d : Opening} {keyword : String}
    (hpreserved : setting.options.preserveConditionals.meaning = true)
    (htarget : '[' ∉ d.target.toList) (hkeyword : keyword = d.keyword ∨ keyword = "endif")
    (origin : Origin) : Line.Stays setting ⟨s!"{keyword}::{d.target}[]", origin⟩ := by
  refine ⟨fun d' hinclude => ?_, fun d' text hopening hinline =>
    ⟨hpreserved, d.isInclude_of_marker htarget hkeyword hopening hinline⟩⟩
  have hstarts := (prefix_of_include hinclude).trans (prefix_of_strippedEnd _)
  exact d.not_prefix_of_marker hkeyword hstarts

/-! ## Lines in order -/

/-- How a line stands to a later one. The key of the first precedes that of the second. Or, if the
lines around an include may have its key, one of the keys goes on from the other, and the line with
the shorter key stays. -/
inductive Line.Ordered (setting : Setting) (around : Prop) (l m : Line) : Prop
  | apart (precedes : Precedes l.origin.key m.origin.key)
  | opens (around : around) (within : l.origin.key <+: m.origin.key) (stays : l.Stays setting)
  | ends (around : around) (within : m.origin.key <+: l.origin.key) (stays : m.Stays setting)

/-- Whether lines may take the place of one with the given key: they are in order, and their keys go
on from it. -/
structure Line.Substitutes (setting : Setting) (around : Prop) (key : List Int)
    (lines : List Line) : Prop where
  within : ∀ l ∈ lines, key <+: l.origin.key
  ordered : lines.Pairwise (Line.Ordered setting around)

namespace Line

variable {setting : Setting} {around : Prop} {l m x : Line} {key : List Int} {lines : List Line}

/-- A line in the place of the first one stands to the second as that did, if the first did not
stay. -/
theorem Ordered.left (h : Ordered setting around l m) (hl : ¬ l.Stays setting)
    (hx : l.origin.key <+: x.origin.key) : Ordered setting around x m := by
  cases h with
  | apart precedes => exact .apart (precedes.of_prefix hx (List.prefix_refl _))
  | opens _ _ stays => exact absurd stays hl
  | ends haround within stays => exact .ends haround (within.trans hx) stays

/-- The first line stands to one in the place of the second as to that, if the second did not
stay. -/
theorem Ordered.right (h : Ordered setting around l m) (hm : ¬ m.Stays setting)
    (hx : m.origin.key <+: x.origin.key) : Ordered setting around l x := by
  cases h with
  | apart precedes => exact .apart (precedes.of_prefix (List.prefix_refl _) hx)
  | opens haround within stays => exact .opens haround (within.trans hx) stays
  | ends _ _ stays => exact absurd stays hm

/-- One key is smaller, or goes on from the other. -/
theorem Ordered.lt_or_prefix (h : Ordered setting around l m) :
    l.origin.key < m.origin.key ∨ l.origin.key <+: m.origin.key ∨
      m.origin.key <+: l.origin.key := by
  cases h with
  | apart precedes => exact .inl precedes.lt
  | opens _ within => exact .inr (.inl within)
  | ends _ within => exact .inr (.inr within)

/-- If no lines around an include have its key, the first line has the smaller key. -/
theorem Ordered.lt (h : Ordered setting False l m) : l.origin.key < m.origin.key := by
  cases h with
  | apart precedes => exact precedes.lt
  | opens haround => exact haround.elim
  | ends haround => exact haround.elim

/-- A line with the same key may take the place of another one. -/
theorem Substitutes.single (h : l.origin.key = key) : Substitutes setting around key [l] := by
  refine ⟨fun m hm => ?_, List.pairwise_singleton _ _⟩
  obtain rfl := List.mem_singleton.1 hm
  exact h ▸ List.prefix_refl key

/-- Nothing may do so. -/
theorem Substitutes.nil : Substitutes setting around key [] :=
  ⟨List.forall_mem_nil _, List.Pairwise.nil⟩

/-- So may lines with numbers that go up, which are reached through it. -/
theorem Substitutes.of_numbers (hwithin : ∀ l ∈ lines, ∃ n, l.origin.key = key ++ [n])
    (hnumbers : lines.Pairwise fun l m => l.origin.line < m.origin.line) :
    Substitutes setting around key lines := by
  refine ⟨fun l hl => ?_, ?_⟩
  · obtain ⟨n, hn⟩ := hwithin l hl
    rw [hn]
    exact List.prefix_append _ _
  · refine hnumbers.imp_of_mem fun {l m} hl hm hlt => .apart ?_
    -- the last number of a key is the number of the line
    have hkey : ∀ l ∈ lines, l.origin.key = key ++ [l.origin.line] := by
      intro l hl
      obtain ⟨n, hn⟩ := hwithin l hl
      obtain ⟨-, hline⟩ := List.append_inj' (hn.symm.trans rfl) rfl
      rw [hn, hline]
    rw [hkey l hl, hkey m hm]
    exact .snoc key hlt

/-- So may lines with others around them that have the key and stay. -/
theorem Substitutes.enclosed (haround : around) (h : Substitutes setting around key lines)
    (hl : l.origin.key = key) (hm : m.origin.key = key) (hlstays : l.Stays setting)
    (hmstays : m.Stays setting) : Substitutes setting around key (l :: lines ++ [m]) := by
  have hwithin : ∀ x ∈ lines ++ [m], key <+: x.origin.key := by
    intro x hx
    rcases List.mem_append.1 hx with hx | hx
    · exact h.within x hx
    · obtain rfl := List.mem_singleton.1 hx
      exact hm ▸ List.prefix_refl key
  refine ⟨?_, ?_⟩
  · intro x hx
    rcases List.mem_cons.1 hx with rfl | hx
    · exact hl ▸ List.prefix_refl key
    · exact hwithin x hx
  · rw [List.cons_append, List.pairwise_cons, List.pairwise_append]
    refine ⟨fun x hx => .opens haround (hl ▸ hwithin x hx) hlstays, h.ordered,
      List.pairwise_singleton _ _, fun x hx y hy => ?_⟩
    rw [List.mem_singleton.1 hy]
    exact .ends haround (hm ▸ h.within x hx) hmstays

end Line

/-- Lines stay in a relation if some others take the place of one of them that are in it among
themselves, and to which the others stand as to that one. -/
theorem pairwise_replaced {R : Line → Line → Prop} {before new rest : List Line} {line : Line}
    (h : (before ++ line :: rest).Pairwise R) (hnew : new.Pairwise R)
    (hbefore : ∀ l, ∀ x ∈ new, R l line → R l x) (hafter : ∀ x ∈ new, ∀ m, R line m → R x m) :
    (before ++ (new ++ rest)).Pairwise R := by
  rw [List.pairwise_append, List.pairwise_cons] at h
  obtain ⟨hleft, ⟨hline, hrest⟩, hacross⟩ := h
  refine List.pairwise_append.2 ⟨hleft, List.pairwise_append.2 ⟨hnew, hrest, ?_⟩, ?_⟩
  · exact fun x hx m hm => hafter x hx m (hline m hm)
  · intro l hl x hx
    rcases List.mem_append.1 hx with hx | hx
    · exact hbefore l x hx (hacross l hl line List.mem_cons_self)
    · exact hacross l hl x (List.mem_cons_of_mem _ hx)

/-- Numbered lines have numbers that go up. -/
theorem Line.pairwise_number {origin : Int → Origin} (horigin : ∀ n, (origin n).line = n)
    (texts : List String) :
    (Line.number origin texts).Pairwise fun l m => l.origin.line < m.origin.line := by
  have hnumbered : Line.number origin texts =
      (Selection.numbered texts).map fun p => ⟨p.2, origin p.1⟩ := by
    rw [number, Selection.numbered, List.map_map]
    rfl
  rw [hnumbered, List.pairwise_map]
  refine (Selection.pairwise_numbered texts).imp fun {p q} hlt => ?_
  simp only [horigin]
  omega

/-! ## The lines of an include -/

/-- The lines that are selected from a file for an include have numbers that go up. -/
theorem Search.pairwise_of_file {s : Setting} {base : String} {request : IncludeRequest}
    {path : String} {selection : Selection}
    (h : (ofRequest s base request).finding = .ok (.file path selection)) :
    selection.lines.Pairwise fun l m => l.1 < m.1 := by
  unfold ofRequest at h
  split at h
  · cases h
  · split at h
    · cases h
    · cases h
    · split at h
      · cases h
      · split at h
        · cases h
        · rcases finding_of_atPath h with ⟨_, hproblem⟩ | ⟨_, heq, -, content, -, hselected⟩
          · cases hproblem
          · cases heq
            exact (Selection.pairwise_numbered (splitLines content)).sublist hselected

namespace Resolution

variable {setting : Setting} {around : Prop} {a : AttributeSet} {request : IncludeRequest}
  {lines : List Line}

/-- Lines with entries for a level offset around them may take the place of their include if they
may do so alone. -/
theorem substitutes_offsetLines
    (haround : ∀ offset, request.attributes.get? "leveloffset" = some offset → around)
    (h : Line.Substitutes setting around request.origin.key lines) :
    Line.Substitutes setting around request.origin.key (offsetLines a request lines) := by
  unfold offsetLines
  split
  · exact h
  · exact h
  · exact h
  · rename_i offset _ hoffset _
    refine h.enclosed (haround offset hoffset) rfl rfl ?_ ?_
    · have hentry : OffsetEntry a offset s!":leveloffset: {offset}" := .sets
      exact hentry.stays setting
    · exact (OffsetEntry.restoring a offset).stays setting

/-- The lines of an include may take its place. -/
theorem substitutes_ofFinding {s : Setting} {directories : Table String} {finding : Finding}
    (haround : ∀ offset, request.attributes.get? "leveloffset" = some offset → around)
    (hsorted : ∀ path selection, finding = .file path selection →
      selection.lines.Pairwise fun l m => l.1 < m.1) :
    Line.Substitutes setting around request.origin.key
      (ofFinding s directories a request finding).lines := by
  cases finding with
  | supplied name texts =>
    refine substitutes_offsetLines haround (.of_numbers (fun l hl => ?_) ?_)
    · obtain ⟨p, -, rfl⟩ := List.mem_map.1 hl
      exact ⟨_, Origin.key_child _ _ _⟩
    · exact Line.pairwise_number (fun _ => rfl) texts
  | link => exact .single rfl
  | file path selection =>
    refine substitutes_offsetLines haround (.of_numbers (fun l hl => ?_) ?_)
    · obtain ⟨p, -, rfl⟩ := List.mem_map.1 hl
      exact ⟨_, Origin.key_child _ _ _⟩
    · refine List.pairwise_map.2 ((hsorted path selection rfl).imp fun {p q} hlt => ?_)
      exact Int.ofNat_lt.2 hlt
  | problem p =>
    dsimp only [ofFinding]
    split
    · exact .single rfl
    · exact .nil

end Resolution

/-- The lines that take the place of an include directive may do so. -/
theorem Context.substitutes_of_resolve {setting : Setting} {around : Prop} {c after : Context}
    {d : Include} {origin : Origin} {lines : List Line}
    (haround : ∀ request offset, IncludeRequest.ofDirective c.attributes d origin = .ok request →
      request.attributes.get? "leveloffset" = some offset → around)
    (h : c.resolve setting d origin = .ok (lines, after)) :
    Line.Substitutes setting around origin.key lines := by
  unfold resolve at h
  split at h
  · cases h
  rename_i resolution hresolution
  cases h
  rcases Resolution.eq_of_ofDirective hresolution with
    ⟨_, rfl⟩ | ⟨request, finding, hrequest, hfinding, rfl⟩
  · exact .nil
  · obtain ⟨horigin, -⟩ := eq_of_request hrequest
    rw [← horigin]
    refine Resolution.substitutes_ofFinding (fun offset => haround request offset hrequest) ?_
    rintro path selection rfl
    exact Search.pairwise_of_file hfinding

/-! ## The lines of a reduction -/

namespace State

variable {setting : Setting} {around : Prop} {s t : State} {line : Line} {rest new : List Line}

/-- Whether the lines that a reduction has emitted, and those it has still to read, are in order. -/
def Ordered (setting : Setting) (around : Prop) (s : State) : Prop :=
  (s.emitted.toList ++ s.pending).Pairwise (Line.Ordered setting around)

/-- Lines that may take the place of one that does not stay keep the order. -/
theorem Ordered.replace (h : s.Ordered setting around) (hpending : s.pending = line :: rest)
    (hline : ¬ line.Stays setting) (hnew : Line.Substitutes setting around line.origin.key new) :
    (s.emitted.toList ++ (new ++ rest)).Pairwise (Line.Ordered setting around) := by
  rw [Ordered, hpending] at h
  refine pairwise_replaced h hnew.ordered ?_ ?_
  · exact fun l x hx hordered => hordered.right hline (hnew.within x hx)
  · exact fun x hx m hordered => hordered.left hline (hnew.within x hx)

/-- A step keeps the lines in order, if only level offsets and markers give lines of an include the
key of another line. -/
theorem Rule.ordered (h : Rule setting s line rest t) (hpending : s.pending = line :: rest)
    (hpreserved : setting.options.preserveConditionals.meaning = true → around)
    (haround : ∀ d request offset, Directive.ofLine? (strippedEnd line.text) = some (.include d) →
      IncludeRequest.ofDirective s.attributes d line.origin = .ok request →
        request.attributes.get? "leveloffset" = some offset → around)
    (hs : s.Ordered setting around) : t.Ordered setting around := by
  have hlines : (s.emitted.toList ++ line :: rest).Pairwise (Line.Ordered setting around) :=
    hpending ▸ hs
  have hemitted :
      ((s.emitted.push line).toList ++ rest).Pairwise (Line.Ordered setting around) := by
    rwa [Array.toList_push, List.append_assoc, List.singleton_append]
  have hdropped : ∀ lines, lines.Sublist rest →
      (s.emitted.toList ++ lines).Pairwise (Line.Ordered setting around) :=
    fun lines hsublist => hlines.sublist ((hsublist.cons line).append_left _)
  cases h with
  | plain | entry | closingKept | inlineKept | blockKept => exact hemitted
  | inclusion d lines c directive resolved =>
    exact hs.replace hpending (fun hstays => hstays.not_include d directive)
      (Context.substitutes_of_resolve (fun request offset => haround d request offset directive)
        resolved)
  | inlineTrue d text c directive normal inline =>
    have hnew : Line.Substitutes setting around line.origin.key [⟨text, line.origin⟩] := .single rfl
    refine hs.replace hpending (fun hstays => ?_) hnew
    have hkept := (hstays.not_inline d text directive inline).1
    rw [normal] at hkept
    cases hkept
  | closingDropped | inlineFalse | blockTrue => exact hdropped rest (.refl rest)
  | blockFalse d c =>
    rw [Ordered, (skip_eq (s.withContext c) line rest d).1]
    exact hdropped _ (pending_skip_suffix _ line rest d).sublist
  | inlineRewritten d text directive preserved inline included =>
    obtain ⟨htarget, -⟩ := (brackets_of_directive directive).2 d rfl _ inline
    refine hs.replace hpending (fun hstays => ?_) ?_
    · have hother := (hstays.not_inline d text directive inline).2
      rw [included] at hother
      cases hother
    · -- the markers have the key of the text between them
      have hmarker : ∀ keyword, keyword = d.keyword ∨ keyword = "endif" →
          Line.Stays setting ⟨s!"{keyword}::{d.target}[]", line.origin⟩ :=
        fun keyword hkeyword => d.stays_of_marker preserved htarget hkeyword line.origin
      have htext : Line.Substitutes setting around line.origin.key [⟨text, line.origin⟩] :=
        .single rfl
      exact htext.enclosed (hpreserved preserved) rfl rfl (hmarker d.keyword (.inl rfl))
        (hmarker "endif" (.inr rfl))

end State

namespace Run

variable {r : Run} {s : State} {around : Prop}

/-- At the start the lines are in the order of their numbers. -/
theorem ordered_start (r : Run) (around : Prop) : r.start.state.Ordered r.setting around := by
  show (Line.number (fun n => { file := r.file, line := n }) r.texts).Pairwise _
  refine (Line.pairwise_number (fun _ => rfl) r.texts).imp_of_mem fun {l m} hl hm hlt => ?_
  -- without an include the number of a line is its key
  obtain ⟨_, -, rfl⟩ := List.mem_map.1 hl
  obtain ⟨_, -, rfl⟩ := List.mem_map.1 hm
  exact .apart (.here hlt)

/-- The lines of all states that a reduction comes to are in order. -/
theorem ordered_of_reaches
    (hpreserved : r.setting.options.preserveConditionals.meaning = true → around)
    (haround : ∀ s request offset, r.Resolves s request →
      request.attributes.get? "leveloffset" = some offset → around) (h : r.Reaches s) :
    s.Ordered r.setting around := by
  -- that an include is resolved says that its state is reached, so this is carried along
  have hboth : r.Reaches s ∧ s.Ordered r.setting around := by
    refine State.Leads.preserves (P := fun s => r.Reaches s ∧ s.Ordered r.setting around) h
      ⟨.refl _, r.ordered_start around⟩ fun s t hafter ⟨hreaches, hs⟩ => ?_
    obtain ⟨line, rest, hpending, hrule⟩ := hafter.rule
    refine ⟨hreaches.trans hafter.leads, hrule.ordered hpending hpreserved ?_ hs⟩
    intro d request offset hinclude hrequest hoffset
    obtain ⟨-, rfl⟩ := eq_of_request hrequest
    exact haround s request offset ⟨hreaches, line, rest, hpending, hinclude, hrequest⟩ hoffset
  exact hboth.2

end Run

/-- Of any two lines of a result, the first has the smaller key, or the key of one goes on from that
of the other. Unless conditionals are preserved or an include has a level offset, the keys go up, so
no line of a file stands there twice that is reached in one way. -/
theorem Buffer.reduce_ordered (r : Run) {result : Result} {journal : Journal}
    (h : r.buffer.reduce r.setting r.file r.attributes = .ok (result, journal)) :
    (result.lines.Pairwise fun l m => l.origin.key < m.origin.key ∨
      l.origin.key <+: m.origin.key ∨ m.origin.key <+: l.origin.key) ∧
    (r.setting.options.preserveConditionals.meaning = false →
      (∀ s request, r.Resolves s request → request.attributes.get? "leveloffset" = none) →
        (result.lines.Pairwise fun l m => l.origin.key < m.origin.key) ∧
          (result.lines.map (·.origin)).Nodup) := by
  obtain ⟨⟨lines, c⟩, hrun, hresult⟩ := eq_ok_of_map h
  cases hresult
  rw [Loop.run_eq] at hrun
  -- the lines of the result are those emitted at the end
  have hlines : ∀ around, State.Ordered r.setting around ⟨c, lines.toArray, []⟩ →
      lines.Pairwise (Line.Ordered r.setting around) := by
    intro around hordered
    rwa [State.Ordered, List.append_nil] at hordered
  have hreaches := State.leads_of_run hrun
  refine ⟨?_, fun hnormal hoffset => ?_⟩
  · have hordered : State.Ordered r.setting True ⟨c, lines.toArray, []⟩ :=
      Run.ordered_of_reaches (fun _ => trivial) (fun _ _ _ _ _ => trivial) hreaches
    exact (hlines True hordered).imp fun hlm => hlm.lt_or_prefix
  · have hordered : State.Ordered r.setting False ⟨c, lines.toArray, []⟩ := by
      refine Run.ordered_of_reaches (fun hpreserved => ?_)
        (fun s request offset hresolves hsome => ?_) hreaches
      · rw [hnormal] at hpreserved
        cases hpreserved
      · rw [hoffset s request hresolves] at hsome
        cases hsome
    have hlt : lines.Pairwise fun l m => l.origin.key < m.origin.key :=
      (hlines False hordered).imp fun hlm => hlm.lt
    refine ⟨hlt, List.pairwise_map.2 (hlt.imp fun {l m} hkeys heq => ?_)⟩
    rw [heq] at hkeys
    exact List.lt_irrefl _ hkeys

/-- A document that asks for the lines of a file in another order, of which one includes a file in
turn: all lines come in the order of the files. -/
theorem Buffer.reduce_ordered_selection :
    let files : FileTree :=
      ⟨[(["b"], .file "p\ninclude::c[]\nq".toUTF8.toList), (["c"], .file "r".toUTF8.toList)]⟩
    let setting : Setting :=
      { files := files, cwd := "/", jail := ⟨.free, "/", none⟩, rootDirectory := "/" }
    let r : Run := ⟨setting, "a", {}, ["include::b[lines=3;1..2]", "z"]⟩
    setting.options.preserveConditionals.meaning = false ∧
      (∀ s request, r.Resolves s request → request.attributes.get? "leveloffset" = none) ∧
      ∃ result journal, r.buffer.reduce setting "a" {} = .ok (result, journal) ∧
        result.lines.map (fun l => (l.text, l.origin.key)) =
          [("p", [1, 1]), ("r", [1, 2, 1]), ("q", [1, 3]), ("z", [2])] ∧
        (result.lines.Pairwise fun l m => l.origin.key < m.origin.key) ∧
          (result.lines.map (·.origin)).Nodup := by
  intro files setting r
  have hoffset : ∀ s request, r.Resolves s request →
      request.attributes.get? "leveloffset" = none := by
    intro s request hresolves
    obtain ⟨line, rest, hpending, hinclude, hrequest⟩ := hresolves.next
    have hall : ∀ line ∈ s.pending.head?, ∀ d ∈ line.include?,
        ∀ request ∈ (IncludeRequest.ofDirective s.attributes d line.origin).toOption,
          request.attributes.get? "leveloffset" = none := by
      refine State.Leads.of_allWithin (P := fun s => ∀ line ∈ s.pending.head?,
        ∀ d ∈ line.include?,
          ∀ request ∈ (IncludeRequest.ofDirective s.attributes d line.origin).toOption,
            request.attributes.get? "leveloffset" = none) 7 ?_ hresolves.reaches
      decide +kernel
    refine hall line (by rw [hpending]; rfl) _ (Line.mem_include?.2 hinclude) request ?_
    rw [hrequest]
    rfl
  have hwithin : (r.start.state.runWithin setting 7).map
      (fun ended => ended.1.map fun l => (l.text, l.origin.key)) =
        some [("p", [1, 1]), ("r", [1, 2, 1]), ("q", [1, 3]), ("z", [2])] := by
    decide +kernel
  obtain ⟨⟨lines, c⟩, hrun, hkeys⟩ := Option.map_eq_some_iff.1 hwithin
  have hreduce := Buffer.reduce_of_runWithin 7 hrun
  obtain ⟨-, hordered⟩ := Buffer.reduce_ordered r hreduce
  exact ⟨rfl, hoffset, _, _, hreduce, hkeys, hordered rfl hoffset⟩

end Transclude
