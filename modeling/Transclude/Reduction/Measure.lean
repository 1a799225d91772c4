import Transclude.Reduction.Step

/-!
# Why a reduction ends

A line is weighed by two numbers: how many more includes may stand inside each other below it, and,
if it is a directive, how many opening brackets it has. The lines that a step puts in the place of a
line all weigh less, an include because its lines lie deeper, a conditional because its text has
fewer brackets. Replacing the first line of a list by lighter lines and dropping others cannot go on
for ever.

## Main statements

* `PendingLt.wellFounded` : the order on lists of lines has no infinite descent.
* `State.pendingLt_of_onLine` : a step goes down in that order.
-/

namespace Transclude

open Transclude.Text

/-! ## Directives and brackets -/

/-- The bracketed text ends a line, and the target before it has no opening bracket. -/
theorem eq_of_bracketed? {s target text : List Char}
    (h : Directive.bracketed? s = some (target, text)) :
    '[' ∉ target ∧ s = target ++ '[' :: (text ++ [']']) := by
  obtain ⟨htarget, -, hs⟩ := Directive.bracketed?_eq_some_iff.1 h
  exact ⟨htarget, hs⟩

/-- The number of opening brackets of a text with a bracketed end. -/
theorem count_of_bracketed? {s target text : List Char}
    (h : Directive.bracketed? s = some (target, text)) : s.count '[' = 1 + text.count '[' := by
  obtain ⟨ht, rfl⟩ := eq_of_bracketed? h
  simp [List.count_append, List.count_eq_zero_of_not_mem ht]
  omega

/-- A directive is a keyword and what its kind reads from the rest of the line. -/
theorem rest_of_directive {line : String} {d : Directive} (h : Directive.ofLine? line = some d) :
    ∃ keyword rest : List Char, line.toList = keyword ++ rest ∧ '[' ∉ keyword ∧
      (keyword.head? = some 'i' ∨ keyword.head? = some 'e') ∧
      (Directive.includeOf? line rest = some d ∨
        (∃ negated, Directive.presenceOf? line negated rest = some d) ∨
        Directive.comparisonOf? line rest = some d ∨ Directive.closingOf? line rest = some d) := by
  rcases Directive.ofLine?_eq_some_iff.1 h with
    ⟨rest, hline, hd⟩ | ⟨negated, rest, hline, hd⟩ | ⟨rest, hline, hd⟩ | ⟨rest, hline, hd⟩
  · exact ⟨_, rest, hline, by decide, by decide, Or.inl hd⟩
  · refine ⟨_, rest, hline, ?_, ?_, Or.inr (Or.inl ⟨negated, hd⟩)⟩ <;> cases negated <;> decide
  · exact ⟨_, rest, hline, by decide, by decide, Or.inr (Or.inr (Or.inl hd))⟩
  · exact ⟨_, rest, hline, by decide, by decide, Or.inr (Or.inr (Or.inr hd))⟩

/-- The bracketed text of a conditional is its text, and its target has no opening bracket. -/
theorem brackets_of_conditional {rest target : List Char} {text : Option String}
    (h : Directive.conditionalParts? rest = some (target, text)) :
    0 < rest.count '[' ∧ '[' ∉ target ∧
      ∀ t, text = some t → rest.count '[' = 1 + t.toList.count '[' := by
  obtain ⟨inner, hbracketed, -, rfl⟩ := Directive.conditionalParts?_eq_some_iff.1 h
  have hcount := count_of_bracketed? hbracketed
  refine ⟨by omega, (eq_of_bracketed? hbracketed).1, fun t ht => ?_⟩
  split at ht
  · cases ht
  · cases ht
    rwa [String.toList_ofList]

/-- Lower-casing makes no opening bracket. -/
theorem bracket_not_mem_lower {s : List Char} (h : '[' ∉ s) : '[' ∉ lower s := fun hm => by
  rcases mem_or_le_of_mem_lower hm with hm | hm
  · exact h hm
  · exact absurd hm (by decide)

/-- What a directive says about its line: it has an opening bracket; one more than the text of a
conditional that is complete in one line, whose target has none. -/
theorem brackets_of_directive {line : String} {d : Directive}
    (h : Directive.ofLine? line = some d) :
    0 < line.toList.count '[' ∧
    ∀ o, d = .opening o → ∀ text, o.inlineText? = some text →
      '[' ∉ o.target.toList ∧ line.toList.count '[' = 1 + text.toList.count '[' := by
  obtain ⟨keyword, rest, hline, hk, -, hkind⟩ := rest_of_directive h
  have hcount : line.toList.count '[' = rest.count '[' := by
    rw [hline, List.count_append, List.count_eq_zero_of_not_mem hk, Nat.zero_add]
  rw [hcount]
  rcases hkind with hd | ⟨negated, hd⟩ | hd | hd
  · unfold Directive.includeOf? at hd
    split at hd
    · rename_i hb
      have := count_of_bracketed? hb
      split at hd
      · simp only [Option.some.injEq] at hd
        subst hd
        exact ⟨by omega, fun o ho => by cases ho⟩
      · cases hd
    · cases hd
  · obtain ⟨⟨target, text⟩, hp, rfl⟩ := Option.map_eq_some_iff.1 hd
    obtain ⟨hpos, hm, ht⟩ := brackets_of_conditional hp
    refine ⟨hpos, ?_⟩
    intro o ho t hto
    cases ho
    exact ⟨by simpa [Opening.target] using bracket_not_mem_lower hm, ht t hto⟩
  · obtain ⟨⟨target, text⟩, hp, rfl⟩ := Option.map_eq_some_iff.1 hd
    refine ⟨(brackets_of_conditional hp).1, ?_⟩
    intro o ho t hto
    cases ho
    cases hto
  · obtain ⟨⟨target, text⟩, hp, rfl⟩ := Option.map_eq_some_iff.1 hd
    exact ⟨(brackets_of_conditional hp).1, fun o ho => by cases ho⟩

/-- An include directive begins with its keyword. -/
theorem prefix_of_include {line : String} {d : Include}
    (h : Directive.ofLine? line = some (.include d)) : "include::".toList <+: line.toList := by
  rcases Directive.ofLine?_eq_some_iff.1 h with
    ⟨rest, hline, -⟩ | ⟨_, _, -, hother⟩ | ⟨_, -, hother⟩ | ⟨_, -, hother⟩
  · exact ⟨rest, hline.symm⟩
  -- after the other keywords there are other directives only
  all_goals
    obtain ⟨_, -, hkind⟩ := Option.map_eq_some_iff.1 hother
    cases hkind

/-! ## The weight of a line -/

/-- The number of opening brackets of a line that is a directive; zero for any other line. -/
def bracketWeight (text : String) : Nat :=
  match Directive.ofLine? (strippedEnd text) with
  | some _ => text.toList.count '['
  | none => 0

/-- The weight of a line, if includes may stand inside each other up to the given depth. -/
def Line.weight (limit : Nat) (line : Line) : Nat × Nat :=
  (limit - line.origin.depth, bracketWeight line.text)

/-- The order of weights. -/
def WeightLt (limit : Nat) (a b : Line) : Prop :=
  Prod.Lex (· < ·) (· < ·) (a.weight limit) (b.weight limit)

/-- There is no infinite descent among weights. -/
theorem WeightLt.wellFounded (limit : Nat) : WellFounded (WeightLt limit) :=
  InvImage.wf (Line.weight limit) (Prod.lex (Nat.lt_wfRel) (Nat.lt_wfRel)).wf

/-- Trimming the end of a text takes no opening bracket away. -/
theorem count_strippedEnd (text : String) :
    (strippedEnd text).toList.count '[' = text.toList.count '[' := by
  have key : ∀ s : List Char, (s.dropWhile isBlank).count '[' = s.count '[' := by
    intro s
    induction s with
    | nil => rfl
    | cons c rest ih =>
      by_cases hc : isBlank c = true
      · have hne : c ≠ '[' := fun h => by rw [h] at hc; exact absurd hc (by decide)
        rw [List.dropWhile_cons_of_pos hc, ih, List.count_cons_of_ne hne]
      · rw [List.dropWhile_cons_of_neg hc]
  simp [strippedEnd, trimEnd, List.count_reverse, key]

theorem bracketWeight_le (text : String) : bracketWeight text ≤ text.toList.count '[' := by
  unfold bracketWeight
  split <;> omega

/-- A directive weighs as much as it has opening brackets. -/
theorem bracketWeight_of_directive {text : String} {d : Directive}
    (h : Directive.ofLine? (strippedEnd text) = some d) :
    bracketWeight text = text.toList.count '[' := by
  simp [bracketWeight, h]

/-- A line that weighs nothing is no directive. -/
theorem not_directive_of_bracketWeight {text : String} (h : bracketWeight text = 0) :
    Directive.ofLine? (strippedEnd text) = none := by
  cases hd : Directive.ofLine? (strippedEnd text) with
  | none => rfl
  | some d =>
    have hpos := (brackets_of_directive hd).1
    rw [count_strippedEnd, ← bracketWeight_of_directive hd, h] at hpos
    cases hpos

/-- A text with something after it begins with the same character. -/
theorem head?_append {s t : String} {c : Char} (h : s.toList.head? = some c) :
    (s ++ t).toList.head? = some c := by
  rw [String.toList_append, List.head?_append, h]
  rfl

/-- A line that begins with another letter than those of the keywords weighs nothing. -/
theorem bracketWeight_eq_zero {text : String} {c : Char} (hc : text.toList.head? = some c)
    (hb : isBlank c = false) (hi : c ≠ 'i') (he : c ≠ 'e') : bracketWeight text = 0 := by
  obtain ⟨rest, htext⟩ := List.head?_eq_some_iff.1 hc
  unfold bracketWeight
  split
  · rename_i d hd
    obtain ⟨keyword, tail, hline, -, hhead, -⟩ := rest_of_directive hd
    exfalso
    have hfirst : (strippedEnd text).toList.head? = some c := by
      have key : ∀ s : List Char, (s ++ [c]).dropWhile isBlank = s.dropWhile isBlank ++ [c] := by
        intro s
        induction s with
        | nil => simp [hb]
        | cons a s ih => by_cases ha : isBlank a = true <;> simp [ha, ih]
      simp [strippedEnd, trimEnd, htext, key]
    rw [hline] at hfirst
    cases keyword with
    | nil => simp at hhead
    | cons k keyword =>
      simp only [List.cons_append, List.head?_cons, Option.some.injEq] at hfirst hhead
      rcases hhead with h | h
      · exact hi (hfirst ▸ h)
      · exact he (hfirst ▸ h)
  · rfl

/-! ## The lines of an include -/

/-- The include after substitution is that of the directive, and stands where the directive
stands. -/
theorem eq_of_request {a : AttributeSet} {d : Include} {origin : Origin} {request : IncludeRequest}
    (h : IncludeRequest.ofDirective a d origin = .ok request) :
    request.origin = origin ∧ request.directive = d := by
  unfold IncludeRequest.ofDirective at h
  dsimp only at h
  have key : ∀ target attrList : String,
      (if target = "" then Except.error IncludeProblem.emptyTarget
        else Except.ok (IncludeRequest.mk target (AttrList.ofText attrList) origin d a.values)) =
        .ok request → request.origin = origin ∧ request.directive = d := by
    intro target attrList h
    split at h
    · cases h
    · cases h
      exact ⟨rfl, rfl⟩
  split at h
  · split at h
    · cases h
    · exact key _ _ h
  · exact key _ _ h

/-- The include after substitution stands where the directive stands. -/
theorem origin_of_request {a : AttributeSet} {d : Include} {origin : Origin}
    {request : IncludeRequest} (h : IncludeRequest.ofDirective a d origin = .ok request) :
    request.origin = origin := (eq_of_request h).1

/-- An entry around the lines of an include weighs nothing. -/
theorem bracketWeight_offsetEntry {a : AttributeSet} {offset text : String}
    (h : Resolution.OffsetEntry a offset text) : bracketWeight text = 0 := by
  have hhead : text.toList.head? = some ':' := by
    cases h with
    | sets | restores => exact head?_append (by decide)
    | unsets => decide
  exact bracketWeight_eq_zero hhead (by decide) (by decide) (by decide)

/-- The line that a link leaves weighs nothing. -/
theorem bracketWeight_linkLine (request : IncludeRequest) :
    bracketWeight (Resolution.linkLine request).text = 0 :=
  bracketWeight_eq_zero (c := 'l') (head?_append (head?_append (by decide)))
    (by decide) (by decide) (by decide)

/-- The line that an unresolved include leaves weighs nothing. -/
theorem bracketWeight_placeholder (request : IncludeRequest) :
    bracketWeight (Resolution.placeholder request).text = 0 :=
  bracketWeight_eq_zero (c := 'U') (head?_append (head?_append (head?_append (by decide))))
    (by decide) (by decide) (by decide)

/-- A line of a file that an include brings in weighs less than the include. -/
theorem weightLt_child {limit : Nat} {line : Line} (h : line.origin.depth + 1 ≤ limit)
    (text file : String) (n : Int) :
    WeightLt limit ⟨text, line.origin.child file n⟩ line := by
  apply Prod.Lex.left
  simp only [Origin.depth_child]
  omega

/-- A line at the origin of a directive that is none weighs less than the directive. -/
theorem weightLt_plain {limit : Nat} {line l : Line} (ho : l.origin = line.origin)
    (hl : bracketWeight l.text = 0) (hline : 0 < bracketWeight line.text) :
    WeightLt limit l line := by
  unfold WeightLt Line.weight
  rw [ho, hl]
  exact Prod.Lex.right _ hline

/-- The entries around the lines of an include weigh less than the include if the lines do. -/
theorem weightLt_offsetLines {limit : Nat} {a : AttributeSet} {request : IncludeRequest}
    {lines : List Line} {line : Line} (ho : request.origin = line.origin)
    (hline : 0 < bracketWeight line.text) (hlines : ∀ l ∈ lines, WeightLt limit l line) :
    ∀ l ∈ Resolution.offsetLines a request lines, WeightLt limit l line := by
  intro l hl
  rcases Resolution.mem_offsetLines hl with hl | ⟨horigin, _, -, hentry⟩
  · exact hlines l hl
  · exact weightLt_plain (horigin.trans ho) (bracketWeight_offsetEntry hentry) hline

/-- Whatever is found for an include, its lines weigh less than the directive, provided that more
lines lie below it only if the depth allows it. -/
theorem weightLt_of_finding {limit : Nat} {s : Setting} {directories : Table String}
    {a : AttributeSet} {request : IncludeRequest} {finding : Finding} {line : Line}
    (ho : request.origin = line.origin) (hline : 0 < bracketWeight line.text)
    (hdepth : line.origin.depth + 1 ≤ limit ∨ ∃ p, finding = .problem p) :
    ∀ l ∈ (Resolution.ofFinding s directories a request finding).lines, WeightLt limit l line := by
  cases finding with
  | supplied processor texts =>
    have hd : line.origin.depth + 1 ≤ limit := by
      rcases hdepth with h | ⟨p, h⟩
      · exact h
      · cases h
    refine weightLt_offsetLines ho hline fun l hl => ?_
    obtain ⟨⟨text, i⟩, -, rfl⟩ := List.mem_map.1 hl
    exact ho ▸ weightLt_child (ho ▸ hd) _ _ _
  | link =>
    intro l hl
    obtain rfl := List.mem_singleton.1 hl
    exact weightLt_plain ho (bracketWeight_linkLine request) hline
  | file path selection =>
    have hd : line.origin.depth + 1 ≤ limit := by
      rcases hdepth with h | ⟨p, h⟩
      · exact h
      · cases h
    refine weightLt_offsetLines ho hline fun l hl => ?_
    obtain ⟨⟨n, text⟩, -, rfl⟩ := List.mem_map.1 hl
    exact ho ▸ weightLt_child (ho ▸ hd) _ _ _
  | problem p =>
    intro l hl
    simp only [Resolution.ofFinding] at hl
    split at hl
    · obtain rfl := List.mem_singleton.1 hl
      exact weightLt_plain ho (bracketWeight_placeholder request) hline
    · cases hl

/-- An include whose depth is not allowed is a problem. -/
theorem depth_of_search {s : Setting} {base : String} {request : IncludeRequest}
    {finding : Finding} (h : (Search.ofRequest s base request).finding = .ok finding) :
    request.origin.depth + 1 ≤ s.options.maxIncludeDepth.meaning ∨ ∃ p, finding = .problem p := by
  unfold Search.ofRequest at h
  split at h
  · cases h
    exact Or.inr ⟨_, rfl⟩
  · exact Or.inl (by omega)

/-- The lines that take the place of an include weigh less than the directive. -/
theorem weightLt_of_resolution {s : Setting} {directories : Table String} {a : AttributeSet}
    {d : Include} {line : Line} {r : Resolution}
    (h : Resolution.ofDirective s directories a d line.origin = .ok r)
    (hline : 0 < bracketWeight line.text) :
    ∀ l ∈ r.lines, WeightLt s.options.maxIncludeDepth.meaning l line := by
  rcases Resolution.eq_of_ofDirective h with ⟨_, rfl⟩ | ⟨request, finding, hrequest, hfinding, rfl⟩
  · exact fun l hl => nomatch hl
  · have ho := origin_of_request hrequest
    exact weightLt_of_finding ho hline (ho ▸ depth_of_search hfinding)

/-! ## The order on lists of lines -/

/-- Whether the lines `a` come from the lines `b` by putting lighter lines in the place of the first
and dropping some of those that follow it. -/
def PendingLt (limit : Nat) (a b : List Line) : Prop :=
  ∃ first rest new tail, b = first :: rest ∧ tail <:+ rest ∧ a = new ++ tail ∧
    ∀ l ∈ new, WeightLt limit l first

/-- Dropping the first line and some of those that follow it goes down. -/
theorem PendingLt.of_suffix {limit : Nat} {line : Line} {rest tail : List Line}
    (h : tail <:+ rest) : PendingLt limit tail (line :: rest) :=
  ⟨line, rest, [], tail, rfl, h, rfl, by simp⟩

/-- Putting lighter lines in the place of the first goes down. -/
theorem PendingLt.of_lighter {limit : Nat} {line : Line} {new rest : List Line}
    (h : ∀ l ∈ new, WeightLt limit l line) : PendingLt limit (new ++ rest) (line :: rest) :=
  ⟨line, rest, new, rest, rfl, List.suffix_refl _, rfl, h⟩

/-- Whether there is no infinite descent from a list of lines, nor from what is left of it when some
of the first lines are dropped. -/
def PendingLt.Stops (limit : Nat) (lines : List Line) : Prop :=
  ∀ tail, tail <:+ lines → Acc (PendingLt limit) tail

/-- Descents from a list stop if those from the list and from its tail do. -/
theorem PendingLt.Stops.cons {limit : Nat} {line : Line} {lines : List Line}
    (hlines : Stops limit lines) (hline : Acc (PendingLt limit) (line :: lines)) :
    Stops limit (line :: lines) := by
  intro part hpart
  rcases List.suffix_cons_iff.1 hpart with rfl | hpart
  · exact hline
  · exact hlines part hpart

/-- Descents from a list stop if those from its tail do, whatever its first line is. -/
theorem PendingLt.acc_cons (limit : Nat) (first : Line) :
    ∀ rest, Stops limit rest → Acc (PendingLt limit) (first :: rest) := by
  -- by induction on the weight of the first line: those that take its place are lighter
  induction (WeightLt.wellFounded limit).apply first with
  | intro first _ ih =>
    intro rest hrest
    refine Acc.intro _ fun a ha => ?_
    obtain ⟨first', rest', new, tail, hlist, htail, rfl, hnew⟩ := ha
    simp only [List.cons.injEq] at hlist
    obtain ⟨rfl, rfl⟩ := hlist
    have hbelow : ∀ new : List Line, (∀ l ∈ new, WeightLt limit l first) →
        Stops limit (new ++ tail) := by
      intro new
      induction new with
      | nil => exact fun _ part hpart => hrest part (hpart.trans htail)
      | cons l new ihnew =>
        intro hl
        have hstops := ihnew fun l' hl' => hl l' (by simp [hl'])
        exact hstops.cons (ih l (hl l (by simp)) _ hstops)
    exact hbelow new hnew _ (List.suffix_refl _)

/-- There is no infinite descent among lists of lines. -/
theorem PendingLt.wellFounded (limit : Nat) : WellFounded (PendingLt limit) := by
  have hstops : ∀ lines, Stops limit lines := by
    intro lines
    induction lines with
    | nil =>
      intro part hpart
      rw [List.suffix_nil.1 hpart]
      refine Acc.intro _ fun a ha => ?_
      obtain ⟨_, _, _, _, hlist, -⟩ := ha
      cases hlist
    | cons line lines ih => exact ih.cons (acc_cons limit line lines ih)
  exact ⟨fun lines => hstops lines _ (List.suffix_refl _)⟩

/-! ## Steps go down -/

/-- The text of a conditional weighs less than its line. -/
theorem weightLt_inline {limit : Nat} {line : Line} {d : Opening} {text : String}
    (hline : Directive.ofLine? (strippedEnd line.text) = some (.opening d))
    (htext : d.inlineText? = some text) : WeightLt limit ⟨text, line.origin⟩ line := by
  obtain ⟨-, hopen⟩ := brackets_of_directive hline
  obtain ⟨-, hcount⟩ := hopen d rfl text htext
  -- the origin is the same, so the brackets decide
  apply Prod.Lex.right
  show bracketWeight text < bracketWeight line.text
  rw [bracketWeight_of_directive hline]
  rw [count_strippedEnd] at hcount
  have := bracketWeight_le text
  omega

/-- A marker of a block has one opening bracket, if there is none in its target. -/
theorem count_marker {keyword target : String} (hkeyword : '[' ∉ keyword.toList)
    (htarget : '[' ∉ target.toList) :
    (s!"{keyword}::{target}[]").toList.count '[' = 1 := by
  simp [toString, List.count_append, List.count_eq_zero_of_not_mem hkeyword,
    List.count_eq_zero_of_not_mem htarget]

/-- The keyword of a conditional has no bracket. -/
theorem Opening.bracket_not_mem_keyword (d : Opening) : '[' ∉ d.keyword.toList := by
  cases d with
  | presence d =>
    unfold Opening.keyword
    dsimp only
    split <;> decide
  | comparison d => exact (by decide : '[' ∉ "ifeval".toList)

/-- An include directive has an opening bracket. -/
theorem count_of_isInclude {text : String} (h : isInclude text = true) :
    0 < text.toList.count '[' := by
  unfold isInclude at h
  split at h
  · rename_i hd
    exact (brackets_of_directive hd).1
  · cases h

/-- The lines of the block form of a conditional around an include weigh less than its line. -/
theorem weightLt_blockForm {limit : Nat} {line : Line} {d : Opening} {text : String}
    (hline : Directive.ofLine? (strippedEnd line.text) = some (.opening d))
    (htext : d.inlineText? = some text) (hinclude : isInclude text = true) :
    ∀ l ∈ d.blockForm text line.origin, WeightLt limit l line := by
  obtain ⟨-, hopen⟩ := brackets_of_directive hline
  obtain ⟨htarget, hcount⟩ := hopen d rfl text htext
  rw [count_strippedEnd] at hcount
  -- the include between the new lines has a bracket, so each of these has fewer than the line
  have hpos := count_of_isInclude hinclude
  have marker : ∀ keyword : String, '[' ∉ keyword.toList →
      WeightLt limit ⟨s!"{keyword}::{d.target}[]", line.origin⟩ line := by
    intro keyword hkeyword
    apply Prod.Lex.right
    show bracketWeight _ < bracketWeight line.text
    rw [bracketWeight_of_directive hline]
    have hle := bracketWeight_le (s!"{keyword}::{d.target}[]")
    rw [count_marker hkeyword htarget] at hle
    exact Nat.lt_of_le_of_lt hle (by omega)
  intro l hl
  simp only [Opening.blockForm, List.mem_cons, List.not_mem_nil, or_false] at hl
  rcases hl with rfl | rfl | rfl
  · exact marker d.keyword d.bracket_not_mem_keyword
  · exact weightLt_inline hline htext
  · exact marker "endif" (by decide)

/-- A step puts lighter lines in the place of a line, or drops it with some of those after it. -/
theorem State.Rule.pendingLt {setting : Setting} {s t : State} {line : Line} {rest : List Line}
    (h : Rule setting s line rest t) :
    PendingLt setting.options.maxIncludeDepth.meaning t.pending (line :: rest) := by
  cases h with
  | plain | entry | closingDropped | closingKept | inlineFalse | blockTrue | inlineKept |
    blockKept => exact .of_suffix (List.suffix_refl _)
  | inclusion d lines c directive resolved =>
    unfold Context.resolve at resolved
    split at resolved
    · cases resolved
    · rename_i r hr
      cases resolved
      refine .of_lighter (weightLt_of_resolution hr ?_)
      rw [bracketWeight_of_directive directive, ← count_strippedEnd]
      exact (brackets_of_directive directive).1
  | inlineTrue d text c directive _ inline _ =>
    exact @PendingLt.of_lighter _ _ [_] _ (by simpa using weightLt_inline directive inline)
  | blockFalse d c =>
    unfold State.skip
    dsimp only
    split
    · exact .of_suffix (List.drop_suffix _ _)
    · exact .of_suffix List.nil_suffix
  | inlineRewritten d text directive _ inline included =>
    exact .of_lighter (weightLt_blockForm directive inline included)

/-- After a line, the lines still to be read are fewer or lighter. -/
theorem State.pendingLt_of_onLine {setting : Setting} {s t : State} {line : Line}
    {rest : List Line} (h : s.onLine setting line rest = .ok t) :
    PendingLt setting.options.maxIncludeDepth.meaning t.pending (line :: rest) :=
  (rule_of_onLine h).pendingLt

end Transclude
