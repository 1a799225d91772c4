import Transclude.Directive.Parser

/-!
# The grammar of directives

A line is a directive in one way at most: it is a keyword, two colons, a target and a bracketed text
that ends the line. The target ends at the first opening bracket, whatever brackets and colons come
after it. The names of a conditional on attributes stand between the occurrences of one character,
the first comma or plus sign of the target. Every other line is plain text, and so is a directive
with a backslash before it.

## Main definitions

* `Directive.Bracketed` : a line with a keyword, a target and a bracketed text.
* `Directive.Combines`  : the names in a target, and how they are combined.
* `Directive.Written`   : the directive that a line is, by the grammar.

## Main statements

* `Directive.combines_iff`  : a target has its names in one way.
* `Directive.written_iff`   : a line is read as a directive just if the grammar says so.
-/

namespace Transclude

open Transclude.Text

/-- The character between the names of a target, if there is more than one. -/
def MatchMode.joiner? : MatchMode → Option Char
  | .single => none
  | .any => some ','
  | .all => some '+'

namespace Directive

/-! ## The names of a target -/

/-- Whether a text is the given names with `c` between neighbours, and `c` is in none of them. -/
structure Separated (c : Char) (target : List Char) (names : List String) : Prop where
  ne_nil : names ≠ []
  free : ∀ name ∈ names, c ∉ name.toList
  joined : target = List.intercalate [c] (names.map String.toList)

/-- The names in a target, and how they are combined: the first comma or plus sign says it, and all
occurrences of that one character separate names. -/
inductive Combines (target : List Char) : MatchMode → List String → Prop
  | single (alone : ∀ x ∈ target, x ≠ ',' ∧ x ≠ '+') :
    Combines target .single [String.ofList target]
  | joined {mode : MatchMode} {c : Char} {before after : List Char} {names : List String}
    (joiner : mode.joiner? = some c) (first : target = before ++ c :: after)
    (earlier : ∀ x ∈ before, x ≠ ',' ∧ x ≠ '+') (separated : Separated c target names) :
    Combines target mode names

theorem isJoiner_iff {c : Char} : isJoiner c = true ↔ c = ',' ∨ c = '+' := by
  simp [isJoiner]

theorem not_isJoiner_iff {c : Char} : isJoiner c = false ↔ c ≠ ',' ∧ c ≠ '+' := by
  simp [isJoiner]

/-- The fields of a text are names that it separates, and the only ones. -/
theorem separated_iff {c : Char} {target : List Char} {names : List String} :
    Separated c target names ↔ names = (fields (· == c) target).map String.ofList := by
  have hc : (c == c) = true := beq_self_eq_true c
  constructor
  · rintro ⟨hne, hfree, rfl⟩
    have hpieces : ∀ piece ∈ names.map String.toList, ∀ x ∈ piece, (x == c) = false := by
      intro piece hpiece x hx
      obtain ⟨name, hname, rfl⟩ := List.mem_map.1 hpiece
      exact beq_eq_false_iff_ne.2 fun heq => hfree name hname (heq ▸ hx)
    have hsome : names.map String.toList ≠ [] := fun hnil => hne (List.map_eq_nil_iff.1 hnil)
    have hfields : fields (· == c) (List.intercalate [c] (names.map String.toList)) =
        names.map String.toList :=
      @fields_intercalate (· == c) c hc _ hsome hpieces
    rw [hfields]
    simp
  · rintro rfl
    refine ⟨?_, ?_, ?_⟩
    · simpa using fields_ne_nil _ target
    · intro name hname hmem
      obtain ⟨piece, hpiece, rfl⟩ := List.mem_map.1 hname
      rw [String.toList_ofList] at hmem
      have hnot := sep_eq_false_of_mem_fields hpiece c hmem
      exact Bool.false_ne_true (hnot.symm.trans hc)
    · have htexts : ((fields (· == c) target).map String.ofList).map String.toList =
          fields (· == c) target := by simp
      rw [htexts, intercalate_fields fun x hx => eq_of_beq hx]

/-- The mode of a target with a joiner is that of the first one. -/
theorem modeOf_of_first {mode : MatchMode} {c : Char} {before : List Char}
    (hjoiner : mode.joiner? = some c) (hearlier : ∀ x ∈ before, isJoiner x = false)
    (after : List Char) :
    modeOf (before ++ c :: after) = mode := by
  have hc : isJoiner c = true := by
    cases mode <;> cases hjoiner <;> rfl
  have hfind : (before ++ c :: after).find? isJoiner = some c :=
    List.find?_eq_some_iff_append.2
      ⟨hc, before, after, rfl, fun x hx => by rw [hearlier x hx]; rfl⟩
  rw [modeOf, hfind]
  cases mode <;> cases hjoiner <;> rfl

/-- A target has its names in one way, and they are those that are read. -/
theorem combines_iff {target : List Char} {mode : MatchMode} {names : List String} :
    Combines target mode names ↔ mode = modeOf target ∧ names = namesOf mode target := by
  constructor
  · rintro (halone | ⟨hjoiner, rfl, hearlier, hseparated⟩)
    · have hfind : target.find? isJoiner = none :=
        List.find?_eq_none.2 fun x hx => ne_true_of_eq_false (not_isJoiner_iff.2 (halone x hx))
      rw [modeOf, hfind]
      exact ⟨rfl, rfl⟩
    · have hnone : ∀ x ∈ _, isJoiner x = false := fun x hx => not_isJoiner_iff.2 (hearlier x hx)
      refine ⟨(modeOf_of_first hjoiner hnone _).symm, ?_⟩
      rw [separated_iff.1 hseparated]
      cases mode <;> cases hjoiner <;> rfl
  · rintro ⟨rfl, rfl⟩
    cases hfind : target.find? isJoiner with
    | none =>
      have halone : ∀ x ∈ target, x ≠ ',' ∧ x ≠ '+' := fun x hx =>
        not_isJoiner_iff.1 (eq_false_of_ne_true (List.find?_eq_none.1 hfind x hx))
      rw [modeOf, hfind]
      exact .single halone
    | some c =>
      obtain ⟨hc, before, after, rfl, hbefore⟩ := List.find?_eq_some_iff_append.1 hfind
      have hearlier : ∀ x ∈ before, isJoiner x = false := fun x hx => by simpa using hbefore x hx
      obtain ⟨mode, hjoiner⟩ : ∃ mode : MatchMode, mode.joiner? = some c := by
        rcases isJoiner_iff.1 hc with rfl | rfl
        · exact ⟨.any, rfl⟩
        · exact ⟨.all, rfl⟩
      rw [modeOf_of_first hjoiner hearlier after]
      refine .joined hjoiner rfl (fun x hx => not_isJoiner_iff.1 (hearlier x hx)) ?_
      refine separated_iff.2 ?_
      cases mode <;> cases hjoiner <;> rfl

/-- Lower-casing makes no joiner, and leaves joiners as they are. -/
theorem find?_lowerFrom (before s : List Char) :
    (lowerFrom before s).find? isJoiner = s.find? isJoiner := by
  induction s generalizing before with
  | nil => rfl
  | cons c rest ih =>
    by_cases hc : isJoiner c = true
    · have hlower : lowerFrom before (c :: rest) = c :: lowerFrom (c :: before) rest := by
        rcases isJoiner_iff.1 hc with rfl | rfl <;> rfl
      rw [hlower, List.find?_cons_of_pos hc, List.find?_cons_of_pos hc]
    · -- what stands for another character is that character, or lies beyond the joiners
      obtain ⟨front, hlower, hfront⟩ := exists_lowerFrom_cons before rest c
      have hnone : front.find? isJoiner = none := by
        refine List.find?_eq_none.2 fun x hx hjoiner => ?_
        rcases hfront x hx with rfl | hle
        · exact hc hjoiner
        · rcases isJoiner_iff.1 hjoiner with rfl | rfl <;> exact absurd hle (by decide)
      rw [hlower, List.find?_append, hnone, Option.none_or, ih, List.find?_cons_of_neg hc]

/-- The names of a target in lower case are combined as those of the target. -/
theorem modeOf_lower (target : List Char) : modeOf (lower target) = modeOf target := by
  rw [modeOf, lower, find?_lowerFrom, modeOf]

/-! ## The parts of a line -/

/-- Whether a line is a keyword, two colons, a target without an opening bracket, and a text in
brackets up to the end. -/
structure Bracketed (line keyword : String) (target text : List Char) : Prop where
  written : line.toList = keyword.toList ++ "::".toList ++ target ++ '[' :: (text ++ [']'])
  bracket : '[' ∉ target

/-- The text in the brackets of a conditional; an empty one is none. -/
def inner? (text : List Char) : Option String :=
  if text.isEmpty then none else some (String.ofList text)

/-- The directive that a line is, by the grammar. -/
inductive Written (line : String) : Directive → Prop
  | include {target attrList : List Char} (written : Bracketed line "include" target attrList)
    (ne_nil : target ≠ []) (first : ∀ c ∈ target.head?, isBlank c = false)
    (last : ∀ c ∈ target.getLast?, isBlank c = false) :
    Written line (.include ⟨line, String.ofList target, String.ofList attrList⟩)
  | presence {negated : Bool} {target text : List Char} {mode : MatchMode} {names : List String}
    (written : Bracketed line (if negated then "ifndef" else "ifdef") target text)
    (solid : ∀ c ∈ target, isBlank c = false) (combines : Combines (lower target) mode names) :
    Written line (.opening (.presence
      ⟨line, negated, String.ofList (lower target), inner? text, names, mode⟩))
  | comparison {target text : List Char} (written : Bracketed line "ifeval" target text)
    (solid : ∀ c ∈ target, isBlank c = false) :
    Written line (.opening (.comparison ⟨line, String.ofList (lower target), inner? text⟩))
  | closing {target text : List Char} (written : Bracketed line "endif" target text)
    (solid : ∀ c ∈ target, isBlank c = false) :
    Written line (.closing ⟨line, String.ofList (lower target), inner? text⟩)

/-- A target and a bracketed text after a keyword are read as such. -/
theorem Bracketed.of_rest {line keyword : String} {rest target text : List Char}
    (hline : line.toList = keyword.toList ++ "::".toList ++ rest)
    (h : bracketed? rest = some (target, text)) : Bracketed line keyword target text := by
  obtain ⟨hbracket, -, rfl⟩ := bracketed?_eq_some_iff.1 h
  exact ⟨by rw [hline, List.append_assoc _ target], hbracket⟩

section Parts

variable {line keyword : String} {target text : List Char}
  (h : Bracketed line keyword target text) (hbreak : '\n' ∉ line.toList)
include h hbreak

theorem Bracketed.exists_rest : ∃ rest, line.toList = keyword.toList ++ "::".toList ++ rest ∧
    bracketed? rest = some (target, text) := by
  refine ⟨target ++ '[' :: (text ++ [']']), by rw [h.written, List.append_assoc _ target], ?_⟩
  refine bracketed?_eq_some_iff.2 ⟨h.bracket, fun hmem => hbreak ?_, rfl⟩
  rw [h.written]
  simp [hmem]

theorem Bracketed.exists_parts (hsolid : ∀ c ∈ target, isBlank c = false) :
    ∃ rest, line.toList = keyword.toList ++ "::".toList ++ rest ∧
      conditionalParts? rest = some (target, inner? text) := by
  obtain ⟨rest, hline, hbracketed⟩ := h.exists_rest hbreak
  exact ⟨rest, hline, conditionalParts?_eq_some_iff.2 ⟨text, hbracketed, hsolid, rfl⟩⟩

end Parts

theorem isIncludeTarget_iff {target : List Char} : isIncludeTarget target = true ↔
    target ≠ [] ∧ (∀ c ∈ target.head?, isBlank c = false) ∧
      ∀ c ∈ target.getLast?, isBlank c = false := by
  cases target with
  | nil => simp [isIncludeTarget]
  | cons c rest =>
    rw [isIncludeTarget, List.head?_cons, List.getLast?_eq_some_getLast (List.cons_ne_nil c rest)]
    simp

/-! ## Lines -/

/-- What is read as a directive is one by the grammar. -/
theorem written_of_ofLine? {line : String} {d : Directive} (h : ofLine? line = some d) :
    Written line d := by
  rcases ofLine?_eq_some_iff.1 h with
    ⟨rest, hline, hd⟩ | ⟨negated, rest, hline, hd⟩ | ⟨rest, hline, hd⟩ | ⟨rest, hline, hd⟩
  · unfold includeOf? at hd
    split at hd
    · rename_i target attrList hbracketed
      split at hd
      · rename_i htarget
        cases hd
        obtain ⟨hne, hfirst, hlast⟩ := isIncludeTarget_iff.1 htarget
        exact .include (.of_rest hline hbracketed) hne hfirst hlast
      · cases hd
    · cases hd
  · obtain ⟨⟨target, text⟩, hparts, rfl⟩ := Option.map_eq_some_iff.1 hd
    obtain ⟨inner, hbracketed, hsolid, rfl⟩ := conditionalParts?_eq_some_iff.1 hparts
    have hkeyword : line.toList =
        (if negated then "ifndef" else "ifdef").toList ++ "::".toList ++ rest := by
      cases negated <;> exact hline
    dsimp only
    rw [← modeOf_lower]
    exact .presence (.of_rest hkeyword hbracketed) hsolid (combines_iff.2 ⟨rfl, rfl⟩)
  · obtain ⟨⟨target, text⟩, hparts, rfl⟩ := Option.map_eq_some_iff.1 hd
    obtain ⟨inner, hbracketed, hsolid, rfl⟩ := conditionalParts?_eq_some_iff.1 hparts
    exact .comparison (.of_rest hline hbracketed) hsolid
  · obtain ⟨⟨target, text⟩, hparts, rfl⟩ := Option.map_eq_some_iff.1 hd
    obtain ⟨inner, hbracketed, hsolid, rfl⟩ := conditionalParts?_eq_some_iff.1 hparts
    exact .closing (.of_rest hline hbracketed) hsolid

/-- A line without line feeds that is a directive by the grammar is read as that directive. -/
theorem ofLine?_of_written {line : String} {d : Directive} (h : Written line d)
    (hbreak : '\n' ∉ line.toList) : ofLine? line = some d := by
  refine ofLine?_eq_some_iff.2 ?_
  cases h with
  | «include» hwritten hne hfirst hlast =>
    obtain ⟨rest, hline, hbracketed⟩ := hwritten.exists_rest hbreak
    refine .inl ⟨rest, hline, ?_⟩
    rw [includeOf?, hbracketed]
    exact if_pos (isIncludeTarget_iff.2 ⟨hne, hfirst, hlast⟩)
  | presence hwritten hsolid hcombines =>
    rename_i negated target text mode names
    obtain ⟨rest, hline, hparts⟩ := hwritten.exists_parts hbreak hsolid
    obtain ⟨rfl, rfl⟩ := combines_iff.1 hcombines
    refine .inr (.inl ⟨negated, rest, by cases negated <;> exact hline, ?_⟩)
    rw [presenceOf?, hparts, modeOf_lower]
    rfl
  | comparison hwritten hsolid =>
    obtain ⟨rest, hline, hparts⟩ := hwritten.exists_parts hbreak hsolid
    refine .inr (.inr (.inl ⟨rest, hline, ?_⟩))
    rw [comparisonOf?, hparts]
    rfl
  | closing hwritten hsolid =>
    obtain ⟨rest, hline, hparts⟩ := hwritten.exists_parts hbreak hsolid
    refine .inr (.inr (.inr ⟨rest, hline, ?_⟩))
    rw [closingOf?, hparts]
    rfl

/-- A directive begins with the first letter of a keyword. -/
theorem Written.head?_eq {line : String} {d : Directive} (h : Written line d) :
    line.toList.head? = some 'i' ∨ line.toList.head? = some 'e' := by
  cases h with
  | «include» hwritten | comparison hwritten =>
    rw [hwritten.written]
    exact .inl rfl
  | presence hwritten =>
    rename_i negated _ _ _ _ _ _
    rw [hwritten.written]
    cases negated <;> exact .inl rfl
  | closing hwritten =>
    rw [hwritten.written]
    exact .inr rfl

/-- A line is read as a directive just if it is that directive by the grammar. A line that is none
by the grammar, such as one with a backslash before it, is not read as one. -/
theorem written_iff {line : String} (hbreak : '\n' ∉ line.toList) :
    (∀ d, ofLine? line = some d ↔ Written line d) ∧
      (ofLine? line = none ↔ ∀ d, ¬ Written line d) ∧
      (line.toList.head? = some '\\' → ofLine? line = none) := by
  have hreads : ∀ d, ofLine? line = some d ↔ Written line d := fun d =>
    ⟨written_of_ofLine?, fun h => ofLine?_of_written h hbreak⟩
  have hnone : ofLine? line = none ↔ ∀ d, ¬ Written line d := by
    rw [Option.eq_none_iff_forall_ne_some]
    exact forall_congr' fun d => not_congr (hreads d)
  refine ⟨hreads, hnone, fun hhead => hnone.2 fun d hd => ?_⟩
  rcases hd.head?_eq with hletter | hletter
  · rw [hhead] at hletter
    exact absurd hletter (by decide)
  · rw [hhead] at hletter
    exact absurd hletter (by decide)

/-- The first joiner of a target separates its names, the other one does not, and brackets after the
first one belong to the text. -/
theorem written_iff_joiners :
    let line := "ifdef::A+b,C+d[x[1]]"
    '\n' ∉ line.toList ∧
      ofLine? line = some (.opening (.presence
        ⟨line, false, "a+b,c+d", some "x[1]", ["a", "b,c", "d"], .all⟩)) ∧
      ofLine? "\\ifdef::A+b,C+d[x[1]]" = none := by
  intro line
  have hbreak : '\n' ∉ line.toList := by decide
  refine ⟨hbreak, ((written_iff hbreak).1 _).2 ?_, (written_iff (by decide)).2.2 (by decide)⟩
  have hwritten : Bracketed line (if false then "ifndef" else "ifdef") "A+b,C+d".toList
      "x[1]".toList := ⟨by decide, by decide⟩
  have hfirst : lower "A+b,C+d".toList = ['a'] ++ '+' :: "b,c+d".toList := by decide
  have hcombines : Combines (lower "A+b,C+d".toList) .all ["a", "b,c", "d"] :=
    .joined rfl hfirst (by simp) ⟨by decide, by simp, by decide⟩
  have hsolid : ∀ c ∈ "A+b,C+d".toList, isBlank c = false := by
    simp
    decide
  exact .presence hwritten hsolid hcombines

end Directive

end Transclude
