import Transclude.Directive.Basic
import Transclude.Text.LowerCase
import Transclude.Text.Split
import Transclude.Text.Word

/-!
# Recognising directives

A line is a directive if it is a keyword, two colons, a target and a bracketed text up to the end of
the line. The target ends at the first opening bracket. A line that begins with a backslash is none,
so a directive is escaped by one.

## Main definitions

* `Directive.ofLine?`      : the directive that a line is.
* `AttributeEntry.ofLine?` : the attribute entry that a line is.

## Main statements

* `Directive.bracketed?_eq_some_iff`        : how a target and a bracketed text are told apart.
* `Directive.conditionalParts?_eq_some_iff` : so they are in a conditional.
* `Directive.ofLine?_eq_some_iff`           : a line is read by its keyword.
-/

namespace Transclude

open Transclude.Text

namespace Directive

/-- A target and a bracketed text that ends the line. The bracketed text holds no line feed. -/
def bracketed? (s : List Char) : Option (List Char × List Char) :=
  match cut (· == '[') s with
  | (_, none) => none
  | (target, some rest) =>
    if rest.getLast? = some ']' ∧ '\n' ∉ rest.dropLast then some (target, rest.dropLast)
    else none

/-- The bracketed text ends the line and holds no line feed, and the target before it holds no
opening bracket. -/
theorem bracketed?_eq_some_iff {s target text : List Char} :
    bracketed? s = some (target, text) ↔
      '[' ∉ target ∧ '\n' ∉ text ∧ s = target ++ '[' :: (text ++ [']']) := by
  unfold bracketed?
  constructor
  · intro h
    split at h
    · cases h
    · rename_i front rest hcut
      split at h
      · rename_i hends
        simp only [Option.some.injEq, Prod.mk.injEq] at h
        obtain ⟨rfl, rfl⟩ := h
        obtain ⟨c, hbracket, hfront, rfl⟩ := cut_eq_some_iff.1 hcut
        obtain ⟨inner, rfl⟩ := List.getLast?_eq_some_iff.1 hends.1
        rw [eq_of_beq hbracket, List.dropLast_concat]
        refine ⟨fun hmem => ?_, ?_, rfl⟩
        · have hnot := hfront '[' hmem
          cases hnot
        · have hbreak := hends.2
          rwa [List.dropLast_concat] at hbreak
      · cases h
  · rintro ⟨htarget, htext, rfl⟩
    have hfront : ∀ c ∈ target, (c == '[') = false :=
      fun c hc => beq_eq_false_iff_ne.2 fun heq => htarget (heq ▸ hc)
    rw [cut_eq_some_iff.2 ⟨'[', rfl, hfront, rfl⟩]
    dsimp only
    rw [List.dropLast_concat, List.getLast?_concat, if_pos ⟨rfl, htext⟩]

/-- Whether a text is a target of an include: not empty, and with no blank at either end. -/
def isIncludeTarget (target : List Char) : Bool :=
  match target.head?, target.getLast? with
  | some first, some last => !isBlank first && !isBlank last
  | _, _ => false

/-- The include directive with the given rest of the line after its colons. -/
def includeOf? (raw : String) (rest : List Char) : Option Directive :=
  match bracketed? rest with
  | some (target, attrList) =>
    if isIncludeTarget target then
      some (.include ⟨raw, String.ofList target, String.ofList attrList⟩)
    else none
  | none => none

/-- Whether a character joins the names of a target. -/
def isJoiner (c : Char) : Bool := c == ',' || c == '+'

/-- How the names of a target are combined: the first joiner in it decides. -/
def modeOf (target : List Char) : MatchMode :=
  match target.find? isJoiner with
  | some ',' => .any
  | some _ => .all
  | none => .single

/-- The names in a target in lower case, between the joiners of its mode. -/
def namesOf (mode : MatchMode) (target : List Char) : List String :=
  match mode with
  | .single => [String.ofList target]
  | .any => (fields (· == ',') target).map String.ofList
  | .all => (fields (· == '+') target).map String.ofList

/-- The target and the text of a conditional, with the given rest of the line after its colons. The
target holds no blanks; an empty text is none. -/
def conditionalParts? (rest : List Char) : Option (List Char × Option String) :=
  match bracketed? rest with
  | some (target, text) =>
    if target.any isBlank then none
    else some (target, if text.isEmpty then none else some (String.ofList text))
  | none => none

/-- The target is what stands before the bracketed text. -/
theorem conditionalParts?_eq_some_iff {rest target : List Char} {text : Option String} :
    conditionalParts? rest = some (target, text) ↔
      ∃ inner, bracketed? rest = some (target, inner) ∧ (∀ c ∈ target, isBlank c = false) ∧
        text = if inner.isEmpty then none else some (String.ofList inner) := by
  unfold conditionalParts?
  constructor
  · intro h
    split at h
    · rename_i target' inner hbracketed
      split at h
      · cases h
      · rename_i hsolid
        cases h
        refine ⟨inner, hbracketed, fun c hc => eq_false_of_ne_true fun hblank => hsolid ?_, rfl⟩
        exact List.any_eq_true.2 ⟨c, hc, hblank⟩
    · cases h
  · rintro ⟨inner, hbracketed, hsolid, rfl⟩
    have hnone : ¬ target.any isBlank = true := by
      rw [List.any_eq_true]
      rintro ⟨c, hc, hblank⟩
      rw [hsolid c hc] at hblank
      cases hblank
    rw [hbracketed]
    exact if_neg hnone

/-- The conditional on attributes with the given rest of the line after its colons. -/
def presenceOf? (raw : String) (negated : Bool) (rest : List Char) : Option Directive :=
  (conditionalParts? rest).map fun (target, text) =>
    let name := lower target
    let mode := modeOf target
    .opening (.presence ⟨raw, negated, String.ofList name, text, namesOf mode name, mode⟩)

/-- The conditional on an expression with the given rest of the line after its colons. -/
def comparisonOf? (raw : String) (rest : List Char) : Option Directive :=
  (conditionalParts? rest).map fun (target, text) =>
    .opening (.comparison ⟨raw, String.ofList (lower target), text⟩)

/-- The end of a conditional with the given rest of the line after its colons. -/
def closingOf? (raw : String) (rest : List Char) : Option Directive :=
  (conditionalParts? rest).map fun (target, text) =>
    .closing ⟨raw, String.ofList (lower target), text⟩

/-- The directive that a line is. The names in it are in lower case, as names of attributes are
compared without regard to case. -/
def ofLine? (line : String) : Option Directive :=
  let s := line.toList
  match after? "include::".toList s with
  | some rest => includeOf? line rest
  | none =>
    match after? "ifdef::".toList s with
    | some rest => presenceOf? line false rest
    | none =>
      match after? "ifndef::".toList s with
      | some rest => presenceOf? line true rest
      | none =>
        match after? "ifeval::".toList s with
        | some rest => comparisonOf? line rest
        | none =>
          match after? "endif::".toList s with
          | some rest => closingOf? line rest
          | none => none

/-- A line is read by its keyword. -/
theorem ofLine?_eq_some_iff {line : String} {d : Directive} :
    ofLine? line = some d ↔
      (∃ rest, line.toList = "include::".toList ++ rest ∧ includeOf? line rest = some d) ∨
      (∃ negated rest, line.toList = (if negated then "ifndef::" else "ifdef::").toList ++ rest ∧
        presenceOf? line negated rest = some d) ∨
      (∃ rest, line.toList = "ifeval::".toList ++ rest ∧ comparisonOf? line rest = some d) ∨
      (∃ rest, line.toList = "endif::".toList ++ rest ∧ closingOf? line rest = some d) := by
  unfold ofLine?
  dsimp only
  constructor
  · intro h
    split at h
    · rename_i rest hkeyword
      exact .inl ⟨rest, after?_eq_some_iff.1 hkeyword, h⟩
    split at h
    · rename_i rest hkeyword
      exact .inr (.inl ⟨false, rest, after?_eq_some_iff.1 hkeyword, h⟩)
    split at h
    · rename_i rest hkeyword
      exact .inr (.inl ⟨true, rest, after?_eq_some_iff.1 hkeyword, h⟩)
    split at h
    · rename_i rest hkeyword
      exact .inr (.inr (.inl ⟨rest, after?_eq_some_iff.1 hkeyword, h⟩))
    split at h
    · rename_i rest hkeyword
      exact .inr (.inr (.inr ⟨rest, after?_eq_some_iff.1 hkeyword, h⟩))
    · cases h
  · -- no keyword is the beginning of another, so that the earlier ones are passed over
    rintro (⟨rest, hline, h⟩ | ⟨negated, rest, hline, h⟩ | ⟨rest, hline, h⟩ | ⟨rest, hline, h⟩)
    · rw [hline]
      exact h
    · cases negated <;> rw [hline] <;> exact h
    · rw [hline]
      exact h
    · rw [hline]
      exact h

end Directive

namespace AttributeEntry

/-- What may follow the name of an entry: nothing, or a blank and a value. One line feed at the end
does not count, another one is not allowed. -/
def valueOf? (rest : List Char) : Option (List Char) :=
  let body := if rest.getLast? = some '\n' then rest.dropLast else rest
  match body with
  | [] => some []
  | c :: value =>
    if (c == ' ' || c == '\t') && !body.contains '\n' then some (trim value) else none

/-- Whether a text may stand between the colons of an entry: it starts with a word character,
perhaps after an exclamation mark. -/
def isName (name : List Char) : Bool :=
  match name with
  | '!' :: c :: _ => isWord c
  | c :: _ => isWord c
  | [] => false

/-- The attribute name in a text, in lower case. -/
def nameOf (s : List Char) : String := String.ofList (lower (trim s))

/-- The attribute entry that a line is. An exclamation mark before or after the name unsets the
attribute, whatever the value. -/
def ofLine? (line : String) : Option AttributeEntry :=
  match line.toList with
  | ':' :: s =>
    match cut (· == ':') s with
    | (name, some rest) =>
      if isName name then
        (valueOf? rest).map fun value =>
          match name with
          | '!' :: bare => ⟨line, nameOf bare, none⟩
          | _ =>
            if name.getLast? = some '!' then ⟨line, nameOf name.dropLast, none⟩
            else ⟨line, nameOf name, some (String.ofList value)⟩
      else none
    | (_, none) => none
  | _ => none

end AttributeEntry

end Transclude
