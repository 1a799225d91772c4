import Transclude.Attribute.Set

/-!
# Substitution in one pass

A text has one cut into attribute references and the stretches of other characters between them: a
reference is taken where it starts first, and reading goes on after it. Substitution puts one text
in the place of each part, and reads none of these texts again.

## Main definitions

* `Piece.StartsReference` : whether a text starts with a reference, escaped or not.
* `TextPart.PlainBefore`  : a whole stretch of plain characters.
* `TextPart.Cut`          : the cut of a text.
* `AttributeSet.shown`    : what a part becomes.

## Main statements

* `TextPart.exists_cut`, `TextPart.Cut.unique` : a text has one cut.
* `AttributeSet.substitute_eq_cut`             : substitution works on the parts of the cut.
-/

namespace Transclude

open Transclude.Text

/-! ## References at the start of a text -/

namespace Piece

/-- Whether a text may stand between the braces of a reference: a word character, then word
characters and hyphens. -/
def IsName (name : List Char) : Prop :=
  ∃ first more, name = first :: more ∧ isWord first = true ∧
    ∀ c ∈ more, isWord c = true ∨ c = '-'

/-- Whether a text starts with a reference, escaped or not. -/
def StartsReference (s : List Char) : Prop :=
  ∃ name rest, IsName name ∧ (s = braced name ++ rest ∨ s = '\\' :: braced name ++ rest)

theorem isNameChar_iff {c : Char} : isNameChar c = true ↔ isWord c = true ∨ c = '-' := by
  simp [isNameChar]

/-- A name and a brace are read off a text that starts with them, and off no other. -/
theorem nameBeforeBrace?_eq_some_iff {s name : List Char} :
    nameBeforeBrace? s = some name ↔ IsName name ∧ ∃ rest, s = name ++ '}' :: rest := by
  constructor
  · intro h
    unfold nameBeforeBrace? at h
    split at h
    · cases h
    · rename_i first rest
      split at h
      · rename_i hfirst
        dsimp only at h
        split at h
        · rename_i after hafter
          cases h
          refine ⟨⟨first, _, rfl, hfirst, fun c hc => ?_⟩, after, ?_⟩
          · exact isNameChar_iff.1 (List.all_eq_true.1 List.all_takeWhile c hc)
          · rw [List.cons_append, ← hafter, List.takeWhile_append_dropWhile]
        · cases h
      · cases h
  · rintro ⟨⟨first, more, rfl, hfirst, hmore⟩, rest, rfl⟩
    have hinside : ∀ c ∈ more, isNameChar c = true := fun c hc => isNameChar_iff.2 (hmore c hc)
    -- the brace is where the name ends
    have hbrace : isNameChar '}' = false := by decide
    have htake : (more ++ '}' :: rest).takeWhile isNameChar = more := by
      rw [List.takeWhile_append_of_pos hinside, List.takeWhile_cons, hbrace]
      simp
    have hdrop : (more ++ '}' :: rest).dropWhile isNameChar = '}' :: rest := by
      rw [List.dropWhile_append_of_pos hinside, List.dropWhile_cons, hbrace]
      simp
    rw [List.cons_append, nameBeforeBrace?, if_pos hfirst]
    dsimp only
    rw [htake, hdrop]
    rfl

theorem nameBeforeBrace?_name {name : List Char} (h : IsName name) (rest : List Char) :
    nameBeforeBrace? (name ++ ['}'] ++ rest) = some name :=
  nameBeforeBrace?_eq_some_iff.2 ⟨h, rest, by simp⟩

theorem atStart?_braced {name : List Char} (h : IsName name) (rest : List Char) :
    atStart? (braced name ++ rest) = some (.reference name) := by
  rw [braced, List.cons_append, List.cons_append, atStart?, nameBeforeBrace?_name h]
  rfl

theorem atStart?_escaped {name : List Char} (h : IsName name) (rest : List Char) :
    atStart? ('\\' :: braced name ++ rest) = some (.escaped name) := by
  rw [braced, List.cons_append, List.cons_append, List.cons_append, atStart?,
    nameBeforeBrace?_name h]
  rfl

theorem atStart?_eq_none {s : List Char} (h : ¬ StartsReference s) : atStart? s = none := by
  unfold atStart?
  split
  · refine Option.map_eq_none_iff.2 (Option.eq_none_iff_forall_ne_some.2 fun name hread => h ?_)
    obtain ⟨hname, rest, rfl⟩ := nameBeforeBrace?_eq_some_iff.1 hread
    exact ⟨name, rest, hname, .inr (by simp [braced])⟩
  · refine Option.map_eq_none_iff.2 (Option.eq_none_iff_forall_ne_some.2 fun name hread => h ?_)
    obtain ⟨hname, rest, rfl⟩ := nameBeforeBrace?_eq_some_iff.1 hread
    exact ⟨name, rest, hname, .inl (by simp [braced])⟩
  · rfl

/-! ## The pieces of a text -/

/-- Characters that are passed over leave no pieces. -/
theorem piecesFrom_eq (skip : Nat) (s : List Char) : piecesFrom skip s = ofText (s.drop skip) := by
  induction s generalizing skip with
  | nil => cases skip <;> rfl
  | cons c rest ih =>
    cases skip with
    | zero => rfl
    | succ skip =>
      rw [piecesFrom, ih]
      rfl

theorem ofText_of_reference {name : List Char} (h : IsName name) (rest : List Char) :
    ofText (braced name ++ rest) = .reference name :: ofText rest := by
  have hstart := atStart?_braced h rest
  rw [braced, List.cons_append, List.cons_append] at hstart ⊢
  have hdrop : (name ++ ['}'] ++ rest).drop ((reference name).width - 1) = rest :=
    List.drop_left' (by simp [width])
  rw [ofText, piecesFrom, hstart]
  dsimp only
  rw [piecesFrom_eq, hdrop]

theorem ofText_of_escaped {name : List Char} (h : IsName name) (rest : List Char) :
    ofText ('\\' :: braced name ++ rest) = .escaped name :: ofText rest := by
  have hstart := atStart?_escaped h rest
  rw [List.cons_append] at hstart ⊢
  have hdrop : (braced name ++ rest).drop ((escaped name).width - 1) = rest :=
    List.drop_left' (by simp [width, braced])
  rw [ofText, piecesFrom, hstart]
  dsimp only
  rw [piecesFrom_eq, hdrop]

theorem ofText_of_char {c : Char} {rest : List Char} (h : ¬ StartsReference (c :: rest)) :
    ofText (c :: rest) = .char c :: ofText rest := by
  rw [ofText, piecesFrom, atStart?_eq_none h]
  rfl

end Piece

/-! ## The cut of a text -/

/-- A part of a text: characters outside of all references, a reference that a backslash makes
plain, or a reference. -/
inductive TextPart
  | literal (stretch : List Char)
  | escaped (name : List Char)
  | reference (name : List Char)

namespace TextPart

open Piece

/-- Whether characters before a text are a whole stretch of plain characters: there is one at least,
no reference starts on any of them, and one starts after them, unless nothing comes after them. -/
structure PlainBefore (rest stretch : List Char) : Prop where
  ne_nil : stretch ≠ []
  plain : ∀ s, s <:+ stretch → s ≠ [] → ¬ StartsReference (s ++ rest)
  maximal : rest = [] ∨ StartsReference rest

/-- The cut of a text, from left to right. After a stretch of plain characters comes the reference
before which it ends, and after a reference comes what follows its brace. -/
inductive Cut : List Char → List TextPart → Prop
  | nil : Cut [] []
  | literal {stretch rest : List Char} {later : List TextPart} (plain : PlainBefore rest stretch)
    (onward : Cut rest later) : Cut (stretch ++ rest) (.literal stretch :: later)
  | escaped {name rest : List Char} {later : List TextPart} (named : IsName name)
    (onward : Cut rest later) : Cut ('\\' :: braced name ++ rest) (.escaped name :: later)
  | reference {name rest : List Char} {later : List TextPart} (named : IsName name)
    (onward : Cut rest later) : Cut (braced name ++ rest) (.reference name :: later)

/-- The pieces of a part. -/
def pieces : TextPart → List Piece
  | .literal stretch => stretch.map .char
  | .escaped name => [.escaped name]
  | .reference name => [.reference name]

/-! ### Stretches of plain characters -/

section

variable {c : Char} {rest stretch : List Char}

theorem PlainBefore.singleton (hplain : ¬ StartsReference (c :: rest))
    (hmaximal : rest = [] ∨ StartsReference rest) : PlainBefore rest [c] where
  ne_nil := List.cons_ne_nil c []
  plain := fun s hs hne => by
    rcases List.suffix_cons_iff.1 hs with rfl | hs
    · exact hplain
    · exact absurd (List.suffix_nil.1 hs) hne
  maximal := hmaximal

theorem PlainBefore.cons (h : PlainBefore rest stretch)
    (hplain : ¬ StartsReference (c :: stretch ++ rest)) : PlainBefore rest (c :: stretch) where
  ne_nil := List.cons_ne_nil c stretch
  plain := fun s hs hne => by
    rcases List.suffix_cons_iff.1 hs with rfl | hs
    · exact hplain
    · exact h.plain s hs hne
  maximal := h.maximal

/-- A stretch does not go on where a shorter one ends, as a reference starts there. -/
theorem PlainBefore.eq_nil {more : List Char} (hshort : PlainBefore (more ++ rest) stretch)
    (hlong : PlainBefore rest (stretch ++ more)) : more = [] := by
  refine Classical.byContradiction fun hmore => ?_
  rcases hshort.maximal with hnil | hstart
  · exact hmore (List.append_eq_nil_iff.1 hnil).1
  · exact hlong.plain more (List.suffix_append _ _) hmore hstart

/-- A text starts with one stretch of plain characters at most. -/
theorem PlainBefore.unique {rest' stretch' : List Char} (h : PlainBefore rest stretch)
    (h' : PlainBefore rest' stretch') (heq : stretch ++ rest = stretch' ++ rest') :
    stretch = stretch' ∧ rest = rest' := by
  rcases List.append_eq_append_iff.1 heq with ⟨more, rfl, rfl⟩ | ⟨more, rfl, rfl⟩
  · simp [h.eq_nil h']
  · simp [h'.eq_nil h]

/-- The pieces of plain characters are these characters. -/
theorem ofText_of_plainBefore
    (hplain : ∀ s, s <:+ stretch → s ≠ [] → ¬ StartsReference (s ++ rest)) :
    ofText (stretch ++ rest) = stretch.map .char ++ ofText rest := by
  induction stretch with
  | nil => rfl
  | cons c stretch ih =>
    have hhere := hplain _ List.suffix_rfl (List.cons_ne_nil c stretch)
    have hlater := ih fun s hs => hplain s (hs.trans (List.suffix_cons c stretch))
    rw [List.cons_append] at hhere ⊢
    rw [ofText_of_char hhere, hlater]
    rfl

end

/-! ### Every text has one cut -/

variable {s : List Char} {parts : List TextPart}

/-- The pieces of a text are those of the parts of its cut. -/
theorem Cut.ofText_eq (h : Cut s parts) : Piece.ofText s = parts.flatMap pieces := by
  induction h with
  | nil => rfl
  | literal hplain _ ih =>
    rw [ofText_of_plainBefore hplain.plain, ih]
    rfl
  | escaped named _ ih =>
    rw [ofText_of_escaped named, ih]
    rfl
  | reference named _ ih =>
    rw [ofText_of_reference named, ih]
    rfl

/-- A character where no reference starts joins the plain characters after it. -/
theorem Cut.exists_cons (h : Cut s parts) {c : Char} (hplain : ¬ StartsReference (c :: s)) :
    ∃ parts, Cut (c :: s) parts := by
  -- a stretch of this character alone, where no other follows it
  have halone (hmaximal : s = [] ∨ StartsReference s) : Cut ([c] ++ s) (.literal [c] :: parts) :=
    .literal (.singleton hplain hmaximal) h
  cases h with
  | nil => exact ⟨_, halone (.inl rfl)⟩
  | literal hbefore onward => exact ⟨_, .literal (hbefore.cons hplain) onward⟩
  | escaped named => exact ⟨_, halone (.inr ⟨_, _, named, .inr rfl⟩)⟩
  | reference named => exact ⟨_, halone (.inr ⟨_, _, named, .inl rfl⟩)⟩

/-- Every text has a cut. -/
theorem exists_cut (s : List Char) : ∃ parts, Cut s parts := by
  -- what follows a reference is shorter than the text
  induction hlength : s.length using Nat.strongRecOn generalizing s with
  | ind length ih =>
    cases s with
    | nil => exact ⟨[], .nil⟩
    | cons c s =>
      by_cases hstart : StartsReference (c :: s)
      · obtain ⟨name, rest, hname, heq | heq⟩ := hstart
        · obtain ⟨later, hlater⟩ := ih rest.length
            (by rw [← hlength, heq, List.length_append]; simp [braced]) rest rfl
          rw [heq]
          exact ⟨_, .reference hname hlater⟩
        · obtain ⟨later, hlater⟩ := ih rest.length
            (by rw [← hlength, heq, List.length_append]; simp) rest rfl
          rw [heq]
          exact ⟨_, .escaped hname hlater⟩
      · obtain ⟨parts, hparts⟩ := ih s.length (by rw [← hlength]; simp) s rfl
        exact hparts.exists_cons hstart

/-- No text has two cuts. -/
theorem Cut.unique {parts' : List TextPart} (h : Cut s parts) (h' : Cut s parts') :
    parts' = parts := by
  -- the first part of the one cut, plain or not, excludes every other first part of the other
  induction h generalizing parts' with
  | nil =>
    generalize htext : ([] : List Char) = t at h'
    cases h' with
    | nil => rfl
    | literal hbefore => exact absurd (List.append_eq_nil_iff.1 htext.symm).1 hbefore.ne_nil
    | escaped => cases htext
    | reference => cases htext
  | @literal stretch rest later hbefore _ ih =>
    have hstart := hbefore.plain stretch List.suffix_rfl hbefore.ne_nil
    generalize htext : stretch ++ rest = t at h' hstart
    cases h' with
    | nil => exact absurd (List.append_eq_nil_iff.1 htext).1 hbefore.ne_nil
    | literal hbefore' onward' =>
      obtain ⟨rfl, rfl⟩ := hbefore.unique hbefore' htext
      rw [ih onward']
    | escaped named => exact absurd ⟨_, _, named, .inr rfl⟩ hstart
    | reference named => exact absurd ⟨_, _, named, .inl rfl⟩ hstart
  | @escaped name rest later named _ ih =>
    have hread := atStart?_escaped named rest
    generalize htext : '\\' :: braced name ++ rest = t at h' hread
    cases h' with
    | nil => cases htext
    | literal hbefore' =>
      exact absurd ⟨_, _, named, .inr htext.symm⟩
        (hbefore'.plain _ List.suffix_rfl hbefore'.ne_nil)
    | escaped named' onward' =>
      cases (atStart?_escaped named' _).symm.trans hread
      cases List.append_cancel_left htext
      rw [ih onward']
    | reference named' => cases (atStart?_braced named' _).symm.trans hread
  | @reference name rest later named _ ih =>
    have hread := atStart?_braced named rest
    generalize htext : braced name ++ rest = t at h' hread
    cases h' with
    | nil => cases htext
    | literal hbefore' =>
      exact absurd ⟨_, _, named, .inl htext.symm⟩
        (hbefore'.plain _ List.suffix_rfl hbefore'.ne_nil)
    | escaped named' => cases (atStart?_escaped named' _).symm.trans hread
    | reference named' onward' =>
      cases (atStart?_braced named' _).symm.trans hread
      cases List.append_cancel_left htext
      rw [ih onward']

end TextPart

/-! ## What the parts become -/

namespace AttributeSet

open Piece

/-- What a part of a text becomes. An escaped reference loses its backslash, and a reference without
a value stays, or is dropped. -/
def shown (a : AttributeSet) (drop : Bool) : TextPart → List Char
  | .literal stretch => stretch
  | .escaped name => braced name
  | .reference name =>
    match a.get? (String.ofList name) with
    | some value => value.toList
    | none => if drop then [] else braced name

/-- The name of a reference without a value, in lower case. -/
def unknown? (a : AttributeSet) : TextPart → Option String
  | .reference name =>
    if a.contains (String.ofList name) then none else some (lowered (String.ofList name))
  | _ => none

theorem flatMap_render_pieces (a : AttributeSet) (drop : Bool) (part : TextPart) :
    part.pieces.flatMap (a.render drop) = a.shown drop part := by
  cases part with
  | literal stretch =>
    rw [TextPart.pieces, List.flatMap_map]
    exact List.flatMap_singleton' stretch
  | escaped name => simp [TextPart.pieces, render, shown]
  | reference name =>
    cases hvalue : a.values.get? (String.ofList (lower name)) <;>
      simp [TextPart.pieces, render, shown, get?, lowered, hvalue]

theorem filterMap_missing?_pieces (a : AttributeSet) (part : TextPart) :
    part.pieces.filterMap a.missing? = (a.unknown? part).toList := by
  cases part with
  | literal stretch =>
    rw [TextPart.pieces, List.filterMap_map]
    exact List.filterMap_eq_nil_iff.2 fun _ _ => rfl
  | escaped name => rfl
  | reference name =>
    have hmissing : a.missing? (.reference name) = a.unknown? (.reference name) := by
      rw [missing?, unknown?, contains, get?, lowered, String.toList_ofList]
      rfl
    rw [TextPart.pieces, List.filterMap_cons, hmissing]
    cases a.unknown? (.reference name) <;> rfl

/-- References without a value are dropped just if the mode says so, or no mode is given and the
attribute says so. -/
theorem drops_eq_true_iff {a : AttributeSet} {mode : Option String} :
    a.drops mode = true ↔ mode = some "drop" ∨
      (mode = none ∨ mode = some "") ∧ a.get? "attribute-missing" = some "drop" := by
  have hname : lowered "attribute-missing" = "attribute-missing" := by decide
  rw [get?, hname]
  unfold drops
  split
  · simp
  · simp
  · rename_i m hempty
    have hne : m ≠ "" := fun h => hempty (h ▸ rfl)
    simp [hne]

/-- A text has one cut, and substitution copies its stretches of plain characters, takes the
backslash from its escaped references, and puts the values of its references in their places,
unread. A reference without a value is copied or dropped, as the mode or the attribute
`attribute-missing` says, and its name is missing in either case. Names are compared without regard
to case. -/
theorem substitute_eq_cut (a : AttributeSet) (text : String) (mode : Option String) :
    ∃ parts, (∀ parts', TextPart.Cut text.toList parts' ↔ parts' = parts) ∧
      (a.substitute text mode).text =
        String.ofList (parts.flatMap (a.shown (a.drops mode))) ∧
      (a.substitute text mode).missing = parts.filterMap a.unknown? ∧
      (a.drops mode = true ↔ mode = some "drop" ∨
        (mode = none ∨ mode = some "") ∧ a.get? "attribute-missing" = some "drop") := by
  obtain ⟨parts, hcut⟩ := TextPart.exists_cut text.toList
  refine ⟨parts, fun parts' => ⟨hcut.unique, ?_⟩, ?_, ?_, drops_eq_true_iff⟩
  · rintro rfl
    exact hcut
  · rw [substitute, hcut.ofText_eq]
    dsimp only
    rw [List.flatMap_assoc]
    congr 2
    exact funext (a.flatMap_render_pieces _)
  · rw [substitute, hcut.ofText_eq]
    dsimp only
    rw [List.filterMap_flatMap]
    clear hcut
    induction parts with
    | nil => rfl
    | cons part parts ih =>
      rw [List.flatMap_cons, ih, filterMap_missing?_pieces, List.filterMap_cons]
      cases a.unknown? part <;> rfl

end AttributeSet

end Transclude
