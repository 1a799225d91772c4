import Transclude.Reduction.Context

/-!
# Numbers that cannot be read

The numbers in conditions and in selections of lines are read from what a text starts with, so there
are few texts that are refused: those with more digits than an integer may have, and those with an
information separator before the number, which is blank everywhere else.

## Main definitions

* `NumeralError.Arises` : the ways in which such a number cannot be read.

## Main statements

* `Opening.arises_of_decide`        : why a number in a condition cannot be read.
* `Selection.arises_of_ofAttributes` : why a number in a selection cannot be read.
-/

namespace Transclude

open Transclude.Text

/-- The ways in which a number that a text starts with cannot be read: it has too many digits, or an
information separator stands before it. -/
inductive NumeralError.Arises : NumeralError → Prop
  | digits {count : Nat} (many : Number.maxDigits < count) : Arises (.tooManyDigits count)
  | integer {text : String} {c : Char} (before : c ∈ text.toList)
    (separator : Number.isSeparator c = true) : Arises (.notAnInteger 10 text)
  | real {text : String} {c : Char} (before : c ∈ text.toList)
    (separator : Number.isSeparator c = true) : Arises (.notAReal text)

namespace Number

theorem splitSign_suffix (s : List Char) : (splitSign s).2 <:+ s := by
  unfold splitSign
  split
  · exact List.suffix_cons _ _
  · exact List.suffix_cons _ _
  · exact List.suffix_refl _

theorem leadingExponent_suffix (s : List Char) : (leadingExponent s).2 <:+ s := by
  unfold leadingExponent
  split
  · rename_i c rest
    dsimp only
    split
    · refine (List.dropWhile_suffix _).trans ?_
      exact (splitSign_suffix rest).trans (List.suffix_cons _ _)
    · exact List.suffix_refl _
  · exact List.suffix_refl _

/-- What follows a double is the end of the text that starts with it. -/
theorem suffix_of_realPrefix? {s rest : List Char} {x : Binary64}
    (h : realPrefix? s = some (x, rest)) : rest <:+ s := by
  have hwhole : (splitSign s).2.dropWhile isDigit <:+ s :=
    (List.dropWhile_suffix _).trans (splitSign_suffix s)
  unfold realPrefix? at h
  dsimp only at h
  split at h
  · rename_i after hpoint
    split at h
    · cases h
    · obtain ⟨-, rfl⟩ := Prod.mk.inj (Option.some.inj h)
      -- the exponent follows the digits after the point, which follows those before it
      have hafter : after <:+ (splitSign s).2.dropWhile isDigit := by
        rw [hpoint]
        exact List.suffix_cons _ _
      refine (leadingExponent_suffix _).trans ?_
      exact (List.dropWhile_suffix _).trans (hafter.trans hwhole)
  · split at h
    · cases h
    · obtain ⟨-, rfl⟩ := Prod.mk.inj (Option.some.inj h)
      exact (leadingExponent_suffix _).trans hwhole

/-- A separator before a number is a part of what is refused. -/
theorem separator_mem_consumed {s rest : List Char} (hrest : rest <:+ trimStart s)
    (hseparated : (s.takeWhile isBlank).any isSeparator = true) :
    ∃ c ∈ (consumed s rest).toList, isSeparator c = true := by
  obtain ⟨c, hc, hseparator⟩ := List.any_eq_true.1 hseparated
  refine ⟨c, ?_, hseparator⟩
  have hlength : (s.takeWhile isBlank).length + (trimStart s).length = s.length := by
    rw [← List.length_append, trimStart, List.takeWhile_append_dropWhile]
  have hprefix : s.takeWhile isBlank <+: s.take (s.length - rest.length) :=
    List.prefix_take_iff.2 ⟨List.takeWhile_prefix _, by have := hrest.length_le; omega⟩
  rw [consumed, String.toList_ofList]
  exact hprefix.subset hc

theorem arises_of_ofDigits {digits : List Char} {e : NumeralError}
    (h : ofDigits digits = .error e) : e.Arises := by
  unfold ofDigits at h
  split at h
  · rename_i hmany
    cases h
    exact .digits hmany
  · cases h

theorem arises_of_leadingInt {s : List Char} {e : NumeralError} (h : leadingInt s = .error e) :
    e.Arises := by
  unfold leadingInt at h
  dsimp only at h
  split at h
  · cases h
  · split at h
    · rename_i hseparated
      cases h
      have hrest := (List.dropWhile_suffix isDigit).trans (splitSign_suffix (trimStart s))
      obtain ⟨c, hc, hseparator⟩ := separator_mem_consumed hrest hseparated
      exact .integer hc hseparator
    · cases hdigits : ofDigits ((splitSign (trimStart s)).2.takeWhile isDigit) with
      | ok n =>
        rw [hdigits] at h
        cases h
      | error e' =>
        rw [hdigits] at h
        cases h
        exact arises_of_ofDigits hdigits

theorem arises_of_leadingReal {s : List Char} {e : NumeralError} (h : leadingReal s = .error e) :
    e.Arises := by
  unfold leadingReal at h
  split at h
  · cases h
  · rename_i x rest hreal
    split at h
    · rename_i hseparated
      cases h
      obtain ⟨c, hc, hseparator⟩ :=
        separator_mem_consumed (suffix_of_realPrefix? hreal) hseparated
      exact .real hc hseparator
    · cases h

end Number

/-! ## Conditions -/

theorem Operand.arises_of_ofText {a : AttributeSet} {raw : String} {e : NumeralError}
    (h : ofText a raw = .error e) : e.Arises := by
  unfold ofText at h
  dsimp only at h
  split at h
  · cases h
  · unfold plain at h
    -- an operand without quotes is a number if it is nothing else
    split at h
    · cases h
    split at h
    · cases h
    split at h
    · cases h
    split at h
    · cases h
    split at h
    · exact Number.arises_of_leadingReal (eq_error_of_map h)
    · exact Number.arises_of_leadingInt (eq_error_of_map h)

theorem Expression.arises_of_evaluate {a : AttributeSet} {text : Option String} {e : NumeralError}
    (h : evaluate a text = .error (.numeral e)) : e.Arises := by
  unfold evaluate at h
  split at h
  · cases h
  · split at h
    · cases h
    · split at h
      · cases h
      · split at h
        · cases h
        · rename_i hleft
          cases h
          exact Operand.arises_of_ofText hleft
        · rename_i hright
          cases h
          exact Operand.arises_of_ofText hright

/-- A number in a condition cannot be read in one of the ways. -/
theorem Opening.arises_of_decide {a : AttributeSet} {d : Opening} {e : NumeralError}
    (h : d.decide .standard a = .error (.numeral e)) : e.Arises := by
  cases d with
  | presence d =>
    unfold Opening.decide Presence.decide at h
    dsimp only at h
    split at h
    · cases h
    · cases h
  | comparison d =>
    unfold Opening.decide Comparison.decide at h
    dsimp only at h
    split at h
    · cases h
    · cases hevaluated : Evaluator.standard.evaluate a d.expression with
      | ok answer =>
        rw [hevaluated] at h
        cases h
      | error problem =>
        rw [hevaluated] at h
        cases problem with
        | numeral e' =>
          cases h
          exact Expression.arises_of_evaluate hevaluated
        | missingExpression | invalidExpression | missingTarget | targetNotPermitted | reported
        | inDirective => cases h

/-! ## Selections -/

/-- A failure after a part comes from the part or from what follows it. -/
theorem error_of_bind {ε α β : Type} {x : Except ε α} {f : α → Except ε β} {e : ε}
    (h : x >>= f = .error e) : x = .error e ∨ ∃ a, x = .ok a ∧ f a = .error e := by
  cases x with
  | error e' =>
    cases h
    exact .inl rfl
  | ok a => exact .inr ⟨a, rfl, h⟩

namespace LineRange

theorem arises_of_lastOf {text : List Char} {e : NumeralError} (h : lastOf text = .error e) :
    e.Arises := by
  unfold lastOf at h
  split at h
  · cases h
  · exact Number.arises_of_leadingInt (eq_error_of_map h)

theorem arises_of_ofToken {token : List Char} {e : NumeralError} (h : ofToken token = .error e) :
    e.Arises := by
  unfold ofToken at h
  split at h
  · rcases error_of_bind h with hlast | ⟨last, -, hrest⟩
    · exact arises_of_lastOf hlast
    · rcases error_of_bind hrest with hfirst | ⟨first, -, hrange⟩
      · exact Number.arises_of_leadingInt hfirst
      · cases hrange
  · exact Number.arises_of_leadingInt (eq_error_of_map h)

theorem arises_of_ofTokens {tokens : List (List Char)} {e : NumeralError}
    (h : ofTokens tokens = .error e) : e.Arises := by
  induction tokens with
  | nil => cases h
  | cons token rest ih =>
    rcases error_of_bind h with hfirst | ⟨range, -, hrest⟩
    · exact arises_of_ofToken hfirst
    · rcases error_of_bind hrest with hothers | ⟨ranges, -, hranges⟩
      · exact ih hothers
      · cases hranges

end LineRange

/-- A number in a selection of lines cannot be read in one of the ways. -/
theorem Selection.arises_of_ofAttributes {attrs : Table String} {source : String}
    {lines : List String} {e : NumeralError} (h : ofAttributes attrs source lines = .error e) :
    e.Arises := by
  unfold ofAttributes at h
  dsimp only at h
  split at h
  · rename_i hparsed
    cases h
    exact LineRange.arises_of_ofTokens hparsed
  · cases h
  · split at h
    · cases h
    · cases h

end Transclude
