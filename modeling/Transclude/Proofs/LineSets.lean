import Mathlib.Data.List.TakeWhile
import Transclude.Include.TagFilter

/-!
# Selections of lines as sets

The ranges of an include denote a set of line numbers: the lines that some token covers. The order
of the tokens, their repetition and their overlaps make no difference, and neither do the tags that
the include asks for. What is written as a list of ranges is read back as that list.

An integer is not read if an information separator stands before it or if it has too many digits,
so that a value with such a number denotes nothing.

## Main definitions

* `Number.leading`    : the integer that a text starts with.
* `Number.Refused`    : whether it is refused.
* `LineRange.Covered` : whether some token of a value covers a line number.
* `LineRange.Refused` : whether some number of a value is refused.
* `LineRange.Spells`  : the ways to write a list of ranges.

## Main statements

* `Number.leadingInt_toDigits`   : a number is read from its digits.
* `LineRange.parse_of_spells`    : ranges are read back from what is written.
* `Selection.lines_denote`       : the lines that an include selects by number.
-/

namespace Transclude

open Transclude.Text

namespace Number

/-! ## The integer at the start of a text -/

/-- The digits of the integer that a text starts with. -/
def leadingDigits (s : List Char) : List Char := (splitSign (trimStart s)).2.takeWhile isDigit

/-- The integer that a text starts with, after white space and an optional sign; zero if there is
none. -/
def leading (s : List Char) : Int :=
  signed (splitSign (trimStart s)).1 (natOfDigits (leadingDigits s))

/-- Whether the integer that a text starts with is refused: an information separator stands before
it, or it has too many digits. -/
def Refused (s : List Char) : Prop :=
  leadingDigits s ≠ [] ∧
    ((s.takeWhile isBlank).any isSeparator = true ∨ maxDigits < (leadingDigits s).length)

instance (s : List Char) : Decidable (Refused s) := inferInstanceAs (Decidable (_ ∧ _))

/-- An integer that is not refused is read. -/
theorem leadingInt_of_not_refused {s : List Char} (h : ¬ Refused s) :
    leadingInt s = .ok (leading s) := by
  unfold leadingInt leading
  dsimp only
  rw [← leadingDigits]
  split
  · -- no digits are zero, whatever the sign
    rename_i hnone
    rw [List.isEmpty_iff.1 hnone]
    cases (splitSign (trimStart s)).1 <;> rfl
  · rename_i hsome
    have hdigits : leadingDigits s ≠ [] := fun hnone => hsome (List.isEmpty_iff.2 hnone)
    split
    · rename_i hseparated
      exact absurd ⟨hdigits, .inl hseparated⟩ h
    · have hshort : ¬ maxDigits < (leadingDigits s).length := fun hlong =>
        h ⟨hdigits, .inr hlong⟩
      rw [ofDigits, if_neg hshort]
      rfl

/-- One that is refused is not. -/
theorem exists_error_of_refused {s : List Char} (h : Refused s) :
    ∃ e, leadingInt s = .error e := by
  obtain ⟨hdigits, hwhy⟩ := h
  unfold leadingInt
  dsimp only
  rw [← leadingDigits, if_neg (fun hnone => hdigits (List.isEmpty_iff.1 hnone))]
  split
  · exact ⟨_, rfl⟩
  · -- the digits are counted where no separator stands before them
    rename_i hclean
    have hlong : maxDigits < (leadingDigits s).length := hwhy.resolve_left hclean
    rw [ofDigits, if_pos hlong]
    exact ⟨_, rfl⟩

end Number

namespace LineRange

/-! ## Tokens -/

/-- Whether a token covers a line number: the number is that of the token, or it lies from the
number before the two points to the one after them. A blank or negative end means that there is
none. -/
def TokenCovers (token : List Char) (n : Nat) : Prop :=
  match cutText? ['.', '.'] token with
  | some (first, last) => Number.leading first ≤ n ∧
      (allBlank last = true ∨ Number.leading last < 0 ∨ (n : Int) ≤ Number.leading last)
  | none => (n : Int) = Number.leading token

/-- Whether a number of a token is refused. -/
def TokenRefused (token : List Char) : Prop :=
  match cutText? ['.', '.'] token with
  | some (first, last) => Number.Refused first ∨ Number.Refused last
  | none => Number.Refused token

/-- Whether some token of a value covers a line number. -/
def Covered (value : String) (n : Nat) : Prop := ∃ token ∈ tokens value, TokenCovers token n

/-- Whether a number of some token of a value is refused. -/
def Refused (value : String) : Prop := ∃ token ∈ tokens value, TokenRefused token

instance (token : List Char) (n : Nat) : Decidable (TokenCovers token n) := by
  unfold TokenCovers
  split <;> infer_instance

instance (token : List Char) : Decidable (TokenRefused token) := by
  unfold TokenRefused
  split <;> infer_instance

instance (value : String) (n : Nat) : Decidable (Covered value n) :=
  inferInstanceAs (Decidable (∃ token ∈ tokens value, TokenCovers token n))

instance (value : String) : Decidable (Refused value) :=
  inferInstanceAs (Decidable (∃ token ∈ tokens value, TokenRefused token))

theorem contains_iff {r : LineRange} {n : Nat} :
    r.contains n = true ↔ r.first ≤ n ∧ ∀ last ∈ r.last, (n : Int) ≤ last := by
  unfold contains
  cases r.last with
  | none => simp
  | some last => simp

/-- The end of a range is read if its number is not refused. -/
theorem exists_lastOf {text : List Char} (h : ¬ Number.Refused text) :
    ∃ last, lastOf text = .ok last ∧ ∀ n : Nat, (∀ l ∈ last, (n : Int) ≤ l) ↔
      allBlank text = true ∨ Number.leading text < 0 ∨ (n : Int) ≤ Number.leading text := by
  unfold lastOf
  split
  · rename_i hblank
    exact ⟨none, rfl, fun n => by simp [hblank]⟩
  · rename_i hblank
    rw [Number.leadingInt_of_not_refused h]
    refine ⟨_, rfl, fun n => ?_⟩
    by_cases hnegative : Number.leading text < 0
    · simp [hnegative]
    · simp [hblank, hnegative]

/-- A token without a number that is refused is a range that holds the lines it covers. -/
theorem ofToken_of_not_refused {token : List Char} (h : ¬ TokenRefused token) :
    ∃ range, ofToken token = .ok range ∧ ∀ n, range.contains n = true ↔ TokenCovers token n := by
  revert h
  unfold TokenRefused ofToken TokenCovers
  cases cutText? ['.', '.'] token with
  | some parts =>
    obtain ⟨first, last⟩ := parts
    intro h
    obtain ⟨hfirst, hlast⟩ := not_or.1 h
    obtain ⟨l, hl, hends⟩ := exists_lastOf hlast
    dsimp only
    rw [hl, Number.leadingInt_of_not_refused hfirst]
    exact ⟨_, rfl, fun n => contains_iff.trans (and_congr_right fun _ => hends n)⟩
  | none =>
    intro h
    dsimp only
    rw [Number.leadingInt_of_not_refused h]
    refine ⟨_, rfl, fun n => contains_iff.trans ?_⟩
    simp only [Option.mem_some_iff, forall_eq']
    omega

/-- A blank end has no number that could be refused. -/
theorem not_blank_of_refused {text : List Char} (h : Number.Refused text) :
    allBlank text = false := by
  refine eq_false_of_ne_true fun hblank => h.1 ?_
  rw [Number.leadingDigits, trimStart_eq_nil_iff.2 hblank]
  rfl

/-- A token with a number that is refused is none. -/
theorem exists_error_of_refused {token : List Char} (h : TokenRefused token) :
    ∃ e, ofToken token = .error e := by
  revert h
  unfold TokenRefused ofToken
  cases cutText? ['.', '.'] token with
  | some parts =>
    obtain ⟨first, last⟩ := parts
    intro h
    dsimp only
    by_cases hlast : Number.Refused last
    · obtain ⟨e, he⟩ := Number.exists_error_of_refused hlast
      rw [lastOf, if_neg (ne_true_of_eq_false (not_blank_of_refused hlast)), he]
      exact ⟨e, rfl⟩
    · -- the end is read first
      obtain ⟨l, hl, -⟩ := exists_lastOf hlast
      obtain ⟨e, he⟩ := Number.exists_error_of_refused (h.resolve_right hlast)
      rw [hl, he]
      exact ⟨e, rfl⟩
  | none =>
    intro h
    obtain ⟨e, he⟩ := Number.exists_error_of_refused h
    dsimp only
    rw [he]
    exact ⟨e, rfl⟩

/-- Tokens without a number that is refused are ranges that hold the lines they cover. -/
theorem ofTokens_of_not_refused {tokens : List (List Char)}
    (h : ∀ token ∈ tokens, ¬ TokenRefused token) :
    ∃ ranges, ofTokens tokens = .ok ranges ∧ ranges.length = tokens.length ∧
      ∀ n, ranges.any (·.contains n) = true ↔ ∃ token ∈ tokens, TokenCovers token n := by
  induction tokens with
  | nil => exact ⟨[], rfl, rfl, fun n => by simp⟩
  | cons token rest ih =>
    obtain ⟨range, hrange, hcovers⟩ := ofToken_of_not_refused (h token List.mem_cons_self)
    obtain ⟨ranges, hranges, hlength, hrest⟩ :=
      ih fun other hother => h other (List.mem_cons_of_mem token hother)
    refine ⟨range :: ranges, ?_, congrArg (· + 1) hlength, fun n => ?_⟩
    · rw [ofTokens, hrange, hranges]
      rfl
    · simp only [List.any_cons, Bool.or_eq_true, hcovers, hrest, List.mem_cons, exists_eq_or_imp]

/-- Tokens one of which has a number that is refused are none. -/
theorem exists_error_of_tokens {tokens : List (List Char)}
    (h : ∃ token ∈ tokens, TokenRefused token) : ∃ e, ofTokens tokens = .error e := by
  induction tokens with
  | nil =>
    obtain ⟨token, htoken, -⟩ := h
    cases htoken
  | cons token rest ih =>
    by_cases hfirst : TokenRefused token
    · obtain ⟨e, he⟩ := exists_error_of_refused hfirst
      exact ⟨e, by rw [ofTokens, he]; rfl⟩
    · obtain ⟨range, hrange, -⟩ := ofToken_of_not_refused hfirst
      obtain ⟨refused, hmem, hrefused⟩ := h
      have hrest : refused ∈ rest := by
        refine (List.mem_cons.1 hmem).resolve_left fun heq => ?_
        exact hfirst (heq ▸ hrefused)
      obtain ⟨e, he⟩ := ih ⟨refused, hrest, hrefused⟩
      exact ⟨e, by rw [ofTokens, hrange, he]; rfl⟩

end LineRange

/-! ## Written numbers -/

namespace Number

/-- What a decimal digit is and is not. -/
theorem digitChar_spec : ∀ d < 10, digitValue? (Nat.digitChar d) = some d ∧
    isBlank (Nat.digitChar d) = false ∧ LineRange.isSeparator (Nat.digitChar d) = false ∧
    Nat.digitChar d ≠ '.' ∧ Nat.digitChar d ≠ '-' ∧ Nat.digitChar d ≠ '+' := by
  decide

theorem exists_digitChar {n : Nat} {c : Char} (h : c ∈ Nat.toDigits 10 n) :
    ∃ d < 10, c = Nat.digitChar d := by
  have hdigit : c.isDigit = true := Nat.isDigit_of_mem_toDigits (by decide) (by decide) h
  obtain ⟨hfirst, hlast⟩ : 48 ≤ c.toNat ∧ c.toNat ≤ 57 := by
    simpa [Char.isDigit, UInt32.le_iff_toNat_le] using hdigit
  have hchar : ∀ d < 10, Char.ofNat (48 + d) = Nat.digitChar d := by decide
  refine ⟨c.toNat - 48, by omega, ?_⟩
  rw [← hchar (c.toNat - 48) (by omega), Nat.add_sub_cancel' hfirst, Char.ofNat_toNat]

/-- The digits of a number denote it. -/
theorem natOfDigits_toDigits (n : Nat) : natOfDigits (Nat.toDigits 10 n) = n := by
  induction n using Nat.strongRecOn with
  | ind n ih =>
    by_cases hn : n < 10
    · rw [Nat.toDigits_of_lt_base hn]
      simp [natOfDigits, (digitChar_spec n hn).1]
    · -- the last digit is the remainder, and those before it are the digits of the quotient
      have hmore : natOfDigits (Nat.toDigits 10 (n / 10)) = n / 10 := ih (n / 10) (by omega)
      have hlast := (digitChar_spec (n % 10) (Nat.mod_lt n (by decide))).1
      rw [Nat.toDigits_of_base_le (by decide) (Nat.le_of_not_lt hn), natOfDigits,
        List.foldl_append, ← natOfDigits, hmore, List.foldl_cons, hlast, List.foldl_nil,
        Option.getD_some]
      omega

/-- Nothing stands before the digits of a number, and they are all digits. -/
theorem leading_toDigits (n : Nat) :
    splitSign (trimStart (Nat.toDigits 10 n)) = (false, Nat.toDigits 10 n) ∧
      leadingDigits (Nat.toDigits 10 n) = Nat.toDigits 10 n ∧
      (Nat.toDigits 10 n).takeWhile isBlank = [] := by
  have hall : (Nat.toDigits 10 n).takeWhile isDigit = Nat.toDigits 10 n := by
    refine List.takeWhile_eq_self_iff.2 fun c hc => ?_
    obtain ⟨d, hd, rfl⟩ := exists_digitChar hc
    rw [isDigit, (digitChar_spec d hd).1]
    rfl
  have hsign : splitSign (trimStart (Nat.toDigits 10 n)) = (false, Nat.toDigits 10 n) ∧
      (Nat.toDigits 10 n).takeWhile isBlank = [] := by
    cases hdigits : Nat.toDigits 10 n with
    | nil => exact absurd hdigits Nat.toDigits_ne_nil
    | cons c rest =>
      obtain ⟨d, hd, rfl⟩ := exists_digitChar (n := n) (c := c) (by simp [hdigits])
      obtain ⟨-, hblank, -, -, hminus, hplus⟩ := digitChar_spec d hd
      -- the first digit is not blank and no sign
      refine ⟨?_, List.takeWhile_cons_of_neg (ne_true_of_eq_false hblank)⟩
      rw [trimStart, List.dropWhile_cons_of_neg (ne_true_of_eq_false hblank), splitSign]
      · exact fun _ heq => hminus (List.cons.inj heq).1
      · exact fun _ heq => hplus (List.cons.inj heq).1
  exact ⟨hsign.1, by rw [leadingDigits, hsign.1, hall], hsign.2⟩

theorem not_blank_toDigits (n : Nat) : allBlank (Nat.toDigits 10 n) = false := by
  refine eq_false_of_ne_true fun hblank => Nat.toDigits_ne_nil (b := 10) (n := n) ?_
  rw [← List.takeWhile_eq_self_iff.2 (List.all_eq_true.1 hblank)]
  exact (leading_toDigits n).2.2

/-- Whether a number has more digits than can be read. -/
def Long (n : Nat) : Prop := maxDigits < (Nat.toDigits 10 n).length

instance (n : Nat) : Decidable (Long n) :=
  inferInstanceAs (Decidable (maxDigits < (Nat.toDigits 10 n).length))

/-- A number is refused if it is long. -/
theorem refused_toDigits_iff {n : Nat} : Refused (Nat.toDigits 10 n) ↔ Long n := by
  obtain ⟨-, hdigits, hblank⟩ := leading_toDigits n
  rw [Refused, hdigits, hblank, Long]
  simp

/-- One that is not refused is read from its digits. -/
theorem leadingInt_toDigits {n : Nat} (h : ¬ Long n) :
    leadingInt (Nat.toDigits 10 n) = .ok n := by
  obtain ⟨hsign, hdigits, -⟩ := leading_toDigits n
  rw [leadingInt_of_not_refused (mt refused_toDigits_iff.1 h), leading, hsign, hdigits,
    natOfDigits_toDigits]
  rfl

end Number

namespace LineRange

/-- What is written for the end of a range, if there is one. -/
def spelledEnd : Option Nat → List Char
  | none => []
  | some last => Nat.toDigits 10 last

/-- What is written for a range from a number on, up to another if there is one. -/
def spelled (range : Nat × Option Nat) : List Char :=
  Nat.toDigits 10 range.1 ++ '.' :: '.' :: spelledEnd range.2

/-- The ways to write a list of ranges: each with blanks around it, and with a comma or a semicolon
between neighbours. -/
inductive Spells : List (Nat × Option Nat) → List Char → Prop
  | nil {blank : List Char} (h : allBlank blank = true) : Spells [] blank
  | last (range : Nat × Option Nat) (before after : List Char) (hbefore : allBlank before = true)
    (hafter : allBlank after = true) : Spells [range] (before ++ spelled range ++ after)
  | cons (range : Nat × Option Nat) (before after : List Char) {c : Char} {rest : List Char}
    {ranges : List (Nat × Option Nat)} (hbefore : allBlank before = true)
    (hafter : allBlank after = true) (separator : isSeparator c = true)
    (hrest : Spells ranges rest) :
    Spells (range :: ranges) (before ++ spelled range ++ after ++ c :: rest)

/-- Whether the numbers of a range have no more digits than can be read. -/
def Fits (range : Nat × Option Nat) : Prop :=
  ¬ Number.Long range.1 ∧ ∀ last ∈ range.2, ¬ Number.Long last

instance (range : Nat × Option Nat) : Decidable (Fits range) :=
  inferInstanceAs (Decidable (_ ∧ _))

/-- The range from a number on, up to another if there is one. -/
def ofBounds (range : Nat × Option Nat) : LineRange :=
  ⟨range.1, range.2.map fun last => (last : Int)⟩

/-- A text is cut at its first two points. -/
theorem cutText?_points {before : List Char} (h : ∀ c ∈ before, c ≠ '.') (after : List Char) :
    cutText? ['.', '.'] (before ++ '.' :: '.' :: after) = some (before, after) := by
  induction before with
  | nil => rfl
  | cons c rest ih =>
    -- no point stands here, so that the text is not cut yet
    have hc : after? ['.', '.'] (c :: (rest ++ '.' :: '.' :: after)) = none := by
      rw [after?, if_neg (h c List.mem_cons_self).symm]
    rw [List.cons_append, cutText?, hc, ih fun x hx => h x (List.mem_cons_of_mem c hx)]
    rfl

theorem cutText?_spelled (range : Nat × Option Nat) :
    cutText? ['.', '.'] (spelled range) =
      some (Nat.toDigits 10 range.1, spelledEnd range.2) := by
  refine cutText?_points (fun c hc => ?_) _
  obtain ⟨d, hd, rfl⟩ := Number.exists_digitChar hc
  exact (Number.digitChar_spec d hd).2.2.2.1

/-- Nothing in what is written for a range is blank or a separator. -/
theorem plain_of_mem_spelled {range : Nat × Option Nat} {c : Char} (h : c ∈ spelled range) :
    isBlank c = false ∧ isSeparator c = false := by
  have hdigit : ∀ n, c ∈ Nat.toDigits 10 n → isBlank c = false ∧ isSeparator c = false := by
    intro n hc
    obtain ⟨d, hd, rfl⟩ := Number.exists_digitChar hc
    exact ⟨(Number.digitChar_spec d hd).2.1, (Number.digitChar_spec d hd).2.2.1⟩
  obtain ⟨first, last⟩ := range
  rcases List.mem_append.1 h with hfirst | hrest
  · exact hdigit first hfirst
  · rcases List.mem_cons.1 hrest with rfl | hrest
    · decide
    · rcases List.mem_cons.1 hrest with rfl | hlast
      · decide
      · cases last with
        | none => cases hlast
        | some last => exact hdigit last hlast

/-- A range that is written is read back, if its numbers can be read. -/
theorem ofToken_spelled {range : Nat × Option Nat} (h : Fits range) :
    ofToken (spelled range) = .ok (ofBounds range) := by
  obtain ⟨first, last⟩ := range
  have hlast : lastOf (spelledEnd last) = .ok (last.map fun n => (n : Int)) := by
    cases last with
    | none => rfl
    | some last =>
      have hblank := Number.not_blank_toDigits last
      have hnegative : ¬ (last : Int) < 0 := by omega
      rw [spelledEnd, lastOf, if_neg (ne_true_of_eq_false hblank),
        Number.leadingInt_toDigits (h.2 last rfl)]
      simp [Except.map, hnegative]
  rw [ofToken, cutText?_spelled]
  dsimp only
  rw [hlast, Number.leadingInt_toDigits h.1]
  rfl

theorem tokenRefused_spelled {range : Nat × Option Nat} (h : ¬ Fits range) :
    TokenRefused (spelled range) := by
  obtain ⟨first, last⟩ := range
  rw [TokenRefused, cutText?_spelled]
  by_cases hfirst : Number.Long first
  · exact .inl (Number.refused_toDigits_iff.2 hfirst)
  · refine .inr ?_
    cases last with
    | none => exact absurd ⟨hfirst, nofun⟩ h
    | some last =>
      refine Number.refused_toDigits_iff.2 (Decidable.not_not.1 fun hlast => h ⟨hfirst, ?_⟩)
      exact fun other hother => Option.some.inj hother ▸ hlast

/-- A blank is no separator. -/
theorem isSeparator_of_blank {c : Char} (h : isBlank c = true) : isSeparator c = false := by
  refine eq_false_of_ne_true fun hseparator => ?_
  rcases Bool.or_eq_true _ _ ▸ hseparator with hcomma | hsemicolon
  · rw [beq_iff_eq.1 hcomma] at h
    exact absurd h (by decide)
  · rw [beq_iff_eq.1 hsemicolon] at h
    exact absurd h (by decide)

/-- Around a range that is written nothing but the blanks is trimmed, and nothing is cut. -/
theorem trim_spelled (range : Nat × Option Nat) {before after : List Char}
    (hbefore : allBlank before = true) (hafter : allBlank after = true) :
    trim (before ++ spelled range ++ after) = spelled range ∧
      fields isSeparator (before ++ spelled range ++ after) =
        [before ++ spelled range ++ after] := by
  have hplain : ∀ s : List Char, (∀ c ∈ s, isBlank c = false) → s.dropWhile isBlank = s :=
    fun s hs => List.dropWhile_eq_self_iff.2 fun hl =>
      ne_true_of_eq_false (hs _ (List.get_mem s ⟨0, hl⟩))
  constructor
  · refine trim_padded hbefore hafter (trim_eq_self_iff.2 ⟨?_, ?_⟩)
    · exact hplain _ fun c hc => (plain_of_mem_spelled hc).1
    · rw [trimEnd, hplain _ fun c hc => (plain_of_mem_spelled (List.mem_reverse.1 hc)).1,
        List.reverse_reverse]
  · refine fields_eq_singleton fun c hc => ?_
    rcases List.mem_append.1 hc with hc | hc
    · rcases List.mem_append.1 hc with hc | hc
      · exact isSeparator_of_blank (List.all_eq_true.1 hbefore c hc)
      · exact (plain_of_mem_spelled hc).2
    · exact isSeparator_of_blank (List.all_eq_true.1 hafter c hc)

/-- The tokens of what is written for ranges are what is written for each. -/
theorem tokens_of_spells {ranges : List (Nat × Option Nat)} {s : List Char} (h : Spells ranges s) :
    (((fields isSeparator s).map trim).filter fun token => !token.isEmpty) =
      ranges.map spelled := by
  have hsome : ∀ range, (spelled range).isEmpty = false := by
    intro range
    rw [spelled]
    cases Nat.toDigits 10 range.1 <;> rfl
  induction h with
  | nil hblank =>
    rename_i blank
    have htrim : trim (blank ++ [] ++ []) = [] := trim_padded hblank rfl rfl
    rw [List.append_nil, List.append_nil] at htrim
    -- the blanks are one field, of which nothing is left
    rw [fields_eq_singleton fun c hc => isSeparator_of_blank (List.all_eq_true.1 hblank c hc),
      List.map_singleton, htrim]
    rfl
  | last range before after hbefore hafter =>
    obtain ⟨htrim, hfields⟩ := trim_spelled range hbefore hafter
    rw [hfields, List.map_singleton, htrim, List.filter_cons_of_pos (by rw [hsome]; rfl)]
    rfl
  | cons range before after hbefore hafter hseparator _ ih =>
    obtain ⟨htrim, hfields⟩ := trim_spelled range hbefore hafter
    -- the separator ends the field of the first range
    rw [fields_append hseparator, hfields, List.map_append, List.filter_append, ih,
      List.map_singleton, htrim, List.filter_cons_of_pos (by rw [hsome]; rfl)]
    rfl

/-- Ranges are read back from what is written, if their numbers can be read. -/
theorem parse_of_spells {ranges : List (Nat × Option Nat)} {value : String}
    (h : Spells ranges value.toList) :
    ((∀ range ∈ ranges, Fits range) → parse value = .ok (ranges.map ofBounds)) ∧
      ((∃ range ∈ ranges, ¬ Fits range) → ∃ e, parse value = .error e) := by
  rw [parse, tokens, tokens_of_spells h]
  constructor
  · intro hfits
    -- what is written no longer matters, so that the induction is on the ranges alone
    clear h
    induction ranges with
    | nil => rfl
    | cons range rest ih =>
      rw [List.map_cons, ofTokens, ofToken_spelled (hfits range List.mem_cons_self),
        ih fun other hother => hfits other (List.mem_cons_of_mem range hother)]
      rfl
  · rintro ⟨range, hrange, hlong⟩
    exact exists_error_of_tokens
      ⟨spelled range, List.mem_map_of_mem hrange, tokenRefused_spelled hlong⟩

end LineRange

/-! ## Selections -/

namespace Selection

open LineRange

/-- The lines of an include whose ranges can be read are those the ranges hold. -/
theorem exists_select {attrs : Table String} {value : String}
    (hvalue : attrs.get? "lines" = some value) (htokens : tokens value ≠ [])
    (h : ¬ LineRange.Refused value) (source : String) (lines : List String) :
    ∃ ranges, ofAttributes attrs source lines =
        .ok ⟨LineRange.select ranges (numbered lines), []⟩ ∧
      ∀ n, ranges.any (·.contains n) = true ↔ Covered value n := by
  obtain ⟨ranges, hranges, hlength, hcovers⟩ :=
    ofTokens_of_not_refused fun token htoken hrefused => h ⟨token, htoken, hrefused⟩
  refine ⟨ranges, ?_, hcovers⟩
  unfold ofAttributes
  dsimp only
  rw [hvalue, Option.getD_some, parse, hranges]
  -- there are as many ranges as tokens, so that the tags are not looked at
  cases ranges with
  | nil => exact absurd (List.length_eq_zero_iff.1 hlength.symm) htokens
  | cons range rest => rfl

/-- What an include selects by number: written ranges are read back, and the lines are those that
some token covers, in the order of the file, whatever the tags. The lines depend on nothing but the
set of numbers that the tokens cover. Where a number is refused nothing is read. -/
theorem lines_denote {attrs : Table String} {value : String}
    (hvalue : attrs.get? "lines" = some value) (source : String) (lines : List String) :
    (∀ ranges : List (Nat × Option Nat), Spells ranges value.toList →
      ((∀ range ∈ ranges, Fits range) → parse value = .ok (ranges.map ofBounds)) ∧
      ((∃ range ∈ ranges, ¬ Fits range) → ∃ e, parse value = .error e)) ∧
    (tokens value ≠ [] →
      (LineRange.Refused value → ∃ e, ofAttributes attrs source lines = .error e) ∧
      (¬ LineRange.Refused value →
        (∃ selected, ofAttributes attrs source lines = .ok ⟨selected, []⟩ ∧
          selected.Pairwise (fun l m => l.1 < m.1) ∧
          ∀ n text, (n, text) ∈ selected ↔
            0 < n ∧ lines[n - 1]? = some text ∧ Covered value n) ∧
        ∀ (attrs' : Table String) (source' value' : String), attrs'.get? "lines" = some value' →
          tokens value' ≠ [] → ¬ LineRange.Refused value' →
          (∀ n, 0 < n → n ≤ lines.length → (Covered value n ↔ Covered value' n)) →
          ofAttributes attrs' source' lines = ofAttributes attrs source lines)) := by
  refine ⟨fun ranges h => parse_of_spells h, fun htokens => ⟨fun hrefused => ?_, fun h => ?_⟩⟩
  · obtain ⟨e, he⟩ := exists_error_of_tokens hrefused
    refine ⟨e, ?_⟩
    unfold ofAttributes
    dsimp only
    rw [hvalue, Option.getD_some, parse, he]
  · obtain ⟨ranges, hselect, hcovers⟩ := exists_select hvalue htokens h source lines
    refine ⟨⟨_, hselect, (pairwise_numbered lines).filter _, fun n text => ?_⟩, ?_⟩
    · rw [LineRange.select, List.mem_filter, hcovers, mem_numbered_iff]
      constructor
      · rintro ⟨⟨i, rfl, hline⟩, hcovered⟩
        exact ⟨Nat.succ_pos i, hline, hcovered⟩
      · rintro ⟨hpos, hline, hcovered⟩
        exact ⟨⟨n - 1, (Nat.succ_pred_eq_of_pos hpos).symm, hline⟩, hcovered⟩
    · -- of the other value only the set of the numbers that it covers matters
      intro attrs' source' value' hvalue' htokens' h' hsame
      obtain ⟨ranges', hselect', hcovers'⟩ := exists_select hvalue' htokens' h' source' lines
      have hfilter : LineRange.select ranges' (numbered lines) =
          LineRange.select ranges (numbered lines) := by
        refine List.filter_congr ?_
        rintro ⟨n, text⟩ hline
        obtain ⟨i, rfl, hi⟩ := mem_numbered_iff.1 hline
        have hlength : i + 1 ≤ lines.length := (List.getElem?_eq_some_iff.1 hi).1
        refine Bool.eq_iff_iff.2 ?_
        rw [hcovers, hcovers']
        exact (hsame (i + 1) (Nat.succ_pos i) hlength).symm
      rw [hselect, hselect', hfilter]

/-- Two overlapping ranges, one without an end, are read back, and with a tag beside them they
select what the one range around them does. -/
theorem lines_denote_overlapping :
    let attrs : Table String := [("lines", "2.. ; 1..3"), ("tag", "a")]
    attrs.get? "lines" = some "2.. ; 1..3" ∧
      parse "2.. ; 1..3" = .ok [⟨2, none⟩, ⟨1, some 3⟩] ∧
      ofAttributes [("lines", "1..")] "g" ["x", "y", "z"] =
        ofAttributes attrs "f" ["x", "y", "z"] := by
  intro attrs
  have hvalue : attrs.get? "lines" = some "2.. ; 1..3" := rfl
  obtain ⟨hread, hsets⟩ := lines_denote hvalue "f" ["x", "y", "z"]
  refine ⟨hvalue, (hread [(2, none), (1, some 3)] ?_).1 ?_, ?_⟩
  · exact .cons (2, none) [] [' '] rfl (by decide) (by decide)
      (.last (1, some 3) [' '] [] (by decide) rfl)
  · decide +kernel
  · refine ((hsets (by decide)).2 (by decide)).2 _ "g" "1.." rfl (by decide) (by decide) ?_
    intro n hpos hn
    have hall : ∀ n < 4, 0 < n → (Covered "2.. ; 1..3" n ↔ Covered "1.." n) := by decide
    exact hall n (Nat.lt_succ_of_le hn) hpos

/-- A token covers a line, and yet there is no selection, if an information separator stands before
its last number. -/
theorem refused_selection :
    tokens "1..\x1c5" ≠ [] ∧ Covered "1..\x1c5" 1 ∧
      ofAttributes [("lines", "1..\x1c5")] "f" ["a"] = .error (.notAnInteger 10 "\x1c5") :=
  ⟨by decide, by decide, rfl⟩

end Selection

end Transclude
