import Mathlib.Data.List.TakeWhile
import Transclude.Configuration.Variable

/-!
# Values of variables

Every text stands for a value, but for an integer that is refused: blanks around it are allowed in
general, but not the information separators among them, and it may not have too many digits.

## Main definitions

* `Variable.Refused` : whether the integer that a text is is refused.

## Main statements

* `Number.wholeInt_of_clean`  : an integer without separators around it is read.
* `Number.clean_of_wholeInt`  : no other text with a separator is.
* `Variable.exists_error_iff` : a text has no value just if it is an integer that is refused.
-/

namespace Transclude

open Transclude.Text

namespace Text

/-! ## Blanks and digits -/

/-- A trimmed text has no blanks at its start. -/
theorem takeWhile_trim (s : List Char) : (trim s).takeWhile isBlank = [] := by
  cases htrim : trim s with
  | nil => rfl
  | cons c rest =>
    obtain ⟨after, hstart⟩ : c :: rest <+: trimStart s := by
      rw [← htrim]
      exact trimEnd_prefix _
    have hc := List.head?_dropWhile_not isBlank s
    rw [← trimStart, ← hstart] at hc
    exact List.takeWhile_cons_of_neg (ne_true_of_eq_false hc)

/-- No capital of a run is a digit. -/
theorem digit_not_capital : ∀ r ∈ caseRuns, ∀ z ∈ zeroDigits, r.last < z ∨ z + 9 < r.first := by
  decide +kernel

/-- A digit has its value by the zero of its script. -/
theorem exists_zero_of_isDigit {c : Char} (h : isDigit c = true) :
    ∃ z ∈ zeroDigits, z ≤ c.toNat ∧ c.toNat < z + 10 ∧ digitValue? c = some (c.toNat - z) := by
  obtain ⟨value, hvalue⟩ := Option.isSome_iff_exists.1 h
  obtain ⟨z, hfind, rfl⟩ := Option.map_eq_some_iff.1 hvalue
  have hbounds := List.find?_some hfind
  simp only [Bool.and_eq_true, decide_eq_true_eq] at hbounds
  exact ⟨z, List.mem_of_find?_eq_some hfind, hbounds.1, hbounds.2, hvalue⟩

/-- A digit is its own lower case. -/
theorem small_of_isDigit {c : Char} (h : isDigit c = true) : Small c := by
  obtain ⟨z, hz, hbounds⟩ := exists_zero_of_isDigit h
  have hcapital : ∀ r ∈ caseRuns, ¬ (r.first ≤ c.toNat ∧ c.toNat ≤ r.last) := by
    intro r hr hin
    have hapart := digit_not_capital r hr z hz
    omega
  unfold Small lowerChar
  split
  · refine if_neg fun hletter => ?_
    simp only [Bool.and_eq_true, decide_eq_true_eq, Char.le_def] at hletter
    exact hcapital ⟨65, 90, 1, 97⟩ List.mem_cons_self hletter
  · rw [if_neg]
    · rw [List.find?_eq_none.2]
      intro r hr hcovers
      simp only [CaseRun.covers, Bool.and_eq_true, decide_eq_true_eq] at hcovers
      exact hcapital r hr hcovers.1
    · intro hdotted
      rw [eq_of_beq hdotted] at h
      exact absurd h (by decide)

end Text

namespace Number

theorem mem_separators {c : Char} (h : isSeparator c = true) :
    c ∈ ['\x1c', '\x1d', '\x1e', '\x1f'] := by
  simp only [isSeparator, Bool.and_eq_true, decide_eq_true_eq, Char.le_def] at h
  have hfirst : 28 ≤ c.toNat := h.1
  have hlast : c.toNat ≤ 31 := h.2
  have hcode : c.toNat = 28 ∨ c.toNat = 29 ∨ c.toNat = 30 ∨ c.toNat = 31 := by omega
  rw [← Char.ofNat_toNat c]
  rcases hcode with hcode | hcode | hcode | hcode <;> rw [hcode] <;> decide

/-- A separator is no part of an integer. -/
theorem separator_apart : ∀ c ∈ ['\x1c', '\x1d', '\x1e', '\x1f'],
    c ≠ '-' ∧ c ≠ '+' ∧ ((digitIn? 10 c).isSome || c == '_') = false := by
  simp only [List.mem_cons, List.not_mem_nil, or_false]
  rintro c (rfl | rfl | rfl | rfl) <;> decide

/-- A digit is a part of an integer. -/
theorem isSome_digitIn? {c : Char} (h : isDigit c = true) : (digitIn? 10 c).isSome = true := by
  obtain ⟨z, -, hzero, hnine, hvalue⟩ := exists_zero_of_isDigit h
  have hsmall : c.toNat - z < 10 := by omega
  simp [digitIn?, hvalue, Option.filter, hsmall]

/-! ## Integers with padding around them -/

/-- No other characters than padding go away. -/
theorem mem_unpadded_iff {c : Char} (hc : isPadding c = false) {s : List Char} :
    c ∈ unpadded s ↔ c ∈ s := by
  have hdrop : ∀ s : List Char, c ∈ s.dropWhile isPadding ↔ c ∈ s := by
    intro s
    refine ⟨fun hmem => (List.dropWhile_suffix isPadding).subset hmem, fun hmem => ?_⟩
    rw [← List.takeWhile_append_dropWhile (p := isPadding) (l := s)] at hmem
    refine (List.mem_append.1 hmem).resolve_left fun hpadding => ?_
    have hall := List.all_eq_true.1 List.all_takeWhile c hpadding
    rw [hc] at hall
    cases hall
  rw [unpadded, List.mem_reverse, hdrop, List.mem_reverse, hdrop]

/-- Where no separator is, padding is what is blank. -/
theorem unpadded_of_clean {s : List Char} (h : ∀ c ∈ s, isSeparator c = false) :
    unpadded s = trim s := by
  have hdrop : ∀ t : List Char, (∀ c ∈ t, isSeparator c = false) →
      t.dropWhile isPadding = t.dropWhile isBlank := by
    intro t ht
    induction t with
    | nil => rfl
    | cons c rest ih =>
      obtain ⟨hc, hrest⟩ := List.forall_mem_cons.1 ht
      have hsame : isPadding c = isBlank c := by simp [isPadding, hc]
      rw [List.dropWhile_cons, List.dropWhile_cons, hsame, ih hrest]
  have hstart : ∀ c ∈ (trimStart s).reverse, isSeparator c = false := fun c hc =>
    h c ((List.dropWhile_suffix isBlank).subset (List.mem_reverse.1 hc))
  rw [unpadded, hdrop s h, ← trimStart, hdrop _ hstart]
  rfl

theorem afterBaseMark_ten (s : List Char) : afterBaseMark 10 s = s := by
  unfold afterBaseMark
  split
  · exact if_neg (by simp [baseMark?])
  · rfl

theorem mem_splitSign {c : Char} {s : List Char} (hminus : c ≠ '-') (hplus : c ≠ '+')
    (h : c ∈ s) : c ∈ (splitSign s).2 := by
  unfold splitSign
  split
  · exact (List.mem_cons.1 h).resolve_left hminus
  · exact (List.mem_cons.1 h).resolve_left hplus
  · exact h

/-- A text with a separator is no integer. -/
theorem clean_of_wholeInt {text : String} {i : Int} (h : wholeInt text = .ok i) :
    ∀ c ∈ text.toList, isSeparator c = false := by
  intro c hc
  refine eq_false_of_ne_true fun hseparator => ?_
  obtain ⟨hminus, hplus, hno⟩ := separator_apart c (mem_separators hseparator)
  have hpadding : isPadding c = false := by simp [isPadding, hseparator]
  have hrest := mem_splitSign hminus hplus ((mem_unpadded_iff hpadding).2 hc)
  unfold wholeInt wholeIntIn at h
  simp only [afterBaseMark_ten] at h
  split at h
  · cases h
  · split at h
    · cases h
    · split at h
      · cases h
      · -- the digits reach to the end, so the separator would be one of them
        rename_i hreach
        have hrun := (List.takeWhile_prefix _).eq_of_length
          (Nat.le_antisymm (List.takeWhile_prefix _).length_le (Nat.le_of_not_lt hreach))
        have hdigit := List.takeWhile_eq_self_iff.1 hrun c hrest
        rw [hno] at hdigit
        cases hdigit

/-- Digits have no underscores among them. -/
theorem separates_of_digits {digits : List Char} (h : ∀ c ∈ digits, isDigit c = true) :
    separates digits = true := by
  have hunderscore : isDigit '_' ≠ true := by decide
  fun_induction separates digits with
  | case1 => rfl
  | case2 | case3 => exact absurd (h '_' (by simp)) hunderscore
  | case4 c rest _ _ ih => exact ih fun c hc => h c (List.mem_cons_of_mem _ hc)

/-- An integer with nothing but padding around it is read, if it has not too many digits. -/
theorem wholeInt_of_clean {text : String} (hint : Variable.isInt (trim text.toList) = true)
    (hclean : ∀ c ∈ text.toList, isSeparator c = false) :
    wholeInt text = (ofDigits (splitSign (trim text.toList)).2).map
      (signed (splitSign (trim text.toList)).1) := by
  simp only [Variable.isInt, Bool.and_eq_true, Bool.not_eq_true', List.all_eq_true] at hint
  obtain ⟨hsome, hdigits⟩ := hint
  have hrun : (splitSign (trim text.toList)).2.takeWhile
      (fun c => (digitIn? 10 c).isSome || c == '_') = (splitSign (trim text.toList)).2 :=
    List.takeWhile_eq_self_iff.2 fun c hc => by simp [isSome_digitIn? (hdigits c hc)]
  have hfirst : ((splitSign (trim text.toList)).2.head? == some '_') = false := by
    refine beq_eq_false_iff_ne.2 fun hhead => ?_
    exact absurd (hdigits '_' (List.mem_of_mem_head? hhead)) (by decide)
  have hfilter : (splitSign (trim text.toList)).2.filter (· != '_') =
      (splitSign (trim text.toList)).2 := by
    refine List.filter_eq_self.2 fun c hc => bne_iff_ne.2 fun hunderscore => ?_
    exact absurd (hdigits '_' (hunderscore ▸ hc)) (by decide)
  unfold wholeInt wholeIntIn
  simp only [unpadded_of_clean hclean, afterBaseMark_ten, hrun, hsome, hfirst,
    separates_of_digits hdigits, hfilter, ofDigitsIn]
  cases ofDigits (splitSign (trim text.toList)).2 with
  | error e => simp [Except.map]
  | ok n => simp [Except.map]

end Number

namespace Variable

/-! ## Values -/

variable {text : String}

/-- Whether the integer that a text is is refused: an information separator is beside it, or it has
too many digits. -/
def Refused (text : String) : Prop :=
  isInt (trim text.toList) = true ∧
    (text.toList.any Number.isSeparator = true ∨
      Number.maxDigits < (Number.splitSign (trim text.toList)).2.length)

instance (text : String) : Decidable (Refused text) := inferInstanceAs (Decidable (_ ∧ _))

/-- An integer is not one of the words that stand for values. -/
theorem ne_word_of_isInt {s : List Char} (h : isInt s = true) :
    s ≠ "null".toList ∧ lower s ≠ "true".toList ∧ lower s ≠ "false".toList := by
  have hdigits := h
  simp only [isInt, Bool.and_eq_true, List.all_eq_true] at hdigits
  have hsmall : ∀ c ∈ s, Small c := by
    intro c hc
    by_cases hminus : c = '-'
    · rw [hminus]
      decide
    · by_cases hplus : c = '+'
      · rw [hplus]
        decide
      · exact small_of_isDigit (hdigits.2 c (Number.mem_splitSign hminus hplus hc))
  have hlower : lower s = s := lowerFrom_of_small hsmall
  rw [hlower]
  refine ⟨?_, ?_, ?_⟩ <;> rintro rfl <;> exact absurd h (by decide)

/-- The double that a trimmed text starts with is read. -/
theorem exists_leadingReal_trim (s : List Char) : ∃ x, Number.leadingReal (trim s) = .ok x := by
  unfold Number.leadingReal
  split
  · exact ⟨_, rfl⟩
  · rw [takeWhile_trim]
    exact ⟨_, rfl⟩

/-- An integer is refused if it is not clean, or too long. -/
theorem exists_error_wholeInt_iff (hint : isInt (trim text.toList) = true) :
    (∃ e, Number.wholeInt text = .error e) ↔ Refused text := by
  by_cases hclean : ∀ c ∈ text.toList, Number.isSeparator c = false
  · have hnone : text.toList.any Number.isSeparator = false := by
      simpa using hclean
    rw [Number.wholeInt_of_clean hint hclean, Refused, Number.ofDigits]
    by_cases hmany : Number.maxDigits < (Number.splitSign (trim text.toList)).2.length
    · simp [hmany, hint, Except.map]
    · simp [hmany, hnone, Except.map]
  · refine iff_of_true ?_ ⟨hint, .inl (by simpa using hclean)⟩
    cases hread : Number.wholeInt text with
    | error e => exact ⟨e, rfl⟩
    | ok i => exact absurd (Number.clean_of_wholeInt hread) hclean

/-- A text has no value just if it is an integer that is refused. -/
theorem exists_error_iff : (∃ e, value text = .error e) ↔ Refused text := by
  by_cases hint : isInt (trim text.toList) = true
  · obtain ⟨hnull, htrue, hfalse⟩ := ne_word_of_isInt hint
    rw [← exists_error_wholeInt_iff hint, value, if_neg hnull, if_neg htrue, if_neg hfalse, if_pos hint]
    cases Number.wholeInt text <;> simp [Except.map]
  · refine iff_of_false ?_ fun h => hint h.1
    rintro ⟨e, he⟩
    obtain ⟨x, hreal⟩ := exists_leadingReal_trim text.toList
    rw [value, if_neg hint, hreal] at he
    -- every other kind of text has a value
    repeat' split at he
    all_goals cases he

end Variable

end Transclude
