import Mathlib.Algebra.Order.Ring.Int
import Mathlib.Data.List.Induction
import Transclude.Proofs.Comparisons

/-!
# Quoted operands

A text between double quotes stands for itself in an expression, unless a comparison is in it. An
expression is cut at its first comparison before quotes are looked at, so that a comparison inside
the left operand is the one that is evaluated: what stands before it is no number and counts as
zero, and what stands after it is an operand of its own.

## Main definitions

* `Operand.quoted`     : a text between double quotes.
* `Relation.FirstIn`   : the first comparison in a text.
* `Expression.quoting` : two quoted texts with a comparison between them.

## Main statements

* `Relation.exists_firstIn`     : a text with a comparison in it has a first one.
* `Number.leadingInt_append`, `Number.leadingReal_append` : a number ends where a quote stands.
* `Expression.evaluate_quoting` : the answer of a comparison of quoted texts.
-/

namespace Transclude

open Transclude.Text

/-! ## The first comparison in a text -/

namespace Relation

/-- Whether a comparison is somewhere in a text. -/
def Occurs (s : List Char) : Prop := ∃ relation : Relation, relation.symbol <:+: s

/-- The first comparison in a text, with what stands before it and after it: no comparison starts
earlier, and none that starts there is longer. -/
structure FirstIn (s before : List Char) (relation : Relation) (after : List Char) : Prop where
  split : s = before ++ (relation.symbol ++ after)
  first : ∀ t, t <:+ before → t ≠ [] → ¬ Starts (t ++ (relation.symbol ++ after))
  longest : ∀ other : Relation, other.symbol <+: relation.symbol ++ after →
    other.symbol <+: relation.symbol

/-- Of the comparisons that a text starts with one is the longest. -/
theorem exists_longest {s : List Char} (h : Starts s) : ∃ relation : Relation, ∃ after,
    s = relation.symbol ++ after ∧
      ∀ other : Relation, other.symbol <+: s → other.symbol <+: relation.symbol := by
  have hlength : ∀ relation : Relation, relation.symbol.length ≤ 2 := by
    intro relation
    cases relation <;> decide
  by_cases hwide : ∃ relation : Relation, relation.symbol <+: s ∧ relation.symbol.length = 2
  · obtain ⟨relation, ⟨after, hafter⟩, htwo⟩ := hwide
    refine ⟨relation, after, hafter.symm, fun other hother => ?_⟩
    exact List.prefix_of_prefix_length_le hother ⟨after, hafter⟩ (htwo ▸ hlength other)
  · obtain ⟨relation, after, hafter⟩ := h
    refine ⟨relation, after, hafter.symm, fun other hother => ?_⟩
    have hother2 : other.symbol.length ≠ 2 := fun htwo => hwide ⟨other, hother, htwo⟩
    have hone : 1 ≤ relation.symbol.length := by
      cases relation <;> decide
    exact List.prefix_of_prefix_length_le hother ⟨after, hafter⟩
      (by have := hlength other; omega)

/-- A text with a comparison in it has a first one. -/
theorem exists_firstIn {s : List Char} (h : Occurs s) :
    ∃ before relation after, FirstIn s before relation after := by
  induction s with
  | nil =>
    obtain ⟨relation, hinfix⟩ := h
    cases relation <;> cases List.infix_nil.1 hinfix
  | cons c s ih =>
    by_cases hhere : Starts (c :: s)
    · obtain ⟨relation, after, heq, hlongest⟩ := exists_longest hhere
      refine ⟨[], relation, after, heq, fun t ht hne => ?_, heq ▸ hlongest⟩
      exact absurd (List.suffix_nil.1 ht) hne
    · obtain ⟨relation, hinfix⟩ := h
      have hlater : relation.symbol <:+: s :=
        (List.infix_cons_iff.1 hinfix).resolve_left fun hstart => hhere ⟨relation, hstart⟩
      obtain ⟨before, found, after, hfirst⟩ := ih ⟨relation, hlater⟩
      refine ⟨c :: before, found, after, by rw [hfirst.split]; rfl, fun t ht hne => ?_,
        hfirst.longest⟩
      rcases List.suffix_cons_iff.1 ht with rfl | ht
      · rwa [List.cons_append, ← hfirst.split]
      · exact hfirst.first t ht hne

/-- A quote does not take part in a comparison. -/
theorem prefix_of_quote {relation : Relation} {s rest : List Char}
    (h : relation.symbol <+: s ++ '"' :: rest) : relation.symbol <+: s := by
  rcases List.prefix_or_prefix_of_prefix h (List.prefix_append s _) with hshort | ⟨t, ht⟩
  · exact hshort
  · cases t with
    | nil => exact ⟨[], by rw [← ht, List.append_nil, List.append_nil]⟩
    | cons c t =>
      -- the quote would be a character of the comparison
      rw [← ht, List.prefix_append_right_inj, List.cons_prefix_cons] at h
      have hquote : '"' ∈ relation.symbol := by
        rw [← ht, h.1]
        exact List.mem_append_right s List.mem_cons_self
      cases relation <;> exact absurd hquote (by decide)

theorem Starts.of_quote {s rest : List Char} (h : Starts (s ++ '"' :: rest)) : Starts s :=
  h.imp fun _ => prefix_of_quote

theorem not_starts_quote (rest : List Char) : ¬ Starts ('"' :: rest) := fun h => by
  obtain ⟨relation, hnil⟩ := Starts.of_quote (s := []) h
  cases relation <;> cases List.prefix_nil.1 hnil

end Relation

/-! ## Numbers before a quote -/

namespace Number

variable (s rest : List Char)

theorem takeWhile_quote {p : Char → Bool} (hp : p '"' = false) :
    (s ++ '"' :: rest).takeWhile p = s.takeWhile p ∧
      (s ++ '"' :: rest).dropWhile p = s.dropWhile p ++ '"' :: rest := by
  induction s with
  | nil => simp [hp]
  | cons c s ih =>
    by_cases hc : p c = true
    · simp [hc, ih]
    · simp [hc]

theorem splitSign_quote :
    splitSign (s ++ '"' :: rest) = ((splitSign s).1, (splitSign s).2 ++ '"' :: rest) := by
  unfold splitSign
  cases s with
  | nil => rfl
  | cons c s =>
    by_cases hminus : c = '-'
    · subst hminus; rfl
    · by_cases hplus : c = '+'
      · subst hplus; rfl
      · simp [hminus, hplus]

theorem consumed_quote (r : List Char) :
    consumed (s ++ '"' :: rest) (r ++ '"' :: rest) = consumed s r := by
  have hlength : (s ++ '"' :: rest).length - (r ++ '"' :: rest).length = s.length - r.length := by
    simp only [List.length_append]
    omega
  rw [consumed, consumed, hlength, List.take_append_of_le_length (Nat.sub_le _ _)]

/-- An integer ends where a quote stands. -/
theorem leadingInt_quote : leadingInt (s ++ '"' :: rest) = leadingInt s := by
  obtain ⟨hblank, htrim⟩ := takeWhile_quote s rest (p := isBlank) (by decide)
  obtain ⟨hdigits, hrest⟩ :=
    takeWhile_quote (splitSign (trimStart s)).2 rest (p := isDigit) (by decide)
  rw [← trimStart, ← trimStart] at htrim
  unfold leadingInt
  dsimp only
  rw [htrim, splitSign_quote]
  dsimp only
  rw [hdigits, hrest, hblank, consumed_quote]

theorem leadingExponent_quote : leadingExponent (s ++ '"' :: rest) =
    ((leadingExponent s).1, (leadingExponent s).2 ++ '"' :: rest) := by
  cases s with
  | nil => rfl
  | cons c s =>
    obtain ⟨hdigits, hrest⟩ := takeWhile_quote (splitSign s).2 rest (p := isDigit) (by decide)
    rw [List.cons_append]
    unfold leadingExponent
    dsimp only
    rw [splitSign_quote]
    dsimp only
    rw [hdigits, hrest]
    split <;> rfl

theorem realPrefix?_quote : realPrefix? (s ++ '"' :: rest) =
    (realPrefix? s).map fun found => (found.1, found.2 ++ '"' :: rest) := by
  obtain ⟨hwhole, hafter⟩ := takeWhile_quote (splitSign s).2 rest (p := isDigit) (by decide)
  unfold realPrefix?
  dsimp only
  rw [splitSign_quote]
  dsimp only
  rw [hwhole, hafter]
  generalize (splitSign s).2.dropWhile isDigit = later
  by_cases hpoint : ∃ after, later = '.' :: after
  · -- the digits after a point end before the quote, too
    obtain ⟨after, rfl⟩ := hpoint
    obtain ⟨hfraction, hmore⟩ := takeWhile_quote after rest (p := isDigit) (by decide)
    simp only [List.cons_append]
    rw [hfraction, hmore, leadingExponent_quote]
    split <;> rfl
  · have hplain : ∀ after, later ≠ '.' :: after := fun after h => hpoint ⟨after, h⟩
    have hquote : ∀ after, later ++ '"' :: rest ≠ '.' :: after := fun after h => by
      cases later with
      | nil => cases h
      | cons c later =>
        obtain ⟨rfl, -⟩ := List.cons.inj h
        exact hplain later rfl
    simp only [leadingExponent_quote]
    split <;> rfl

/-- So does a double. -/
theorem leadingReal_quote : leadingReal (s ++ '"' :: rest) = leadingReal s := by
  obtain ⟨hblank, htrim⟩ := takeWhile_quote s rest (p := isBlank) (by decide)
  rw [← trimStart, ← trimStart] at htrim
  unfold leadingReal
  rw [htrim, realPrefix?_quote, hblank]
  cases realPrefix? (trimStart s) with
  | none => rfl
  | some found =>
    simp only [Option.map_some, consumed_quote]

end Number

/-! ## Operands -/

namespace Operand

/-- A text between double quotes. -/
def quoted (s : String) : String := String.ofList ('"' :: s.toList ++ ['"'])

/-- Whether a text may stand between double quotes as it is: it has no double quote, no line feed
and no opening brace. -/
def IsQuotable (s : String) : Prop := ∀ c ∈ s.toList, c ∉ ['"', '\n', '{']

instance (s : String) : Decidable (IsQuotable s) := List.decidableBAll _ s.toList

/-- The number that a text starts with, as a double or as an integer. -/
def numberOf (point : Bool) (s : List Char) : Except NumeralError Operand :=
  if point then (Number.leadingReal s).map .real else (Number.leadingInt s).map .int

/-- A quoted text stands for itself. -/
theorem ofText_quoted (a : AttributeSet) {s : String} (h : IsQuotable s) :
    ofText a (quoted s) = .ok (.text s) := by
  have hbrace : '{' ∉ s.toList := fun hmem => h _ hmem (by decide)
  have htrim : trim ('"' :: s.toList ++ ['"']) = '"' :: s.toList ++ ['"'] :=
    trim_enclosed (by decide) [] s.toList
  have hunquoted : unquoted? ('"' :: s.toList ++ ['"']) = some s.toList := by
    simp [unquoted?]
  rw [ofText, quoted, String.toList_ofList, htrim, hunquoted]
  dsimp only
  rw [String.ofList_toList, AttributeSet.substitute_of_plain a hbrace]

/-- A text with a quote in it, which no quotes enclose, is a number. -/
theorem plain_of_quote {s : List Char} (h : '"' ∈ s) :
    plain s = numberOf (decide ('.' ∈ s)) s := by
  have hempty : ¬ s.isEmpty = true := fun hempty => by
    rw [List.isEmpty_iff.1 hempty] at h
    cases h
  have htrue : ¬ (s == "true".toList) = true := fun heq => by
    rw [eq_of_beq heq] at h
    exact absurd h (by decide)
  have hfalse : ¬ (s == "false".toList) = true := fun heq => by
    rw [eq_of_beq heq] at h
    exact absurd h (by decide)
  have hblank : ¬ allBlank s = true := fun hblank =>
    absurd (List.all_eq_true.1 hblank _ h) (by decide)
  rw [plain, if_neg hempty, if_neg htrue, if_neg hfalse, if_neg hblank, numberOf]
  simp only [List.contains_iff_mem, decide_eq_true_eq]

/-- A number ends where a quote stands. -/
theorem numberOf_quote (point : Bool) (s rest : List Char) :
    numberOf point (s ++ '"' :: rest) = numberOf point s := by
  rw [numberOf, numberOf, Number.leadingReal_quote, Number.leadingInt_quote]

/-- What no quotes enclose, and has a quote in it and no braces, is a number. -/
theorem ofText_of_quote (a : AttributeSet) {s : List Char}
    (hunquoted : unquoted? (trim s) = none) (hquote : '"' ∈ trim s) (hbrace : '{' ∉ trim s) :
    ofText a (String.ofList s) = numberOf (decide ('.' ∈ trim s)) (trim s) := by
  have hplain : '{' ∉ (String.ofList (trim s)).toList := by
    rwa [String.toList_ofList]
  rw [ofText, String.toList_ofList, hunquoted]
  dsimp only
  rw [AttributeSet.substitute_of_plain a hplain, String.toList_ofList, plain_of_quote hquote]

/-- Zero as a double is a quotient. -/
theorem exists_ofBinary64_zero :
    ∃ den, 0 < den ∧ Extended.ofBinary64 (.zero false) = .ratio 0 den := by
  have hfinite : ∀ e, ∃ den, 0 < den ∧ Binary64.ratio false 0 e = (0, den) := by
    intro e
    unfold Binary64.ratio
    dsimp only
    split
    · exact ⟨1, by decide, by simp⟩
    · exact ⟨Nat.pow 2 (-e).toNat, Nat.pow_pos (by decide), by simp⟩
  obtain ⟨den, hden, hratio⟩ := hfinite Binary64.minExponent
  exact ⟨den, hden, by rw [Binary64.zero, Extended.ofBinary64, hratio]⟩

/-- Zero is the same number as a double and as an integer. -/
theorem holds_zero (relation : Relation) (v : Operand) :
    holds relation (.real (.zero false)) v = holds relation (.int 0) v := by
  obtain ⟨den, hden, hzero⟩ := exists_ofBinary64_zero
  have hcompare : ∀ x : Extended, (Extended.ratio 0 den).compare x = (Extended.ratio 0 1).compare x := by
    intro x
    cases x with
    | negInf | posInf => rfl
    | ratio num other =>
      -- a positive factor changes no sign
      have hden' : (0 : Int) < den := by omega
      have hless : 0 < num * den ↔ 0 < num := mul_pos_iff_of_pos_right hden'
      have hequal : 0 = num * den ↔ 0 = num := by
        rw [eq_comm, Int.mul_eq_zero, or_iff_left hden'.ne', eq_comm]
      show compareOfLessAndEq (0 * (other : Int)) (num * den) =
        compareOfLessAndEq (0 * (other : Int)) (num * (1 : Nat))
      simp [compareOfLessAndEq, hless, hequal]
  cases v <;> simp [holds, order?, number?, hzero, hcompare, Extended.ofInt]

/-- What stands before the first comparison, from the quote on, is zero. -/
theorem ofText_before (a : AttributeSet) {s : List Char} (hquote : '"' ∉ s) (hbrace : '{' ∉ s) :
    ∃ zero, ofText a (String.ofList ('"' :: s)) = .ok zero ∧
      ∀ relation v, holds relation zero v = holds relation (.int 0) v := by
  -- the blanks at the end go away, and the quote stays
  obtain ⟨x, hx, hinside⟩ : ∃ x, trim ('"' :: s) = '"' :: x ∧ x ⊆ s := by
    have hstart : trimStart ('"' :: s) = '"' :: s := rfl
    obtain ⟨rest, hrest⟩ := trimEnd_prefix ('"' :: s)
    cases hend : trimEnd ('"' :: s) with
    | nil =>
      have hblank := List.dropWhile_eq_nil_iff.1 (List.reverse_eq_nil_iff.1 hend) '"' (by simp)
      exact absurd hblank (by decide)
    | cons c x =>
      rw [hend] at hrest
      obtain ⟨rfl, rfl⟩ := List.cons.inj hrest
      exact ⟨x, by rw [trim, hstart, hend], List.subset_append_left x rest⟩
  have hunquoted : unquoted? ('"' :: x) = none := by
    have hlast : x.getLast? ≠ some '"' := fun hlast =>
      hquote (hinside (List.mem_of_getLast? hlast))
    simp [unquoted?, hlast]
  have hplain : '{' ∉ '"' :: x := fun hmem => by
    rcases List.mem_cons.1 hmem with heq | hmem
    · cases heq
    · exact hbrace (hinside hmem)
  rw [ofText_of_quote a (hx ▸ hunquoted) (hx ▸ List.mem_cons_self) (hx ▸ hplain), hx]
  have hnumber : ∀ point, numberOf point ('"' :: x) = numberOf point [] :=
    fun point => numberOf_quote point [] x
  rw [hnumber]
  cases decide ('.' ∈ '"' :: x) with
  | false => exact ⟨.int 0, rfl, fun _ _ => rfl⟩
  | true => exact ⟨.real (.zero false), rfl, holds_zero⟩

theorem holds_text_eq (s t : String) : holds .eq (.text s) (.text t) = decide (s = t) := by
  rw [holds_of_order? (o := Ord.compare s t) rfl, Relation.admits, Bool.eq_iff_iff, beq_iff_eq,
    Std.compare_eq_iff_eq, decide_eq_true_eq]

theorem holds_text_ne (s t : String) : holds .ne (.text s) (.text t) = decide (s ≠ t) := by
  rw [decide_not, ← holds_text_eq]
  exact (laws_holds (.text s) (.text t)).ne

/-- Spaces at the start are blanks. -/
theorem trim_dropWhile_space (s : List Char) : trim (s.dropWhile (· == ' ')) = trim s := by
  have hstart : trimStart (s.dropWhile (· == ' ')) = trimStart s := by
    induction s with
    | nil => rfl
    | cons c s ih =>
      by_cases hspace : c = ' '
      · subst hspace
        exact ih
      · rw [List.dropWhile_cons_of_neg (by simpa using hspace)]
  rw [trim, hstart, trim]

/-- What stands after the first comparison is the text that the quotes after it enclose, or the
number that it starts with. -/
theorem ofText_after (a : AttributeSet) {s x : List Char} (hquote : '"' ∉ s)
    (hbrace : '{' ∉ s) (hx : '{' ∉ x) :
    ofText a (String.ofList ((s ++ '"' :: (x ++ ['"'])).dropWhile (· == ' '))) =
      if allBlank s then .ok (.text (String.ofList x))
      else numberOf (decide ('.' ∈ s ++ x)) (trimStart s) := by
  have htrim : trim ((s ++ '"' :: (x ++ ['"'])).dropWhile (· == ' ')) =
      trimStart s ++ '"' :: (x ++ ['"']) := by
    rw [trim_dropWhile_space, trim_enclosed (by decide)]
  by_cases hblank : allBlank s = true
  · -- the quote after the blanks opens a text
    have hunquoted : unquoted? ('"' :: (x ++ ['"'])) = some x := by
      simp [unquoted?]
    have hplain : '{' ∉ (String.ofList x).toList := by
      rwa [String.toList_ofList]
    rw [if_pos hblank, ofText, String.toList_ofList, htrim, trimStart_eq_nil_iff.2 hblank,
      List.nil_append, hunquoted]
    dsimp only
    rw [AttributeSet.substitute_of_plain a hplain]
  · obtain ⟨c, rest, hstart⟩ := List.exists_cons_of_ne_nil (mt trimStart_eq_nil_iff.1 hblank)
    have hinside : trimStart s ⊆ s := (List.dropWhile_suffix isBlank).subset
    have hc : c ≠ '"' := by
      rintro rfl
      exact hquote (hinside (hstart ▸ List.mem_cons_self))
    have hunquoted : unquoted? (trimStart s ++ '"' :: (x ++ ['"'])) = none := by
      -- the text ends with a quote, and begins with something else
      have hlast : (rest ++ '"' :: (x ++ ['"'])).getLast? = some '"' := by
        rw [← List.cons_append, ← List.append_assoc, List.getLast?_concat]
      rw [hstart, List.cons_append, unquoted?, hlast]
      simp [Ne.symm hc]
    have hplain : '{' ∉ trimStart s ++ '"' :: (x ++ ['"']) := by
      simp [mem_trimStart_iff, hbrace, hx, show isBlank '{' = false by decide]
    have hpoint : '.' ∈ trimStart s ++ '"' :: (x ++ ['"']) ↔ '.' ∈ s ++ x := by
      simp [mem_trimStart_iff, show isBlank '.' = false by decide]
    rw [if_neg hblank, ofText_of_quote a (htrim ▸ hunquoted) (by simp [htrim]) (htrim ▸ hplain),
      htrim, numberOf_quote]
    simp only [hpoint]

end Operand

/-! ## Comparisons of quoted texts -/

namespace Expression

/-- Two quoted texts with a comparison between them, and a space before and after it. -/
def quoting (s : String) (relation : Relation) (t : String) : String :=
  written (Operand.quoted s) relation (Operand.quoted t) 1 1

/-- What follows the first quoted text. -/
def quotedTail (relation : Relation) (t : String) : List Char :=
  ' ' :: (relation.symbol ++ ' ' :: '"' :: t.toList)

theorem toList_quoting (s : String) (relation : Relation) (t : String) :
    (quoting s relation t).toList =
      '"' :: (s.toList ++ '"' :: (quotedTail relation t ++ ['"'])) := by
  simp [quoting, written, Operand.quoted, quotedTail, List.replicate]

/-- Nothing is blank around quoted texts. -/
theorem trim_quoting (s : String) (relation : Relation) (t : String) :
    trim (quoting s relation t).toList = (quoting s relation t).toList := by
  have htrim := trim_enclosed (c := '"') (by decide) [] (s.toList ++ '"' :: quotedTail relation t)
  simpa [toList_quoting, trimStart] using htrim

/-- The spaces at the end of a text. -/
theorem exists_spaces (s : List Char) : ∃ lead n, s = lead ++ List.replicate n ' ' ∧
    ∀ c ∈ lead.getLast?, c ≠ ' ' := by
  induction s using List.reverseRecOn with
  | nil => exact ⟨[], 0, rfl, by simp⟩
  | append_singleton s c ih =>
    by_cases hc : c = ' '
    · obtain ⟨lead, n, hs, hlead⟩ := ih
      refine ⟨lead, n + 1, ?_, hlead⟩
      rw [hs, hc, List.append_assoc, ← List.replicate_succ']
    · refine ⟨s ++ [c], 0, by simp, fun x hx => ?_⟩
      rw [List.getLast?_concat] at hx
      cases hx
      exact hc

section

variable {s t : String} (hs : Operand.IsQuotable s) (ht : Operand.IsQuotable t)

include ht in
theorem break_not_mem_quotedTail (relation : Relation) :
    '\n' ∉ quotedTail relation t ++ ['"'] := by
  have hsymbol : '\n' ∉ relation.symbol := by
    cases relation <;> decide
  have hbreak : '\n' ∉ t.toList := fun hmem => ht _ hmem (by decide)
  simp [quotedTail, hsymbol, hbreak]

include hs ht

/-- Quoted texts are read as operands if no comparison is in the left one. -/
theorem ofText?_quoting (h : ¬ Relation.Occurs s.toList) (relation : Relation) :
    ofText? (quoting s relation t).toList =
      some ⟨Operand.quoted s, relation, Operand.quoted t⟩ := by
  have hbreak : '\n' ∉ '"' :: (s.toList ++ ['"']) := by
    have hinside : '\n' ∉ s.toList := fun hmem => hs _ hmem (by decide)
    simp [hinside]
  have hsilent : ∀ u, u <:+ '"' :: (s.toList ++ ['"']) → u ≠ [] →
      ¬ Relation.Starts (u ++ (quotedTail relation t ++ ['"'])) := by
    intro u hu hne
    rcases List.suffix_cons_iff.1 hu with rfl | hu
    · exact Relation.not_starts_quote _
    · -- with the quote after it a comparison would be one of the text
      obtain ⟨v, rfl, hv⟩ := (List.suffix_concat_iff.1 hu).resolve_left hne
      rintro hstarts
      rw [List.append_assoc, List.singleton_append] at hstarts
      obtain ⟨other, hother⟩ := hstarts.of_quote
      exact h ⟨other, hother.isInfix.trans hv.isInfix⟩
  have htail : tail? (quotedTail relation t ++ ['"']) =
      some (relation, '"' :: t.toList ++ ['"']) := by
    have hrest : quotedTail relation t ++ ['"'] =
        List.replicate 1 ' ' ++ (relation.symbol ++ ' ' :: ('"' :: t.toList ++ ['"'])) := by
      simp [quotedTail]
    have hright : rightOf? (' ' :: ('"' :: t.toList ++ ['"'])) =
        some ('"' :: t.toList ++ ['"']) := by
      have hinside : '\n' ∉ ' ' :: ('"' :: t.toList ++ ['"']) := by
        have hbreak : '\n' ∉ t.toList := fun hmem => ht _ hmem (by decide)
        simp [hbreak]
      exact rightOf?_eq (List.cons_ne_nil _ _) hinside
    have hspace : ∀ c ∈ (' ' :: ('"' :: t.toList ++ ['"'])).head?, c ≠ '=' := by
      rintro c ⟨⟩
      decide
    rw [hrest]
    exact tail?_symbol (longest_of_head relation hspace) hright 1
  have htext : (quoting s relation t).toList =
      '"' :: (s.toList ++ ['"']) ++ (quotedTail relation t ++ ['"']) := by
    simp [toList_quoting]
  have hlast : ∀ c ∈ ('"' :: (s.toList ++ ['"'])).getLast?, c ≠ ' ' := by
    rw [← List.cons_append, List.getLast?_concat]
    rintro c ⟨⟩
    decide
  rw [htext, ofText?_append ?_ (List.cons_ne_nil _ _) hlast hbreak hsilent htail]
  · rfl
  · rw [← htext]
    exact trim_quoting s relation t

/-- A comparison in the left text is the one that is read. -/
theorem ofText?_quoting_of_first {before after : List Char} {found : Relation}
    (h : Relation.FirstIn s.toList before found after) (relation : Relation) :
    ∃ lead, lead ⊆ s.toList ∧ ofText? (quoting s relation t).toList =
      some ⟨String.ofList ('"' :: lead), found, String.ofList
        ((after ++ '"' :: (quotedTail relation t ++ ['"'])).dropWhile (· == ' '))⟩ := by
  obtain ⟨lead, n, hbefore, hlead⟩ := exists_spaces before
  have hsplit : s.toList = lead ++ (List.replicate n ' ' ++ (found.symbol ++ after)) := by
    rw [h.split, hbefore, List.append_assoc]
  refine ⟨lead, hsplit ▸ List.subset_append_left lead _, ?_⟩
  have hinside : '\n' ∉ s.toList := fun hmem => hs _ hmem (by decide)
  have htail : tail? (List.replicate n ' ' ++ (found.symbol ++
      (after ++ '"' :: (quotedTail relation t ++ ['"'])))) =
      some (found, (after ++ '"' :: (quotedTail relation t ++ ['"'])).dropWhile (· == ' ')) := by
    refine tail?_symbol (fun other hother => ?_) (rightOf?_eq ?_ ?_) n
    · rw [← List.append_assoc] at hother
      exact h.longest other (Relation.prefix_of_quote hother)
    · -- the quote is no space
      intro hnil
      have hspace := List.dropWhile_eq_nil_iff.1 hnil '"' (by simp)
      exact absurd hspace (by decide)
    · have hafter : '\n' ∉ after := fun hmem =>
        hinside (hsplit ▸ by simp [hmem])
      have hrest := break_not_mem_quotedTail ht relation
      simp [hafter, hrest]
  have hsilent : ∀ u, u <:+ '"' :: lead → u ≠ [] →
      ¬ Relation.Starts (u ++ (List.replicate n ' ' ++ (found.symbol ++
        (after ++ '"' :: (quotedTail relation t ++ ['"']))))) := by
    intro u hu hne
    rcases List.suffix_cons_iff.1 hu with rfl | ⟨v, hv⟩
    · exact Relation.not_starts_quote _
    · -- a comparison would start before the first one
      have hsuffix : u ++ List.replicate n ' ' <:+ before :=
        ⟨v, by rw [hbefore, ← hv, List.append_assoc]⟩
      intro hstarts
      have hquote : Relation.Starts ((u ++ List.replicate n ' ' ++ (found.symbol ++ after)) ++
          '"' :: (quotedTail relation t ++ ['"'])) := by
        simpa using hstarts
      exact h.first _ hsuffix (by simp [hne]) hquote.of_quote
  have htext : (quoting s relation t).toList = '"' :: lead ++ (List.replicate n ' ' ++
      (found.symbol ++ (after ++ '"' :: (quotedTail relation t ++ ['"'])))) := by
    simp [toList_quoting, hsplit]
  have hlast : ∀ c ∈ ('"' :: lead).getLast?, c ≠ ' ' := by
    cases lead with
    | nil =>
      rintro c ⟨⟩
      decide
    | cons c lead => simpa using hlead
  have hbreak : '\n' ∉ '"' :: lead := by
    have hlead : '\n' ∉ lead := fun hmem => hinside (hsplit ▸ List.mem_append_left _ hmem)
    simp [hlead]
  rw [htext, ofText?_append ?_ (List.cons_ne_nil _ _) hlast hbreak hsilent htail]
  rw [← htext]
  exact trim_quoting s relation t

end

/-- The comparison of two quoted texts says whether they are the same, if no comparison is in the
left one. If one is, the first such comparison is the one that is answered, whatever the comparison
of the texts asks: zero is compared with the number that what follows it starts with, a double if
there is a point in what follows or in the right text; and if only blanks follow it, zero is
compared with a text, from which it differs. -/
theorem evaluate_quoting (a : AttributeSet) {s t : String} (hs : Operand.IsQuotable s)
    (ht : Operand.IsQuotable t) :
    (¬ Relation.Occurs s.toList →
      evaluate a (some (quoting s .eq t)) = .ok (decide (s = t)) ∧
      evaluate a (some (quoting s .ne t)) = .ok (decide (s ≠ t))) ∧
    (Relation.Occurs s.toList → ∃ before found after,
      Relation.FirstIn s.toList before found after ∧ ∀ relation,
        evaluate a (some (quoting s relation t)) =
          if allBlank after then .ok (found == .ne)
          else match Operand.numberOf (decide ('.' ∈ after ++ t.toList)) (trimStart after) with
            | .ok v => .ok (Operand.holds found (.int 0) v)
            | .error problem => .error (.numeral problem)) := by
  constructor
  · intro hnone
    have hevaluate : ∀ relation, evaluate a (some (quoting s relation t)) =
        .ok (Operand.holds relation (.text s) (.text t)) := by
      intro relation
      rw [evaluate_of_ofText? a (ofText?_quoting hs ht hnone relation),
        Operand.ofText_quoted a hs, Operand.ofText_quoted a ht]
    rw [hevaluate, hevaluate, Operand.holds_text_eq, Operand.holds_text_ne]
    exact ⟨rfl, rfl⟩
  · intro hsome
    obtain ⟨before, found, after, hfirst⟩ := Relation.exists_firstIn hsome
    refine ⟨before, found, after, hfirst, fun relation => ?_⟩
    obtain ⟨lead, hlead, hread⟩ := ofText?_quoting_of_first hs ht hfirst relation
    have hafter : after ⊆ s.toList := by
      rw [hfirst.split]
      exact fun c hc => List.mem_append_right _ (List.mem_append_right _ hc)
    have htail : '{' ∉ quotedTail relation t := by
      have hbrace : '{' ∉ t.toList := fun hmem => ht _ hmem (by decide)
      have hsymbol : '{' ∉ relation.symbol := by
        cases relation <;> decide
      simp [quotedTail, hbrace, hsymbol]
    have hpoint : '.' ∈ after ++ quotedTail relation t ↔ '.' ∈ after ++ t.toList := by
      have hsymbol : '.' ∉ relation.symbol := by
        cases relation <;> decide
      simp [quotedTail, hsymbol]
    obtain ⟨zero, hzero, hholds⟩ := Operand.ofText_before a
      (fun hmem => hs _ (hlead hmem) (by decide)) (fun hmem => hs _ (hlead hmem) (by decide))
    have hright := Operand.ofText_after a (fun hmem => hs _ (hafter hmem) (by decide))
      (fun hmem => hs _ (hafter hmem) (by decide)) htail
    rw [evaluate_of_ofText? a hread]
    dsimp only
    rw [hzero, hright]
    simp only [hpoint]
    by_cases hblank : allBlank after = true
    · -- a number and a text are of different kinds
      rw [if_pos hblank, if_pos hblank]
      dsimp only
      rw [hholds, Operand.holds_of_apart (by simp [Operand.kind])]
    · rw [if_neg hblank, if_neg hblank]
      cases Operand.numberOf (decide ('.' ∈ after ++ t.toList)) (trimStart after) with
      | ok v => exact congrArg Except.ok (hholds found v)
      | error problem => rfl

/-- Texts with an equals sign in them are compared as they are. A text with a comparison in it is
not, and the answer is that of the comparison in it. -/
theorem evaluate_quoting_sign :
    let a : AttributeSet := { values := AttributeSet.builtin }
    Operand.IsQuotable "b = 1" ∧ Operand.IsQuotable "1 < 2" ∧
      ¬ Relation.Occurs "b = 1".toList ∧ Relation.Occurs "1 < 2".toList ∧
      evaluate a (some "\"b = 1\" == \"1 < 2\"") = .ok false ∧
      evaluate a (some "\"b = 1\" != \"1 < 2\"") = .ok true ∧
      ∃ before found after, Relation.FirstIn "1 < 2".toList before found after ∧
        evaluate a (some "\"1 < 2\" != \"1 < 2\"") =
          if allBlank after then .ok (found == .ne)
          else match Operand.numberOf (decide ('.' ∈ after ++ "1 < 2".toList))
              (trimStart after) with
            | .ok v => .ok (Operand.holds found (.int 0) v)
            | .error problem => .error (.numeral problem) := by
  intro a
  have hleft : Operand.IsQuotable "b = 1" := by decide
  have hright : Operand.IsQuotable "1 < 2" := by decide
  have hnone : ¬ Relation.Occurs "b = 1".toList := by
    rintro ⟨relation, hinfix⟩
    cases relation <;> exact absurd hinfix (by decide)
  have hsome : Relation.Occurs "1 < 2".toList := ⟨.lt, by decide⟩
  obtain ⟨heq, hne⟩ := (evaluate_quoting a hleft hright).1 hnone
  obtain ⟨before, found, after, hfirst, hanswer⟩ := (evaluate_quoting a hright hright).2 hsome
  exact ⟨hleft, hright, hnone, hsome, heq, hne, before, found, after, hfirst, hanswer .ne⟩

/-- Two texts that differ, and that a comparison of them finds to be equal, as there is a comparison
in the left one. -/
theorem evaluate_quoting_comparison :
    let a : AttributeSet := { values := AttributeSet.builtin }
    Operand.IsQuotable "a==b" ∧ Operand.IsQuotable "c" ∧ "a==b" ≠ "c" ∧
      evaluate a (some "\"a==b\" == \"c\"") = .ok true := by
  intro a
  refine ⟨by decide, by decide, by decide, ?_⟩
  have htrue : (evaluate a (some "\"a==b\" == \"c\"")).toOption = some true := by
    decide +kernel
  cases hevaluate : evaluate a (some "\"a==b\" == \"c\"") with
  | ok answer =>
    rw [hevaluate] at htrue
    exact congrArg Except.ok (Option.some.inj htrue)
  | error problem =>
    rw [hevaluate] at htrue
    cases htrue

end Expression

end Transclude
