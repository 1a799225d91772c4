/-!
# White space

The white-space characters of text, and the functions that remove them from the ends of a text.
White space is the Unicode property of that name together with the four information separators
U+001C to U+001F, so a line break of any kind, a no-break space and an ideographic space all count.

## Main definitions

* `Text.isBlank`   : the character class.
* `Text.trimStart`, `Text.trimEnd`, `Text.trim` : the text without blank characters at its ends.
* `Text.stripped`  : `trim` on strings.
-/

namespace Transclude.Text

/-- Whether the code point of `c` lies in one of the closed `ranges`. -/
def inRanges (ranges : List (Nat × Nat)) (c : Char) : Bool :=
  ranges.any fun r => decide (r.1 ≤ c.toNat) && decide (c.toNat ≤ r.2)

/-- The code points of white space, as closed ranges in increasing order. -/
def blankRanges : List (Nat × Nat) :=
  [(9, 13), (28, 32), (133, 133), (160, 160), (5760, 5760), (8192, 8202), (8232, 8233),
   (8239, 8239), (8287, 8287), (12288, 12288)]

/-- Whether `c` is white space. -/
def isBlank (c : Char) : Bool := inRanges blankRanges c

/-- Everything from the first character that is not blank. -/
def trimStart (s : List Char) : List Char := s.dropWhile isBlank

/-- Everything up to the last character that is not blank. -/
def trimEnd (s : List Char) : List Char := (s.reverse.dropWhile isBlank).reverse

/-- The text without the blank characters at either end. -/
def trim (s : List Char) : List Char := trimEnd (trimStart s)

/-- Whether every character of the text is blank; the empty text is. -/
def allBlank (s : List Char) : Bool := s.all isBlank

/-- The string without the blank characters at either end. -/
def stripped (s : String) : String := String.ofList (trim s.toList)

/-- The string without the blank characters at its end. -/
def strippedEnd (s : String) : String := String.ofList (trimEnd s.toList)

/-- No other characters than blanks go away. -/
theorem mem_trimStart_iff {c : Char} (hc : isBlank c = false) {s : List Char} :
    c ∈ trimStart s ↔ c ∈ s := by
  constructor
  · exact fun hmem => (List.dropWhile_suffix isBlank).subset hmem
  · intro hmem
    rw [← List.takeWhile_append_dropWhile (p := isBlank) (l := s)] at hmem
    refine (List.mem_append.1 hmem).resolve_left fun hblank => ?_
    have := List.all_eq_true.1 List.all_takeWhile c hblank
    rw [hc] at this
    cases this

/-- A text begins with what is left when the blanks at its end are removed. -/
theorem trimEnd_prefix (s : List Char) : trimEnd s <+: s := by
  rw [trimEnd, ← List.reverse_suffix, List.reverse_reverse]
  exact List.dropWhile_suffix _

theorem prefix_of_strippedEnd (s : String) : (strippedEnd s).toList <+: s.toList := by
  rw [strippedEnd, String.toList_ofList]
  exact trimEnd_prefix s.toList

/-- Nothing is left of a text of blanks alone. -/
theorem trimStart_eq_nil_iff {s : List Char} : trimStart s = [] ↔ allBlank s = true := by
  induction s with
  | nil => exact iff_of_true rfl rfl
  | cons c rest ih =>
    by_cases hc : isBlank c = true
    · rw [trimStart, List.dropWhile_cons_of_pos hc, ← trimStart, ih, allBlank, allBlank,
        List.all_cons, hc, Bool.true_and]
    · rw [trimStart, List.dropWhile_cons_of_neg hc]
      simp [allBlank, hc]

/-- What is left of the end of a text is left with another text before it, too. -/
theorem trimEnd_append {s t : List Char} (h : trimEnd t ≠ []) :
    trimEnd (s ++ t) = s ++ trimEnd t := by
  have hne : t.reverse.dropWhile isBlank ≠ [] := fun hnil => h (by rw [trimEnd, hnil]; rfl)
  simp [trimEnd, List.dropWhile_append, hne]

theorem trimStart_eq_self_iff {s : List Char} :
    trimStart s = s ↔ ∀ c ∈ s.head?, isBlank c = false := by
  cases s with
  | nil => simp [trimStart]
  | cons c rest =>
    rw [trimStart, List.head?_cons]
    constructor
    · rintro h x hx
      obtain rfl := Option.some.inj hx
      refine eq_false_of_ne_true fun hblank => ?_
      -- without its first character the text would be as long as with it
      rw [List.dropWhile_cons_of_pos hblank] at h
      have hshort : (rest.dropWhile isBlank).length ≤ rest.length :=
        (List.dropWhile_suffix isBlank).length_le
      rw [h, List.length_cons] at hshort
      omega
    · intro h
      exact List.dropWhile_cons_of_neg (ne_true_of_eq_false (h c rfl))

theorem trimEnd_eq_self_iff {s : List Char} :
    trimEnd s = s ↔ ∀ c ∈ s.getLast?, isBlank c = false := by
  rw [trimEnd, List.reverse_eq_iff, ← List.head?_reverse]
  exact trimStart_eq_self_iff

/-- A text is trimmed if neither end has a blank. -/
theorem trim_eq_self_iff {s : List Char} : trim s = s ↔ trimStart s = s ∧ trimEnd s = s := by
  constructor
  · intro h
    have hstart : (trimStart s).length ≤ s.length := (List.dropWhile_suffix isBlank).length_le
    have hend : (trim s).length ≤ (trimStart s).length := by
      have hreverse : ((trimStart s).reverse.dropWhile isBlank).length ≤
          (trimStart s).reverse.length := (List.dropWhile_suffix isBlank).length_le
      rw [List.length_reverse] at hreverse
      rwa [trim, trimEnd, List.length_reverse]
    have hself : trimStart s = s :=
      (List.dropWhile_suffix isBlank).eq_of_length (Nat.le_antisymm hstart (by rwa [h] at hend))
    exact ⟨hself, by rwa [trim, hself] at h⟩
  · rintro ⟨hstart, hend⟩
    rw [trim, hstart, hend]

/-- Blanks around a trimmed text go away. -/
theorem trim_padded {before s after : List Char} (hbefore : allBlank before = true)
    (hafter : allBlank after = true) (h : trim s = s) : trim (before ++ s ++ after) = s := by
  obtain ⟨hstart, hend⟩ := trim_eq_self_iff.1 h
  have hblank : ∀ c ∈ before, isBlank c = true := List.all_eq_true.1 hbefore
  have hafterEnd : trimEnd (s ++ after) = s := by
    have hreverse : ∀ c ∈ after.reverse, isBlank c = true := fun c hc =>
      List.all_eq_true.1 hafter c (List.mem_reverse.1 hc)
    rw [trimEnd, List.reverse_append, List.dropWhile_append_of_pos hreverse]
    exact hend
  rw [trim, List.append_assoc, trimStart, List.dropWhile_append_of_pos hblank]
  cases s with
  | nil =>
    have hnone : (after ++ []).dropWhile isBlank = [] :=
      List.dropWhile_append_of_pos (List.all_eq_true.1 hafter)
    rw [List.nil_append, ← List.append_nil after, hnone]
    rfl
  | cons c rest =>
    -- the first character of the text is not blank
    have hfirst : (c :: rest ++ after).dropWhile isBlank = c :: rest ++ after := by
      have hc : isBlank c = false := trimStart_eq_self_iff.1 hstart c rfl
      rw [List.cons_append, List.dropWhile_cons_of_neg (ne_true_of_eq_false hc)]
    rw [hfirst, hafterEnd]

/-- A trimmed text stays trimmed with a character at its end that is not blank. -/
theorem trim_concat {s : List Char} {c : Char} (h : trim s = s) (hne : s ≠ [])
    (hc : isBlank c = false) : trim (s ++ [c]) = s ++ [c] := by
  refine trim_eq_self_iff.2 ⟨?_, trimEnd_eq_self_iff.2 ?_⟩
  · obtain ⟨x, rest, rfl⟩ := List.exists_cons_of_ne_nil hne
    have hfirst := trimStart_eq_self_iff.1 (trim_eq_self_iff.1 h).1
    exact trimStart_eq_self_iff.2 hfirst
  · rw [List.getLast?_concat]
    rintro y ⟨⟩
    exact hc

/-- So it does with one at its start. -/
theorem trim_cons {s : List Char} {c : Char} (h : trim s = s) (hne : s ≠ [])
    (hc : isBlank c = false) : trim (c :: s) = c :: s := by
  refine trim_eq_self_iff.2 ⟨trimStart_eq_self_iff.2 ?_, trimEnd_eq_self_iff.2 ?_⟩
  · rintro y ⟨⟩
    exact hc
  · obtain ⟨x, rest, rfl⟩ := List.exists_cons_of_ne_nil hne
    rw [List.getLast?_cons_cons]
    exact trimEnd_eq_self_iff.1 (trim_eq_self_iff.1 h).2

/-- The blanks at the start of a text are those before its first character that is none. -/
theorem trimStart_append_cons {c : Char} (hc : isBlank c = false) (s rest : List Char) :
    trimStart (s ++ c :: rest) = trimStart s ++ c :: rest := by
  induction s with
  | nil => exact List.dropWhile_cons_of_neg (ne_true_of_eq_false hc)
  | cons x s ih =>
    by_cases hx : isBlank x = true
    · rw [List.cons_append, trimStart, List.dropWhile_cons_of_pos hx, ← trimStart, ih, trimStart,
        trimStart, List.dropWhile_cons_of_pos hx]
    · rw [List.cons_append, trimStart, List.dropWhile_cons_of_neg hx, trimStart,
        List.dropWhile_cons_of_neg hx, List.cons_append]

/-- A text that ends with a character that is not blank, and has it somewhere before, loses only the
blanks at its start. -/
theorem trim_enclosed {c : Char} (hc : isBlank c = false) (s x : List Char) :
    trim (s ++ c :: (x ++ [c])) = trimStart s ++ c :: (x ++ [c]) := by
  have hlast : (trimStart s ++ c :: (x ++ [c])).getLast? = some c := by
    rw [← List.cons_append, ← List.append_assoc, List.getLast?_concat]
  rw [trim, trimStart_append_cons hc, trimEnd_eq_self_iff, hlast]
  rintro y ⟨⟩
  exact hc

end Transclude.Text
