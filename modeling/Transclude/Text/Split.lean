/-!
# Cutting texts

Cutting a text at separators, and looking for a text inside another.

## Main definitions

* `Text.after?`  : what follows a given beginning.
* `Text.fields`  : the pieces between separators; there is one more piece than separators.
* `Text.cut`     : the part before the first separator and the part after it.
* `Text.cutText?` : the same for a separator of several characters.
* `Text.replaced` : every occurrence of a text replaced, from left to right.
-/

namespace Transclude.Text

/-- What follows `p` in a text that begins with `p`. -/
def after? : List Char → List Char → Option (List Char)
  | [], s => some s
  | _ :: _, [] => none
  | p :: ps, c :: cs => if p = c then after? ps cs else none

/-- A text begins with `p` exactly if it is `p` and the rest. -/
theorem after?_eq_some_iff {p s r : List Char} : after? p s = some r ↔ s = p ++ r := by
  induction p generalizing s with
  | nil => simp [after?]
  | cons a ps ih =>
    cases s with
    | nil => simp [after?]
    | cons c cs =>
      by_cases h : a = c
      · subst h; simp [after?, ih]
      · simp [after?, h, Ne.symm h]

/-- The pieces of a text between the characters that satisfy `sep`. -/
def fields (sep : Char → Bool) : List Char → List (List Char)
  | [] => [[]]
  | c :: cs =>
    if sep c then [] :: fields sep cs
    else match fields sep cs with
      | [] => [[c]]
      | piece :: pieces => (c :: piece) :: pieces

/-- There is at least one piece. -/
theorem fields_ne_nil (sep : Char → Bool) (s : List Char) : fields sep s ≠ [] := by
  cases s with
  | nil => simp [fields]
  | cons c cs =>
    unfold fields
    split
    · simp
    · split <;> simp

/-- No piece has a separator in it. -/
theorem sep_eq_false_of_mem_fields {sep : Char → Bool} {s piece : List Char}
    (h : piece ∈ fields sep s) : ∀ c ∈ piece, sep c = false := by
  induction s generalizing piece with
  | nil => simp_all [fields]
  | cons c cs ih =>
    unfold fields at h
    split at h
    · rcases List.mem_cons.1 h with rfl | h
      · simp
      · exact ih h
    · rename_i hc
      split at h
      · rename_i hnil
        exact absurd hnil (fields_ne_nil sep cs)
      · rename_i first pieces hcs
        rcases List.mem_cons.1 h with rfl | h
        · intro x hx
          rcases List.mem_cons.1 hx with rfl | hx
          · exact eq_false_of_ne_true hc
          · exact ih (by simp [hcs]) x hx
        · exact ih (by simp [hcs, h])

/-- A text without separators is its only piece. -/
theorem fields_eq_singleton {sep : Char → Bool} {s : List Char} (h : ∀ c ∈ s, sep c = false) :
    fields sep s = [s] := by
  induction s with
  | nil => rfl
  | cons c cs ih => simp [fields, h c (by simp), ih fun x hx => h x (by simp [hx])]

/-- The pieces before a separator and those after it. -/
theorem fields_append {sep : Char → Bool} {c : Char} (hc : sep c = true) (s t : List Char) :
    fields sep (s ++ c :: t) = fields sep s ++ fields sep t := by
  induction s with
  | nil => simp [fields, hc]
  | cons a s ih =>
    by_cases ha : sep a = true
    · simp [fields, ha, ih]
    · rw [List.cons_append, fields, if_neg ha, ih, fields, if_neg ha]
      cases hs : fields sep s with
      | nil => exact absurd hs (fields_ne_nil sep s)
      | cons piece pieces => rfl

/-- Pieces without separators, with a separator between neighbours, are cut apart again. -/
theorem fields_intercalate {sep : Char → Bool} {c : Char} (hc : sep c = true)
    {pieces : List (List Char)} (hne : pieces ≠ [])
    (h : ∀ piece ∈ pieces, ∀ x ∈ piece, sep x = false) :
    fields sep (List.intercalate [c] pieces) = pieces := by
  induction pieces with
  | nil => exact absurd rfl hne
  | cons piece pieces ih =>
    have hpiece := fields_eq_singleton (h piece (by simp))
    cases pieces with
    | nil => rw [List.intercalate_singleton, hpiece]
    | cons next pieces =>
      rw [List.intercalate_cons_cons, List.append_assoc, List.singleton_append,
        fields_append hc, hpiece, ih (by simp) fun p hp => h p (by simp [hp])]
      rfl

/-- A text is its pieces with the separator between neighbours, if there is only one separator. -/
theorem intercalate_fields {sep : Char → Bool} {c : Char} (hsep : ∀ x, sep x = true → x = c)
    (s : List Char) : List.intercalate [c] (fields sep s) = s := by
  induction s with
  | nil => rfl
  | cons a s ih =>
    unfold fields
    split
    · rename_i ha
      obtain ⟨piece, pieces, hfields⟩ := List.exists_cons_of_ne_nil (fields_ne_nil sep s)
      rw [hfields] at ih ⊢
      rw [List.intercalate_cons_cons, ih, hsep a ha]
      rfl
    · split
      · rename_i hfields
        exact absurd hfields (fields_ne_nil sep s)
      · rename_i piece pieces hfields
        rw [hfields] at ih
        rw [List.intercalate_cons_cons_left, ih]

/-- The part of a text before the first character that satisfies `sep`, and, if there is one, the
part after it. -/
def cut (sep : Char → Bool) : List Char → List Char × Option (List Char)
  | [] => ([], none)
  | c :: cs =>
    if sep c then ([], some cs)
    else ((c :: (cut sep cs).1), (cut sep cs).2)

/-- A cut is at the first separator. -/
theorem cut_eq_some_iff {sep : Char → Bool} {s before after : List Char} :
    cut sep s = (before, some after) ↔
      ∃ c, sep c = true ∧ (∀ x ∈ before, sep x = false) ∧ s = before ++ c :: after := by
  induction s generalizing before with
  | nil => simp [cut]
  | cons a rest ih =>
    unfold cut
    by_cases ha : sep a = true
    · rw [if_pos ha]
      constructor
      · intro h
        simp only [Prod.mk.injEq, Option.some.injEq] at h
        obtain ⟨rfl, rfl⟩ := h
        exact ⟨a, ha, by simp, rfl⟩
      · rintro ⟨c, -, hb, hs⟩
        cases before with
        | nil =>
          simp only [List.nil_append, List.cons.injEq] at hs
          rw [hs.2]
        | cons b before =>
          simp only [List.cons_append, List.cons.injEq] at hs
          have := hb b (by simp)
          rw [← hs.1, ha] at this
          cases this
    · rw [if_neg ha]
      constructor
      · intro h
        simp only [Prod.mk.injEq] at h
        obtain ⟨h1, h2⟩ := h
        obtain ⟨c, hc, hb, hs⟩ := ih.1 (Prod.ext rfl h2)
        refine ⟨c, hc, fun x hx => ?_, by rw [← h1, List.cons_append, ← hs]⟩
        rw [← h1] at hx
        rcases List.mem_cons.1 hx with rfl | hx
        · simpa using ha
        · exact hb x hx
      · rintro ⟨c, hc, hb, hs⟩
        cases before with
        | nil =>
          simp only [List.nil_append, List.cons.injEq] at hs
          exact absurd (hs.1 ▸ hc) ha
        | cons b before =>
          simp only [List.cons_append, List.cons.injEq] at hs
          rw [ih.2 ⟨c, hc, fun x hx => hb x (by simp [hx]), hs.2⟩, hs.1]

/-- A text without separators is not cut. -/
theorem cut_of_plain {sep : Char → Bool} {s : List Char} (h : ∀ x ∈ s, sep x = false) :
    cut sep s = (s, none) := by
  induction s with
  | nil => rfl
  | cons a s ih =>
    rw [cut, if_neg (ne_true_of_eq_false (h a List.mem_cons_self)), ih fun x hx => h x (.tail a hx)]

/-- The parts of a text before and after the first occurrence of `sep`. -/
def cutText? (sep : List Char) : List Char → Option (List Char × List Char)
  | [] => (after? sep []).map fun rest => ([], rest)
  | c :: cs =>
    match after? sep (c :: cs) with
    | some rest => some ([], rest)
    | none => (cutText? sep cs).map fun (before, rest) => (c :: before, rest)

/-- The text with `skip` characters passed over and then every occurrence of `old` replaced by
`new`; occurrences are taken from left to right and do not overlap. -/
def replacedFrom (old new : List Char) : Nat → List Char → List Char
  | _, [] => []
  | skip + 1, _ :: cs => replacedFrom old new skip cs
  | 0, c :: cs =>
    match after? old (c :: cs) with
    | some _ => new ++ replacedFrom old new (old.length - 1) cs
    | none => c :: replacedFrom old new 0 cs

/-- The text with every occurrence of the non-empty text `old` replaced by `new`. -/
def replaced (old new s : List Char) : List Char := replacedFrom old new 0 s

/-- The texts with `sep` between neighbours. -/
def joined (sep : List Char) : List (List Char) → List Char
  | [] => []
  | [s] => s
  | s :: rest => s ++ sep ++ joined sep rest

theorem joined_cons (sep s : List Char) {rest : List (List Char)} (h : rest ≠ []) :
    joined sep (s :: rest) = s ++ sep ++ joined sep rest := by
  cases rest with
  | nil => exact absurd rfl h
  | cons next rest => rfl

/-- The separator stands between texts that are joined and more of them. -/
theorem joined_append (sep : List Char) {texts more : List (List Char)} (htexts : texts ≠ [])
    (hmore : more ≠ []) :
    joined sep (texts ++ more) = joined sep texts ++ sep ++ joined sep more := by
  induction texts with
  | nil => exact absurd rfl htexts
  | cons s rest ih =>
    cases rest with
    | nil => exact joined_cons sep s hmore
    | cons next rest =>
      have hne := List.cons_ne_nil next rest
      rw [List.cons_append, joined_cons sep s (List.append_ne_nil_of_left_ne_nil hne more), ih hne,
        joined_cons sep s hne]
      simp only [List.append_assoc]

/-- Joined texts go on as the last of them does. -/
theorem joined_concat_append (sep : List Char) (texts : List (List Char)) (s t : List Char) :
    joined sep (texts ++ [s ++ t]) = joined sep (texts ++ [s]) ++ t := by
  by_cases h : texts = []
  · subst h
    rfl
  · rw [joined_append sep h (List.cons_ne_nil _ []), joined_append sep h (List.cons_ne_nil _ []),
      List.append_assoc]
    rw [List.append_assoc, List.append_assoc]
    rfl

/-- Joined texts are cut into the pieces of each, if what joins them is a separator. -/
theorem fields_joined {sep : Char → Bool} {c : Char} (hc : sep c = true) {texts : List (List Char)}
    (hne : texts ≠ []) : fields sep (joined [c] texts) = texts.flatMap (fields sep) := by
  induction texts with
  | nil => exact absurd rfl hne
  | cons s rest ih =>
    cases rest with
    | nil => simp [joined]
    | cons next rest =>
      have hnext : joined [c] (s :: next :: rest) = s ++ c :: joined [c] (next :: rest) := by
        simp [joined]
      rw [hnext, fields_append hc, ih (List.cons_ne_nil next rest)]
      exact List.flatMap_cons.symm

end Transclude.Text
