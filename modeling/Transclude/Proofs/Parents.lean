import Transclude.Proofs.Paths

/-!
# Parents of paths

The parent of a path is put together from the slashes at its start and all its parts but the last,
where empty parts and dots do not count. Its own parts are these, after parts that lead nowhere, and
its text is found in that of the path.

## Main definitions

* `Path.ArePieces` : whether texts are parts of a path, and none of them is empty.

## Main statements

* `Path.parts_assemble`  : the parts of a path that is put together from slashes and parts.
* `Path.parts_parent`    : the parts of a parent.
* `Path.sublist_parent`  : the characters of a parent are found in the path.
-/

namespace Transclude

open Transclude.Text

namespace Path

/-- The parts of two paths with a slash between them. -/
theorem parts_append (front path : String) :
    parts (front ++ "/" ++ path) = parts front ++ parts path := by
  have hslash : (front ++ "/" ++ path).toList = front.toList ++ '/' :: path.toList := by
    rw [String.append_assoc, String.toList_append, String.toList_append]
    rfl
  rw [parts, hslash, fields_append (by rfl), List.map_append]
  rfl

/-- A relative path is read after the same parts whatever it is. -/
theorem exists_parts_join (cwd : String) :
    ∃ front, ∀ path, isAbsolute path = false → parts (join cwd path) = front ++ parts path := by
  by_cases hempty : cwd = ""
  · refine ⟨[], fun path hpath => ?_⟩
    rw [join, hpath, if_neg (by simp), if_pos (by simp [hempty]), hempty]
    simp
  · by_cases hslash : cwd.toList.getLast? = some '/'
    · obtain ⟨front, hfront⟩ := List.getLast?_eq_some_iff.1 hslash
      have hcwd : cwd = String.ofList front ++ "/" := by
        rw [← String.toList_inj, hfront, String.toList_append, String.toList_ofList]
        rfl
      refine ⟨parts (String.ofList front), fun path hpath => ?_⟩
      rw [join, hpath, if_neg (by simp), if_pos (by simp [hslash]), hcwd, parts_append]
    · refine ⟨parts cwd, fun path hpath => ?_⟩
      rw [join, hpath, if_neg (by simp), if_neg (by simp [hempty, hslash]), parts_append]

/-- A path without a slash at its start has no empty parts there. -/
theorem leadingSlashes_of_relative {path : String} (h : isAbsolute path = false) :
    leadingSlashes path = 0 := by
  unfold leadingSlashes
  unfold isAbsolute at h
  split <;> simp_all

/-- Whether texts are parts of a path between its slashes, and none of them is empty. -/
def ArePieces (ns : List String) : Prop :=
  ∀ name ∈ ns, name ≠ "" ∧ ∀ c ∈ name.toList, isSlash c = false

/-- The text of a path that is assembled from slashes and at least one part. -/
theorem toList_assemble_of_ne_nil (n : Nat) {ns : List String} (hne : ns ≠ [])
    (h : ArePieces ns) :
    (assemble n ns).toList =
      List.replicate n '/' ++ List.intercalate ['/'] (ns.map String.toList) := by
  cases n with
  | succ n => exact toList_assemble (Nat.succ_pos n) ns
  | zero =>
    obtain ⟨name, rest, rfl⟩ := List.exists_cons_of_ne_nil hne
    have hname : name.toList ≠ [] := fun hnil =>
      (h name List.mem_cons_self).1 (String.toList_eq_nil_iff.1 hnil)
    have htext : "/".intercalate (name :: rest) ≠ "" := by
      intro hempty
      have hnil : List.intercalate ['/'] ((name :: rest).map String.toList) = [] := by
        rw [← String.toList_eq_nil_iff, String.toList_intercalate] at hempty
        exact hempty
      cases rest with
      | nil =>
        rw [List.map_cons, List.map_nil, List.intercalate_singleton] at hnil
        exact hname hnil
      | cons next rest =>
        rw [List.map_cons, List.map_cons, List.intercalate_cons_cons] at hnil
        simp at hnil
    have hassemble : assemble 0 (name :: rest) = "/".intercalate (name :: rest) := by
      rw [assemble, if_neg (by simpa using htext)]
      simp
    rw [hassemble, String.toList_intercalate]
    rfl

/-- A slash at the start of a text has an empty piece before it. -/
theorem fields_replicate (n : Nat) (s : List Char) :
    fields isSlash (List.replicate n '/' ++ s) = List.replicate n [] ++ fields isSlash s := by
  induction n with
  | zero => rfl
  | succ n ih =>
    have hslash : isSlash '/' = true := rfl
    rw [List.replicate_succ, List.cons_append, List.replicate_succ, List.cons_append, ← ih]
    exact fields_append hslash [] _

/-- The parts of a path that is assembled from slashes and at least one part. -/
theorem parts_assemble (n : Nat) {ns : List String} (hne : ns ≠ []) (h : ArePieces ns) :
    parts (assemble n ns) = List.replicate n "" ++ ns := by
  have hpieces : ∀ piece ∈ ns.map String.toList, ∀ c ∈ piece, isSlash c = false := by
    intro piece hpiece
    obtain ⟨name, hname, rfl⟩ := List.mem_map.1 hpiece
    exact (h name hname).2
  have hslash : isSlash '/' = true := rfl
  have hsplit := fields_intercalate hslash (by simpa using hne) hpieces
  have hmap : (ns.map String.toList).map String.ofList = ns := by simp
  show (fields isSlash (assemble n ns).toList).map String.ofList = _
  rw [toList_assemble_of_ne_nil n hne h, fields_replicate, hsplit, List.map_append, hmap,
    List.map_replicate]

/-- A path has an empty part for each of the slashes at its start that count. -/
theorem exists_parts (path : String) :
    ∃ rest, path.toList = List.replicate (leadingSlashes path) '/' ++ rest ∧
      parts path = List.replicate (leadingSlashes path) "" ++
        (fields isSlash rest).map String.ofList := by
  have hparts : ∀ n rest, path.toList = List.replicate n '/' ++ rest →
      parts path = List.replicate n "" ++ (fields isSlash rest).map String.ofList := by
    intro n rest hpath
    show (fields isSlash path.toList).map String.ofList = _
    rw [hpath, fields_replicate, List.map_append, List.map_replicate]
  have hrest : ∃ rest, path.toList = List.replicate (leadingSlashes path) '/' ++ rest := by
    unfold leadingSlashes
    split
    · rename_i rest hpath
      exact ⟨'/' :: '/' :: rest, hpath⟩
    · rename_i rest _ hpath
      exact ⟨rest, hpath⟩
    · rename_i rest _ _ hpath
      exact ⟨rest, hpath⟩
    · exact ⟨path.toList, rfl⟩
  obtain ⟨rest, hpath⟩ := hrest
  exact ⟨rest, hpath, hparts _ rest hpath⟩

/-- The parts that a collapsed path keeps. -/
theorem arePieces_collapsedParts (path : String) : ArePieces (collapsedParts path) := by
  intro name hname
  obtain ⟨hpart, hkept⟩ := List.mem_filter.1 hname
  simp only [Bool.and_eq_true, bne_iff_ne] at hkept
  exact ⟨hkept.1, no_slash_of_mem_parts hpart⟩

/-- Some of the pieces of a text with slashes between them are found in the text. -/
theorem sublist_intercalate {some all : List (List Char)} (h : some.Sublist all)
    (hne : some ≠ []) :
    (List.intercalate ['/'] some).Sublist (List.intercalate ['/'] all) := by
  induction h with
  | slnil => exact absurd rfl hne
  | @cons l₁ l₂ piece h ih =>
    obtain ⟨next, rest, rfl⟩ : ∃ next rest, l₂ = next :: rest := by
      cases l₂ with
      | nil => exact absurd (List.sublist_nil.1 h) hne
      | cons next rest => exact ⟨next, rest, rfl⟩
    rw [List.intercalate_cons_cons]
    exact (ih hne).trans (List.sublist_append_right _ _)
  | @cons_cons l₁ l₂ piece h ih =>
    cases l₁ with
    | nil =>
      rw [List.intercalate_singleton]
      cases l₂ with
      | nil => simp
      | cons next rest =>
        rw [List.intercalate_cons_cons, List.append_assoc]
        exact List.sublist_append_left _ _
    | cons first l₁ =>
      obtain ⟨next, rest, rfl⟩ : ∃ next rest, l₂ = next :: rest := by
        cases l₂ with
        | nil => cases h
        | cons next rest => exact ⟨next, rest, rfl⟩
      rw [List.intercalate_cons_cons, List.intercalate_cons_cons]
      exact (List.Sublist.refl _).append (ih (by simp))

/-- The parent of a path has no other characters than the path, in the same order, unless it is the
directory in which the path is read. -/
theorem sublist_parent (path : String) :
    parent path = "." ∨ (parent path).toList.Sublist path.toList := by
  obtain ⟨rest, hpath, hparts⟩ := exists_parts path
  by_cases hnone : (collapsedParts path).dropLast = []
  · rw [parent, hnone]
    cases hslashes : leadingSlashes path with
    | zero => exact .inl rfl
    | succ n =>
      right
      rw [hslashes] at hpath
      rw [toList_assemble (Nat.succ_pos n), hpath]
      simp
  · right
    have hpieces : ArePieces (collapsedParts path).dropLast :=
      fun name hname => arePieces_collapsedParts path name ((List.dropLast_sublist _).subset hname)
    have hkept : collapsedParts path =
        ((fields isSlash rest).map String.ofList).filter fun part => part != "" && part != "." := by
      rw [collapsedParts, hparts, List.filter_append, List.filter_replicate]
      simp
    -- the parts of the parent are some of those of the path
    have hsublist : (parts (parent path)).Sublist (parts path) := by
      rw [parent, parts_assemble _ hnone hpieces, hparts]
      refine (List.Sublist.refl _).append ((List.dropLast_sublist _).trans ?_)
      rw [hkept]
      exact List.filter_sublist
    have htext : ∀ p : String, p.toList = List.intercalate ['/'] ((parts p).map String.toList) := by
      intro p
      have hfields : (parts p).map String.toList = fields isSlash p.toList := by
        simp only [parts, List.map_map, Function.comp_def, String.toList_ofList, List.map_id']
        rfl
      have honly : ∀ c, isSlash c = true → c = '/' := fun c hc => eq_of_beq hc
      rw [hfields, intercalate_fields honly]
    rw [htext (parent path), htext path]
    refine sublist_intercalate (hsublist.map _) ?_
    simp [parts, fields_ne_nil]

/-- A path that is assembled from parts without a slash before them is relative. -/
theorem isAbsolute_assemble_zero {ns : List String} (hne : ns ≠ []) (h : ArePieces ns) :
    isAbsolute (assemble 0 ns) = false := by
  obtain ⟨name, rest, rfl⟩ := List.exists_cons_of_ne_nil hne
  obtain ⟨hname, hslash⟩ := h name List.mem_cons_self
  obtain ⟨c, cs, hcs⟩ : ∃ c cs, name.toList = c :: cs := by
    cases hlist : name.toList with
    | nil => exact absurd (String.toList_eq_nil_iff.1 hlist) hname
    | cons c cs => exact ⟨c, cs, rfl⟩
  have hc : isSlash c = false := hslash c (by simp [hcs])
  rw [isAbsolute, toList_assemble_of_ne_nil 0 hne h, List.map_cons, hcs,
    List.intercalate_cons_cons_left]
  simpa [isSlash] using hc

/-- Whether a path starts at the root is told by the slashes at its start. -/
theorem isAbsolute_iff (path : String) : isAbsolute path = true ↔ 0 < leadingSlashes path := by
  constructor
  · intro h
    rcases leadingSlashes_of_absolute h with hslashes | hslashes
    · omega
    · omega
  · intro hslashes
    cases habsolute : isAbsolute path with
    | true => rfl
    | false =>
      rw [leadingSlashes_of_relative habsolute] at hslashes
      exact absurd hslashes (Nat.lt_irrefl 0)

/-- A parent starts at the root if the path does. -/
theorem isAbsolute_parent (path : String) : isAbsolute (parent path) = isAbsolute path := by
  cases habsolute : isAbsolute path with
  | true => exact isAbsolute_assemble ((isAbsolute_iff path).1 habsolute) _
  | false =>
    rw [parent, leadingSlashes_of_relative habsolute]
    by_cases hnone : (collapsedParts path).dropLast = []
    · rw [hnone]
      decide +kernel
    · refine isAbsolute_assemble_zero hnone fun name hname => ?_
      exact arePieces_collapsedParts path name ((List.dropLast_sublist _).subset hname)

/-- The parts of a parent are the kept parts of the path but the last, after parts that lead
nowhere. -/
theorem parts_parent (path : String) :
    ∃ pads, (∀ pad ∈ pads, pad = "" ∨ pad = ".") ∧
      parts (parent path) = pads ++ (collapsedParts path).dropLast := by
  by_cases hnone : (collapsedParts path).dropLast = []
  · refine ⟨parts (parent path), ?_, by rw [hnone, List.append_nil]⟩
    rw [parent, hnone]
    intro pad hpad
    cases hslashes : leadingSlashes path with
    | zero =>
      rw [hslashes] at hpad
      have hdot : parts (assemble 0 []) = ["."] := by decide +kernel
      rw [hdot, List.mem_singleton] at hpad
      exact .inr hpad
    | succ n =>
      rw [hslashes, parts, toList_assemble (Nat.succ_pos n)] at hpad
      obtain ⟨piece, hpiece, rfl⟩ := List.mem_map.1 hpad
      have hempty := fields_replicate (n + 1) []
      rw [List.map_nil] at hpiece
      change piece ∈ fields isSlash _ at hpiece
      rw [show List.intercalate ['/'] ([] : List (List Char)) = [] from rfl, hempty] at hpiece
      left
      simp only [List.mem_append, List.mem_replicate, fields, List.mem_singleton] at hpiece
      rcases hpiece with ⟨-, rfl⟩ | rfl
      · rfl
      · rfl
  · refine ⟨List.replicate (leadingSlashes path) "", ?_, ?_⟩
    · intro pad hpad
      exact .inl (List.eq_of_mem_replicate hpad)
    · refine parts_assemble _ hnone fun name hname => ?_
      exact arePieces_collapsedParts path name ((List.dropLast_sublist _).subset hname)

end Path

end Transclude
