import Transclude.Path.Jail

/-!
# Names of normal paths

A path that was made absolute and normal starts with one slash or two, and what follows are names
with single slashes between them. A name is not empty, holds no slash, and is none of the two that
stand for a directory itself and for its parent. If one such path lies in another as texts, the
names of the one begin with those of the other.

## Main definitions

* `Path.IsName` : whether a text is the name of something in a directory.
* `Path.names`  : the parts of a path after the slashes at its start.
* `Path.Rooted` : whether a path is slashes and names.

## Main statements

* `Path.rooted_absolute`   : paths that are made absolute and normal are slashes and names.
* `Path.names_of_isWithin` : a path in a directory has the names of the directory at its start.
-/

namespace Transclude.Path

open Transclude.Text

/-- Whether `c` is the separator of parts. -/
def isSlash (c : Char) : Bool := c == '/'

/-- Whether a text is the name of something in a directory. -/
structure IsName (name : String) : Prop where
  ne_empty : name ≠ ""
  ne_dot : name ≠ "."
  ne_parent : name ≠ ".."
  no_slash : ∀ c ∈ name.toList, isSlash c = false

/-- The parts of a text after the slashes at its start. -/
def namesOf (s : List Char) : List String :=
  match s.dropWhile isSlash with
  | [] => []
  | rest => (fields isSlash rest).map String.ofList

/-- The parts of a path after the slashes at its start. -/
def names (path : String) : List String := namesOf path.toList

/-- Whether a path is one slash or two, and names with slashes between them. -/
structure Rooted (path : String) : Prop where
  slashes : path = assemble 1 (names path) ∨ path = assemble 2 (names path)
  isName : ∀ name ∈ names path, IsName name

/-! ## Joining and splitting -/

/-- Slashes at the start do not count. -/
theorem namesOf_replicate (n : Nat) (s : List Char) :
    namesOf (List.replicate n '/' ++ s) = namesOf s := by
  induction n with
  | zero => rfl
  | succ n ih =>
    rw [List.replicate_succ, List.cons_append, namesOf, List.dropWhile_cons_of_pos (by rfl)]
    exact ih

/-- What stands after the slashes at the start is split at slashes. -/
theorem namesOf_eq_fields {s : List Char} {c : Char} {cs : List Char}
    (h : s.dropWhile isSlash = c :: cs) :
    namesOf s = (fields isSlash (c :: cs)).map String.ofList := by
  rw [namesOf, h]

/-- The text of a path that is assembled from slashes and names. -/
theorem toList_assemble {n : Nat} (hn : 0 < n) (ns : List String) :
    (assemble n ns).toList =
      List.replicate n '/' ++ List.intercalate ['/'] (ns.map String.toList) := by
  obtain ⟨m, rfl⟩ : ∃ m, n = m + 1 := ⟨n - 1, by omega⟩
  have hne : String.ofList (List.replicate (m + 1) '/') ++ "/".intercalate ns ≠ "" := by
    intro hempty
    have := congrArg String.toList hempty
    simp [List.replicate_succ] at this
  rw [assemble, if_neg hne, String.toList_append, String.toList_ofList,
    String.toList_intercalate]
  rfl

/-- The names of a path that is assembled from slashes and names. -/
theorem names_assemble {n : Nat} (hn : 0 < n) {ns : List String} (h : ∀ name ∈ ns, IsName name) :
    names (assemble n ns) = ns := by
  rw [names, toList_assemble hn, namesOf_replicate]
  cases ns with
  | nil => rfl
  | cons name ns =>
    have hname := h name (by simp)
    obtain ⟨c, cs, hcs⟩ : ∃ c cs, name.toList = c :: cs := by
      cases hlist : name.toList with
      | nil => exact absurd (String.toList_eq_nil_iff.1 hlist) hname.ne_empty
      | cons c cs => exact ⟨c, cs, rfl⟩
    have hpieces : ∀ piece ∈ (name :: ns).map String.toList, ∀ c ∈ piece, isSlash c = false := by
      intro piece hpiece
      obtain ⟨name', hname', rfl⟩ := List.mem_map.1 hpiece
      exact (h name' hname').no_slash
    have hslash : isSlash '/' = true := rfl
    have hsplit := fields_intercalate hslash (by simp) hpieces
    -- the first name begins with no slash, so only those before it are dropped
    rw [List.map_cons, hcs, List.intercalate_cons_cons_left] at hsplit ⊢
    have hc : isSlash c = false := hname.no_slash c (by simp [hcs])
    rw [namesOf_eq_fields (List.dropWhile_cons_of_neg (by simp [hc])), hsplit, ← hcs]
    simp

/-! ## Normal forms -/

/-- The parts of a path hold no slash. -/
theorem no_slash_of_mem_parts {path part : String} (h : part ∈ parts path) :
    ∀ c ∈ part.toList, isSlash c = false := by
  obtain ⟨piece, hpiece, rfl⟩ := List.mem_map.1 h
  have hfield : piece ∈ fields isSlash path.toList := hpiece
  rw [String.toList_ofList]
  exact sep_eq_false_of_mem_fields hfield

/-- On the way from the root, the parts of a normal form are names. -/
theorem isName_pushPart {stack : List String} {part : String}
    (hpart : ∀ c ∈ part.toList, isSlash c = false) (hstack : ∀ name ∈ stack, IsName name) :
    ∀ name ∈ pushPart true stack part, IsName name := by
  unfold pushPart
  split
  · exact hstack
  · rename_i hnothing
    simp only [Bool.or_eq_true, decide_eq_true_eq, not_or] at hnothing
    split
    · cases stack with
      | nil => exact hstack
      | cons top rest =>
        -- no part of the stack is a parent, so the one on top is a name that is taken away
        dsimp only
        rw [if_neg (hstack top (by simp)).ne_parent]
        exact fun name hname => hstack name (by simp [hname])
    · rename_i hparent
      intro name hname
      rcases List.mem_cons.1 hname with rfl | hname
      · exact ⟨hnothing.1, hnothing.2, hparent, hpart⟩
      · exact hstack name hname

/-- The parts of the normal form of an absolute path are names. -/
theorem isName_normalParts {path : String} (h : isAbsolute path = true) :
    ∀ name ∈ normalParts path, IsName name := by
  -- the parts that are still to come have no slash, and those on the stack are names
  have key : ∀ (rest stack : List String), (∀ part ∈ rest, part ∈ parts path) →
      (∀ name ∈ stack, IsName name) →
        ∀ name ∈ rest.foldl (pushPart true) stack, IsName name := by
    intro rest
    induction rest with
    | nil => exact fun stack _ hstack => hstack
    | cons part rest ih =>
      intro stack hrest hstack
      exact ih _ (fun p hp => hrest p (by simp [hp]))
        (isName_pushPart (no_slash_of_mem_parts (hrest part (by simp))) hstack)
  intro name hname
  rw [normalParts, h, List.mem_reverse] at hname
  exact key _ _ (fun _ hp => hp) (by simp) name hname

/-- An absolute path keeps one slash or two. -/
theorem leadingSlashes_of_absolute {path : String} (h : isAbsolute path = true) :
    leadingSlashes path = 1 ∨ leadingSlashes path = 2 := by
  unfold leadingSlashes
  split
  · exact .inl rfl
  · exact .inr rfl
  · exact .inl rfl
  · rename_i hslash
    exfalso
    unfold isAbsolute at h
    cases hlist : path.toList with
    | nil => simp [hlist] at h
    | cons c cs =>
      obtain rfl : c = '/' := by simpa [hlist] using h
      exact hslash cs hlist

/-- The normal form of an absolute path is slashes and names. -/
theorem rooted_normal {path : String} (h : isAbsolute path = true) : Rooted (normal path) := by
  have hnames : names (normal path) = normalParts path := by
    rcases leadingSlashes_of_absolute h with hslashes | hslashes
    · rw [normal, hslashes, names_assemble (by decide) (isName_normalParts h)]
    · rw [normal, hslashes, names_assemble (by decide) (isName_normalParts h)]
  refine ⟨?_, ?_⟩
  · rw [hnames]
    rcases leadingSlashes_of_absolute h with hslashes | hslashes
    · exact .inl (by rw [normal, hslashes])
    · exact .inr (by rw [normal, hslashes])
  · rw [hnames]
    exact isName_normalParts h

/-- A path that is read in an absolute directory is absolute. -/
theorem isAbsolute_join {dir : String} (h : isAbsolute dir = true) (target : String) :
    isAbsolute (join dir target) = true := by
  obtain ⟨cs, hcs⟩ : ∃ cs, dir.toList = '/' :: cs := by
    unfold isAbsolute at h
    cases hlist : dir.toList with
    | nil => simp [hlist] at h
    | cons c cs => exact ⟨cs, by simpa [hlist] using h⟩
  unfold join
  split
  · assumption
  · split
    · simp [isAbsolute, hcs]
    · simp [isAbsolute, hcs]

/-- Paths that are made absolute and normal are slashes and names. -/
theorem rooted_absolute {cwd : String} (h : isAbsolute cwd = true) (path : String) :
    Rooted (absolute cwd path) :=
  rooted_normal (isAbsolute_join h path)

/-- A path that is assembled from slashes and names is absolute. -/
theorem isAbsolute_assemble {n : Nat} (hn : 0 < n) (ns : List String) :
    isAbsolute (assemble n ns) = true := by
  obtain ⟨m, rfl⟩ : ∃ m, n = m + 1 := ⟨n - 1, by omega⟩
  rw [isAbsolute, toList_assemble hn, List.replicate_succ]
  rfl

/-- Slashes and names are an absolute path. -/
theorem Rooted.absolute {path : String} (h : Rooted path) : isAbsolute path = true := by
  rcases h.slashes with hpath | hpath
  · rw [hpath]
    exact isAbsolute_assemble (by decide) _
  · rw [hpath]
    exact isAbsolute_assemble (by decide) _

/-! ## Paths in directories -/

/-- A path of slashes and names ends in a slash only if it has no names. -/
theorem Rooted.getLast?_ne {root : String} (h : Rooted root) (hne : names root ≠ []) :
    root.toList.getLast? ≠ some '/' := by
  intro hlast
  obtain ⟨s, hs⟩ := List.getLast?_eq_some_iff.1 hlast
  cases hrest : s.dropWhile isSlash with
  | nil =>
    have hnone : (s ++ ['/']).dropWhile isSlash = [] := by
      rw [List.dropWhile_append, hrest]
      rfl
    refine hne ?_
    rw [names, hs, namesOf, hnone]
  | cons c cs =>
    have hsome : (s ++ ['/']).dropWhile isSlash = c :: (cs ++ ['/']) := by
      rw [List.dropWhile_append, hrest]
      rfl
    -- the last slash would leave an empty name after it
    have hempty : "" ∈ names root := by
      rw [names, hs, namesOf_eq_fields hsome, ← List.cons_append, fields_append (by rfl)]
      simp [fields]
    exact (h.isName "" hempty).ne_empty rfl

/-- Nothing is dropped from a text that does not end in a slash. -/
theorem dropSlashes_eq_self {s : List Char} (h : s.getLast? ≠ some '/') : dropSlashes s = s := by
  have hhead : s.reverse.dropWhile (· == '/') = s.reverse := by
    rw [← List.head?_reverse] at h
    cases hreverse : s.reverse with
    | nil => rfl
    | cons c cs =>
      rw [hreverse] at h
      exact List.dropWhile_cons_of_neg (by simpa using h)
  rw [dropSlashes, hhead, List.reverse_reverse]

/-- A path in a directory has the names of the directory at its start. -/
theorem names_of_isWithin {path root : String} (hroot : Rooted root)
    (h : isWithin path root = true) : names root <+: names path := by
  unfold isWithin at h
  rcases Bool.or_eq_true_iff.1 h with h | h
  · simp only [beq_iff_eq.1 h, List.prefix_refl]
  · obtain ⟨r, hr⟩ := Option.isSome_iff_exists.1 h
    by_cases hne : names root = []
    · rw [hne]
      exact List.nil_prefix
    · -- the directory has names, so it ends in no slash, and one slash stands after it
      have hpath : path.toList = root.toList ++ '/' :: r := by
        rw [after?_eq_some_iff.1 hr, dropSlashes_eq_self (hroot.getLast?_ne hne),
          List.append_assoc]
        rfl
      cases hrest : root.toList.dropWhile isSlash with
      | nil =>
        rw [names, namesOf, hrest] at hne
        exact absurd rfl hne
      | cons c cs =>
        have hafter : path.toList.dropWhile isSlash = c :: (cs ++ '/' :: r) := by
          rw [hpath, List.dropWhile_append, hrest]
          rfl
        rw [names, names, namesOf_eq_fields hrest, namesOf_eq_fields hafter, ← List.cons_append,
          fields_append (by rfl), List.map_append]
        exact List.prefix_append _ _

end Transclude.Path
