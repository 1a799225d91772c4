import Mathlib.Data.String.Basic
import Transclude.Files
import Transclude.Proofs.Parents
import Transclude.Reduction.Context

/-!
# What file operations change

Writing a file changes what is at one place. Before that, directories are made where none were, each
of them at a path above the file. All other places are left as they are, and a path that leads
somewhere leads there still.

## Main definitions

* `Path.ancestor`     : a path with its last part taken away a number of times.
* `FileTree.Keeps`    : whether all directories of a tree are directories of another.
* `FileTree.Prepared` : whether a tree differs from another in new directories above a path only.

## Main statements

* `FileTree.node?_put`               : what is at a place after something is put somewhere.
* `FileTree.isDirectory_parent`      : the parent of a path to a file is a directory.
* `FileTree.prepared_of_makeParents` : what making the parents of a path changes.
* `FileTree.write_eq`                : what writing a file changes.
-/

namespace Transclude

open Transclude.Text

/-- A path with its last part taken away a number of times. -/
def Path.ancestor (path : String) : Nat → String
  | 0 => path
  | n + 1 => ancestor (Path.parent path) n

namespace FileTree

variable {t t' u : FileTree} {cwd path : String} {place target : List String}

/-! ## Following paths -/

/-- The first name is followed, and then the others. -/
theorem follow_cons (t : FileTree) (place : List String) (name : String) (rest : List String) :
    t.follow place (name :: rest) = (t.follow place [name]).bind (t.follow · rest) := by
  simp only [follow]
  split
  · split
    · rfl
    · split
      · rfl
      · split
        · rfl
        · rfl
  · rfl
  · rfl

/-- Names are followed one after the other. -/
theorem follow_append (t : FileTree) (place : List String) (names more : List String) :
    t.follow place (names ++ more) = (t.follow place names).bind (t.follow · more) := by
  induction names generalizing place with
  | nil => rfl
  | cons name names ih =>
    rw [List.cons_append, follow_cons, follow_cons t place name names]
    cases t.follow place [name] with
    | error e => rfl
    | ok next => exact ih next

/-- Where a name is followed, there is a directory. -/
theorem directory_of_follow {name : String} {rest : List String}
    (h : t.follow place (name :: rest) = .ok target) : t.node? place = some .directory := by
  unfold follow at h
  split at h
  · rename_i hnode
    exact hnode
  · cases h
  · cases h

/-- An empty name or a dot leads nowhere else. -/
theorem follow_skip (hplace : t.node? place = some .directory) {name : String}
    (hname : name = "" ∨ name = ".") (rest : List String) :
    t.follow place (name :: rest) = t.follow place rest := by
  rw [follow, hplace]
  exact if_pos hname

/-- Names lead to the same place without empty names and dots. -/
theorem follow_kept {names : List String} (h : t.follow place names = .ok target) :
    t.follow place (names.filter fun name => name != "" && name != ".") = .ok target := by
  induction names generalizing place with
  | nil => exact h
  | cons name names ih =>
    have hplace := directory_of_follow h
    by_cases hname : name = "" ∨ name = "."
    · rw [follow_skip hplace hname] at h
      rw [List.filter_cons_of_neg (by rcases hname with rfl | rfl <;> simp)]
      exact ih h
    · have hkept : (name != "" && name != ".") = true := by simpa [not_or] using hname
      rw [List.filter_cons, if_pos hkept]
      rw [follow_cons] at h ⊢
      obtain ⟨next, hnext, hrest⟩ := eq_ok_of_bind h
      rw [hnext]
      exact ih hrest

/-- Names that lead nowhere make no difference before others. -/
theorem follow_padded (hplace : t.node? place = some .directory) {pads : List String}
    (hpads : ∀ pad ∈ pads, pad = "" ∨ pad = ".") (names : List String) :
    t.follow place (pads ++ names) = t.follow place names := by
  induction pads with
  | nil => rfl
  | cons pad pads ih =>
    rw [List.cons_append, follow_skip hplace (hpads pad List.mem_cons_self)]
    exact ih fun pad hpad => hpads pad (List.mem_cons_of_mem _ hpad)

/-- A path leads to a place if its text may be a path and its parts lead there. -/
theorem locate_eq_ok_iff {found : Option Node} : t.locate cwd path = .ok (place, found) ↔
    '\x00' ∉ path.toList ∧ path.utf8ByteSize ≤ maxPathLength ∧
      t.follow [] (Path.parts (Path.join cwd path)) = .ok place ∧ t.node? place = found := by
  unfold locate
  by_cases hzero : '\x00' ∈ path.toList
  · simp [hzero]
  · by_cases hlong : maxPathLength < path.utf8ByteSize
    · simp [hzero, hlong]
    · cases hfollow : t.follow [] (Path.parts (Path.join cwd path)) with
      | error e => simp [hzero, hlong, Except.map]
      | ok target =>
        simp only [List.contains_iff_mem, hzero, hlong, if_false, Except.map, Except.ok.injEq,
          Prod.mk.injEq, not_false_eq_true, true_and, Nat.not_lt.1 hlong]
        constructor
        · rintro ⟨rfl, hnode⟩
          exact ⟨rfl, hnode⟩
        · rintro ⟨rfl, hnode⟩
          exact ⟨rfl, hnode⟩

/-- Where the parts of a path lead to a file, those of its parent lead to a directory. -/
theorem follow_parent {base : List String} (h : t.follow base (Path.parts path) = .ok place)
    (hplace : t.node? place ≠ some .directory) :
    ∃ directory, t.follow base (Path.parts (Path.parent path)) = .ok directory ∧
      t.node? directory = some .directory := by
  have hbase : t.node? base = some .directory := by
    obtain ⟨first, rest, hparts⟩ : ∃ first rest, Path.parts path = first :: rest :=
      List.exists_cons_of_ne_nil (by simp [Path.parts, fields_ne_nil])
    rw [hparts] at h
    exact directory_of_follow h
  have hkept : t.follow base (Path.collapsedParts path) = .ok place := follow_kept h
  have hne : Path.collapsedParts path ≠ [] := by
    intro hnil
    rw [hnil] at hkept
    cases hkept
    exact hplace hbase
  -- the last part is looked for in the directory that the others lead to
  rw [← List.dropLast_append_getLast hne, follow_append] at hkept
  obtain ⟨directory, hdirectory, hlast⟩ := eq_ok_of_bind hkept
  obtain ⟨pads, hpads, hparts⟩ := Path.parts_parent path
  refine ⟨directory, ?_, directory_of_follow hlast⟩
  rw [hparts, follow_padded hbase hpads, hdirectory]

/-- A text is no longer than another one in which its characters are found in order. -/
theorem utf8ByteSize_le_of_sublist {s t : String} (h : s.toList.Sublist t.toList) :
    s.utf8ByteSize ≤ t.utf8ByteSize := by
  have hsize : ∀ u : String, u.utf8ByteSize = String.utf8Len u.toList := by
    intro u
    rw [← String.utf8ByteSize_ofList, String.ofList_toList]
  rw [hsize s, hsize t]
  exact String.utf8Len_le_of_sublist h

/-- The parent of a path to a file is a directory. -/
theorem isDirectory_parent {node : Node} (h : t.locate cwd path = .ok (place, some node))
    (hnode : node ≠ .directory) : t.isDirectory cwd (Path.parent path) = true := by
  obtain ⟨hzero, hlong, hfollow, hplace⟩ := locate_eq_ok_iff.1 h
  have hother : t.node? place ≠ some .directory := by
    rw [hplace]
    exact fun heq => hnode (Option.some.inj heq)
  have htext : '\x00' ∉ (Path.parent path).toList ∧
      (Path.parent path).utf8ByteSize ≤ maxPathLength := by
    rcases Path.sublist_parent path with hdot | hsublist
    · rw [hdot]
      decide +kernel
    · have hsize := utf8ByteSize_le_of_sublist hsublist
      exact ⟨fun hmem => hzero (hsublist.subset hmem), hsize.trans hlong⟩
  have hparent : ∃ directory,
      t.follow [] (Path.parts (Path.join cwd (Path.parent path))) = .ok directory ∧
        t.node? directory = some .directory := by
    cases habsolute : Path.isAbsolute path with
    | true =>
      have hjoin : ∀ p, Path.isAbsolute p = true → Path.join cwd p = p := fun p hp => if_pos hp
      rw [hjoin _ habsolute] at hfollow
      rw [hjoin _ ((Path.isAbsolute_parent path).trans habsolute)]
      exact follow_parent hfollow hother
    | false =>
      obtain ⟨front, hfront⟩ := Path.exists_parts_join cwd
      rw [hfront _ habsolute, follow_append] at hfollow
      obtain ⟨base, hbase, hrest⟩ := eq_ok_of_bind hfollow
      obtain ⟨directory, hdirectory, hnode⟩ := follow_parent hrest hother
      refine ⟨directory, ?_, hnode⟩
      rw [hfront _ ((Path.isAbsolute_parent path).trans habsolute), follow_append, hbase,
        Except.bind, hdirectory]
  obtain ⟨directory, hdirectory, hnode⟩ := hparent
  have hlocate := locate_eq_ok_iff.2 ⟨htext.1, htext.2, hdirectory, hnode⟩
  rw [isDirectory, hlocate]

/-! ## Putting something at a place -/

/-- An entry that is replaced has the place that it had. -/
theorem beq_replaced (place other : List String) (node : Node) :
    ((·.1 == other) ∘ fun entry : List String × Node =>
      if entry.1 == place then (place, node) else entry) = (·.1 == other) := by
  funext entry
  by_cases heq : (entry.1 == place) = true
  · simp [Function.comp, eq_of_beq heq]
  · simp [Function.comp, heq]

/-- Entries that are replaced are found where they were. -/
theorem find?_replaced (entries : List (List String × Node)) (place other : List String)
    (node : Node) :
    (entries.map fun entry => if entry.1 == place then (place, node) else entry).find?
        (·.1 == other) =
      (entries.find? (·.1 == other)).map fun entry =>
        if entry.1 == place then (place, node) else entry := by
  rw [List.find?_map, beq_replaced]

/-- Of two things that are put at a place the second is there. -/
theorem put_put (t : FileTree) (place : List String) (node node' : Node) :
    (t.put place node).put place node' = t.put place node' := by
  unfold put
  by_cases hthere : t.entries.any (·.1 == place) = true
  · -- the entry of the place is replaced twice
    have hagain : (t.entries.map fun entry =>
        if entry.1 == place then (place, node) else entry).any (·.1 == place) = true := by
      rw [List.any_map, beq_replaced, hthere]
    rw [if_pos hthere, if_pos hagain, if_pos hthere, List.map_map]
    refine congrArg FileTree.mk (List.map_congr_left fun entry _ => ?_)
    by_cases heq : entry.1 = place
    · simp [Function.comp, heq]
    · simp [Function.comp, heq]
  · -- the new entry is the only one of the place
    have hothers : t.entries.map (fun entry =>
        if entry.1 == place then (place, node') else entry) = t.entries := by
      refine (List.map_congr_left fun entry hentry => if_neg fun hkey => hthere ?_).trans
        (List.map_id _)
      exact List.any_eq_true.2 ⟨entry, hentry, hkey⟩
    rw [if_neg hthere, if_neg hthere, if_pos (by simp), List.map_append, hothers]
    simp

/-- What is at a place after something is put there or elsewhere. -/
theorem node?_put (t : FileTree) (place other : List String) (node : Node) :
    (t.put place node).node? other = if place = other then some node else t.node? other := by
  unfold put
  split
  · rename_i hthere
    unfold node?
    rw [find?_replaced]
    cases hfind : t.entries.find? (·.1 == other) with
    | none =>
      have hother : place ≠ other := by
        rintro rfl
        obtain ⟨entry, hentry, heq⟩ := List.any_eq_true.1 hthere
        exact List.find?_eq_none.1 hfind entry hentry heq
      rw [if_neg hother]
      rfl
    | some entry =>
      have hfound : (entry.1 == other) = true :=
        List.find?_some (p := fun e : List String × Node => e.1 == other) hfind
      rw [Option.map_some, eq_of_beq hfound]
      by_cases heq : place = other
      · simp [heq]
      · have hne : (other == place) = false := by simpa using Ne.symm heq
        simp [heq, hne]
  · rename_i hnew
    unfold node?
    rw [List.find?_append]
    by_cases heq : place = other
    · subst heq
      have hnone : t.entries.find? (·.1 == place) = none :=
        List.find?_eq_none.2 fun entry hentry hkey =>
          hnew (List.any_eq_true.2 ⟨entry, hentry, hkey⟩)
      simp [hnone]
    · have hne : (place == other) = false := by simpa using heq
      simp [heq, hne]

/-- Whether all directories of a tree are directories of another. -/
def Keeps (t t' : FileTree) : Prop :=
  ∀ place, t.node? place = some .directory → t'.node? place = some .directory

/-- Directories stay if something is put where none is, or if a directory is put there. -/
theorem keeps_put {node : Node} (h : t.node? place = some .directory → node = .directory) :
    Keeps t (t.put place node) := by
  intro other hother
  rw [node?_put]
  split
  · rename_i heq
    subst heq
    rw [h hother]
  · exact hother

/-- Names lead to the same place in a tree that has all directories. -/
theorem follow_of_keeps (hkeeps : Keeps t t') {names : List String}
    (h : t.follow place names = .ok target) : t'.follow place names = .ok target := by
  induction names generalizing place with
  | nil => exact h
  | cons name rest ih =>
    have hplace := directory_of_follow h
    have hone : t'.follow place [name] = t.follow place [name] := by
      simp only [follow, hplace, hkeeps place hplace]
    rw [follow_cons] at h ⊢
    rw [hone]
    obtain ⟨next, hnext, hrest⟩ := eq_ok_of_bind h
    rw [hnext, Except.bind, ih hrest]

/-- A path leads to the same place in a tree that has all directories. -/
theorem locate_of_keeps (hkeeps : Keeps t t') {found : Option Node}
    (h : t.locate cwd path = .ok (place, found)) :
    t'.locate cwd path = .ok (place, t'.node? place) := by
  obtain ⟨hzero, hlong, hfollow, -⟩ := locate_eq_ok_iff.1 h
  exact locate_eq_ok_iff.2 ⟨hzero, hlong, follow_of_keeps hkeeps hfollow, rfl⟩

/-! ## Making directories -/

/-- Whether all that another tree has in other places than the first one are directories, where
nothing was, to which the paths above a path lead. -/
def Prepared (cwd path : String) (t t' : FileTree) : Prop :=
  ∀ place, t'.node? place = t.node? place ∨
    t.node? place = none ∧ t'.node? place = some .directory ∧
      ∃ n, t'.locate cwd (Path.ancestor path n) = .ok (place, some .directory)

/-- Directories stay where directories are made. -/
theorem Prepared.keeps (h : Prepared cwd path t t') : Keeps t t' := by
  intro place hplace
  rcases h place with hsame | ⟨hnone, -, -⟩
  · rw [hsame, hplace]
  · rw [hnone] at hplace
    cases hplace

/-- Making directories makes and removes no device. -/
theorem Prepared.device_iff (h : Prepared cwd path t t') (place : List String) :
    t'.node? place = some .device ↔ t.node? place = some .device := by
  rcases h place with hsame | ⟨hnone, hnew, -⟩
  · rw [hsame]
  · rw [hnone, hnew]
    exact iff_of_false (by rintro ⟨⟩) (by rintro ⟨⟩)

theorem Prepared.refl (cwd path : String) (t : FileTree) : Prepared cwd path t t :=
  fun _ => .inl rfl

theorem Prepared.trans (h : Prepared cwd path t t') (h' : Prepared cwd path t' u) :
    Prepared cwd path t u := by
  intro place
  rcases h' place with hsame' | ⟨hnone, hnew, hway⟩
  · rcases h place with hsame | ⟨hnone, hnew, n, hway⟩
    · exact .inl (hsame'.trans hsame)
    · -- what led to the new directory leads to it still
      have hlocate := locate_of_keeps h'.keeps hway
      rw [hsame', hnew] at hlocate
      exact .inr ⟨hnone, hsame'.trans hnew, n, hlocate⟩
  · rcases h place with hsame | ⟨-, hdirectory, -⟩
    · exact .inr ⟨hsame ▸ hnone, hnew, hway⟩
    · rw [hdirectory] at hnone
      cases hnone

/-- The paths above a path that is itself above another are above that one. -/
theorem Prepared.of_parent (h : Prepared cwd (Path.parent path) t t') : Prepared cwd path t t' := by
  intro place
  rcases h place with hsame | ⟨hnone, hnew, n, hway⟩
  · exact .inl hsame
  · exact .inr ⟨hnone, hnew, n + 1, hway⟩

/-- A directory is made at the path, or is there already. -/
theorem prepared_of_ensureDirectory (h : t.ensureDirectory cwd path = .ok t') :
    Prepared cwd path t t' := by
  unfold ensureDirectory at h
  split at h
  · rename_i made hmade
    cases h
    unfold makeDirectory at hmade
    split at hmade
    · cases hmade
    · cases hmade
    · rename_i place hlocate
      cases hmade
      obtain ⟨-, -, -, hmissing⟩ := locate_eq_ok_iff.1 hlocate
      have hkeeps : Keeps t (t.put place .directory) := keeps_put fun _ => rfl
      intro other
      rw [node?_put]
      split
      · rename_i heq
        subst heq
        have hnow := locate_of_keeps hkeeps hlocate
        rw [node?_put, if_pos rfl] at hnow
        exact .inr ⟨hmissing, rfl, 0, hnow⟩
      · exact .inl rfl
  · split at h
    · cases h
      exact .refl _ _ _
    · cases h

/-- Directories are made at the path and above it. -/
theorem prepared_of_ensureDirectories {fuel : Nat} {rest : FileTree}
    (h : ensureDirectories cwd fuel t path = (.ok t', rest)) : Prepared cwd path t t' := by
  induction fuel generalizing path t' rest with
  | zero =>
    obtain ⟨hensure, -⟩ := Prod.mk.inj h
    exact prepared_of_ensureDirectory hensure
  | succ fuel ih =>
    unfold ensureDirectories at h
    split at h
    · rename_i hensure
      cases h
      exact prepared_of_ensureDirectory hensure
    · split at h
      · split at h
        · cases h
        · -- first the paths above, then the path itself
          rename_i habove
          split at h
          · rename_i hensure
            cases h
            exact (ih habove).of_parent.trans (prepared_of_ensureDirectory hensure)
          · cases h
      · cases h

/-- The parents of a path are made above it. -/
theorem prepared_of_makeParents (h : t.makeParents cwd path = (none, t')) :
    Prepared cwd (Path.parent path) t t' := by
  unfold makeParents at h
  dsimp only at h
  split at h
  · rename_i hensure
    cases h
    exact prepared_of_ensureDirectories hensure
  · cases h

/-- Above a path to a file no directories are missing. -/
theorem makeParents_of_file {node : Node} (h : t.locate cwd path = .ok (place, some node))
    (hnode : node ≠ .directory) : t.makeParents cwd path = (none, t) := by
  have hparent := isDirectory_parent h hnode
  have hensure : t.ensureDirectory cwd (Path.parent path) = .ok t := by
    unfold isDirectory at hparent
    split at hparent
    · rename_i directory hlocate
      have hthere : t.makeDirectory cwd (Path.parent path) =
          .error ⟨.exists, Path.parent path⟩ := by
        rw [makeDirectory, hlocate]
      rw [ensureDirectory, hthere]
      exact if_pos ⟨fun hmissing => (nomatch hmissing), by rw [isDirectory, hlocate]⟩
    · cases hparent
  have hall : ∀ fuel, ensureDirectories cwd fuel t (Path.parent path) = (.ok t, t) := by
    intro fuel
    cases fuel with
    | zero => rw [ensureDirectories, hensure]
    | succ fuel => rw [ensureDirectories, hensure]
  rw [makeParents, hall]

/-! ## Writing files -/

/-- What is written to a path changes the file there and nothing else; a device swallows it. -/
theorem write_eq {content : List UInt8} (h : t.write cwd path content = .ok t') :
    ∃ place, t.locate cwd path = .ok (place, some .device) ∧ t' = t ∨
      t.node? place ≠ some .directory ∧ t.node? place ≠ some .device ∧
        t.locate cwd path = .ok (place, t.node? place) ∧ t' = t.put place (.file content) ∧
        t'.locate cwd path = .ok (place, some (.file content)) := by
  have hwritten : ∀ {place}, t.locate cwd path = .ok (place, t.node? place) →
      t.node? place ≠ some .directory →
        (t.put place (.file content)).locate cwd path = .ok (place, some (.file content)) := by
    intro place hlocate hnode
    have hkeeps : Keeps t (t.put place (.file content)) := keeps_put fun h => absurd h hnode
    have hnow := locate_of_keeps hkeeps hlocate
    rwa [node?_put, if_pos rfl] at hnow
  unfold write at h
  split at h
  · cases h
  · cases h
  · rename_i place hlocate
    cases h
    exact ⟨place, .inl ⟨hlocate, rfl⟩⟩
  · rename_i place old hlocate
    cases h
    obtain ⟨-, -, -, hnode⟩ := locate_eq_ok_iff.1 hlocate
    rw [← hnode] at hlocate
    have hplace : t.node? place ≠ some .directory ∧ t.node? place ≠ some .device := by simp [hnode]
    exact ⟨place, .inr ⟨hplace.1, hplace.2, hlocate, rfl, hwritten hlocate hplace.1⟩⟩
  · rename_i place hlocate
    cases h
    obtain ⟨-, -, -, hnode⟩ := locate_eq_ok_iff.1 hlocate
    rw [← hnode] at hlocate
    have hplace : t.node? place ≠ some .directory ∧ t.node? place ≠ some .device := by simp [hnode]
    exact ⟨place, .inr ⟨hplace.1, hplace.2, hlocate, rfl, hwritten hlocate hplace.1⟩⟩

/-- A path that was written to is written to as if it had not been. -/
theorem write_again {content : List UInt8} (h : t.write cwd path content = .ok t')
    (bytes : List UInt8) : t'.write cwd path bytes = t.write cwd path bytes := by
  obtain ⟨place, ⟨hdevice, rfl⟩ | ⟨hnode, hdevice, hbefore, rfl, hafter⟩⟩ := write_eq h
  · rfl
  · rw [write, hafter, write, hbefore]
    dsimp only
    rw [put_put]
    cases hthere : t.node? place with
    | none => rfl
    | some node =>
      cases node with
      | directory => exact absurd hthere hnode
      | device => exact absurd hthere hdevice
      | file old => rfl

end FileTree

end Transclude
