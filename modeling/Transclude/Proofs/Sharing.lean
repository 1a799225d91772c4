import Transclude.Value.Linked
import Transclude.Value.Lookup

/-!
# Setting values in linked tables

A table that stands at one place is changed there and nowhere else. Where that is so of all tables
on the way of a path, a value that is set is held at the path, everything at other paths stays as it
was, and no table stands at more places than before.

## Main definitions

* `Linked.Alone` : whether the tables on the way of a path stand at one place only.
* `Layer.Apart`  : whether neither of two paths begins with the other.

## Main statements

* `Linked.become_of_notMem`     : what a change of a table leaves alone.
* `Linked.setPath_eq`           : where a value is set.
* `Linked.Alone.setPath`        : the tables on the way of other paths stand where they did.
* `Linked.at?_setPath`          : what is held at a path that is set.
* `Linked.at?_setPath_of_apart` : what is held at other paths.
-/

namespace Transclude

namespace Linked

variable {name : TableName} {now m : Mapping Linked} {k : Scalar} {v old : Linked}

/-! ## Changes of a table -/

mutual

/-- A change of a table leaves alone what the table is no part of. -/
theorem become_of_notMem : ∀ v : Linked, name ∉ v.names → become name now v = v
  | .scalar _, _ => rfl
  | .list items, h => by rw [become, becomeItems_of_notMem items h]
  | .map known entries, h => by
    rw [names, List.mem_append, not_or] at h
    have hother : known ≠ some name := fun hknown => h.1 (by simp [hknown])
    rw [become, if_neg hother, becomeEntries_of_notMem entries h.2]

theorem becomeItems_of_notMem :
    ∀ items : List Linked, name ∉ namesOfItems items → becomeItems name now items = items
  | [], _ => rfl
  | v :: rest, h => by
    rw [namesOfItems, List.mem_append, not_or] at h
    rw [becomeItems, become_of_notMem v h.1, becomeItems_of_notMem rest h.2]

theorem becomeEntries_of_notMem :
    ∀ entries : List (Scalar × Linked), name ∉ namesOfEntries entries →
      becomeEntries name now entries = entries
  | [], _ => rfl
  | (_, v) :: rest, h => by
    rw [namesOfEntries, List.mem_append, not_or] at h
    rw [becomeEntries, become_of_notMem v h.1, becomeEntries_of_notMem rest h.2]

end

/-- The tables of what is found in entries are among those of the entries. -/
theorem names_of_find? (h : m.find? k = some v) : v.names.Sublist (namesOfEntries m) := by
  induction m with
  | nil => cases h
  | cons entry rest ih =>
    obtain ⟨key, first⟩ := entry
    rw [Mapping.find?] at h
    rw [namesOfEntries]
    split at h
    · obtain rfl := Option.some.inj h
      exact List.sublist_append_left _ _
    · exact (ih h).trans (List.sublist_append_right _ _)

/-- A value without names brings in no tables. -/
theorem names_insert_of_new (hv : v.names = []) :
    (namesOfEntries (m.insert k v)).Sublist (namesOfEntries m) := by
  induction m with
  | nil => simp [Mapping.insert, namesOfEntries, hv]
  | cons entry rest ih =>
    rw [Mapping.insert]
    split
    · rw [namesOfEntries, namesOfEntries, hv]
      exact List.sublist_append_right _ _
    · rw [namesOfEntries, namesOfEntries]
      exact List.Sublist.append_left ih _

/-- In place of another value one brings in no more tables than it has beyond those of the other. -/
theorem names_insert_of_old (hold : m.find? k = some old) (hv : v.names.Sublist old.names) :
    (namesOfEntries (m.insert k v)).Sublist (namesOfEntries m) := by
  induction m with
  | nil => cases hold
  | cons entry rest ih =>
    rw [Mapping.find?] at hold
    rw [Mapping.insert]
    split at hold
    · rename_i hk
      obtain rfl := Option.some.inj hold
      rw [if_pos hk, namesOfEntries, namesOfEntries]
      exact List.Sublist.append_right hv _
    · rename_i hk
      rw [if_neg hk, namesOfEntries, namesOfEntries]
      exact List.Sublist.append_left (ih hold) _

/-- What stands at one place does not stand at another. -/
theorem notMem_of_count_le_one {xs ys : List TableName} (h : (xs ++ ys).count name ≤ 1)
    (hmem : name ∈ xs) : name ∉ ys := by
  intro hother
  have hfirst := List.count_pos_iff.2 hmem
  have hsecond := List.count_pos_iff.2 hother
  rw [List.count_append] at h
  omega

/-- Entries with a value in place of another do not change with a table of which that was the only
place, if the value does not. -/
theorem becomeEntries_insert (hcount : (namesOfEntries m).count name ≤ 1)
    (hold : m.find? k = some old) (hname : name ∈ old.names) (hv : become name now v = v) :
    becomeEntries name now (m.insert k v) = m.insert k v := by
  induction m with
  | nil => cases hold
  | cons entry rest ih =>
    obtain ⟨key, first⟩ := entry
    rw [namesOfEntries] at hcount
    rw [Mapping.find?] at hold
    rw [Mapping.insert]
    split at hold
    · rename_i hk
      obtain rfl := Option.some.inj hold
      rw [if_pos hk, becomeEntries, hv,
        becomeEntries_of_notMem rest (notMem_of_count_le_one hcount hname)]
    · rename_i hk
      have hlater := (names_of_find? hold).subset hname
      have hnone : name ∉ first.names := fun hmem => notMem_of_count_le_one hcount hmem hlater
      rw [List.count_append] at hcount
      rw [if_neg hk, becomeEntries, become_of_notMem first hnone, ih (by omega) hold]

/-! ## Tables on the way -/

/-- The table at a key is one of the entries, or it is a new one. -/
theorem tableAt_cases (m : Mapping Linked) (key : String) :
    m.find? (.text key) = some (.map (tableAt m key).1 (tableAt m key).2) ∨
      tableAt m key = (none, []) := by
  unfold tableAt
  split
  · rename_i hfind
    exact .inl hfind
  · exact .inr rfl

theorem names_tableAt (m : Mapping Linked) (key : String) :
    ((tableAt m key).1.toList ++ namesOfEntries (tableAt m key).2).Sublist (namesOfEntries m) := by
  rcases tableAt_cases m key with hfind | hnew
  · exact names_of_find? hfind
  · rw [hnew]
    exact List.nil_sublist _

/-- The names of the tables on the way of a path. What is at the path itself is not on the way. -/
def namesOnWay (m : Mapping Linked) : List String → List TableName
  | [] | [_] => []
  | key :: rest => (tableAt m key).1.toList ++ namesOnWay (tableAt m key).2 rest

theorem namesOnWay_cons {path : List String} (hpath : path ≠ []) (m : Mapping Linked)
    (key : String) : namesOnWay m (key :: path) =
      (tableAt m key).1.toList ++ namesOnWay (tableAt m key).2 path := by
  cases path with
  | nil => exact absurd rfl hpath
  | cons => rfl

theorem namesOnWay_subset (m : Mapping Linked) (path : List String) :
    namesOnWay m path ⊆ namesOfEntries m := by
  induction path generalizing m with
  | nil => exact List.nil_subset _
  | cons key path ih =>
    by_cases hpath : path = []
    · subst hpath
      exact List.nil_subset _
    · rw [namesOnWay_cons hpath]
      have hbelow := List.append_subset.2 ⟨List.subset_append_left _ _,
        List.subset_append_of_subset_right (tableAt m key).1.toList (ih (tableAt m key).2)⟩
      exact List.Subset.trans hbelow (names_tableAt m key).subset

/-- Whether every table on the way of a path stands at one place only. -/
def Alone (m : Mapping Linked) (path : List String) : Prop :=
  ∀ name ∈ namesOnWay m path, (namesOfEntries m).count name ≤ 1

instance (m : Mapping Linked) (path : List String) : Decidable (Alone m path) :=
  inferInstanceAs (Decidable (∀ name ∈ _, _))

/-! ## Setting a value -/

/-- What is set two keys or more below is set in the table at the first. -/
theorem setIn_cons {path : List String} (hpath : path ≠ []) (m : Mapping Linked) (v : Linked)
    (key : String) : setIn v m (key :: path) =
      (m.insert key (.map (tableAt m key).1 (setIn v (tableAt m key).2 path).1),
        (setIn v (tableAt m key).2 path).2.or
          ((tableAt m key).1.map (·, (setIn v (tableAt m key).2 path).1))) := by
  cases path with
  | nil => exact absurd rfl hpath
  | cons => rfl

/-- Nor does one that is set at a path. -/
theorem names_setIn (hv : v.names = []) (m : Mapping Linked) (path : List String) :
    (namesOfEntries (setIn v m path).1).Sublist (namesOfEntries m) := by
  induction path generalizing m with
  | nil => exact List.Sublist.refl _
  | cons key path ih =>
    by_cases hpath : path = []
    · subst hpath
      exact names_insert_of_new hv
    rw [setIn_cons hpath]
    have hinner := ih (tableAt m key).2
    rcases tableAt_cases m key with hfind | hnew
    · refine names_insert_of_old hfind ?_
      rw [names, names]
      exact List.Sublist.append_left hinner _
    · rw [hnew] at hinner ⊢
      refine names_insert_of_new ?_
      rw [names, List.sublist_nil.1 hinner]
      rfl

/-- Where the tables on the way stand at one place only, the one that is known by its name has
changed wherever it stands. -/
theorem becomeEntries_setIn {path : List String} (halone : Alone m path)
    (hchanged : (setIn v m path).2 = some (name, now)) :
    name ∈ namesOnWay m path ∧ becomeEntries name now (setIn v m path).1 = (setIn v m path).1 := by
  -- by induction on the path, along which the tables are followed
  induction path generalizing m with
  | nil => cases hchanged
  | cons key path ih =>
    by_cases hpath : path = []
    · subst hpath
      cases hchanged
    rw [Alone, namesOnWay_cons hpath] at halone
    rw [setIn_cons hpath] at hchanged ⊢
    rw [namesOnWay_cons hpath]
    rcases tableAt_cases m key with hfind | hnew
    · have hsub := names_tableAt m key
      generalize tableAt m key = table at hfind hsub halone hchanged ⊢
      obtain ⟨known, entries⟩ := table
      have hcount : ∀ other ∈ known.toList ++ namesOnWay entries path,
          (known.toList ++ namesOfEntries entries).count other ≤ 1 :=
        fun other hother => Nat.le_trans (hsub.count_le other) (halone other hother)
      have hinner : Alone entries path := fun other hother =>
        Nat.le_trans ((List.sublist_append_right _ _).count_le other)
          (hcount other (List.mem_append_right _ hother))
      dsimp only at hchanged ⊢
      cases hdeep : (setIn v entries path).2 with
      | some changed =>
        -- a table further down is the one that is known; this one is another, for it holds that one
        rw [hdeep, Option.some_or] at hchanged
        cases hchanged
        obtain ⟨hmem, hbecome⟩ := ih hinner hdeep
        have hway := List.mem_append_right known.toList hmem
        have hin := namesOnWay_subset _ _ hmem
        refine ⟨hway,
          becomeEntries_insert (halone name hway) hfind (List.mem_append_right _ hin) ?_⟩
        have hother : known ≠ some name := fun hknown =>
          notMem_of_count_le_one (hcount name hway) (by simp [hknown]) hin
        rw [become, if_neg hother, hbecome]
      | none =>
        -- no table further down has a name, so it is this one
        rw [hdeep, Option.none_or] at hchanged
        obtain ⟨_, hknown, heq⟩ := Option.map_eq_some_iff.1 hchanged
        cases heq
        have hmem : name ∈ known.toList := by simp [hknown]
        refine ⟨List.mem_append_left _ hmem, becomeEntries_insert
          (halone name (List.mem_append_left _ hmem)) hfind (List.mem_append_left _ hmem) ?_⟩
        rw [become, if_pos hknown]
    · -- a new table has no name, and neither has one in it
      rw [hnew] at hchanged
      cases hdeep : (setIn v [] path).2 with
      | some changed =>
        have hnone : Alone [] path := fun other _ => Nat.zero_le 1
        rw [hdeep, Option.some_or] at hchanged
        cases hchanged
        cases namesOnWay_subset _ _ (ih hnone hdeep).1
      | none =>
        rw [hdeep] at hchanged
        cases hchanged

/-- Where the tables on the way stand at one place only, a value is set at its path and nowhere
else. -/
theorem setPath_eq {path : List String} (halone : Alone m path) :
    setPath m v path = (setIn v m path).1 := by
  unfold setPath
  split
  · rename_i hset
    rw [hset]
  · rename_i name now hset
    have hbecome := (becomeEntries_setIn halone (by rw [hset])).2
    rwa [hset] at hbecome ⊢

theorem tableAt_insert (m : Mapping Linked) (key : String) (v : Linked) (other : String) :
    tableAt (m.insert key v) other =
      if key = other then tableAt [(.text key, v)] key else tableAt m other := by
  unfold tableAt Mapping.get?
  rw [Mapping.find?_insert]
  by_cases hkey : key = other
  · subst hkey
    simp [Mapping.find?]
  · have hdiffer : ¬ (Scalar.text key).same (.text other) = true := fun h =>
      hkey (Scalar.text.inj (Scalar.same_text_iff.1 h)).symm
    rw [if_neg hdiffer, if_neg hkey]

/-- Setting a value brings no table on the way of another path. -/
theorem namesOnWay_setIn (hv : v.names = []) (m : Mapping Linked) (path other : List String) :
    namesOnWay (setIn v m path).1 other ⊆ namesOnWay m other := by
  induction path generalizing m other with
  | nil => exact List.Subset.refl _
  | cons key path ih =>
    cases other with
    | nil => exact List.nil_subset _
    | cons first other =>
      by_cases hother : other = []
      · subst hother
        exact List.nil_subset _
      rw [namesOnWay_cons hother, namesOnWay_cons hother]
      by_cases hpath : path = []
      · subst hpath
        rw [setIn, tableAt_insert]
        split
        · -- what is set has no names
          have hnames : namesOfEntries [(.text key, v)] = [] := by simp [namesOfEntries, hv]
          have hsub := namesOnWay_subset [(.text key, v)] (key :: other)
          rw [namesOnWay_cons hother, hnames] at hsub
          exact List.Subset.trans hsub (List.nil_subset _)
        · exact List.Subset.refl _
      · rw [setIn_cons hpath, tableAt_insert]
        split
        · -- the table that is put back has the name that it had
          rename_i hkey
          subst hkey
          rw [tableAt, Mapping.get?, Mapping.find?, if_pos (Scalar.same_self _)]
          exact List.append_subset.2 ⟨List.subset_append_left _ _,
            List.subset_append_of_subset_right _ (ih _ _)⟩
        · exact List.Subset.refl _

/-- The tables on the way of a path still stand at one place only after a value is set. -/
theorem Alone.setPath {path other : List String} (halone : Alone m path) (hother : Alone m other)
    (hv : v.names = []) : Alone (setPath m v path) other := by
  rw [setPath_eq halone]
  exact fun name hname => Nat.le_trans ((names_setIn hv m path).count_le name)
    (hother name (namesOnWay_setIn hv m path other hname))

end Linked

/-! ## What is held at a path -/

namespace Layer

variable {path : List Scalar}

/-- Whether neither of two paths begins with the other. -/
def Apart (path other : List Scalar) : Prop := ¬ path <+: other ∧ ¬ other <+: path

instance (path other : List Scalar) : Decidable (Apart path other) :=
  inferInstanceAs (Decidable (_ ∧ _))

theorem Apart.of_cons {key : Scalar} {other : List Scalar}
    (h : Apart (key :: path) (key :: other)) : Apart path other := by
  rwa [Apart, List.prefix_cons_inj, List.prefix_cons_inj] at h

end Layer

namespace Linked

/-- What is held below a key is what the table at the key holds. -/
theorem at?_tableAt (m : Mapping Linked) (key : String) (next : Scalar) (path : List Scalar) :
    (Value.map (plainEntries (tableAt m key).2)).at? (next :: path) =
      (Value.map (plainEntries m)).at? (.text key :: next :: path) := by
  rw [Value.at?_map _ (.text key), find?_plainEntries]
  unfold tableAt Mapping.get?
  cases m.find? (.text key) with
  | none => rfl
  | some v => cases v <;> rfl

/-- A value that is set is held at its path. -/
theorem at?_setIn {path : List String} (hpath : path ≠ []) (m : Mapping Linked) (v : Linked) :
    (Value.map (plainEntries (setIn v m path).1)).at? (path.map .text) = some v.plain := by
  induction path generalizing m with
  | nil => exact absurd rfl hpath
  | cons key path ih =>
    rw [List.map_cons, Value.at?_map, find?_plainEntries]
    by_cases hlast : path = []
    · subst hlast
      rw [setIn, Mapping.find?_insert, Scalar.same_self, if_pos rfl]
      exact Value.at?_nil _
    · rw [setIn_cons hlast, Mapping.find?_insert, Scalar.same_self, if_pos rfl]
      exact ih hlast _

/-- At other paths a table in which a value is set holds what it held before. -/
theorem at?_setIn_of_apart {path : List String} {other : List Scalar}
    (h : Layer.Apart (path.map .text) other) (m : Mapping Linked) (v : Linked) :
    (Value.map (plainEntries (setIn v m path).1)).at? other =
      (Value.map (plainEntries m)).at? other := by
  induction path generalizing m other with
  | nil => exact absurd List.nil_prefix h.1
  | cons key path ih =>
    cases other with
    | nil => exact absurd List.nil_prefix h.2
    | cons first other =>
      by_cases hlast : path = []
      · subst hlast
        rw [setIn, plainEntries_insert, Value.at?_map, Value.at?_map, Mapping.find?_insert, if_neg]
        intro hkey
        rw [Scalar.same_text_iff.1 hkey] at h
        exact h.1 (by simp)
      · rw [setIn_cons hlast, plainEntries_insert, Value.at?_map, Mapping.find?_insert]
        split
        · -- the paths part further down, where the other one goes on too
          rename_i hkey
          obtain rfl := Scalar.same_text_iff.1 hkey
          have hrest := h.of_cons
          obtain ⟨next, other, rfl⟩ : ∃ next more, other = next :: more :=
            List.exists_cons_of_ne_nil fun hnil => hrest.2 (hnil ▸ List.nil_prefix)
          rw [← at?_tableAt, ← ih hrest]
          rfl
        · rfl

variable {m : Mapping Linked} {v : Linked} {path : List String}

/-- What is held at a path that is set. -/
theorem at?_setPath (halone : Alone m path) (hpath : path ≠ []) :
    (Value.map (plainEntries (setPath m v path))).at? (path.map .text) = some v.plain := by
  rw [setPath_eq halone, at?_setIn hpath]

/-- What is held at other paths. -/
theorem at?_setPath_of_apart (halone : Alone m path) {other : List Scalar}
    (h : Layer.Apart (path.map .text) other) :
    (Value.map (plainEntries (setPath m v path))).at? other =
      (Value.map (plainEntries m)).at? other := by
  rw [setPath_eq halone, at?_setIn_of_apart h]

end Linked

end Transclude
