import Transclude.Value.Basic

/-!
# Tables that stand at several places

A value can be made of one table more than once: whoever refers to a table in place of repeating it
has the same table at both places, and what is set at one of them is found at the other. Such a
table has a name. As a plain value it is repeated.

## Main definitions

* `Linked`          : a value that tells which of its tables are one.
* `Linked.plain`    : the value without the names of its tables.
* `Linked.setPath`  : a table with one value deep inside it set.
* `Linked.names`    : the names of the tables in a value.
-/

namespace Transclude

/-- By what a table is known: the document it is from, and its place there. -/
structure TableName where
  document : Nat
  place : Nat
  deriving DecidableEq, Repr

/-- A data value whose tables can be changed. Tables of one name are one table; a table without a
name stands at one place only, unless it is part of one with a name. -/
inductive Linked
  | scalar (s : Scalar)
  | list (items : List Linked)
  | map (name : Option TableName) (entries : List (Scalar × Linked))

namespace Linked

/-! ## Plain values -/

mutual

/-- The value without the names of its tables. -/
def plain : Linked → Value
  | .scalar s => .scalar s
  | .list items => .list (plainItems items)
  | .map _ entries => .map (plainEntries entries)
termination_by structural v => v

/-- Items without the names of tables. -/
def plainItems : List Linked → List Value
  | [] => []
  | v :: rest => v.plain :: plainItems rest
termination_by structural items => items

/-- Entries without the names of tables. -/
def plainEntries : List (Scalar × Linked) → Mapping
  | [] => []
  | (key, v) :: rest => (key, v.plain) :: plainEntries rest
termination_by structural entries => entries

end

mutual

/-- The value whose tables are new ones. -/
def ofValue : Value → Linked
  | .scalar s => .scalar s
  | .list items => .list (ofItems items)
  | .map entries => .map none (ofEntries entries)
termination_by structural v => v

/-- Items whose tables are new ones. -/
def ofItems : List Value → List Linked
  | [] => []
  | v :: rest => ofValue v :: ofItems rest
termination_by structural items => items

/-- Entries whose tables are new ones. -/
def ofEntries : List (Scalar × Value) → Mapping Linked
  | [] => []
  | (key, v) :: rest => (key, ofValue v) :: ofEntries rest
termination_by structural entries => entries

end

mutual

/-- A value with new tables is the value, as a plain one. -/
@[simp] theorem plain_ofValue : ∀ v : Value, (ofValue v).plain = v
  | .scalar _ => rfl
  | .list items => by rw [ofValue, plain, plainItems_ofItems items]
  | .map entries => by rw [ofValue, plain, plainEntries_ofEntries entries]

@[simp] theorem plainItems_ofItems : ∀ items : List Value, plainItems (ofItems items) = items
  | [] => rfl
  | v :: rest => by rw [ofItems, plainItems, plain_ofValue v, plainItems_ofItems rest]

@[simp] theorem plainEntries_ofEntries :
    ∀ entries : List (Scalar × Value), plainEntries (ofEntries entries) = entries
  | [] => rfl
  | (key, v) :: rest => by
    rw [ofEntries, plainEntries, plain_ofValue v, plainEntries_ofEntries rest]

end

variable {m : Mapping Linked} {k : Scalar} {v : Linked}

/-- A key is found in the plain entries just if it is found in the entries. -/
theorem find?_plainEntries (m : Mapping Linked) (k : Scalar) :
    Mapping.find? (plainEntries m) k = (Mapping.find? m k).map plain := by
  induction m with
  | nil => rfl
  | cons entry rest ih =>
    rw [plainEntries, Mapping.find?, Mapping.find?, ih]
    split <;> rfl

theorem plainEntries_insert (m : Mapping Linked) (k : Scalar) (v : Linked) :
    plainEntries (m.insert k v) = Mapping.insert (plainEntries m) k v.plain := by
  induction m with
  | nil => rfl
  | cons entry rest ih =>
    rw [Mapping.insert, plainEntries, Mapping.insert]
    split
    · rfl
    · rw [plainEntries, ih]

theorem plainEntries_insertAll (m entries : Mapping Linked) :
    plainEntries (m.insertAll entries) =
      Mapping.insertAll (plainEntries m) (plainEntries entries) := by
  induction entries generalizing m with
  | nil => rfl
  | cons entry rest ih => exact (ih _).trans (by rw [plainEntries_insert]; rfl)

theorem mem_plainEntries {e : Scalar × Value} (h : e ∈ plainEntries m) :
    ∃ f ∈ m, f.2.plain = e.2 := by
  induction m with
  | nil => cases h
  | cons entry rest ih =>
    rcases List.mem_cons.1 h with rfl | h
    · exact ⟨entry, List.mem_cons_self, rfl⟩
    · obtain ⟨f, hf, hplain⟩ := ih h
      exact ⟨f, List.mem_cons_of_mem _ hf, hplain⟩

/-! ## Which tables are one -/

mutual

/-- The names of the tables in a value, one for each place at which they stand. -/
def names : Linked → List TableName
  | .scalar _ => []
  | .list items => namesOfItems items
  | .map name entries => name.toList ++ namesOfEntries entries
termination_by structural v => v

/-- The names of the tables in items. -/
def namesOfItems : List Linked → List TableName
  | [] => []
  | v :: rest => v.names ++ namesOfItems rest
termination_by structural items => items

/-- The names of the tables in entries. -/
def namesOfEntries : List (Scalar × Linked) → List TableName
  | [] => []
  | (_, v) :: rest => v.names ++ namesOfEntries rest
termination_by structural entries => entries

end

mutual

/-- New tables have no names. -/
@[simp] theorem names_ofValue : ∀ v : Value, (ofValue v).names = []
  | .scalar _ => rfl
  | .list items => by rw [ofValue, names, namesOfItems_ofItems items]
  | .map entries => by rw [ofValue, names, namesOfEntries_ofEntries entries]; rfl

@[simp] theorem namesOfItems_ofItems : ∀ items : List Value, namesOfItems (ofItems items) = []
  | [] => rfl
  | v :: rest => by rw [ofItems, namesOfItems, names_ofValue v, namesOfItems_ofItems rest]; rfl

@[simp] theorem namesOfEntries_ofEntries :
    ∀ entries : List (Scalar × Value), namesOfEntries (ofEntries entries) = []
  | [] => rfl
  | (_, v) :: rest => by
    rw [ofEntries, namesOfEntries, names_ofValue v, namesOfEntries_ofEntries rest]; rfl

end

/-! ## Changing tables -/

section

variable (name : TableName) (now : Mapping Linked)

mutual

/-- The value after the table of a name has changed. -/
def become : Linked → Linked
  | .scalar s => .scalar s
  | .list items => .list (becomeItems items)
  | .map known entries => .map known (if known = some name then now else becomeEntries entries)
termination_by structural v => v

/-- Items after the table of a name has changed. -/
def becomeItems : List Linked → List Linked
  | [] => []
  | v :: rest => become v :: becomeItems rest
termination_by structural items => items

/-- Entries after the table of a name has changed. -/
def becomeEntries : List (Scalar × Linked) → Mapping Linked
  | [] => []
  | (key, v) :: rest => (key, become v) :: becomeEntries rest
termination_by structural entries => entries

end

end

/-- The table at a key, with its name: a new one if there is none. -/
def tableAt (m : Mapping Linked) (key : String) : Option TableName × Mapping Linked :=
  match m.get? key with
  | some (.map name entries) => (name, entries)
  | _ => (none, [])

/-- A table with the value at a path of keys set, and the innermost table with a name on the way, as
it is now. What is no table on the way becomes one. -/
def setIn (v : Linked) (m : Mapping Linked) :
    List String → Mapping Linked × Option (TableName × Mapping Linked)
  | [] => (m, none)
  | [key] => (m.insert key v, none)
  | key :: rest =>
    let (name, entries) := tableAt m key
    let (now, changed) := setIn v entries rest
    (m.insert key (.map name now), changed.or (name.map (·, now)))

/-- A table with the value at a path of keys set. A table in it that is changed is changed wherever
it stands. -/
def setPath (m : Mapping Linked) (v : Linked) (path : List String) : Mapping Linked :=
  match setIn v m path with
  | (m, none) => m
  | (m, some (name, now)) => becomeEntries name now m

end Linked

end Transclude
