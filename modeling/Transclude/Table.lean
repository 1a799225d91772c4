/-!
# Ordered tables

A table maps names to values and remembers the order in which the names were first inserted.
Setting a name again keeps its place.

## Main statements

* `Table.get?_insert`, `Table.get?_erase` : what a look-up finds after a change.
* `Table.get?_eq_some_iff` : in a table that names nothing twice, a look-up finds the entries.
-/

namespace Transclude

/-- A table from names to values, in order of insertion. -/
abbrev Table (α : Type) := List (String × α)

namespace Table

variable {α : Type}

/-- The value of a name. -/
def get? : Table α → String → Option α
  | [], _ => none
  | (key, value) :: rest, name => if key = name then some value else get? rest name

/-- The table with a name set to a value: in its place if the name is there, at the end if not. -/
def insert : Table α → String → α → Table α
  | [], name, value => [(name, value)]
  | (key, old) :: rest, name, value =>
    if key = name then (key, value) :: rest else (key, old) :: insert rest name value

/-- The table without a name. -/
def erase (t : Table α) (name : String) : Table α := t.filter fun entry => entry.1 != name

/-- Whether a name has a value. -/
def contains (t : Table α) (name : String) : Bool := (get? t name).isSome

/-- The names, in order of insertion. -/
def keys (t : Table α) : List String := t.map (·.1)

/-- The values, in order of insertion of their names. -/
def values (t : Table α) : List α := t.map (·.2)

/-- The table with the entries of another set in turn. -/
def insertAll (t other : Table α) : Table α :=
  other.foldl (fun t entry => insert t entry.1 entry.2) t

/-- The table of a list of entries, where a later entry for the same name wins. -/
def ofList (entries : List (String × α)) : Table α := insertAll [] entries

theorem get?_insert (t : Table α) (a b : String) (v : α) :
    get? (insert t a v) b = if a = b then some v else get? t b := by
  induction t with
  | nil => rfl
  | cons e rest ih =>
    obtain ⟨k, w⟩ := e
    by_cases hka : k = a
    · subst hka; by_cases hkb : k = b <;> simp [insert, get?, hkb]
    · by_cases hkb : k = b
      · subst hkb; simp [insert, get?, hka, Ne.symm hka]
      · simp [insert, get?, hka, hkb, ih]

theorem get?_erase (t : Table α) (a b : String) :
    get? (erase t a) b = if a = b then none else get? t b := by
  induction t with
  | nil => simp [erase, get?]
  | cons e rest ih =>
    obtain ⟨k, w⟩ := e
    have step : erase ((k, w) :: rest) a =
        if k = a then erase rest a else (k, w) :: erase rest a := by
      by_cases h : k = a <;> simp [erase, h]
    rw [step]
    by_cases hka : k = a
    · subst hka
      rw [if_pos rfl, ih]
      by_cases hkb : k = b <;> simp [get?, hkb]
    · rw [if_neg hka]
      by_cases hkb : k = b
      · subst hkb; simp [get?, Ne.symm hka]
      · simp [get?, hkb, ih]

/-- A name that is not there is set at the end. -/
theorem insert_of_notMem {t : Table α} {name : String} (h : name ∉ t.keys) (value : α) :
    t.insert name value = t ++ [(name, value)] := by
  induction t with
  | nil => rfl
  | cons entry rest ih =>
    obtain ⟨key, old⟩ := entry
    obtain ⟨hkey, hrest⟩ := not_or.1 (mt List.mem_cons.2 h)
    rw [insert, if_neg (Ne.symm hkey), ih hrest]
    rfl

/-- A name that is there keeps its place, and any other comes to the end. -/
theorem keys_insert (t : Table α) (name : String) (value : α) :
    (t.insert name value).keys = if name ∈ t.keys then t.keys else t.keys ++ [name] := by
  by_cases h : name ∈ t.keys
  · rw [if_pos h]
    induction t with
    | nil => cases h
    | cons entry rest ih =>
      obtain ⟨key, old⟩ := entry
      unfold insert
      split
      · rfl
      · rename_i hkey
        have hrest : name ∈ keys rest := (List.mem_cons.1 h).resolve_left (Ne.symm hkey)
        exact congrArg (key :: ·) (ih hrest)
  · rw [if_neg h, insert_of_notMem h]
    exact List.map_append

/-- The names after a name is set are those before, and that name. -/
theorem mem_keys_insert {t : Table α} {name key : String} {value : α}
    (h : key ∈ (t.insert name value).keys) : key = name ∨ key ∈ t.keys := by
  rw [keys_insert] at h
  split at h
  · exact .inr h
  · exact (List.mem_append.1 h).symm.imp_left List.mem_singleton.1

/-- The names after a name is unset are among those before. -/
theorem mem_keys_erase {t : Table α} {name key : String} (h : key ∈ (t.erase name).keys) :
    key ∈ t.keys :=
  (List.filter_sublist.map _).subset h

/-- What no entry names is not found. -/
theorem get?_eq_none_iff {t : Table α} {name : String} : t.get? name = none ↔ name ∉ t.keys := by
  induction t with
  | nil => simp [get?, keys]
  | cons entry rest ih =>
    obtain ⟨key, value⟩ := entry
    by_cases hkey : key = name
    · simp [get?, keys, hkey]
    · rw [get?, if_neg hkey, ih]
      simp [keys, Ne.symm hkey]

/-- If no two entries name the same, each is what a look-up finds. -/
theorem get?_eq_some_iff {t : Table α} (h : t.keys.Nodup) {name : String} {value : α} :
    t.get? name = some value ↔ (name, value) ∈ t := by
  induction t with
  | nil => simp [get?]
  | cons entry rest ih =>
    obtain ⟨key, first⟩ := entry
    obtain ⟨hfresh, hrest⟩ := List.nodup_cons.1 h
    by_cases hkey : key = name
    · -- the name is not among those of the other entries
      subst hkey
      have hother : (key, value) ∉ rest := fun hmem =>
        hfresh (List.mem_map.2 ⟨(key, value), hmem, rfl⟩)
      simp [get?, hother, eq_comm]
    · rw [get?, if_neg hkey, ih hrest]
      simp [Ne.symm hkey]

/-- A table without a name is not changed when the name is unset. -/
theorem erase_eq_self {t : Table α} {name : String} (h : t.get? name = none) :
    t.erase name = t := by
  refine List.filter_eq_self.2 fun entry hentry => bne_iff_ne.2 fun hname => ?_
  exact get?_eq_none_iff.1 h (List.mem_map.2 ⟨entry, hentry, hname⟩)

end Table

end Transclude
