import Transclude.Value.Basic

/-!
# Looking up in tables of data

Keys of different spelling may be one key, as equal numbers are. Which of them is asked for makes no
difference to what a table holds. What a value holds deep inside is told by a path of keys.

## Main definitions

* `Value.Distinct` : whether no table in a value has a key twice.
* `Value.at?`      : what a value holds at a path of keys.
* `Value.blocks`   : whether something else than a table stands on the way of a path.

## Main statements

* `Scalar.same_iff`          : when two scalars are one key.
* `Mapping.find?_insert`     : what a look-up finds after a key is set.
* `Value.distinct_ofList`    : the table of a list of entries has no key twice.
* `Value.blocks_iff`         : what it is to be on the way.
-/

namespace Transclude

/-! ## Keys -/

namespace Scalar

variable {a b c : Scalar}

/-- The numbers that are keys have positive denominators. -/
theorem sound_of_number? {x : Extended} (h : a.number? = some x) : x.Sound := by
  cases a with
  | bool | int =>
    cases h
    exact Nat.one_pos
  | real x =>
    cases h
    cases x with
    | infinite negative => cases negative <;> trivial
    | finite negative m e =>
      show 0 < (Binary64.ratio negative m e).2
      unfold Binary64.ratio
      dsimp only
      split
      · exact Nat.one_pos
      · exact Nat.pow_pos (by decide)
  | null | nan | date | moment | bytes | text => cases h

/-- Two scalars are one key if they are the same, or equal numbers, or moments of one instant. -/
theorem same_iff : a.same b = true ↔ a = b ∨
    (∃ x y, a.number? = some x ∧ b.number? = some y ∧ x.compare y = .eq) ∨
      ∃ m n i, a = .moment m ∧ b = .moment n ∧ m.instant? = some i ∧ n.instant? = some i := by
  constructor
  · intro h
    unfold same at h
    split at h
    · rename_i m n
      split at h
      · rename_i i j hm hn
        obtain rfl := beq_iff_eq.1 h
        exact .inr (.inr ⟨m, n, i, rfl, rfl, hm, hn⟩)
      · exact .inl (congrArg _ (beq_iff_eq.1 h))
    · split at h
      · exact .inr (.inl ⟨_, _, ‹_›, ‹_›, beq_iff_eq.1 h⟩)
      · exact .inl (beq_iff_eq.1 h)
  · rintro (rfl | ⟨x, y, hx, hy, hxy⟩ | ⟨m, n, i, rfl, rfl, hm, hn⟩)
    · unfold same
      split
      · split <;> simp_all
      · split <;> simp_all [Extended.compare_self]
    · unfold same
      split
      · cases hx
      · simp [hx, hy, hxy]
    · simp [same, hm, hn]

@[simp] theorem same_self (a : Scalar) : a.same a = true := same_iff.2 (.inl rfl)

theorem same_symm (h : a.same b = true) : b.same a = true := by
  rcases same_iff.1 h with rfl | ⟨x, y, hx, hy, hxy⟩ | ⟨m, n, i, rfl, rfl, hm, hn⟩
  · exact h
  · refine same_iff.2 (.inr (.inl ⟨y, x, hy, hx, ?_⟩))
    rw [← Extended.swap_compare, hxy]
    rfl
  · exact same_iff.2 (.inr (.inr ⟨n, m, i, rfl, rfl, hn, hm⟩))

theorem same_trans (hab : a.same b = true) (hbc : b.same c = true) : a.same c = true := by
  rcases same_iff.1 hab with rfl | ⟨x, y, hx, hy, hxy⟩ | ⟨m, n, i, rfl, rfl, hm, hn⟩
  · exact hbc
  · rcases same_iff.1 hbc with rfl | ⟨y', z, hy', hz, hyz⟩ | ⟨n, _, _, rfl, -⟩
    · exact hab
    · rw [hy] at hy'
      cases hy'
      have hxz := Extended.compare_eq_trans (sound_of_number? hy) hxy hyz
      exact same_iff.2 (.inr (.inl ⟨x, z, hx, hz, hxz⟩))
    · cases hy
  · rcases same_iff.1 hbc with rfl | ⟨_, _, hy, -⟩ | ⟨n', o, j, heq, rfl, hn', ho⟩
    · exact hab
    · cases hy
    · cases heq
      rw [hn] at hn'
      cases hn'
      exact same_iff.2 (.inr (.inr ⟨m, o, i, rfl, rfl, hm, ho⟩))

/-- Of two scalars that are one key, either both are the same key as a third, or neither is. -/
theorem same_congr (h : a.same b = true) (c : Scalar) : a.same c = b.same c := by
  rw [Bool.eq_iff_iff]
  exact ⟨same_trans (same_symm h), same_trans h⟩

/-- Only a text is the same key as the text. -/
theorem same_text_iff {name : String} : (text name).same b = true ↔ b = .text name := by
  constructor
  · intro h
    rcases same_iff.1 h with rfl | ⟨_, _, hx, -⟩ | ⟨_, _, _, heq, -⟩
    · rfl
    · cases hx
    · cases heq
  · rintro rfl
    exact same_self _

end Scalar

/-! ## Tables -/

namespace Mapping

variable {α : Type} {m : Mapping α} {k k' : Scalar}

/-- What is found does not depend on the spelling of the key. -/
theorem find?_congr (m : Mapping α) (h : k.same k' = true) : find? m k = find? m k' := by
  induction m with
  | nil => rfl
  | cons entry rest ih =>
    obtain ⟨key, v⟩ := entry
    have hkey : key.same k = key.same k' := by
      rw [Bool.eq_iff_iff]
      exact ⟨fun hk => Scalar.same_trans hk h,
        fun hk => Scalar.same_trans hk (Scalar.same_symm h)⟩
    rw [find?, find?, hkey, ih]

/-- Where a key is set, it has its value, and all other keys have theirs. -/
theorem find?_insert (m : Mapping α) (k : Scalar) (v : α) (k' : Scalar) :
    find? (insert m k v) k' = if k.same k' then some v else find? m k' := by
  induction m with
  | nil => rfl
  | cons entry rest ih =>
    obtain ⟨key, old⟩ := entry
    rw [insert]
    by_cases hk : key.same k = true
    · rw [if_pos hk, find?, find?, Scalar.same_congr hk]
      split <;> rfl
    · rw [if_neg hk, find?, find?, ih]
      by_cases hk' : key.same k' = true
      · -- the key is not the one that is set, which is another
        have hother : ¬ k.same k' = true := fun h =>
          hk (Scalar.same_trans hk' (Scalar.same_symm h))
        rw [if_pos hk', if_neg hother, if_pos hk']
      · rw [if_neg hk', if_neg hk']

/-- Whether no key stands in a table twice. -/
def Distinct (m : Mapping α) : Prop := m.Pairwise fun e f => e.1.same f.1 = false

/-- What is found is the value of an entry. -/
theorem mem_of_find? {v : α} (h : find? m k = some v) : ∃ e ∈ m, e.2 = v := by
  induction m with
  | nil => cases h
  | cons entry rest ih =>
    rw [find?] at h
    split at h
    · exact ⟨entry, List.mem_cons_self, Option.some.inj h⟩
    · obtain ⟨e, he, hv⟩ := ih h
      exact ⟨e, List.mem_cons_of_mem _ he, hv⟩

/-- A key that is none of those of a table is not found. -/
theorem find?_eq_none (h : ∀ e ∈ m, k.same e.1 = false) : find? m k = none := by
  induction m with
  | nil => rfl
  | cons entry rest ih =>
    obtain ⟨hentry, hrest⟩ := List.forall_mem_cons.1 h
    have hother : ¬ entry.1.same k = true := fun hk =>
      ne_true_of_eq_false hentry (Scalar.same_symm hk)
    rw [find?, if_neg hother, ih hrest]

/-- The entries after a key is set are those before, or hold the new value, with the key or with one
that was there. -/
theorem mem_insert {v : α} {e : Scalar × α} (h : e ∈ insert m k v) :
    e ∈ m ∨ e.2 = v ∧ (e.1 = k ∨ ∃ f ∈ m, f.1 = e.1) := by
  induction m with
  | nil =>
    obtain rfl := List.mem_singleton.1 h
    exact .inr ⟨rfl, .inl rfl⟩
  | cons entry rest ih =>
    obtain ⟨key, old⟩ := entry
    rw [insert] at h
    split at h
    · rcases List.mem_cons.1 h with rfl | h
      · exact .inr ⟨rfl, .inr ⟨_, List.mem_cons_self, rfl⟩⟩
      · exact .inl (List.mem_cons_of_mem _ h)
    · rcases List.mem_cons.1 h with rfl | h
      · exact .inl List.mem_cons_self
      · rcases ih h with h | ⟨hv, hk | ⟨f, hf, hk⟩⟩
        · exact .inl (List.mem_cons_of_mem _ h)
        · exact .inr ⟨hv, .inl hk⟩
        · exact .inr ⟨hv, .inr ⟨f, List.mem_cons_of_mem _ hf, hk⟩⟩

/-- Setting a key does not bring a key in twice. -/
theorem Distinct.insert (h : m.Distinct) (k : Scalar) (v : α) : (m.insert k v).Distinct := by
  induction m with
  | nil => exact List.pairwise_singleton _ _
  | cons entry rest ih =>
    obtain ⟨key, old⟩ := entry
    obtain ⟨hkey, hrest⟩ := List.pairwise_cons.1 h
    rw [Mapping.insert]
    split
    · exact List.pairwise_cons.2 ⟨hkey, hrest⟩
    · rename_i hother
      refine List.pairwise_cons.2 ⟨fun e he => ?_, ih hrest⟩
      rcases mem_insert he with he | ⟨-, hk | ⟨f, hf, hk⟩⟩
      · exact hkey e he
      · rw [hk]
        exact eq_false_of_ne_true hother
      · rw [← hk]
        exact hkey f hf

/-- Every value of the table of a list of entries is that of one of them. -/
theorem mem_insertAll {m entries : Mapping α} {e : Scalar × α} (h : e ∈ m.insertAll entries) :
    (∃ f ∈ m, f.2 = e.2) ∨ ∃ f ∈ entries, f.2 = e.2 := by
  induction entries generalizing m with
  | nil => exact .inl ⟨e, h, rfl⟩
  | cons entry rest ih =>
    rcases ih h with ⟨f, hf, hv⟩ | ⟨f, hf, hv⟩
    · rcases mem_insert hf with hf | ⟨hnew, -⟩
      · exact .inl ⟨f, hf, hv⟩
      · exact .inr ⟨entry, List.mem_cons_self, hnew.symm.trans hv⟩
    · exact .inr ⟨f, List.mem_cons_of_mem _ hf, hv⟩

theorem Distinct.insertAll {m : Mapping α} (h : m.Distinct) (entries : Mapping α) :
    (m.insertAll entries).Distinct := by
  induction entries generalizing m with
  | nil => exact h
  | cons entry rest ih => exact ih (h.insert entry.1 entry.2)

end Mapping

/-! ## Values -/

namespace Value

/-- Whether no table has a key twice, in a value and in the tables of which it is made. -/
inductive Distinct : Value → Prop
  | scalar (s : Scalar) : Distinct (.scalar s)
  | list (items : List Value) : Distinct (.list items)
  | map {entries : Mapping} (keys : entries.Distinct) (values : ∀ e ∈ entries, e.2.Distinct) :
    Distinct (.map entries)

/-- The table of a list of entries has no key twice. -/
theorem distinct_ofList {entries : Mapping} (h : ∀ e ∈ entries, e.2.Distinct) :
    (map (Mapping.ofList entries)).Distinct := by
  refine .map (Mapping.Distinct.insertAll .nil entries) fun e he => ?_
  rcases Mapping.mem_insertAll he with ⟨_, hf, -⟩ | ⟨f, hf, hv⟩
  · cases hf
  · rw [← hv]
    exact h f hf

/-- Whether a value is a table. -/
def isMap : Value → Bool
  | .map _ => true
  | .scalar _ | .list _ => false

/-- What a value holds at a path of keys: the value itself at the empty one, and nothing at another
if it is no table, or has no such key. -/
def at? : Value → List Scalar → Option Value
  | v, [] => some v
  | .map entries, key :: path => (Mapping.find? entries key).bind fun v => at? v path
  | .scalar _, _ :: _ | .list _, _ :: _ => none

/-- Whether something else than a table stands on the way of a path. -/
def blocks : Value → List Scalar → Bool
  | _, [] => false
  | .map entries, key :: path => (Mapping.find? entries key).any fun v => blocks v path
  | .scalar _, _ :: _ | .list _, _ :: _ => true

variable {v w : Value} {path : List Scalar}

@[simp] theorem at?_nil (v : Value) : v.at? [] = some v := by
  cases v <;> rfl

theorem at?_map (entries : Mapping) (key : Scalar) (path : List Scalar) :
    (map entries).at? (key :: path) = (Mapping.find? entries key).bind (·.at? path) := rfl

theorem at?_cons_of_not_map (h : v.isMap = false) (key : Scalar) (path : List Scalar) :
    v.at? (key :: path) = none := by
  cases v with
  | scalar | list => rfl
  | map => cases h

/-- What stands on the way of a path is no table, and is held at a proper prefix of the path. -/
theorem blocks_iff : v.blocks path = true ↔
    ∃ before more w, path = before ++ more ∧ more ≠ [] ∧ v.at? before = some w ∧
      w.isMap = false := by
  induction path generalizing v with
  | nil =>
    refine iff_of_false (by cases v <;> exact Bool.false_ne_true) ?_
    rintro ⟨before, more, _, hpath, hmore, -⟩
    exact hmore (List.append_eq_nil_iff.1 hpath.symm).2
  | cons key path ih =>
    cases v with
    | scalar | list => exact iff_of_true rfl ⟨[], key :: path, _, rfl, by simp, rfl, rfl⟩
    | map entries =>
      constructor
      · intro h
        obtain ⟨v, hv, hblocks⟩ := (Option.any_eq_true _ _).1 h
        obtain ⟨before, more, w, rfl, hmore, hat, hw⟩ := ih.1 hblocks
        refine ⟨key :: before, more, w, rfl, hmore, ?_, hw⟩
        rw [at?_map, hv]
        exact hat
      · rintro ⟨before, more, w, hpath, hmore, hat, hw⟩
        cases before with
        | nil =>
          -- the table itself is on no way
          cases hat
          cases hw
        | cons key' before =>
          obtain ⟨rfl, rfl⟩ := List.cons.inj hpath
          rw [at?_map] at hat
          obtain ⟨v, hv, hat⟩ := Option.bind_eq_some_iff.1 hat
          refine (Option.any_eq_true _ _).2 ⟨v, hv, ?_⟩
          exact ih.2 ⟨before, more, w, rfl, hmore, hat, hw⟩

end Value

end Transclude
