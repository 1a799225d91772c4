import Transclude.Configuration.Load
import Transclude.Reduction.Context
import Transclude.Value.Lookup

/-!
# Layers of configuration

The layers of a configuration are told apart by what they hold at a path of keys. A higher layer
over a lower one holds what the higher one does, tables merged with those of the lower one, and what
the lower one does where the higher one holds nothing on the whole path. So what is no table comes
from the highest layer that holds it. Whether a table stands at several places makes no difference
to this.

## Main statements

* `Layer.at?_overlaid`            : what a value with one of a higher layer over it holds.
* `Layer.at?_stacked`             : what comes from the highest of several layers.
* `Linked.plainEntries_merged`    : layers of linked tables are merged like others.
* `Configuration.distinct_of_readFile` : the tables in a file have no key twice.
-/

namespace Transclude

namespace Layer

variable {higher v : Value} {path more : List Scalar}

/-! ## A layer over another -/

/-- What is no table takes the place of what is below it. -/
theorem overlaid_of_not_map (h : v.isMap = false) (lower : Value) : overlaid lower v = v := by
  cases v with
  | scalar | list => rfl
  | map => cases h

/-- Nothing is merged where there is no table below. -/
theorem overlaid_on_not_map {lower : Value} (h : lower.isMap = false) (v : Value) :
    overlaid lower v = v := by
  cases v with
  | scalar | list => rfl
  | map entries =>
    cases lower with
    | scalar | list => rfl
    | map => cases h

theorem eq_map_of_isMap {lower : Option Value} (h : (lower.getD .null).isMap = true) :
    ∃ entries, lower = some (.map entries) := by
  cases lower with
  | none => cases h
  | some v =>
    cases v with
    | scalar | list => cases h
    | map entries => exact ⟨entries, rfl⟩

/-- Each entry of a higher layer stands over what the lower one has for its key. -/
theorem find?_overlaidEntries {entries : Mapping} (h : entries.Distinct) (lower : Mapping)
    (k : Scalar) : Mapping.find? (overlaidEntries lower entries) k =
      match Mapping.find? entries k with
      | some v => some (overlaid ((Mapping.find? lower k).getD .null) v)
      | none => Mapping.find? lower k := by
  induction entries generalizing lower with
  | nil => rfl
  | cons entry rest ih =>
    obtain ⟨key, v⟩ := entry
    obtain ⟨hkey, hrest⟩ := List.pairwise_cons.1 h
    rw [overlaidEntries, ih hrest, overlaidEntry, Mapping.find?_insert, Mapping.find?]
    by_cases hk : key.same k = true
    · -- the key does not come up again
      have hnone : Mapping.find? rest k = none := Mapping.find?_eq_none fun e he => by
        rw [← Scalar.same_congr hk]
        exact hkey e he
      rw [hnone, if_pos hk, if_pos hk, Mapping.find?_congr lower hk]
    · rw [if_neg hk, if_neg hk]

/-- What a value with one of a higher layer over it holds at a path: what the higher one holds there,
over what the lower one does, or what the lower one holds, if the higher one holds nothing on the
way that is no table. -/
theorem at?_overlaid (h : higher.Distinct) (lower : Option Value) (path : List Scalar) :
    (overlaid (lower.getD .null) higher).at? path =
      match higher.at? path with
      | some v => some (overlaid ((lower.bind (·.at? path)).getD .null) v)
      | none => if higher.blocks path then none else lower.bind (·.at? path) := by
  -- by induction on the path, along which both layers are followed from table to table
  induction path generalizing lower higher with
  | nil => simp
  | cons key path ih =>
    cases h with
    | scalar | list => rfl
    | @map entries keys values =>
      cases hbelow : (lower.getD .null).isMap with
      | false =>
        have hnothing : lower.bind (·.at? (key :: path)) = none := by
          cases lower with
          | none => rfl
          | some v => exact Value.at?_cons_of_not_map hbelow key path
        rw [overlaid_on_not_map hbelow, hnothing]
        cases (Value.map entries).at? (key :: path) with
        | none => simp
        | some v => exact congrArg some (overlaid_on_not_map rfl v).symm
      | true =>
        obtain ⟨below, rfl⟩ := eq_map_of_isMap hbelow
        show (Value.map (overlaidEntries below entries)).at? (key :: path) = _
        rw [Value.at?_map, find?_overlaidEntries keys, Value.at?_map]
        cases hentry : Mapping.find? entries key with
        | none => simp [Value.blocks, hentry, Value.at?_map]
        | some v =>
          obtain ⟨e, he, rfl⟩ := Mapping.mem_of_find? hentry
          simpa [Value.blocks, hentry, Value.at?_map] using
            ih (values e he) (Mapping.find? below key)

/-- What a layer with a higher one over it holds. -/
theorem at?_merged {upper : Mapping} (h : (Value.map upper).Distinct) (lower : Mapping)
    (path : List Scalar) : (Value.map (merged lower upper)).at? path =
      match (Value.map upper).at? path with
      | some v => some (overlaid (((Value.map lower).at? path).getD .null) v)
      | none => if (Value.map upper).blocks path then none else (Value.map lower).at? path :=
  at?_overlaid h (some (.map lower)) path

/-! ## Several layers -/

/-- Whether a layer has no say at a path: it holds nothing there, and on the way nothing but
tables. -/
structure Silent (path : List Scalar) (layer : Mapping) : Prop where
  nothing : (Value.map layer).at? path = none
  passable : ∀ before more v, path = before ++ more → more ≠ [] →
    (Value.map layer).at? before = some v → v.isMap = true

theorem silent_iff {layer : Mapping} : Silent path layer ↔
    (Value.map layer).at? path = none ∧ (Value.map layer).blocks path = false := by
  constructor
  · refine fun h => ⟨h.nothing, eq_false_of_ne_true fun hblocks => ?_⟩
    obtain ⟨before, more, v, hpath, hmore, hv, hplain⟩ := Value.blocks_iff.1 hblocks
    rw [h.passable before more v hpath hmore hv] at hplain
    cases hplain
  · rintro ⟨hnothing, hopen⟩
    refine ⟨hnothing, fun before more v hpath hmore hv => eq_true_of_ne_false fun hplain => ?_⟩
    rw [Value.blocks_iff.2 ⟨before, more, v, hpath, hmore, hv, hplain⟩] at hopen
    cases hopen

instance (path : List Scalar) (layer : Mapping) : Decidable (Silent path layer) :=
  decidable_of_iff' _ silent_iff

/-- Higher layers without a say at a path leave it as it is. -/
theorem at?_foldl_of_silent {layers : List Mapping}
    (hdistinct : ∀ l ∈ layers, (Value.map l).Distinct) (hsilent : ∀ l ∈ layers, Silent path l)
    (below : Mapping) :
    (Value.map (layers.foldl merged below)).at? path = (Value.map below).at? path := by
  induction layers generalizing below with
  | nil => rfl
  | cons layer higher ih =>
    obtain ⟨hlayer, hhigher⟩ := List.forall_mem_cons.1 hdistinct
    obtain ⟨hfirst, hrest⟩ := List.forall_mem_cons.1 hsilent
    obtain ⟨hnothing, hopen⟩ := silent_iff.1 hfirst
    rw [List.foldl_cons, ih hhigher hrest, at?_merged hlayer, hnothing, hopen]
    rfl

/-- What is no table comes from the highest layer that has a say. -/
theorem at?_stacked {below layer : Mapping} {layers before higher : List Mapping}
    (hdistinct : ∀ l ∈ layers, (Value.map l).Distinct)
    (hsplit : below :: layers = before ++ layer :: higher)
    (hv : (Value.map layer).at? path = some v) (hplain : v.isMap = false)
    (hsilent : ∀ l ∈ higher, Silent path l) :
    (Value.map (layers.foldl merged below)).at? path = some v := by
  cases before with
  | nil =>
    obtain ⟨rfl, rfl⟩ := List.cons.inj hsplit
    rw [at?_foldl_of_silent hdistinct hsilent, hv]
  | cons first before =>
    rw [List.cons_append] at hsplit
    obtain ⟨rfl, rfl⟩ := List.cons.inj hsplit
    have hlayer := hdistinct layer (by simp)
    have hhigher : ∀ l ∈ higher, (Value.map l).Distinct := fun l hl => hdistinct l (by simp [hl])
    rw [List.foldl_append, List.foldl_cons, at?_foldl_of_silent hhigher hsilent, at?_merged hlayer,
      hv]
    exact congrArg some (overlaid_of_not_map hplain _)

end Layer

/-! ## Layers of linked tables -/

namespace Linked

mutual

/-- Which tables are one makes no difference to what layers hold. -/
theorem plain_overlaid (lower : Linked) :
    ∀ v : Linked, (overlaid lower v).plain = Layer.overlaid lower.plain v.plain
  | .scalar _ | .list _ => rfl
  | .map _ entries => by
    cases lower with
    | scalar | list => rfl
    | map _ below => rw [overlaid, plain, plainEntries_overlaid below entries]; rfl

theorem plainEntries_overlaid (lower : Mapping Linked) :
    ∀ entries : List (Scalar × Linked), plainEntries (overlaidEntries lower entries) =
      Layer.overlaidEntries (plainEntries lower) (plainEntries entries)
  | [] => rfl
  | (key, v) :: rest => by
    rw [overlaidEntries, plainEntries_overlaid _ rest, overlaidEntry, plainEntries_insert,
      plain_overlaid _ v, plainEntries, Layer.overlaidEntries, Layer.overlaidEntry,
      find?_plainEntries]
    cases Mapping.find? lower key <;> rfl

end

theorem plainEntries_merged (lower higher : Mapping Linked) :
    plainEntries (merged lower higher) = Layer.merged (plainEntries lower) (plainEntries higher) :=
  plainEntries_overlaid lower higher

end Linked

/-! ## The layers of files -/

/-- What is so of every result for an item is so of all results. -/
theorem forall_of_mapM {ε α β : Type} {f : α → Except ε β} {P : β → Prop} {xs : List α}
    {ys : List β} (hf : ∀ x y, f x = .ok y → P y) (h : xs.mapM f = .ok ys) : ∀ y ∈ ys, P y := by
  induction xs generalizing ys with
  | nil =>
    cases h
    exact List.forall_mem_nil _
  | cons x xs ih =>
    rw [List.mapM_cons] at h
    obtain ⟨y, hy, h⟩ := eq_ok_of_bind h
    obtain ⟨ys, hys, h⟩ := eq_ok_of_bind h
    cases h
    exact List.forall_mem_cons.2 ⟨hf x y hy, ih hys⟩

/-- The table of a list of entries has no key twice. -/
theorem Linked.distinct_ofList {entries : Mapping Linked} (h : ∀ e ∈ entries, e.2.plain.Distinct)
    (name : Option TableName) : (Linked.map name (Mapping.ofList entries)).plain.Distinct := by
  rw [plain, Mapping.ofList, plainEntries_insertAll]
  refine Value.distinct_ofList fun e he => ?_
  obtain ⟨f, hf, hplain⟩ := mem_plainEntries he
  exact hplain ▸ h f hf

/-- No table of a document has a key twice. -/
theorem Yaml.Node.distinct_value {document fuel : Nat} {n : Node} {v : Linked}
    (h : value document fuel n = .ok v) : v.plain.Distinct := by
  induction fuel generalizing n v with
  | zero => cases h
  | succ fuel ih =>
    rw [value] at h
    obtain ⟨scalar, -, h⟩ := eq_ok_of_bind h
    cases scalar with
    | some s =>
      cases h
      exact .scalar s
    | none =>
      obtain ⟨⟨entries, items⟩, -, h⟩ := eq_ok_of_bind h
      dsimp only at h
      split at h
      · obtain ⟨found, hfound, h⟩ := eq_ok_of_bind h
        split at h
        · cases h
          exact .list _
        cases h
        refine Linked.distinct_ofList (forall_of_mapM (fun entry e he => ?_) hfound) _
        obtain ⟨key, -, he⟩ := eq_ok_of_bind he
        cases key with
        | none => cases he
        | some key =>
          obtain ⟨w, hw, he⟩ := eq_ok_of_bind he
          cases he
          exact ih hw
      · obtain ⟨found, -, h⟩ := eq_ok_of_bind h
        cases h
        exact .list _

theorem Linked.distinct_ofYaml {document : Nat} {text : String} {v : Linked}
    (h : ofYaml document text = .ok v) : v.plain.Distinct := by
  unfold ofYaml at h
  obtain ⟨tokens, -, h⟩ := eq_ok_of_bind h
  obtain ⟨node, -, h⟩ := eq_ok_of_bind h
  cases node with
  | none =>
    cases h
    exact .scalar .null
  | some n =>
    -- what is wrong with the document is found before, and then there is no value
    obtain ⟨scalar, -, h⟩ := eq_ok_of_bind h
    dsimp only at h
    split at h
    · obtain ⟨_, -, h⟩ := eq_ok_of_bind h
      exact Yaml.Node.distinct_value h
    · exact Yaml.Node.distinct_value h

namespace Configuration

/-- No table of a file has a key twice. -/
theorem distinct_of_readFile {document : Nat} {files : FileTree} {cwd path : String}
    {layer : Mapping Linked} (h : readFile document files cwd path = .ok layer) :
    (Value.map (Linked.plainEntries layer)).Distinct := by
  have hempty : (Value.map []).Distinct := .map .nil (List.forall_mem_nil _)
  unfold readFile at h
  split at h
  · split at h <;> cases h
  · split at h
    · cases h
    · split at h
      · cases h
      · cases h
      · cases h
        exact hempty
      · rename_i entries hvalue
        cases h
        exact Linked.distinct_ofYaml hvalue
      · cases h

theorem distinct_of_ownLayer {place : Place} {own : Mapping Linked}
    (h : ownLayer place = .ok own) : (Value.map (Linked.plainEntries own)).Distinct := by
  unfold ownLayer at h
  split at h
  · cases h
  · exact distinct_of_readFile h
  · cases h
    exact .map .nil (List.forall_mem_nil _)

theorem distinct_of_namedLayer {place : Place} {named : Option String} {given : Mapping Linked}
    (h : namedLayer place named = .ok given) :
    (Value.map (Linked.plainEntries given)).Distinct := by
  unfold namedLayer at h
  split at h
  · exact distinct_of_readFile h
  · cases h
    exact .map .nil (List.forall_mem_nil _)

end Configuration

end Transclude
