import Transclude.Proofs.Layers
import Transclude.Proofs.Sharing
import Transclude.Proofs.VariableValues

/-!
# Variables over the files of a configuration

The variables of the environment are applied in the order of their names, over the layers of the
files. The value of a variable stands at its path unless a variable after it sets a value there, or
on the way to it, or below it; and where no variable does, the configuration is that of the files.

An integer that is refused leaves no configuration at all, though the same text without the
separator beside it, and any other text with one, has a value.

## Main definitions

* `Variable.Sets`      : whether a variable sets the value at a path.
* `Variable.Overrides` : what variables make of a configuration.

## Main statements

* `Variable.overrides_applied`         : what an environment makes of a configuration.
* `Configuration.loadOver_overrides`   : what is loaded from the files and the environment.
-/

namespace Transclude

namespace Variable

open Transclude.Text

/-! ## Names of variables -/

/-- Whether the variable of a name sets the value at a path of names. -/
def Sets (name : String) (names : List String) : Prop := path? name = some (.ok names)

instance (name : String) (names : List String) : Decidable (Sets name names) :=
  inferInstanceAs (Decidable (_ = _))

/-- What is so of the path that a variable sets is told from its name. -/
theorem forall_sets_iff {name : String} {P : List String → Prop} :
    (∀ names, Sets name names → P names) ↔
      ∀ found ∈ path? name, ∀ names ∈ found.toOption, P names := by
  constructor
  · rintro h (_ | names) hfound names' hnames
    · cases hnames
    · cases hnames
      exact h names hfound
  · exact fun h names hsets => h _ hsets names rfl

theorem partsFrom_ne_nil (part s : List Char) : partsFrom part s ≠ [] := by
  fun_induction partsFrom part s with
  | case1 => exact List.cons_ne_nil _ _
  | case2 _ _ _ _ ih => exact ih
  | case3 => exact List.cons_ne_nil _ _

/-- No variable sets the whole configuration. -/
theorem Sets.ne_nil {name : String} {names : List String} (h : Sets name names) : names ≠ [] := by
  obtain ⟨rest, -, hparts⟩ := Option.map_eq_some_iff.1 h
  dsimp only at hparts
  split at hparts
  · cases hparts
  · cases hparts
    exact mt List.map_eq_nil_iff.1 (partsFrom_ne_nil _ _)

/-! ## Variables one after another -/

/-- What variables make of a configuration: the value of each stands at its path unless one with a
later name sets a value there, or on the way, or below, and at other paths nothing is changed. -/
structure Overrides (environment : Table String) (files config : Mapping) : Prop where
  stands : ∀ name text names, (name, text) ∈ environment → Sets name names →
    (∀ later ∈ environment, name < later.1 → ∀ others, Sets later.1 others →
      Layer.Apart (others.map .text) (names.map .text)) →
    ∃ v, value text = .ok v ∧ (Value.map config).at? (names.map .text) = some v
  keeps : ∀ path : List Scalar,
    (∀ entry ∈ environment, ∀ names, Sets entry.1 names → Layer.Apart (names.map .text) path) →
    (Value.map config).at? path = (Value.map files).at? path

section

variable {config files : Mapping} {name text : String} {names : List String}
  {environment : Table String}

/-- A variable that sets nothing makes no difference. -/
theorem Overrides.cons_of_silent (h : Overrides environment files config)
    (hsilent : ∀ names, ¬ Sets name names) :
    Overrides ((name, text) :: environment) files config where
  stands := by
    intro name' text' names hmem hsets hlater
    rcases List.mem_cons.1 hmem with heq | hmem
    · cases heq
      exact absurd hsets (hsilent names)
    · exact h.stands name' text' names hmem hsets fun later hl => hlater later (by simp [hl])
  keeps := fun path hapart => h.keeps path fun e he => hapart e (by simp [he])

/-- A variable before others, of which all names are later, sets its value first. -/
theorem Overrides.cons_of_sets {files : Mapping Linked} {v : Value}
    (halone : Linked.Alone files names) (hsets : Sets name names) (hvalue : value text = .ok v)
    (hfirst : ∀ later ∈ environment, name < later.1)
    (h : Overrides environment (Linked.plainEntries (Linked.setPath files (.ofValue v) names))
      config) :
    Overrides ((name, text) :: environment) (Linked.plainEntries files) config where
  stands := by
    intro name' text' names' hmem hsets' hlater
    rcases List.mem_cons.1 hmem with heq | hmem
    · cases heq
      obtain rfl : names = names' := by
        rw [Sets, hsets] at hsets'
        cases hsets'
        rfl
      refine ⟨v, hvalue, ?_⟩
      rw [h.keeps _ fun e he => hlater e (by simp [he]) (hfirst e he),
        Linked.at?_setPath halone hsets.ne_nil, Linked.plain_ofValue]
    · exact h.stands name' text' names' hmem hsets' fun later hl => hlater later (by simp [hl])
  keeps := by
    intro path hapart
    rw [h.keeps path fun e he => hapart e (by simp [he])]
    exact Linked.at?_setPath_of_apart halone (hapart (name, text) List.mem_cons_self names hsets)

/-- In what order variables are listed makes no difference. -/
theorem Overrides.of_mem {sorted : Table String} (h : Overrides sorted files config)
    (hmem : ∀ entry, entry ∈ sorted ↔ entry ∈ environment) :
    Overrides environment files config := by
  have hsame : ∀ P : String × String → Prop,
      (∀ entry ∈ environment, P entry) → ∀ entry ∈ sorted, P entry :=
    fun P hall entry hentry => hall entry ((hmem entry).1 hentry)
  exact ⟨fun name text names hvariable hsets hlater =>
      h.stands name text names ((hmem _).2 hvariable) hsets (hsame _ hlater),
    fun path hapart => h.keeps path (hsame _ hapart)⟩

end

section

open Linked

variable {config config' : Mapping Linked} {environment : Table String}

/-- Variables in the order of their names override a configuration in which the tables on their ways
stand at one place only. -/
theorem overrides_applyAll
    (halone : ∀ entry ∈ environment, ∀ names, Sets entry.1 names → Alone config names)
    (hsorted : environment.Pairwise fun a b => a.1 < b.1)
    (h : (applyAll config environment).1 = .ok config') :
    Overrides environment (plainEntries config) (plainEntries config') := by
  induction environment generalizing config with
  | nil =>
    cases h
    exact ⟨fun _ _ _ hmem => absurd hmem List.not_mem_nil, fun _ _ => rfl⟩
  | cons entry rest ih =>
    obtain ⟨name, text⟩ := entry
    obtain ⟨hfirst, hrest⟩ := List.pairwise_cons.1 hsorted
    obtain ⟨hway, hways⟩ := List.forall_mem_cons.1 halone
    rw [applyAll] at h
    split at h
    · rename_i hpath
      exact (ih hways hrest h).cons_of_silent fun names hsets => by simp [Sets, hpath] at hsets
    · rename_i hpath
      exact (ih hways hrest h).cons_of_silent fun names hsets => by simp [Sets, hpath] at hsets
    · rename_i names hpath
      split at h
      · cases h
      · rename_i v hvalue
        have hstill : ∀ entry ∈ rest, ∀ others, Sets entry.1 others →
            Alone (setPath config (.ofValue v) names) others := fun entry hentry others hsets =>
          (hway names hpath).setPath (hways entry hentry others hsets) (names_ofValue v)
        exact .cons_of_sets (hway names hpath) hpath hvalue hfirst (ih hstill hrest h)

/-- There is a configuration just if no text of a variable that sets a value is refused. -/
theorem exists_applyAll_iff : (∃ config', (applyAll config environment).1 = .ok config') ↔
    ∀ entry ∈ environment, ∀ names, Sets entry.1 names → ¬ Refused entry.2 := by
  induction environment generalizing config with
  | nil => exact iff_of_true ⟨config, rfl⟩ (List.forall_mem_nil _)
  | cons entry rest ih =>
    obtain ⟨name, text⟩ := entry
    rw [List.forall_mem_cons, applyAll]
    split
    · rename_i hpath
      rw [ih]
      simp [Sets, hpath]
    · rename_i hpath
      have hrest : (∃ config', (applyAll config rest).1 = .ok config') ↔ _ := ih
      simpa [Sets, hpath] using hrest
    · rename_i names hpath
      split
      · rename_i e hvalue
        have hrefused : Refused text := exists_error_iff.1 ⟨e, hvalue⟩
        refine iff_of_false ?_ fun h => h.1 names hpath hrefused
        rintro ⟨_, hconfig⟩
        cases hconfig
      · rename_i v hvalue
        have hread : ¬ Refused text := fun hrefused => by
          obtain ⟨e, he⟩ := exists_error_iff.2 hrefused
          rw [hvalue] at he
          cases he
        rw [ih]
        simp [hread]

/-- The variables of an environment, sorted by name, have names that are later and later. -/
theorem pairwise_sorted (h : environment.keys.Nodup) :
    (environment.mergeSort fun a b => decide (a.1 ≤ b.1)).Pairwise fun a b => a.1 < b.1 := by
  have hsorted : (environment.mergeSort fun a b => decide (a.1 ≤ b.1)).Pairwise
      fun a b => decide (a.1 ≤ b.1) = true := by
    refine List.pairwise_mergeSort (fun a b c hab hbc => ?_) (fun a b => ?_) environment
    · simp only [decide_eq_true_eq] at hab hbc ⊢
      exact String.le_trans hab hbc
    · simp only [Bool.or_eq_true, decide_eq_true_eq]
      exact String.le_total a.1 b.1
  have hdistinct : (environment.mergeSort fun a b => decide (a.1 ≤ b.1)).Pairwise
      fun a b => a.1 ≠ b.1 := by
    have hkeys := ((List.mergeSort_perm environment fun a b => decide (a.1 ≤ b.1)).map
      Prod.fst).nodup_iff.2 h
    exact List.pairwise_map.1 hkeys
  refine (hsorted.and hdistinct).imp fun {a b} hab => ?_
  exact Std.lt_of_le_of_ne (of_decide_eq_true hab.1) hab.2

/-- An environment, which names no variable twice, overrides a configuration in which the tables on
the ways of its variables stand at one place only. -/
theorem overrides_applied
    (halone : ∀ entry ∈ environment, ∀ names, Sets entry.1 names → Alone config names)
    (hnames : environment.keys.Nodup) (h : (applied config environment).1 = .ok config') :
    Overrides environment (plainEntries config) (plainEntries config') :=
  (overrides_applyAll (fun entry hentry => halone entry (List.mem_mergeSort.1 hentry))
    (pairwise_sorted hnames) h).of_mem fun _ => List.mem_mergeSort

/-- Without variables nothing is changed. -/
theorem applied_nil (config : Mapping Linked) : applied config [] = (.ok config, []) := by
  rw [applied, List.mergeSort_nil, applyAll]

theorem exists_applied_iff :
    (∃ config', (applied config environment).1 = .ok config') ↔
      ∀ entry ∈ environment, ∀ names, Sets entry.1 names → ¬ Refused entry.2 := by
  rw [applied, exists_applyAll_iff]
  simp only [List.mem_mergeSort]

end

end Variable

namespace Configuration

/-! ## Files and variables -/

/-- A result that is computed to have a property is there and has it. -/
theorem exists_ok_of_any {ε α : Type} {x : Except ε α} {p : α → Bool}
    (h : x.toOption.any p = true) : ∃ a, x = .ok a ∧ p a = true := by
  obtain ⟨a, ha, hp⟩ := (Option.any_eq_true _ _).1 h
  exact ⟨a, eq_ok_of_toOption ha, hp⟩

section

variable {below own given files : Mapping Linked} {place : Place} {named : Option String}

/-- The layers of the files do not depend on the environment. -/
theorem layersOver_withoutVariables (below : Mapping Linked) (place : Place)
    (named : Option String) :
    layersOver below { place with environment := [] } named = layersOver below place named := by
  unfold layersOver ownLayer namedLayer
  simp only

/-- The layers of files that can be read are merged. -/
theorem layersOver_eq (below : Mapping Linked) (hown : ownLayer place = .ok own)
    (hgiven : namedLayer place named = .ok given) :
    (layersOver below place named).1 = .ok (Linked.merged (Linked.merged below own) given) := by
  unfold layersOver
  rw [hown, hgiven]
  rfl

/-- Without a check, the configuration is that of the layers with the variables applied. -/
theorem loadOver_eq_ok_iff (hfiles : (layersOver below place named).1 = .ok files)
    {config : Mapping} : (loadOver below place named false).1 = .ok config ↔
      ∃ applied, (Variable.applied files place.environment).1 = .ok applied ∧
        Linked.plainEntries applied = config := by
  unfold loadOver
  split
  · rename_i e journal hload
    rw [hload] at hfiles
    cases hfiles
  · rename_i found journal hload
    rw [hload] at hfiles
    obtain rfl := Except.ok.inj hfiles
    dsimp only
    cases (Variable.applied found place.environment).1 with
    | error e => simp
    | ok config => simp

/-- What is loaded without a check from files that can be read, over any defaults. What is no table
comes from the highest layer that holds it, if none above has a say there; and the variables
override the files, of which they leave what is not at their paths, on the way, or below, unless a
table on the way of one stands at another place too, as it does where a file repeats a table by
reference. There is a configuration just if no text of a variable with a path is an integer that is
refused. -/
theorem loadOver_overrides (below : Mapping Linked) (hown : ownLayer place = .ok own)
    (hgiven : namedLayer place named = .ok given) (hnames : place.environment.keys.Nodup) :
    ((∃ config, (loadOver below place named false).1 = .ok config) ↔
      ∀ entry ∈ place.environment, ∀ names, Variable.Sets entry.1 names →
        ¬ Variable.Refused entry.2) ∧
    ∃ files, (layersOver below place named).1 = .ok files ∧
      (loadOver below { place with environment := [] } named false).1 =
        .ok (Linked.plainEntries files) ∧
      (∀ before layer higher path v,
        [below, own, given].map Linked.plainEntries = before ++ layer :: higher →
        (Value.map layer).at? path = some v → v.isMap = false →
        (∀ l ∈ higher, Layer.Silent path l) →
        (Value.map (Linked.plainEntries files)).at? path = some v) ∧
      ((∀ entry ∈ place.environment, ∀ names, Variable.Sets entry.1 names →
          Linked.Alone files names) →
        ∀ config, (loadOver below place named false).1 = .ok config →
          Variable.Overrides place.environment (Linked.plainEntries files) config) := by
  have hlayers := layersOver_eq below hown hgiven
  have hwithout : (layersOver below { place with environment := [] } named).1 =
      .ok (Linked.merged (Linked.merged below own) given) := by
    rw [layersOver_withoutVariables, hlayers]
  refine ⟨?_, _, hlayers, ?_, fun before layer higher path v hsplit hv hplain hsilent => ?_,
    fun halone config hconfig => ?_⟩
  · rw [← Variable.exists_applied_iff]
    constructor
    · rintro ⟨config, hconfig⟩
      obtain ⟨applied, happlied, -⟩ := (loadOver_eq_ok_iff hlayers).1 hconfig
      exact ⟨applied, happlied⟩
    · rintro ⟨applied, happlied⟩
      exact ⟨_, (loadOver_eq_ok_iff hlayers).2 ⟨applied, happlied, rfl⟩⟩
  · exact (loadOver_eq_ok_iff hwithout).2 ⟨_, by rw [Variable.applied_nil], rfl⟩
  · have hdistinct : ∀ l ∈ [own, given].map Linked.plainEntries, (Value.map l).Distinct := by
      simp [distinct_of_ownLayer hown, distinct_of_namedLayer hgiven]
    have hstacked := Layer.at?_stacked hdistinct hsplit hv hplain hsilent
    rwa [List.map_cons, List.map_cons, List.map_nil, List.foldl_cons, List.foldl_cons,
      List.foldl_nil, ← Linked.plainEntries_merged, ← Linked.plainEntries_merged] at hstacked
  · obtain ⟨applied, happlied, rfl⟩ := (loadOver_eq_ok_iff hlayers).1 hconfig
    exact Variable.overrides_applied halone hnames happlied

end

/-- A file of a project over the defaults, a named file over it, and variables of which the last in
order of names sets a value in a table that one before it has emptied. -/
theorem loadOver_overrides_layers :
    let file : String → Node := fun text => .file text.toUTF8.data.toList
    let place : Place :=
      { files := ⟨[([".docfold.yml"], file "reducer: {safe_mode: strict}\ncli: {x: 1}"),
          (["n"], file "cli: 2\nx: &a {k: 1}\ny: *a")]⟩
        cwd := "/", root := "/"
        environment := [("DOCFOLD_reducer__Safe_mode", " 7 "), ("DOCFOLD_", "x"),
          ("DOCFOLD_REDUCER", "{}"), ("HOME", "x")] }
    let below := Linked.ofEntries defaults
    ∃ own given files config, ownLayer place = .ok own ∧ namedLayer place (some "n") = .ok given ∧
      place.environment.keys.Nodup ∧
      (layersOver below place (some "n")).1 = .ok files ∧
      (∀ entry ∈ place.environment, ∀ names, Variable.Sets entry.1 names →
        Linked.Alone files names) ∧
      (loadOver below place (some "n") false).1 = .ok config ∧
      (Value.map config).at? ["reducer", "safe_mode"] = some (.int 7) ∧
      (Value.map config).at? ["cli"] = some (.int 2) ∧
      (Value.map config).at? ["logging", "level"] = some (.text "warning") := by
  intro file place below
  have hownLayer : (ownLayer place).toOption.any (fun layer =>
      Layer.Silent ["logging", "level"] (Linked.plainEntries layer)) = true := by
    decide +kernel
  have hnamedLayer : (namedLayer place (some "n")).toOption.any (fun layer =>
      (Value.map (Linked.plainEntries layer)).at? ["cli"] = some (.int 2) ∧
        Layer.Silent ["logging", "level"] (Linked.plainEntries layer)) = true := by
    decide +kernel
  have hlayers : (layersOver below place (some "n")).1.toOption.any (fun files =>
      ∀ entry ∈ place.environment, ∀ found ∈ Variable.path? entry.1, ∀ names ∈ found.toOption,
        Linked.Alone files names) = true := by
    decide +kernel
  have hread : ∀ entry ∈ place.environment, ¬ Variable.Refused entry.2 := by decide +kernel
  obtain ⟨own, hown, hfirst⟩ := exists_ok_of_any hownLayer
  obtain ⟨given, hgiven, hsecond⟩ := exists_ok_of_any hnamedLayer
  obtain ⟨hcli, hlogging⟩ := of_decide_eq_true hsecond
  have hnames : place.environment.keys.Nodup := by decide +kernel
  obtain ⟨hexists, files, hfiles, -, hholds, hoverrides⟩ :=
    loadOver_overrides below hown hgiven hnames
  obtain ⟨found, hfound, hways⟩ := exists_ok_of_any hlayers
  obtain rfl : found = files := Except.ok.inj (hfound.symm.trans hfiles)
  have halone : ∀ entry ∈ place.environment, ∀ names, Variable.Sets entry.1 names →
      Linked.Alone found names :=
    fun entry hentry => Variable.forall_sets_iff.2 (of_decide_eq_true hways entry hentry)
  obtain ⟨config, hconfig⟩ := hexists.2 fun entry hentry _ _ => hread entry hentry
  obtain ⟨hstands, hkeeps⟩ := hoverrides halone config hconfig
  simp only [Variable.forall_sets_iff] at hstands hkeeps
  refine ⟨own, given, found, config, hown, hgiven, hnames, hfiles, halone, hconfig, ?_, ?_, ?_⟩
  · obtain ⟨v, hvalue, hv⟩ := hstands "DOCFOLD_reducer__Safe_mode" " 7 " ["reducer", "safe_mode"]
      List.mem_cons_self (by decide +kernel) (by decide +kernel)
    have hseven : Variable.value " 7 " = .ok (.int 7) := eq_ok_of_toOption (by decide +kernel)
    rw [hseven] at hvalue
    cases hvalue
    exact hv
  · rw [hkeeps ["cli"] (by decide +kernel)]
    exact hholds [Linked.plainEntries below, Linked.plainEntries own] _ [] ["cli"] (.int 2) rfl hcli
      rfl (List.forall_mem_nil _)
  · rw [hkeeps ["logging", "level"] (by decide +kernel)]
    refine hholds [] _ _ ["logging", "level"] (.text "warning") rfl (by decide +kernel) rfl ?_
    simp [hlogging, of_decide_eq_true hfirst]

/-- An integer with a separator beside it is refused, and so there is no configuration; a decimal
fraction with one has its value. And where a file repeats a table by reference, a variable that sets
a value in it at one place changes what is held at the other, which is no path of a variable. -/
theorem loadOver_refused_or_shared :
    let place : FileTree → String → String → Place := fun files name text =>
      { files, cwd := "/", root := "/", environment := [(name, text)] }
    let below := Linked.ofEntries defaults
    let files : FileTree :=
      ⟨[([".docfold.yml"], .file "x: &a {k: 1}\ny: *a\n".toUTF8.data.toList)]⟩
    (Variable.Sets "DOCFOLD_X" ["x"] ∧
      (∀ config, (loadOver below (place {} "DOCFOLD_X" "\x1c5") none false).1 ≠ .ok config) ∧
      ∃ config, (loadOver below (place {} "DOCFOLD_X" "\x1c5.0") none false).1 = .ok config ∧
        (Value.map config).at? ["x"] = some (.real (.ofDecimal false 50 (-1)))) ∧
    Variable.Sets "DOCFOLD_X__K" ["x", "k"] ∧ Layer.Apart ["x", "k"] ["y", "k"] ∧
      ∃ found config, (layersOver below (place files "DOCFOLD_X__K" "2") none).1 = .ok found ∧
        (Value.map (Linked.plainEntries found)).at? ["y", "k"] = some (.int 1) ∧
        (loadOver below (place files "DOCFOLD_X__K" "2") none false).1 = .ok config ∧
        (Value.map config).at? ["y", "k"] = some (.int 2) := by
  intro place below files
  have hrefused : (loadOver below (place {} "DOCFOLD_X" "\x1c5") none false).1.toOption = none := by
    decide +kernel
  have hread : (loadOver below (place {} "DOCFOLD_X" "\x1c5.0") none false).1.toOption.any
      (fun config => (Value.map config).at? ["x"] = some (.real (.ofDecimal false 50 (-1)))) =
        true := by
    decide +kernel
  have hone : (layersOver below (place files "DOCFOLD_X__K" "2") none).1.toOption.any
      (fun found => (Value.map (Linked.plainEntries found)).at? ["y", "k"] = some (.int 1)) =
        true := by
    decide +kernel
  have htwo : (loadOver below (place files "DOCFOLD_X__K" "2") none false).1.toOption.any
      (fun config => (Value.map config).at? ["y", "k"] = some (.int 2)) = true := by
    decide +kernel
  refine ⟨⟨by decide +kernel, fun config hconfig => ?_, ?_⟩, by decide +kernel,
    by decide +kernel, ?_⟩
  · rw [hconfig] at hrefused
    cases hrefused
  · obtain ⟨config, hconfig, hx⟩ := exists_ok_of_any hread
    exact ⟨config, hconfig, of_decide_eq_true hx⟩
  · obtain ⟨found, hfound, hkept⟩ := exists_ok_of_any hone
    obtain ⟨config, hconfig, hchanged⟩ := exists_ok_of_any htwo
    exact ⟨found, config, hfound, of_decide_eq_true hkept, hconfig, of_decide_eq_true hchanged⟩

end Configuration

end Transclude
