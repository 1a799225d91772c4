import Transclude.Extension.Registry

/-!
# Options in attribute lists

The options of an include are named in an entry for `opts`, in an entry for `options`, and in values
alone that start with a percent sign. A value alone adds to the options kept under `opts`, but an
entry for a name replaces whatever is kept under it. So the options of a value alone count after the
entry for `opts`, and are lost before it.

## Main definitions

* `AttrList.optionsOf` : the options that an entry names.
* `AttrList.Remains`   : whether an option is named under a name that gets no other value later.
* `AttrList.Stands`    : whether an option is named otherwise than by a value alone before `opts`.

## Main statements

* `AttrList.kept_addEntry`      : what one more entry does to the options kept under a name.
* `AttrList.mem_kept_foldl`     : what a list of entries does to them.
* `AttrList.mem_options_iff`    : the options of any list.
* `AttrList.mem_options_ofText` : the options of a list with one entry for each of the two names.
-/

namespace Transclude.AttrList

open Transclude.Text

variable {name x : String} {entry : List Char} {entries : List (List Char)}

/-! ## What an entry says -/

/-- Whether an entry gives a value to a name. -/
def Assigns (name : String) (entry : List Char) : Prop := (named? entry).map (·.1) = some name

instance : DecidablePred (Assigns name) := fun entry =>
  inferInstanceAs (Decidable ((named? entry).map (·.1) = some name))

/-- The options in a value alone: the names after its percent signs, if it starts with one. -/
def flags : List Char → List String
  | '%' :: names => (percentOptions names).flatMap fun name => optionNames (String.ofList name)
  | _ => []

/-- The options that an entry names, if they are kept under the given name. Those in values alone are
kept under `opts`. -/
def given (name : String) (entry : List Char) : List String :=
  match named? entry with
  | some (key, value) => if key = name then optionNames value else []
  | none => if name = "opts" then flags (unquote entry) else []

/-- The options that an entry names. -/
def optionsOf (entry : List Char) : List String := given "opts" entry ++ given "options" entry

/-- Whether an entry is a value alone that names options. -/
def IsFlag (entry : List Char) : Prop := named? entry = none ∧ optionsOf entry ≠ []

instance : DecidablePred IsFlag := fun entry =>
  inferInstanceAs (Decidable (named? entry = none ∧ optionsOf entry ≠ []))

/-! ## What is kept under a name -/

/-- The options kept under a name. -/
def kept (name : String) (table : Table String) : List String :=
  optionNames ((table.get? name).getD "")

/-- Joined names of options are read one by one. -/
theorem optionNames_joined (names : List (List Char)) :
    optionNames (String.ofList (joined [','] names)) =
      names.flatMap fun name => optionNames (String.ofList name) := by
  by_cases hne : names = []
  · subst hne
    rfl
  · simp only [optionNames, String.toList_ofList]
    rw [fields_joined (by decide) hne, List.map_flatMap, List.filter_flatMap]

/-- A comma between two lists of options makes one list of them. -/
theorem optionNames_append (first second : String) :
    optionNames (first ++ "," ++ second) = optionNames first ++ optionNames second := by
  have htext : (first ++ "," ++ second).toList = first.toList ++ ',' :: second.toList := by simp
  rw [optionNames, htext, fields_append (by decide), List.map_append, List.filter_append]
  rfl

theorem kept_insert (table : Table String) (key value : String) :
    kept name (table.insert key value) =
      if key = name then optionNames value else kept name table := by
  rw [kept, Table.get?_insert]
  split <;> rfl

/-- The name of a numbered value has a dollar sign. -/
theorem numbered_ne (hname : '$' ∉ name.toList) (count : Nat) : s!"${count}" ≠ name := by
  rintro rfl
  exact hname (by simp [ToString.toString])

/-- The options of a value alone come to the end of those under `opts`. -/
theorem kept_addEntry_alone (hname : '$' ∉ name.toList) (table : Table String) (count : Nat)
    (hblank : allBlank entry = false) (h : named? entry = none) :
    kept name (addEntry (table, count) entry).1 = kept name table ++ given name entry := by
  -- the number of the value is no name of options
  have hnumbered (value : String) :
      (table.insert s!"${count + 1}" value).get? name = table.get? name := by
    rw [Table.get?_insert, if_neg (numbered_ne hname _)]
  rw [addEntry, given, h]
  dsimp only
  rw [hblank, if_neg Bool.false_ne_true]
  split
  · -- the options after the percent signs are appended to what is under `opts`
    rename_i names hvalue
    rw [kept_insert, hvalue, flags, ← optionNames_joined]
    by_cases hopts : name = "opts"
    · subst hopts
      rw [if_pos rfl, if_pos rfl, kept, ← hnumbered]
      split
      · rename_i hnone
        rw [hnone]
        rfl
      · exact optionNames_append _ _
    · rw [if_neg (Ne.symm hopts), if_neg hopts, kept, hnumbered, List.append_nil, kept]
  · -- any other value names no options
    rename_i hvalue
    have hflags : flags (unquote entry) = [] := by
      unfold flags
      split
      · rename_i names hnames
        exact absurd hnames (hvalue names)
      · rfl
    rw [hflags, ite_self, List.append_nil, kept, hnumbered, kept]

/-- An entry for a name replaces the options kept under it, and any other adds to them. -/
theorem kept_addEntry (hname : '$' ∉ name.toList) (state : Table String × Nat)
    (entry : List Char) :
    kept name (addEntry state entry).1 =
      (if Assigns name entry then [] else kept name state.1) ++ given name entry := by
  obtain ⟨table, count⟩ := state
  cases hnamed : named? entry with
  | some pair =>
    obtain ⟨key, value⟩ := pair
    have hgiven : given name entry = if key = name then optionNames value else [] := by
      rw [given, hnamed]
    have hassigns : Assigns name entry ↔ key = name := by simp [Assigns, hnamed]
    rw [addEntry_named hnamed, kept_insert, hgiven]
    by_cases hkey : key = name
    · rw [if_pos hkey, if_pos (hassigns.2 hkey), if_pos hkey, List.nil_append]
    · rw [if_neg hkey, if_neg (mt hassigns.1 hkey), if_neg hkey, List.append_nil]
  | none =>
    have hassigns : ¬ Assigns name entry := by simp [Assigns, hnamed]
    rw [if_neg hassigns]
    by_cases hblank : allBlank entry = true
    · have hgiven : given name entry = [] := by
        rw [given, hnamed, unquote_blank hblank]
        exact ite_self []
      rw [addEntry_blank hblank, hgiven, List.append_nil]
    · exact kept_addEntry_alone hname table count (eq_false_of_ne_true hblank) hnamed

/-! ## What is left of a list of entries -/

/-- Whether an entry names an option under a name that no later entry gives another value. -/
def Remains (name : String) (entries : List (List Char)) (x : String) : Prop :=
  ∃ before entry after, entries = before ++ entry :: after ∧ x ∈ given name entry ∧
    ∀ later ∈ after, ¬ Assigns name later

theorem remains_cons : Remains name (entry :: entries) x ↔
    (x ∈ given name entry ∧ ∀ later ∈ entries, ¬ Assigns name later) ∨ Remains name entries x := by
  constructor
  · rintro ⟨before, e, after, hsplit, hx, hlater⟩
    rcases List.cons_eq_append_iff.1 hsplit with ⟨-, hhead⟩ | ⟨rest, -, hrest⟩
    · obtain ⟨rfl, rfl⟩ := List.cons.inj hhead
      exact .inl ⟨hx, hlater⟩
    · exact .inr ⟨rest, e, after, hrest, hx, hlater⟩
  · rintro (⟨hx, hlater⟩ | ⟨before, e, after, rfl, hx, hlater⟩)
    · exact ⟨[], entry, entries, rfl, hx, hlater⟩
    · exact ⟨entry :: before, e, after, rfl, hx, hlater⟩

/-- The options kept under a name at the end: those from the start, if no entry gives the name
another value, and those of entries that remain. -/
theorem mem_kept_foldl (hname : '$' ∉ name.toList) (state : Table String × Nat) :
    x ∈ kept name (entries.foldl addEntry state).1 ↔
      (x ∈ kept name state.1 ∧ ∀ later ∈ entries, ¬ Assigns name later) ∨
        Remains name entries x := by
  induction entries generalizing state with
  | nil => simp [Remains]
  | cons entry entries ih =>
    -- the options of this entry are part of what the later entries start from
    rw [List.foldl_cons, ih, kept_addEntry hname, remains_cons, List.mem_append,
      List.forall_mem_cons]
    by_cases hentry : Assigns name entry
    · simp [hentry]
    · simp [hentry, or_and_right, or_assoc]

/-- The options of a list are those that remain under either name. -/
theorem mem_options_iff (text : String) : x ∈ options (ofText text) ↔
    Remains "opts" (topLevel text.toList) x ∨ Remains "options" (topLevel text.toList) x := by
  have hleft {name : String} (hname : '$' ∉ name.toList) :
      x ∈ kept name (ofText text) ↔ Remains name (topLevel text.toList) x := by
    rw [ofText, mem_kept_foldl hname]
    exact or_iff_right fun ⟨hx, _⟩ => absurd hx List.not_mem_nil
  rw [options, List.mem_eraseDups, List.mem_append, ← hleft (by decide), ← hleft (by decide)]
  rfl

/-! ## One entry for each name -/

/-- Whether an entry names an option and, if it is a value alone, no later entry is one for
`opts`. -/
def Stands (entries : List (List Char)) (x : String) : Prop :=
  ∃ before entry after, entries = before ++ entry :: after ∧ x ∈ optionsOf entry ∧
    (IsFlag entry → ∀ later ∈ after, ¬ Assigns "opts" later)

/-- Whether at most one entry is one for a name. -/
def Once (name : String) (entries : List (List Char)) : Prop :=
  entries.countP (Assigns name ·) ≤ 1

instance : Decidable (Once name entries) := inferInstanceAs (Decidable (_ ≤ 1))

theorem Once.not_later {before after : List (List Char)}
    (h : Once name (before ++ entry :: after)) (hentry : Assigns name entry) :
    ∀ later ∈ after, ¬ Assigns name later := by
  intro later hmem hlater
  have hafter : 0 < after.countP (Assigns name ·) :=
    List.countP_pos_iff.2 ⟨later, hmem, decide_eq_true hlater⟩
  have hhere : (entry :: after).countP (Assigns name ·) = after.countP (Assigns name ·) + 1 :=
    List.countP_cons_of_pos (decide_eq_true hentry)
  rw [Once, List.countP_append, hhere] at h
  omega

/-- Only options under `opts` come from values alone. -/
theorem assigns_or_alone (h : x ∈ given name entry) :
    Assigns name entry ∨ (name = "opts" ∧ named? entry = none) := by
  unfold given at h
  split at h
  · rename_i key value hnamed
    split at h
    · rename_i hkey
      exact .inl (by rw [Assigns, hnamed, ← hkey]; rfl)
    · cases h
  · rename_i hnamed
    split at h
    · rename_i hopts
      exact .inr ⟨hopts, hnamed⟩
    · cases h

/-- With one entry for each of the two names, only values alone can be lost. -/
theorem stands_iff (hopts : Once "opts" entries) (hoptions : Once "options" entries) :
    Stands entries x ↔ Remains "opts" entries x ∨ Remains "options" entries x := by
  constructor
  · rintro ⟨before, entry, after, rfl, hx, hflag⟩
    rcases List.mem_append.1 hx with hgiven | hgiven
    · refine .inl ⟨before, entry, after, rfl, hgiven, ?_⟩
      -- an entry for `opts` is the only one, and a value alone has none after it
      rcases assigns_or_alone hgiven with hentry | ⟨-, halone⟩
      · exact hopts.not_later hentry
      · exact hflag ⟨halone, List.ne_nil_of_mem hx⟩
    · refine .inr ⟨before, entry, after, rfl, hgiven, ?_⟩
      rcases assigns_or_alone hgiven with hentry | ⟨hname, -⟩
      · exact hoptions.not_later hentry
      · exact absurd hname (by decide)
  · rintro (⟨before, entry, after, rfl, hgiven, hlater⟩ | ⟨before, entry, after, rfl, hgiven, -⟩)
    · exact ⟨before, entry, after, rfl, List.mem_append_left _ hgiven, fun _ => hlater⟩
    · refine ⟨before, entry, after, rfl, List.mem_append_right _ hgiven, fun ⟨halone, _⟩ => ?_⟩
      rw [given, halone] at hgiven
      exact absurd hgiven List.not_mem_nil

/-- Without a value alone before the entry for `opts`, every entry counts. -/
theorem stands_iff_exists
    (h : entries.Pairwise fun first later => ¬ (IsFlag first ∧ Assigns "opts" later)) :
    Stands entries x ↔ ∃ entry ∈ entries, x ∈ optionsOf entry := by
  constructor
  · rintro ⟨before, entry, after, rfl, hx, -⟩
    exact ⟨entry, List.mem_append_right _ List.mem_cons_self, hx⟩
  · rintro ⟨entry, hmem, hx⟩
    obtain ⟨before, after, rfl⟩ := List.append_of_mem hmem
    have hlater := (List.pairwise_cons.1 (List.pairwise_append.1 h).2.1).1
    exact ⟨before, entry, after, rfl, hx, fun hflag later hmem hopts =>
      hlater later hmem ⟨hflag, hopts⟩⟩

/-- The options of a list with at most one entry for `opts` and one for `options` are those that its
entries name, but a value alone counts only if no entry for `opts` comes after it. That is when it
makes an include optional, and the options of all entries add up where no value alone comes before
the entry for `opts`. -/
theorem mem_options_ofText {text : String} (hopts : Once "opts" (topLevel text.toList))
    (hoptions : Once "options" (topLevel text.toList)) :
    (∀ x, x ∈ options (ofText text) ↔ Stands (topLevel text.toList) x) ∧
      (∀ r : IncludeRequest, r.attributes = ofText text →
        (r.optional = true ↔ Stands (topLevel text.toList) "optional")) ∧
      ((topLevel text.toList).Pairwise
          (fun first later => ¬ (IsFlag first ∧ Assigns "opts" later)) →
        ∀ x, x ∈ options (ofText text) ↔ ∃ entry ∈ topLevel text.toList, x ∈ optionsOf entry) := by
  have hstands (x : String) : x ∈ options (ofText text) ↔ Stands (topLevel text.toList) x := by
    rw [mem_options_iff, stands_iff hopts hoptions]
  refine ⟨hstands, fun r hr => ?_, fun hpairs x => ?_⟩
  · rw [IncludeRequest.optional, hr, List.contains_iff_mem]
    exact hstands "optional"
  · rw [hstands, stands_iff_exists hpairs]

/-- Options of all three kinds, the value alone after the entry for `opts`. -/
theorem mem_options_ofText_flag_last :
    let text := "options=c,lines=1,OPTS=a,%optional%b"
    Once "opts" (topLevel text.toList) ∧ Once "options" (topLevel text.toList) ∧
      options (ofText text) = ["a", "optional", "b", "c"] ∧
      (∀ x, x ∈ options (ofText text) ↔ ∃ entry ∈ topLevel text.toList, x ∈ optionsOf entry) ∧
      ∀ r : IncludeRequest, r.attributes = ofText text →
        (r.optional = true ↔ Stands (topLevel text.toList) "optional") := by
  intro text
  have hopts : Once "opts" (topLevel text.toList) := by decide +kernel
  have hoptions : Once "options" (topLevel text.toList) := by decide +kernel
  obtain ⟨-, hrequest, hunion⟩ := mem_options_ofText hopts hoptions
  exact ⟨hopts, hoptions, by decide +kernel, hunion (by decide +kernel), hrequest⟩

/-- A value alone before the entry for `opts` is lost: the include is not optional. -/
theorem optional_lost_before_opts :
    let text := "%optional,opts=x"
    Once "opts" (topLevel text.toList) ∧ Once "options" (topLevel text.toList) ∧
      (∃ entry ∈ topLevel text.toList, "optional" ∈ optionsOf entry) ∧
      options (ofText text) = ["x"] ∧
      ∀ r : IncludeRequest, r.attributes = ofText text → r.optional = false := by
  have hlost : options (ofText "%optional,opts=x") = ["x"] := by decide +kernel
  refine ⟨by decide +kernel, by decide +kernel, by decide +kernel, hlost, fun r hr => ?_⟩
  rw [IncludeRequest.optional, hr, hlost]
  decide

end Transclude.AttrList
