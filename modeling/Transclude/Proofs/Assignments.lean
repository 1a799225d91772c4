import Mathlib.Data.List.Induction
import Transclude.Cli.Program
import Transclude.Proofs.Locks

/-!
# Attributes from the command line

Arguments set and unset attributes, each in a spelling of its own: in any letter case, with an
exclamation mark to unset it or an at sign to leave it to the document. They go through a table by
spelling before the spellings are read. A spelling that comes up again takes the later value but
keeps its place, so an attribute is what the last argument with the newest of its spellings asks.

## Main definitions

* `AttributeSet.asked`   : what a caller asks of an attribute.
* `Assignment.start`     : the attributes that arguments make.
* `Assignment.last?`     : the last use of an attribute in arguments.
* `Assignment.deciding?` : the last use with the newest spelling.
* `Assignment.Form`      : the ways to write an argument.

## Main statements

* `AttributeSet.get?_ofOptions` : the last of a caller's entries for an attribute counts.
* `Assignment.read_written`     : what an argument in each form asks.
* `Assignment.get?_start`       : what arguments make of an attribute.
-/

namespace Transclude

open Transclude.Text

/-! ## Tables of entries -/

namespace Table

variable {α : Type}

/-- One more entry is set last. -/
theorem ofList_concat (entries : List (String × α)) (entry : String × α) :
    ofList (entries ++ [entry]) = (ofList entries).insert entry.1 entry.2 := by
  rw [ofList, insertAll, List.foldl_append]
  rfl

/-- The names of a list of entries stand in the order in which they first come up. -/
theorem keys_ofList (entries : List (String × α)) :
    (ofList entries).keys = (entries.map (·.1)).eraseDups := by
  induction entries using List.reverseRecOn with
  | nil => rfl
  | append_singleton entries entry ih =>
    rw [ofList_concat, keys_insert, ih, List.map_append, List.map_singleton, List.eraseDups_append]
    split
    · -- a name that is there keeps its place
      rename_i hmem
      have hold : [entry.1].removeAll (entries.map (·.1)) = [] := by
        rw [List.cons_removeAll, if_neg]
        · rfl
        · simpa using List.mem_eraseDups.1 hmem
      rw [hold, List.eraseDups_nil, List.append_nil]
    · -- any other comes last
      rename_i hmem
      have hnew : [entry.1].removeAll (entries.map (·.1)) = [entry.1] := by
        rw [List.cons_removeAll, if_pos]
        · rfl
        · simpa using mt List.mem_eraseDups.2 hmem
      rw [hnew]
      rfl

/-- No name stands twice in the table of a list of entries. -/
theorem nodup_keys_ofList (entries : List (String × α)) : (ofList entries).keys.Nodup := by
  induction entries using List.reverseRecOn with
  | nil => exact List.nodup_nil
  | append_singleton entries entry ih =>
    rw [ofList_concat, keys_insert]
    split
    · exact ih
    · rename_i hmem
      rw [List.nodup_append]
      refine ⟨ih, List.nodup_cons.2 ⟨List.not_mem_nil, List.nodup_nil⟩, ?_⟩
      rintro key hkey _ hlast rfl
      exact hmem (List.mem_singleton.1 hlast ▸ hkey)

/-- The value of a name is that of the last entry for it. -/
theorem get?_ofList (entries : List (String × α)) (name : String) :
    (ofList entries).get? name = (entries.reverse.find? (·.1 == name)).map (·.2) := by
  induction entries using List.reverseRecOn with
  | nil => rfl
  | append_singleton entries entry ih =>
    rw [ofList_concat, get?_insert, ih, List.reverse_append, List.reverse_singleton,
      List.singleton_append]
    by_cases hname : entry.1 = name <;> simp [hname]

end Table

/-! ## What a caller asks -/

namespace AttributeSet

/-- What a caller asks of an attribute: its value, or none if it is to be unset. -/
def asked (spelling : String) (v : Value) : Option String :=
  if (Request.ofName spelling).unset || v == .null || v == .bool false then none
  else some (valueOf v).1

/-- A caller's attribute becomes what is asked, and no other changes. -/
theorem get?_request (a : AttributeSet) (spelling : String) (v : Value) (name : String) :
    (a.request spelling v).values.get? name =
      if (Request.ofName spelling).name = name then asked spelling v else a.values.get? name := by
  unfold request asked
  dsimp only
  split
  · exact Table.get?_erase _ _ _
  · exact Table.get?_insert _ _ _ _

/-- The last of a caller's entries for an attribute counts. -/
theorem get?_ofOptions (attributes : Mapping) (intrinsics : Table String) (name : String) :
    (ofOptions attributes intrinsics).values.get? name =
      match attributes.reverse.find? fun entry =>
          (Request.ofName entry.1.asText).name == name with
      | some entry => asked entry.1.asText entry.2
      | none => (builtin.insertAll intrinsics).get? name := by
  unfold ofOptions
  -- from the end, as the last entry decides if it is one for the attribute
  induction attributes using List.reverseRecOn with
  | nil => rfl
  | append_singleton attributes entry ih =>
    rw [List.foldl_append, List.foldl_cons, List.foldl_nil, get?_request, ih, List.reverse_append,
      List.reverse_singleton, List.singleton_append]
    by_cases hname : (Request.ofName entry.1.asText).name = name <;> simp [hname]

end AttributeSet

/-! ## What arguments ask -/

namespace Cli.Assignment

/-- The attribute that a spelling names. -/
def nameOf (spelling : String) : String := (AttributeSet.Request.ofName spelling).name

/-- What a use of an attribute asks, by its spelling and its value. -/
def asks (use : String × Option String) : Option String :=
  AttributeSet.asked use.1 (Program.optional use.2)

/-- The attributes that arguments make of those that a document has. -/
def start (arguments : List String) (intrinsics : Table String) : AttributeSet :=
  AttributeSet.ofOptions ((table arguments).map fun (name, value) =>
    (name, Program.optional value)) intrinsics

/-- The spellings and the values in arguments, in their order. -/
def uses (arguments : List String) : List (String × Option String) :=
  arguments.filterMap ofArgument?

/-- The last use of an attribute. -/
def last? (arguments : List String) (name : String) : Option (String × Option String) :=
  (uses arguments).reverse.find? fun use => nameOf use.1 == name

/-- The newest spelling of an attribute: of its spellings, in the order in which they first come up,
the last. -/
def newest? (arguments : List String) (name : String) : Option String :=
  ((uses arguments).map (·.1)).eraseDups.reverse.find? (nameOf · == name)

/-- The last use with the newest spelling of an attribute. -/
def deciding? (arguments : List String) (name : String) : Option (String × Option String) :=
  (newest? arguments name).bind fun spelling => (uses arguments).reverse.find? (·.1 == spelling)

/-! ## What arguments make of an attribute -/

/-- The newest spelling of an attribute is that of its last entry in the table. -/
theorem newest?_eq (arguments : List String) (name : String) : newest? arguments name =
    ((table arguments).reverse.find? fun use => nameOf use.1 == name).map (·.1) := by
  rw [newest?, uses, ← Table.keys_ofList, ← table, Table.keys, ← List.map_reverse, List.find?_map]
  rfl

/-- The last entry for an attribute in the table is the last use with its newest spelling. -/
theorem deciding?_eq (arguments : List String) (name : String) : deciding? arguments name =
    (table arguments).reverse.find? fun use => nameOf use.1 == name := by
  rw [deciding?, newest?_eq]
  cases hfound : (table arguments).reverse.find? fun use => nameOf use.1 == name with
  | none => rfl
  | some use =>
    obtain ⟨spelling, value⟩ := use
    have hmem : (spelling, value) ∈ table arguments :=
      List.mem_reverse.1 (List.mem_of_find?_eq_some hfound)
    -- a table has one entry for each spelling
    have hvalue := (Table.get?_eq_some_iff (Table.nodup_keys_ofList _)).2 hmem
    rw [Table.get?_ofList, Option.map_eq_some_iff] at hvalue
    obtain ⟨use, huse, rfl⟩ := hvalue
    have hspelling : use.1 = spelling := by simpa using List.find?_some huse
    rw [Option.map_some, Option.bind_some, uses, huse, ← hspelling]

/-- An attribute is what the last use with its newest spelling asks. -/
theorem get?_start_eq (arguments : List String) (intrinsics : Table String) (name : String) :
    (start arguments intrinsics).values.get? name =
      match deciding? arguments name with
      | some use => asks use
      | none => (AttributeSet.builtin.insertAll intrinsics).get? name := by
  rw [start, AttributeSet.get?_ofOptions, deciding?_eq, ← List.map_reverse, List.find?_map]
  -- an entry names in the set what its spelling names
  have hsame : (fun entry : Scalar × Value =>
      (AttributeSet.Request.ofName entry.1.asText).name == name) ∘
      (fun use : String × Option String => (Scalar.text use.1, Program.optional use.2)) =
      fun use => nameOf use.1 == name := rfl
  rw [hsame]
  cases (table arguments).reverse.find? fun use => nameOf use.1 == name <;> rfl

section

variable {arguments : List String} {name : String} {use : String × Option String}

theorem deciding?_eq_some (h : deciding? arguments name = some use) :
    newest? arguments name = some use.1 ∧ use ∈ uses arguments ∧ nameOf use.1 = name := by
  obtain ⟨spelling, hnewest, huse⟩ := Option.bind_eq_some_iff.1 h
  have hspelling : use.1 = spelling := by simpa using List.find?_some huse
  have hname : nameOf spelling = name := by simpa using List.find?_some hnewest
  exact ⟨hspelling ▸ hnewest, List.mem_reverse.1 (List.mem_of_find?_eq_some huse),
    hspelling ▸ hname⟩

/-- An attribute that arguments name has a newest spelling. -/
theorem exists_deciding (h : last? arguments name = some use) :
    ∃ newest, deciding? arguments name = some newest := by
  have hname : nameOf use.1 = name := by simpa using List.find?_some h
  have huse : use ∈ uses arguments := List.mem_reverse.1 (List.mem_of_find?_eq_some h)
  have hnamed : ∃ spelling ∈ ((uses arguments).map (·.1)).eraseDups.reverse,
      (nameOf spelling == name) = true := by
    refine ⟨use.1, ?_, beq_iff_eq.2 hname⟩
    rw [List.mem_reverse, List.mem_eraseDups]
    exact List.mem_map_of_mem huse
  obtain ⟨spelling, hnewest⟩ := Option.isSome_iff_exists.1 (List.find?_isSome.2 hnamed)
  -- a spelling that comes up is used
  have hspelling : spelling ∈ (uses arguments).map (·.1) :=
    List.mem_eraseDups.1 (List.mem_reverse.1 (List.mem_of_find?_eq_some hnewest))
  obtain ⟨other, hother, rfl⟩ := List.mem_map.1 hspelling
  have hused : ∃ use ∈ (uses arguments).reverse, (use.1 == other.1) = true :=
    ⟨other, List.mem_reverse.2 hother, beq_self_eq_true other.1⟩
  obtain ⟨newest, hfound⟩ := Option.isSome_iff_exists.1 (List.find?_isSome.2 hused)
  exact ⟨newest, by rw [deciding?, newest?, hnewest, Option.bind_some, hfound]⟩

/-- The last use counts if its spelling is the newest. -/
theorem deciding?_of_last (h : last? arguments name = some use)
    (hnewest : newest? arguments name = some use.1) : deciding? arguments name = some use := by
  obtain ⟨hname, before, after, hsplit, hbefore⟩ := List.find?_eq_some_iff_append.1 h
  have hname : nameOf use.1 = name := beq_iff_eq.1 hname
  rw [deciding?, hnewest, Option.bind_some]
  refine List.find?_eq_some_iff_append.2 ⟨beq_self_eq_true _, before, after, hsplit, ?_⟩
  intro other hother
  -- a use with the same spelling would name the attribute
  have hne : nameOf other.1 ≠ name := by simpa using hbefore other hother
  have hspelling : other.1 ≠ use.1 := fun h => hne (h ▸ hname)
  simp [hspelling]

end

/-! ## Forms of arguments -/

/-- The ways to write an argument: with the name alone or with a value, the name or the value marked
as soft, and the name marked to be unset. -/
inductive Form
  | bare
  | valued
  | softName
  | softValue
  | unsetAfter
  | unsetBefore
  deriving DecidableEq, Repr

namespace Form

/-- The argument in a form. -/
def written : Form → List Char → List Char → List Char
  | bare, name, _ => name
  | valued, name, value => name ++ '=' :: value
  | softName, name, value => name ++ '@' :: '=' :: value
  | softValue, name, value => name ++ '=' :: (value ++ ['@'])
  | unsetAfter, name, _ => name ++ ['!']
  | unsetBefore, name, _ => '!' :: name

/-- What an argument in a form asks. -/
def value? : Form → String → Option String
  | bare, _ => some ""
  | unsetAfter, _ | unsetBefore, _ => none
  | valued, value | softName, value | softValue, value => some value

end Form

/-- Whether a name has no decorations: it is not empty, without blanks around it, and has no equals
sign, exclamation mark or at sign in it. -/
structure IsBare (name : List Char) : Prop where
  ne_nil : name ≠ []
  trimmed : trim name = name
  plain : ∀ c ∈ name, c ∉ ['=', '!', '@']

theorem isBare_iff {name : List Char} : IsBare name ↔
    name ≠ [] ∧ trim name = name ∧ ∀ c ∈ name, c ∉ ['=', '!', '@'] :=
  ⟨fun h => ⟨h.ne_nil, h.trimmed, h.plain⟩, fun ⟨hne, htrim, hplain⟩ => ⟨hne, htrim, hplain⟩⟩

instance (name : List Char) : Decidable (IsBare name) :=
  letI : Decidable (∀ c ∈ name, c ∉ ['=', '!', '@']) := List.decidableBAll _ _
  decidable_of_iff' _ isBare_iff

/-- An argument with an equals sign sets the name before it. -/
theorem ofArgument?_valued {name : List Char} (hplain : '=' ∉ name) (htrim : trim name = name)
    (hne : name ≠ []) (value : List Char) :
    ofArgument? (String.ofList (name ++ '=' :: value)) =
      some (String.ofList name, some (String.ofList value)) := by
  have hcut : cut (· == '=') (name ++ '=' :: value) = (name, some value) := by
    refine cut_eq_some_iff.2 ⟨'=', rfl, fun c hc => beq_eq_false_iff_ne.2 ?_, rfl⟩
    rintro rfl
    exact hplain hc
  rw [ofArgument?, String.toList_ofList, hcut]
  dsimp only
  rw [htrim, List.isEmpty_eq_false_iff.2 hne, if_neg Bool.false_ne_true]

/-- An argument without one unsets its name if it has an exclamation mark. -/
theorem ofArgument?_alone {name : List Char} (hplain : '=' ∉ name) (htrim : trim name = name)
    (hne : name ≠ []) : ofArgument? (String.ofList name) =
      if name.head? == some '!' || name.getLast? == some '!' then
        some (String.ofList (without '!' name), none)
      else some (String.ofList name, some "") := by
  have hcut : cut (· == '=') name = (name, none) := cut_of_plain fun c hc =>
    beq_eq_false_iff_ne.2 fun hsign => hplain (hsign ▸ hc)
  rw [ofArgument?, String.toList_ofList, hcut]
  dsimp only
  rw [htrim, List.isEmpty_eq_false_iff.2 hne, if_neg Bool.false_ne_true]

/-- A name without exclamation marks is left when those around it go away. -/
theorem without_marks {name : List Char} (h : '!' ∉ name) :
    without '!' (name ++ ['!']) = name ∧ without '!' ('!' :: name) = name := by
  have hself (s : List Char) (hs : '!' ∉ s) : s.dropWhile (· == '!') = s := by
    cases s with
    | nil => rfl
    | cons c rest =>
      exact List.dropWhile_cons_of_neg fun hc => hs (beq_iff_eq.1 hc ▸ List.mem_cons_self)
  have hreverse : '!' ∉ name.reverse := mt List.mem_reverse.1 h
  constructor
  · cases name with
    | nil => rfl
    | cons c rest =>
      have hfirst : (c :: rest ++ ['!']).dropWhile (· == '!') = c :: rest ++ ['!'] :=
        List.dropWhile_cons_of_neg fun hc => h (beq_iff_eq.1 hc ▸ List.mem_cons_self)
      rw [without, hfirst, List.reverse_append, List.reverse_singleton, List.singleton_append,
        List.dropWhile_cons_of_pos rfl, hself _ hreverse, List.reverse_reverse]
  · rw [without, List.dropWhile_cons_of_pos rfl, hself _ h, hself _ hreverse, List.reverse_reverse]

/-! ## Spellings of a bare name -/

theorem getLast?_of_notMem {s : List Char} {c : Char} (hc : c ∉ s) :
    (s.getLast? == some c) = false :=
  beq_eq_false_iff_ne.2 fun hlast => hc (List.mem_of_getLast? hlast)

section

variable {name : List Char} (h : IsBare name)
include h

theorem IsBare.notMem_lower : '@' ∉ lower name ∧ '!' ∉ lower name := by
  have hmark {c : Char} (hsmall : c.toNat < 97) (hc : c ∈ ['=', '!', '@']) : c ∉ lower name :=
    fun hmem => by
      rcases mem_or_le_of_mem_lower hmem with hmem | hle
      · exact h.plain c hmem hc
      · omega
  exact ⟨hmark (by decide) (by decide), hmark (by decide) (by decide)⟩

theorem IsBare.head_lower (bare : List Char) : lower name ≠ '!' :: bare := fun hlower =>
  h.notMem_lower.2 (hlower ▸ List.mem_cons_self)

/-- A bare name names itself in lower case. -/
theorem IsBare.ofName : AttributeSet.Request.ofName (String.ofList name) =
    ⟨String.ofList (lower name), false, false⟩ := by
  obtain ⟨hat, hmark⟩ := h.notMem_lower
  rw [AttributeSet.Request.ofName, String.toList_ofList, h.trimmed, getLast?_of_notMem hat,
    if_neg Bool.false_ne_true]
  split
  · rename_i bare hlower
    exact absurd hlower (h.head_lower bare)
  · rw [getLast?_of_notMem hmark, if_neg Bool.false_ne_true]

/-- So does a bare name with an at sign. -/
theorem IsBare.ofName_soft : AttributeSet.Request.ofName (String.ofList (name ++ ['@'])) =
    ⟨String.ofList (lower name), true, false⟩ := by
  have hlower : lower (name ++ ['@']) = lower name ++ ['@'] :=
    lowerFrom_concat (by decide +kernel) (by decide +kernel) (by decide) [] name
  have hsoft : ((lower name ++ ['@']).getLast? == some '@') = true := by
    rw [List.getLast?_concat]
    rfl
  rw [AttributeSet.Request.ofName, String.toList_ofList,
    trim_concat h.trimmed h.ne_nil (by decide), hlower, hsoft, if_pos rfl, List.dropLast_concat]
  split
  · rename_i bare hlower
    exact absurd hlower (h.head_lower bare)
  · rw [getLast?_of_notMem h.notMem_lower.2, if_neg Bool.false_ne_true]

end

/-! ## What each form asks -/

/-- Nothing is asked with an exclamation mark. -/
theorem asks_none (spelling : String) : asks (spelling, none) = none := by
  have hnull : (Program.optional none == Value.null) = true := rfl
  rw [asks, AttributeSet.asked, hnull, Bool.or_true, Bool.true_or, if_pos rfl]

/-- Any other value is asked without the mark that makes it soft. -/
theorem asks_some {spelling : String} (h : (AttributeSet.Request.ofName spelling).unset = false)
    (value : List Char) : asks (spelling, some (String.ofList value)) =
      some (String.ofList (if value.getLast? == some '@' then value.dropLast else value)) := by
  have hset : ((AttributeSet.Request.ofName spelling).unset ||
      Program.optional (some (String.ofList value)) == Value.null ||
      Program.optional (some (String.ofList value)) == Value.bool false) = false := by
    rw [h]
    rfl
  have hvalue (s : String) : AttributeSet.valueOf (Program.optional (some s)) =
      if s.toList.getLast? == some '@' then (String.ofList s.toList.dropLast, true)
      else (s, false) := rfl
  rw [asks, AttributeSet.asked, hset, if_neg Bool.false_ne_true, hvalue, String.toList_ofList]
  split <;> rfl

/-- An argument in each form asks what it says of its name, whatever the letter case. -/
theorem read_written (f : Form) {name value : List Char} (h : IsBare name)
    (hvalue : value.getLast? ≠ some '@') :
    (ofArgument? (String.ofList (f.written name value))).map (fun use => (nameOf use.1, asks use)) =
      some (String.ofList (lower name), f.value? (String.ofList value)) := by
  have hsign : '=' ∉ name := fun hmem => h.plain _ hmem (by decide)
  have hmark : '!' ∉ name := fun hmem => h.plain _ hmem (by decide)
  have hname : (AttributeSet.Request.ofName (String.ofList name)).unset = false := by rw [h.ofName]
  have hplain : (value.getLast? == some '@') = false := beq_eq_false_iff_ne.2 hvalue
  cases f with
  | bare =>
    have hhead : (name.head? == some '!') = false :=
      beq_eq_false_iff_ne.2 fun hhead => hmark (List.mem_of_head? hhead)
    rw [Form.written, ofArgument?_alone hsign h.trimmed h.ne_nil, hhead, getLast?_of_notMem hmark,
      Bool.or_false, if_neg Bool.false_ne_true, Option.map_some, nameOf, h.ofName]
    exact congrArg (fun asked => some (_, asked)) (asks_some hname [])
  | valued =>
    rw [Form.written, ofArgument?_valued hsign h.trimmed h.ne_nil, Option.map_some, nameOf,
      asks_some hname, hplain, if_neg Bool.false_ne_true, h.ofName]
    rfl
  | softName =>
    have hsoft : (AttributeSet.Request.ofName (String.ofList (name ++ ['@']))).unset = false := by
      rw [h.ofName_soft]
    have hlist : name ++ '@' :: '=' :: value = (name ++ ['@']) ++ '=' :: value := by simp
    rw [Form.written, hlist, ofArgument?_valued (by simp [hsign])
      (trim_concat h.trimmed h.ne_nil (by decide)) (by simp), Option.map_some, nameOf,
      asks_some hsoft, hplain, if_neg Bool.false_ne_true, h.ofName_soft]
    rfl
  | softValue =>
    have hlast : ((value ++ ['@']).getLast? == some '@') = true := by
      rw [List.getLast?_concat]
      rfl
    rw [Form.written, ofArgument?_valued hsign h.trimmed h.ne_nil, Option.map_some, nameOf,
      asks_some hname, hlast, if_pos rfl, List.dropLast_concat, h.ofName]
    rfl
  | unsetAfter =>
    have hlast : ((name ++ ['!']).getLast? == some '!') = true := by
      rw [List.getLast?_concat]
      rfl
    rw [Form.written, ofArgument?_alone (by simp [hsign])
      (trim_concat h.trimmed h.ne_nil (by decide)) (by simp), hlast, Bool.or_true, if_pos rfl,
      (without_marks hmark).1, Option.map_some, nameOf, asks_none, h.ofName]
    rfl
  | unsetBefore =>
    have hhead : (('!' :: name).head? == some '!') = true := rfl
    rw [Form.written, ofArgument?_alone (by simp [hsign])
      (trim_cons h.trimmed h.ne_nil (by decide)) (List.cons_ne_nil _ _), hhead, Bool.true_or,
      if_pos rfl, (without_marks hmark).2, Option.map_some, nameOf, asks_none, h.ofName]
    rfl

/-! ## The last argument -/

/-- An attribute that arguments name is what the last argument with the newest of its spellings asks.
That is the last argument that names it just if it has the newest spelling, as it does if all spell
the attribute alike. Other attributes are as they were. An argument in each form names its attribute
in any letter case and without its decorations. -/
theorem get?_start (arguments : List String) (intrinsics : Table String) (name : String) :
    (∀ use, last? arguments (lowered name) = some use →
        ∃ newest, deciding? arguments (lowered name) = some newest ∧
          (start arguments intrinsics).get? name = asks newest ∧
          (newest = use ↔ newest? arguments (lowered name) = some use.1) ∧
          ((∀ other ∈ uses arguments, nameOf other.1 = lowered name → other.1 = use.1) →
            newest = use)) ∧
      (last? arguments (lowered name) = none → (start arguments intrinsics).get? name =
        (AttributeSet.builtin.insertAll intrinsics).get? (lowered name)) ∧
      ∀ (f : Form) (bare value : List Char), IsBare bare → value.getLast? ≠ some '@' →
        (ofArgument? (String.ofList (f.written bare value))).map
            (fun use => (nameOf use.1, asks use)) =
          some (String.ofList (lower bare), f.value? (String.ofList value)) := by
  refine ⟨fun use hlast => ?_, fun hnone => ?_, fun f bare value hbare => read_written f hbare⟩
  · obtain ⟨newest, hdeciding⟩ := exists_deciding hlast
    obtain ⟨hspelling, hmem, hname⟩ := deciding?_eq_some hdeciding
    have hsame (hnewest : newest? arguments (lowered name) = some use.1) : newest = use :=
      Option.some.inj (hdeciding.symm.trans (deciding?_of_last hlast hnewest))
    refine ⟨newest, hdeciding, ?_, ⟨?_, hsame⟩, fun halike => hsame ?_⟩
    · rw [AttributeSet.get?, get?_start_eq, hdeciding]
    · rintro rfl
      exact hspelling
    · rw [hspelling, halike newest hmem hname]
  · have hdeciding : deciding? arguments (lowered name) = none := by
      rw [Option.eq_none_iff_forall_ne_some]
      intro use huse
      obtain ⟨-, hmem, hname⟩ := deciding?_eq_some huse
      exact List.find?_eq_none.1 hnone use (List.mem_reverse.2 hmem) (beq_iff_eq.2 hname)
    rw [AttributeSet.get?, get?_start_eq, hdeciding]

/-- An attribute in two spellings, the last argument in the newer one. -/
theorem get?_start_newest :
    let arguments := ["x=1", "!y", "X@=2", "X@=3@"]
    last? arguments "x" = some ("X@", some "3@") ∧ newest? arguments "x" = some "X@" ∧
      (start arguments []).get? "x" = some "3" ∧
      (ofArgument? "X=3@").map (fun use => (nameOf use.1, asks use)) = some ("x", some "3") := by
  intro arguments
  have hlast : last? arguments (lowered "x") = some ("X@", some "3@") := by decide +kernel
  have hnewest : newest? arguments (lowered "x") = some "X@" := by decide +kernel
  obtain ⟨hnamed, -, hform⟩ := get?_start arguments [] "x"
  obtain ⟨newest, -, hvalue, hsame, -⟩ := hnamed _ hlast
  obtain rfl := hsame.2 hnewest
  have hread := hform .softValue ['X'] ['3'] (by decide +kernel) (by decide)
  exact ⟨by decide +kernel, by decide +kernel, hvalue.trans (by decide +kernel),
    hread.trans (by decide +kernel)⟩

/-- A spelling that comes up again keeps its place: the last argument does not count. -/
theorem get?_start_older :
    let arguments := ["x=1", "X=2", "x=3"]
    last? arguments "x" = some ("x", some "3") ∧ asks ("x", some "3") = some "3" ∧
      (start arguments []).get? "x" = some "2" := by
  decide +kernel

end Cli.Assignment

end Transclude
