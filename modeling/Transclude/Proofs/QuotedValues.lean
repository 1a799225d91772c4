import Transclude.Include.AttrList

/-!
# Quoted values in attribute lists

A table of attributes is written as a list of entries, each with its value between double quotes and
a backslash before every double quote of the value. A list is cut into entries first and quotes are
taken off afterwards, two passes that agree on what a quote and a backslash mean, so that the list
is read back as the table.

## Main definitions

* `AttrList.quotedList` : a table as a list with quoted values.
* `AttrList.IsName`     : the names that are written as they are.

## Main statements

* `AttrList.topLevel_quotedList` : the list is cut between its entries.
* `AttrList.named?_quotedEntry`  : an entry is read back.
* `AttrList.ofText_quotedList`   : the list is read back as the table.
-/

namespace Transclude.AttrList

open Transclude.Text

/-! ## Writing a list -/

/-- A value with a backslash before every double quote. -/
def escaped (value : List Char) : List Char :=
  value.flatMap fun c => if c = '"' then ['\\', '"'] else [c]

/-- An entry with its value between double quotes. -/
def quotedEntry (entry : String × String) : List Char :=
  entry.1.toList ++ '=' :: '"' :: (escaped entry.2.toList ++ ['"'])

/-- The entries of a table with commas between them and quoted values. -/
def quotedList (table : Table String) : String :=
  String.ofList (joined [','] (table.map quotedEntry))

/-- Whether a name is written as it is: it is not empty, without blanks around it, in lower case,
and has no comma, equals sign or quote in it. -/
structure IsName (name : String) : Prop where
  ne_empty : name ≠ ""
  trimmed : trim name.toList = name.toList
  small : lower name.toList = name.toList
  plain : ∀ c ∈ name.toList, c ∉ [',', '=', '"', '\'']

theorem isName_iff {name : String} : IsName name ↔ name ≠ "" ∧ trim name.toList = name.toList ∧
    lower name.toList = name.toList ∧ ∀ c ∈ name.toList, c ∉ [',', '=', '"', '\''] :=
  ⟨fun h => ⟨h.ne_empty, h.trimmed, h.small, h.plain⟩,
    fun ⟨hne, htrim, hsmall, hplain⟩ => ⟨hne, htrim, hsmall, hplain⟩⟩

instance (name : String) : Decidable (IsName name) :=
  letI : Decidable (∀ c ∈ name.toList, c ∉ [',', '=', '"', '\'']) := List.decidableBAll _ _
  decidable_of_iff' _ isName_iff

theorem escaped_quote (value : List Char) : escaped ('"' :: value) = '\\' :: '"' :: escaped value :=
  rfl

theorem escaped_cons {c : Char} (hc : c ≠ '"') (value : List Char) :
    escaped (c :: value) = c :: escaped value := by
  rw [escaped, List.flatMap_cons, if_neg hc]
  rfl

/-! ## Cutting the list -/

/-- Nothing is cut or opened among characters that are no quotes and no commas. -/
theorem entriesFrom_plain {s : List Char} (h : ∀ c ∈ s, isQuote c = false ∧ c ≠ ',')
    (before rest : List Char) :
    entriesFrom before none false (s ++ rest) =
      entriesFrom (s.reverse ++ before) none false rest := by
  induction s generalizing before with
  | nil => rfl
  | cons c s ih =>
    obtain ⟨hquote, hcomma⟩ := h c List.mem_cons_self
    rw [List.cons_append, entriesFrom_outside (.inl hquote) hcomma,
      ih fun x hx => h x (.tail c hx)]
    simp

/-- Every quote of an escaped value comes after a backslash, so that none ends the value. -/
theorem entriesFrom_escaped {value : List Char} (h : '\\' ∉ value) (before rest : List Char) :
    entriesFrom before (some '"') false (escaped value ++ rest) =
      entriesFrom ((escaped value).reverse ++ before) (some '"') false rest := by
  induction value generalizing before with
  | nil => rfl
  | cons c value ih =>
    obtain ⟨hc, hvalue⟩ := not_or.1 (mt List.mem_cons.2 h)
    by_cases hquote : c = '"'
    · rw [hquote, escaped_quote, List.cons_append, List.cons_append, entriesFrom_backslash,
        entriesFrom_afterBackslash, ih hvalue]
      simp
    · rw [escaped_cons hquote, List.cons_append, entriesFrom_inside (Ne.symm hc) hquote, ih hvalue]
      simp

/-- An entry is passed over as a whole. -/
theorem entriesFrom_quotedEntry {entry : String × String} (hname : IsName entry.1)
    (hvalue : '\\' ∉ entry.2.toList) (rest : List Char) :
    entriesFrom [] none false (quotedEntry entry ++ rest) =
      entriesFrom (quotedEntry entry).reverse none false rest := by
  have hplain : ∀ c ∈ entry.1.toList ++ ['='], isQuote c = false ∧ c ≠ ',' := by
    intro c hc
    rcases List.mem_append.1 hc with hc | hc
    · have := hname.plain c hc
      simp only [List.mem_cons, not_or] at this
      simp [isQuote, this]
    · rw [List.mem_singleton.1 hc]
      decide
  -- the quote after the equals sign opens a value
  have hopens : opensValue ((entry.1.toList ++ ['=']).reverse ++ []) = true := by
    simp [opensValue, show isBlank '=' = false by decide]
  have hentry : quotedEntry entry ++ rest = (entry.1.toList ++ ['=']) ++
      '"' :: (escaped entry.2.toList ++ '"' :: rest) := by
    simp [quotedEntry]
  rw [hentry, entriesFrom_plain hplain, entriesFrom_open (by decide) hopens,
    entriesFrom_escaped hvalue, entriesFrom_close (by decide)]
  simp [quotedEntry]

theorem not_blank_quotedEntry (entry : String × String) : allBlank (quotedEntry entry) = false := by
  simp [allBlank, quotedEntry, show isBlank '=' = false by decide]

section

variable {table : Table String} (hnames : ∀ name ∈ table.keys, IsName name)
  (hvalues : ∀ value ∈ table.values, '\\' ∉ value.toList)
include hnames hvalues

/-- The commas between the entries are those at which the list is cut. -/
theorem entriesFrom_joined (hne : table ≠ []) :
    entriesFrom [] none false (joined [','] (table.map quotedEntry)) =
      table.map quotedEntry := by
  induction table with
  | nil => exact absurd rfl hne
  | cons entry table ih =>
    have hname : IsName entry.1 := hnames _ List.mem_cons_self
    have hvalue : '\\' ∉ entry.2.toList := hvalues _ List.mem_cons_self
    cases table with
    | nil =>
      have hlast := entriesFrom_quotedEntry hname hvalue []
      rw [List.append_nil] at hlast
      simp [joined, hlast, entriesFrom]
    | cons next table =>
      have hlater := ih (fun name hmem => hnames name (.tail _ hmem))
        (fun value hmem => hvalues value (.tail _ hmem)) (List.cons_ne_nil next table)
      have hjoined : joined [','] ((entry :: next :: table).map quotedEntry) =
          quotedEntry entry ++ ',' :: joined [','] ((next :: table).map quotedEntry) := by
        simp [joined]
      rw [hjoined, entriesFrom_quotedEntry hname hvalue, entriesFrom_comma, hlater,
        List.reverse_reverse, List.map_cons]
      rfl

/-- A list is cut between its entries. -/
theorem topLevel_quotedList : topLevel (quotedList table).toList = table.map quotedEntry := by
  rw [quotedList, String.toList_ofList]
  by_cases hne : table = []
  · subst hne
    rfl
  · rw [topLevel, entriesFrom_joined hnames hvalues hne]
    split
    · rename_i entry hone
      obtain ⟨e, -, rfl⟩ := List.mem_map.1 (hone ▸ List.mem_singleton_self entry)
      rw [not_blank_quotedEntry, if_neg Bool.false_ne_true, hone]
    · rfl

end

/-! ## Reading an entry -/

/-- Of an escaped value only the backslashes go away. -/
theorem replaced_escaped {value : List Char} (h : '\\' ∉ value) :
    replaced ['\\', '"'] ['"'] (escaped value) = value := by
  unfold replaced
  induction value with
  | nil => rfl
  | cons c value ih =>
    obtain ⟨hc, hvalue⟩ := not_or.1 (mt List.mem_cons.2 h)
    by_cases hquote : c = '"'
    · have hhere : after? ['\\', '"'] ('\\' :: '"' :: escaped value) = some (escaped value) := rfl
      rw [hquote, escaped_quote, replacedFrom, hhere]
      dsimp only
      rw [List.length_cons, List.length_singleton, Nat.add_sub_cancel, replacedFrom, ih hvalue]
      rfl
    · have hhere : after? ['\\', '"'] (c :: escaped value) = none := if_neg hc
      rw [escaped_cons hquote, replacedFrom, hhere]
      dsimp only
      rw [ih hvalue]

theorem unquote_quoted {value : List Char} (h : '\\' ∉ value) :
    unquote ('"' :: (escaped value ++ ['"'])) = value := by
  have htrim : trim ('"' :: (escaped value ++ ['"'])) = '"' :: (escaped value ++ ['"']) :=
    trim_enclosed (by decide) [] (escaped value)
  rw [unquote, htrim]
  dsimp only
  rw [List.getLast?_concat, List.dropLast_concat, replaced_escaped h]
  rfl

/-- An entry is read back. -/
theorem named?_quotedEntry {entry : String × String} (hname : IsName entry.1)
    (hvalue : '\\' ∉ entry.2.toList) : named? (quotedEntry entry) = some entry := by
  have hcut : cut (· == '=') (quotedEntry entry) =
      (entry.1.toList, some ('"' :: (escaped entry.2.toList ++ ['"']))) := by
    refine cut_eq_some_iff.2 ⟨'=', rfl, fun c hc => ?_, rfl⟩
    refine beq_eq_false_iff_ne.2 ?_
    rintro rfl
    exact hname.plain _ hc (by decide)
  obtain ⟨c, rest, hlist⟩ : ∃ c rest, entry.1.toList = c :: rest :=
    List.exists_cons_of_ne_nil fun hnil => hname.ne_empty (String.toList_eq_nil_iff.1 hnil)
  have hquote : isQuote c = false := by
    have hplain := hname.plain c (hlist ▸ List.mem_cons_self)
    simp only [List.mem_cons, not_or] at hplain
    simp [isQuote, hplain]
  rw [named?, hcut]
  dsimp only
  rw [hname.trimmed, hlist]
  dsimp only
  rw [hquote, if_neg Bool.false_ne_true, ← hlist, hname.small, unquote_quoted hvalue,
    String.ofList_toList, String.ofList_toList]

/-! ## Reading the list -/

/-- The entries of a list come to the end of the table one after another. -/
theorem foldl_quotedEntry {table : Table String} (hnames : ∀ name ∈ table.keys, IsName name)
    (hvalues : ∀ value ∈ table.values, '\\' ∉ value.toList) {start : Table String}
    (hdistinct : (start.keys ++ table.keys).Nodup) (count : Nat) :
    (table.map quotedEntry).foldl addEntry (start, count) = (start ++ table, count) := by
  induction table generalizing start with
  | nil => simp
  | cons entry table ih =>
    have hread := named?_quotedEntry (hnames _ List.mem_cons_self) (hvalues _ List.mem_cons_self)
    have hfresh : entry.1 ∉ start.keys := fun hmem =>
      (List.nodup_append.1 hdistinct).2.2 _ hmem _ List.mem_cons_self rfl
    have hentry : addEntry (start, count) (quotedEntry entry) = (start ++ [entry], count) := by
      rw [addEntry_named hread, Table.insert_of_notMem hfresh]
    have hlater : (Table.keys (start ++ [entry]) ++ Table.keys table).Nodup := by
      simpa [Table.keys] using hdistinct
    rw [List.map_cons, List.foldl_cons, hentry,
      ih (fun name hmem => hnames name (.tail _ hmem))
        (fun value hmem => hvalues value (.tail _ hmem)) hlater, List.append_assoc]
    rfl

/-- A table whose names are written as they are, and whose values have no backslash, is read back
from its list with quoted values: the same entries in the same order. -/
theorem ofText_quotedList {table : Table String} (hdistinct : table.keys.Nodup)
    (hnames : ∀ name ∈ table.keys, IsName name)
    (hvalues : ∀ value ∈ table.values, '\\' ∉ value.toList) :
    ofText (quotedList table) = table := by
  rw [ofText, topLevel_quotedList hnames hvalues,
    foldl_quotedEntry hnames hvalues (by simpa [Table.keys] using hdistinct), List.nil_append]

/-- Two values with commas, equals signs, quotes of both kinds and blanks at their ends. -/
theorem ofText_quotedList_pair :
    let table : Table String := [("tags", " a,'b'=\"c\" "), ("%x", "")]
    table.keys.Nodup ∧ (∀ name ∈ table.keys, IsName name) ∧
      (∀ value ∈ table.values, '\\' ∉ value.toList) ∧
      ofText "tags=\" a,'b'=\\\"c\\\" \",%x=\"\"" = table := by
  intro table
  have hdistinct : table.keys.Nodup := by decide
  have hnames : ∀ name ∈ table.keys, IsName name := by decide +kernel
  have hvalues : ∀ value ∈ table.values, '\\' ∉ value.toList := by decide
  have htext : quotedList table = "tags=\" a,'b'=\\\"c\\\" \",%x=\"\"" := by decide +kernel
  exact ⟨hdistinct, hnames, hvalues, htext ▸ ofText_quotedList hdistinct hnames hvalues⟩

end Transclude.AttrList
