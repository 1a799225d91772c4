import Transclude.Table
import Transclude.Text.Blank
import Transclude.Text.LowerCase
import Transclude.Text.Split

/-!
# Attribute lists of includes

The text between the brackets of an include: entries between commas, each `name=value` or a value
alone. A value may stand between quotes, where commas do not count and a backslash takes the meaning
from the next character. Values alone are numbered; one that starts with `%` names options.

## Main definitions

* `AttrList.topLevel` : the entries of a list.
* `AttrList.ofText`   : the table of a list.
* `AttrList.options`  : the options that a list names.
-/

namespace Transclude.AttrList

open Transclude.Text

/-- Whether `c` is a quote. -/
def isQuote (c : Char) : Bool := c == '"' || c == '\''

/-- Whether a quote after the given beginning of an entry, in reverse, opens a quoted value: only at
the start of the entry or after an equals sign. -/
def opensValue (before : List Char) : Bool :=
  match before.dropWhile isBlank with
  | [] => true
  | c :: _ => c == '='

/-- The entries of a list from inside an entry on. The beginning of the entry is given in reverse,
with the quote that is open in it and whether a backslash precedes. -/
def entriesFrom (before : List Char) (quote : Option Char) (escaped : Bool) :
    List Char → List (List Char)
  | [] => [before.reverse]
  | c :: rest =>
    if escaped then entriesFrom (c :: before) quote false rest
    else match quote with
      | some q =>
        if c == '\\' then entriesFrom (c :: before) quote true rest
        else entriesFrom (c :: before) (if c == q then none else quote) false rest
      | none =>
        if isQuote c && opensValue before then entriesFrom (c :: before) (some c) false rest
        else if c == ',' then before.reverse :: entriesFrom [] none false rest
        else entriesFrom (c :: before) none false rest

section

variable {c q : Char} {before rest : List Char}

/-- Whatever follows a backslash in quotes has no meaning. -/
theorem entriesFrom_afterBackslash (quote : Option Char) : entriesFrom before quote true (c :: rest) =
    entriesFrom (c :: before) quote false rest := by
  cases quote <;> simp [entriesFrom]

theorem entriesFrom_backslash : entriesFrom before (some q) false ('\\' :: rest) =
    entriesFrom ('\\' :: before) (some q) true rest := by
  simp [entriesFrom]

/-- Quotes end at the next quote of their kind. -/
theorem entriesFrom_close (hq : q ≠ '\\') : entriesFrom before (some q) false (q :: rest) =
    entriesFrom (q :: before) none false rest := by
  simp [entriesFrom, hq]

theorem entriesFrom_inside (hc : c ≠ '\\') (hq : c ≠ q) :
    entriesFrom before (some q) false (c :: rest) =
      entriesFrom (c :: before) (some q) false rest := by
  simp [entriesFrom, hc, hq]

/-- Quotes begin where a value may. -/
theorem entriesFrom_open (hq : isQuote q = true) (h : opensValue before = true) :
    entriesFrom before none false (q :: rest) = entriesFrom (q :: before) (some q) false rest := by
  simp [entriesFrom, hq, h]

/-- A comma outside of quotes ends an entry. -/
theorem entriesFrom_comma : entriesFrom before none false (',' :: rest) =
    before.reverse :: entriesFrom [] none false rest := by
  simp [entriesFrom, isQuote]

theorem entriesFrom_outside (hquote : isQuote c = false ∨ opensValue before = false)
    (hc : c ≠ ',') :
    entriesFrom before none false (c :: rest) = entriesFrom (c :: before) none false rest := by
  have hopen : (isQuote c && opensValue before) = false := by
    rcases hquote with h | h <;> simp [h]
  simp [entriesFrom, hopen, hc]

end

/-- The entries of a list: the texts between the commas outside of quotes. A blank text has none. -/
def topLevel (s : List Char) : List (List Char) :=
  match entriesFrom [] none false s with
  | [entry] => if allBlank entry then [] else [entry]
  | entries => entries

/-- The value without blanks around it and without its quotes. Inside the quotes a backslash before
a quote goes away. -/
def unquote (value : List Char) : List Char :=
  let s := trim value
  match s with
  | q :: rest =>
    if isQuote q && rest.getLast? == some q then replaced ['\\', q] [q] rest.dropLast else s
  | [] => []

/-- The name and the value of an entry with an equals sign. What stands before the sign is a name
unless it is blank or starts with a quote. -/
def named? (entry : List Char) : Option (String × String) :=
  match cut (· == '=') entry with
  | (_, none) => none
  | (before, some value) =>
    match trim before with
    | [] => none
    | c :: name =>
      if isQuote c then none
      else some (String.ofList (lower (c :: name)), String.ofList (unquote value))

/-- The options in a value alone: the names after its percent signs. -/
def percentOptions (value : List Char) : List (List Char) :=
  (fields (· == '%') value).filter fun name => !name.isEmpty

/-- The table and the number of values alone after one more entry. -/
def addEntry (state : Table String × Nat) (entry : List Char) : Table String × Nat :=
  let (table, count) := state
  if allBlank entry then state
  else match named? entry with
    | some (name, value) => (table.insert name value, count)
    | none =>
      let value := unquote entry
      let table := table.insert s!"${count + 1}" (String.ofList value)
      match value with
      | '%' :: names =>
        let added := String.ofList (joined [','] (percentOptions names))
        let existing := (table.get? "opts").getD ""
        (table.insert "opts" (if existing = "" then added else existing ++ "," ++ added), count + 1)
      | _ => (table, count + 1)

section

variable {table : Table String} {count : Nat} {entry : List Char}

/-- A blank entry has no name. -/
theorem named?_blank (h : allBlank entry = true) : named? entry = none := by
  have hcut : cut (· == '=') entry = (entry, none) := by
    refine cut_of_plain fun c hc => beq_eq_false_iff_ne.2 ?_
    rintro rfl
    -- an equals sign is not blank
    exact absurd (List.all_eq_true.1 h '=' hc) (by decide)
  rw [named?, hcut]

theorem unquote_blank (h : allBlank entry = true) : unquote entry = [] := by
  have htrim : trim entry = [] := by rw [trim, trimStart_eq_nil_iff.2 h]; rfl
  rw [unquote, htrim]

/-- A blank entry is passed over. -/
theorem addEntry_blank (h : allBlank entry = true) :
    addEntry (table, count) entry = (table, count) :=
  if_pos h

/-- An entry with a name sets it. -/
theorem addEntry_named {key value : String} (h : named? entry = some (key, value)) :
    addEntry (table, count) entry = (table.insert key value, count) := by
  have hblank : allBlank entry ≠ true := fun hblank => by
    rw [named?_blank hblank] at h
    cases h
  rw [addEntry]
  dsimp only
  rw [if_neg hblank, h]

end

/-- The table of a list. -/
def ofText (text : String) : Table String :=
  ((topLevel text.toList).foldl addEntry ([], 0)).1

/-- The names in a list of options. -/
def optionNames (value : String) : List String :=
  ((fields (· == ',') value.toList).map fun name => String.ofList (trim name)).filter (· ≠ "")

/-- The options that a table names, under `opts` and under `options`. -/
def options (table : Table String) : List String :=
  (optionNames ((table.get? "opts").getD "") ++
    optionNames ((table.get? "options").getD "")).eraseDups

end Transclude.AttrList
