import Transclude.Number.Binary64
import Transclude.Table
import Transclude.Value.Calendar

/-!
# Data values

The values that configuration files, environment variables, extensions and structured output are
made of: scalars, lists, and tables with scalars as keys, which are texts nearly always.

## Main definitions

* `Scalar`  : a value without parts.
* `Value`   : a data value.
* `Mapping` : the entries of a table, in order of insertion.
-/

namespace Transclude

/-- A value without parts: null, a truth value, a number, a date, a moment, bytes or a text. -/
inductive Scalar
  | null
  | bool (b : Bool)
  | int (i : Int)
  | real (x : Binary64)
  | nan
  | date (d : Date)
  | moment (m : Moment)
  | bytes (content : List UInt8)
  | text (s : String)
  deriving DecidableEq, Repr, Inhabited

instance : Coe String Scalar := ⟨.text⟩

namespace Scalar

/-- The number that a scalar is; a truth value is one or zero. -/
def number? : Scalar → Option Extended
  | .bool b => some (.ofInt (if b then 1 else 0))
  | .int i => some (.ofInt i)
  | .real x => some (.ofBinary64 x)
  | _ => none

/-- Whether two scalars are one key of a table: numbers by their value, moments in time zones by
their instant, and everything else by itself. -/
def same (a b : Scalar) : Bool :=
  match a, b with
  | .moment m, .moment n =>
    match m.instant?, n.instant? with
    | some x, some y => x == y
    | _, _ => m == n
  | _, _ =>
    match a.number?, b.number? with
    | some x, some y => x.compare y == .eq
    | _, _ => a == b

/-- Whether the scalar counts as true: null, false, zero and everything empty do not. -/
def truthy : Scalar → Bool
  | .null => false
  | .bool b => b
  | .int i => i != 0
  | .real x => !x.isZero
  | .bytes content => !content.isEmpty
  | .text s => s != ""
  | _ => true

/-- The name that messages use for the kind of a scalar. -/
def kindName : Scalar → String
  | .null => "NoneType"
  | .bool _ => "bool"
  | .int _ => "int"
  | .real _ | .nan => "float"
  | .date _ => "datetime.date"
  | .moment _ => "datetime.datetime"
  | .bytes _ => "bytes"
  | .text _ => "str"

end Scalar

/-- A data value. The entries of a table are in order of insertion. -/
inductive Value
  | scalar (s : Scalar)
  | list (items : List Value)
  | map (entries : List (Scalar × Value))
  deriving Inhabited

namespace Value

mutual

/-- Whether two values are the same. -/
def equal : Value → Value → Bool
  | .scalar s, .scalar t => s == t
  | .list items, .list others => equalItems items others
  | .map entries, .map others => equalEntries entries others
  | _, _ => false
termination_by structural v => v

/-- Whether two lists have the same items. -/
def equalItems : List Value → List Value → Bool
  | [], [] => true
  | v :: items, w :: others => v.equal w && equalItems items others
  | _, _ => false
termination_by structural items => items

/-- Whether two tables have the same entries in the same order. -/
def equalEntries : List (Scalar × Value) → List (Scalar × Value) → Bool
  | [], [] => true
  | e :: entries, f :: others => equalEntry e f && equalEntries entries others
  | _, _ => false
termination_by structural entries => entries

/-- Whether two entries have the same key and the same value. -/
def equalEntry : Scalar × Value → Scalar × Value → Bool
  | (key, v), (other, w) => key == other && v.equal w
termination_by structural e => e

end

mutual

/-- Values are told apart. -/
theorem equal_iff : ∀ v w : Value, v.equal w = true ↔ v = w
  | .scalar s, .scalar t => by simp [equal]
  | .list items, .list others => by simp [equal, equalItems_iff items others]
  | .map entries, .map others => by simp [equal, equalEntries_iff entries others]
  | .scalar _, .list _ | .scalar _, .map _ | .list _, .scalar _ | .list _, .map _
  | .map _, .scalar _ | .map _, .list _ => by simp [equal]

theorem equalItems_iff : ∀ items others : List Value,
    equalItems items others = true ↔ items = others
  | [], [] => by simp [equalItems]
  | v :: items, w :: others => by
    simp [equalItems, equal_iff v w, equalItems_iff items others]
  | [], _ :: _ | _ :: _, [] => by simp [equalItems]

theorem equalEntries_iff : ∀ entries others : List (Scalar × Value),
    equalEntries entries others = true ↔ entries = others
  | [], [] => by simp [equalEntries]
  | e :: entries, f :: others => by
    simp [equalEntries, equalEntry_iff e f, equalEntries_iff entries others]
  | [], _ :: _ | _ :: _, [] => by simp [equalEntries]

theorem equalEntry_iff : ∀ e f : Scalar × Value, equalEntry e f = true ↔ e = f
  | (key, v), (other, w) => by simp [equalEntry, equal_iff v w]

end

instance : DecidableEq Value := fun v w => decidable_of_iff _ (equal_iff v w)

/-- The value null. -/
@[match_pattern] abbrev null : Value := .scalar .null

/-- A truth value. -/
@[match_pattern] abbrev bool (b : Bool) : Value := .scalar (.bool b)

/-- An integer. -/
@[match_pattern] abbrev int (i : Int) : Value := .scalar (.int i)

/-- A double. -/
@[match_pattern] abbrev real (x : Binary64) : Value := .scalar (.real x)

/-- The double that is no number. -/
@[match_pattern] abbrev nan : Value := .scalar .nan

/-- A text. -/
@[match_pattern] abbrev text (s : String) : Value := .scalar (.text s)

/-- Whether the value counts as true: null, false, zero and everything empty do not. -/
def truthy : Value → Bool
  | .scalar s => s.truthy
  | .list items => !items.isEmpty
  | .map entries => !entries.isEmpty

/-- The name that messages use for the kind of a value. -/
def kindName : Value → String
  | .scalar s => s.kindName
  | .list _ => "list"
  | .map _ => "dict"

end Value

/-- The entries of a table of data, in order of insertion. -/
abbrev Mapping (α : Type := Value) : Type := List (Scalar × α)

namespace Mapping

variable {α : Type}

/-- The value of a key. -/
def find? : Mapping α → Scalar → Option α
  | [], _ => none
  | (key, v) :: rest, k => if key.same k then some v else find? rest k

/-- The value of a name. -/
def get? (m : Mapping α) (name : String) : Option α := find? m (.text name)

/-- The table with a key set to a value: in its place, with the spelling that is there, if the key
is there, at the end if not. -/
def insert : Mapping α → Scalar → α → Mapping α
  | [], k, v => [(k, v)]
  | (key, old) :: rest, k, v =>
    if key.same k then (key, v) :: rest else (key, old) :: insert rest k v

/-- The keys, in order of insertion. -/
def keys (m : Mapping α) : List Scalar := m.map (·.1)

/-- The table with the entries of another set in turn. -/
def insertAll (m other : Mapping α) : Mapping α :=
  other.foldl (fun m entry => insert m entry.1 entry.2) m

/-- The table of a list of entries, where a later entry for the same key wins. -/
def ofList (entries : List (Scalar × α)) : Mapping α := insertAll [] entries

end Mapping

/-- The value of a name in a table. -/
def Value.get? (v : Value) (name : String) : Option Value :=
  match v with
  | .map entries => Mapping.get? entries name
  | _ => none

end Transclude
