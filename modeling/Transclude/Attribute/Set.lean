import Transclude.Attribute.Reference
import Transclude.Directive.Basic
import Transclude.Value.Display

/-!
# Attribute sets

The attributes that are defined at a point of a document. Names are compared without regard to
case. An attribute that the caller sets is locked: the document can neither set nor unset it, unless
the caller marks it as soft with a trailing `@`.

## Main definitions

* `AttributeSet.ofOptions`  : the set at the start of a document.
* `AttributeSet.afterEntry?` : the set after an attribute entry.
* `AttributeSet.substitute` : a text with its references replaced by values.
-/

namespace Transclude

open Transclude.Text

/-- The attributes that are defined, and the names of those that a document cannot change. -/
structure AttributeSet where
  values : Table String := []
  locked : List String := []
  deriving DecidableEq, Repr

/-- A text after substitution, and the names in it that had no value. -/
structure Substitution where
  text : String
  missing : List String
  deriving DecidableEq, Repr

namespace AttributeSet

/-- The attributes that every document starts with. -/
def builtin : Table String :=
  [("empty", ""), ("sp", " "), ("nbsp", "&#160;"), ("zwsp", "&#8203;"), ("docfold-version", "1.0.0")]

/-- The name of a caller's attribute without its decorations, whether it is soft, and whether it is
to be unset. -/
structure Request where
  name : String
  soft : Bool
  unset : Bool
  deriving DecidableEq, Repr

/-- The request in a caller's spelling of a name: a trailing `@` makes it soft, an exclamation mark
before or after the name unsets it. -/
def Request.ofName (spelling : String) : Request :=
  let name := lower (trim spelling.toList)
  let soft := name.getLast? == some '@'
  let name := if soft then name.dropLast else name
  match name with
  | '!' :: bare => ⟨String.ofList bare, soft, true⟩
  | _ =>
    if name.getLast? == some '!' then ⟨String.ofList name.dropLast, soft, true⟩
    else ⟨String.ofList name, soft, false⟩

/-- The text of a caller's value without the trailing `@` that makes it soft, and whether it had
one. A true value is the empty text. -/
def valueOf (v : Value) : String × Bool :=
  match v with
  | .bool true => ("", false)
  | _ =>
    let text := v.asText.toList
    if text.getLast? == some '@' then (String.ofList text.dropLast, true) else (v.asText, false)

/-- The set after a caller's attribute. Null and false unset it. -/
def request (a : AttributeSet) (spelling : String) (v : Value) : AttributeSet :=
  let r := Request.ofName spelling
  let unset := r.unset || v == .null || v == .bool false
  let (value, softValue) := if unset then ("", false) else valueOf v
  { values := if unset then a.values.erase r.name else a.values.insert r.name value
    locked := if r.soft || softValue || a.locked.contains r.name then a.locked
      else a.locked ++ [r.name] }

/-- The set at the start of a document: the attributes that every document has, those of this
document, and those of the caller. -/
def ofOptions (attributes : Mapping) (intrinsics : Table String) : AttributeSet :=
  attributes.foldl (fun a entry => a.request entry.1.asText entry.2)
    { values := builtin.insertAll intrinsics }

/-- The value of an attribute. -/
def get? (a : AttributeSet) (name : String) : Option String := a.values.get? (lowered name)

/-- Whether an attribute is defined. -/
def contains (a : AttributeSet) (name : String) : Bool := (a.get? name).isSome

/-- Whether an attribute is locked. -/
def isLocked (a : AttributeSet) (name : String) : Bool := a.locked.contains (lowered name)

/-- The names of the attributes that are defined, in order of insertion. -/
def names (a : AttributeSet) : List String := a.values.keys

/-- The set after a document sets an attribute; none if it is locked. -/
def set? (a : AttributeSet) (name value : String) : Option AttributeSet :=
  if a.isLocked name then none
  else some { a with values := a.values.insert (lowered name) value }

/-- The set after a document unsets an attribute; none if it is locked. -/
def unset? (a : AttributeSet) (name : String) : Option AttributeSet :=
  if a.isLocked name then none else some { a with values := a.values.erase (lowered name) }

/-- What a piece of a text becomes. A reference without a value stays, or is dropped. -/
def render (a : AttributeSet) (drop : Bool) : Piece → List Char
  | .char c => [c]
  | .escaped name => Piece.braced name
  | .reference name =>
    match a.values.get? (String.ofList (lower name)) with
    | some value => value.toList
    | none => if drop then [] else Piece.braced name

/-- The name of a reference without a value. -/
def missing? (a : AttributeSet) : Piece → Option String
  | .reference name =>
    let key := String.ofList (lower name)
    if a.values.contains key then none else some key
  | _ => none

/-- Whether references without a value are dropped: only if the given mode, or else the attribute
`attribute-missing`, says so. -/
def drops (a : AttributeSet) (mode : Option String) : Bool :=
  match mode with
  | some "" | none => a.values.get? "attribute-missing" == some "drop"
  | some m => m == "drop"

/-- The text with its references replaced by their values. -/
def substitute (a : AttributeSet) (text : String) (mode : Option String := none) : Substitution :=
  let pieces := Piece.ofText text.toList
  ⟨String.ofList (pieces.flatMap (a.render (a.drops mode))), pieces.filterMap a.missing?⟩

/-- A text without an opening brace is left as it is. -/
theorem substitute_of_plain (a : AttributeSet) {text : String} (h : '{' ∉ text.toList)
    (mode : Option String) : a.substitute text mode = ⟨text, []⟩ := by
  have htext : (text.toList.map Piece.char).flatMap (a.render (a.drops mode)) = text.toList := by
    rw [List.flatMap_map]
    exact List.flatMap_singleton' _
  have hmissing : (text.toList.map Piece.char).filterMap a.missing? = [] := by
    rw [List.filterMap_map, List.filterMap_eq_nil_iff]
    exact fun _ _ => rfl
  unfold substitute
  dsimp only
  rw [Piece.ofText_of_plain h, htext, hmissing, String.ofList_toList]

/-- The set after an attribute entry; none if the attribute is locked. The value of an entry is
substituted once. -/
def afterEntry? (a : AttributeSet) (entry : AttributeEntry) : Option AttributeSet :=
  match entry.value with
  | none => a.unset? entry.name
  | some value => a.set? entry.name (a.substitute value).text

end AttributeSet

end Transclude
