import Transclude.Value.Display

/-!
# The shape of a configuration

What values a configuration may hold where. Every violation is reported, in the order of the paths
at which they are found.

## Main definitions

* `Schema`            : a condition on a value.
* `Schema.violations` : the violations of a condition by a value.
* `Schema.ofConfig`   : the condition on a whole configuration.
-/

namespace Transclude

/-- A kind of value. -/
inductive ValueKind
  | null
  | boolean
  | integer
  | number
  | string
  | object
  deriving DecidableEq, Repr

namespace ValueKind

/-- The name of a kind. -/
def label : ValueKind → String
  | .null => "null"
  | .boolean => "boolean"
  | .integer => "integer"
  | .number => "number"
  | .string => "string"
  | .object => "object"

/-- Whether a value is of a kind. A number without a fraction is an integer; truth values are no
numbers. -/
def admits : ValueKind → Value → Bool
  | .null, .null => true
  | .boolean, .bool _ => true
  | .integer, .int _ => true
  | .integer, .real x => x.isInteger
  | .number, .int _ => true
  | .number, .real _ => true
  | .number, .nan => true
  | .string, .text _ => true
  | .object, .map _ => true
  | _, _ => false

end ValueKind

/-- A condition on a value: its kinds, the texts that it may be, its least value as a number, and
for a table the conditions on its entries and on those that are not named. -/
inductive Schema
  | scalar (kinds : List ValueKind) (choices : Option (List String)) (least : Option Int)
  | object (properties : List (String × Schema)) (others : Option Schema)

/-- A violation: the path to the value, and what is wrong with it. -/
structure SchemaViolation where
  path : List Scalar
  message : String
  deriving DecidableEq, Repr

/-- Two keys of different kinds, which have no order. -/
structure Unordered where
  left : Scalar
  right : Scalar
  deriving DecidableEq, Repr

/-- The refusal in words. -/
def Unordered.message (e : Unordered) : String :=
  s!"'<' not supported between instances of '{e.left.kindName}' and '{e.right.kindName}'"

namespace Schema

/-- What is wrong with the kind of a value. -/
def kindViolations (path : List Scalar) (kinds : List ValueKind) (v : Value) :
    List SchemaViolation :=
  if kinds.any (·.admits v) then []
  else
    let names := kinds.map fun kind => Text.quoted kind.label
    [⟨path, v.display ++ " is not of type " ++ ", ".intercalate names⟩]

/-- What is wrong with a value that has to be one of some texts. -/
def choiceViolations (path : List Scalar) (choices : Option (List String)) (v : Value) :
    List SchemaViolation :=
  match choices with
  | none => []
  | some texts =>
    if texts.any fun text => v == .text text then []
    else [⟨path, v.display ++ " is not one of " ++ (Value.list (texts.map .text)).display⟩]

/-- Whether a value is a number below a bound. -/
def isBelow (least : Int) : Value → Bool
  | .int i => i < least
  | .real x => Extended.compare (.ofBinary64 x) (.ofInt least) == .lt
  | _ => false

/-- What is wrong with a number that has a least value. -/
def leastViolations (path : List Scalar) (least : Option Int) (v : Value) :
    List SchemaViolation :=
  match least with
  | none => []
  | some n =>
    if isBelow n v then [⟨path, v.display ++ " is less than the minimum of " ++ toString n⟩]
    else []

/-- What is wrong with a table that has entries which are not allowed. -/
def extraViolations (path : List Scalar) (keys : List Scalar) : List SchemaViolation :=
  match keys.mergeSort fun a b => decide (a.asText ≤ b.asText) with
  | [] => []
  | sorted =>
    let verb := if sorted.length = 1 then "was" else "were"
    let shown := ", ".intercalate (sorted.map Scalar.display)
    [⟨path, s!"Additional properties are not allowed ({shown} {verb} unexpected)"⟩]

mutual

/-- What is wrong with a value. -/
def violationsAt (path : List Scalar) (v : Value) : Schema → List SchemaViolation
  | .scalar kinds choices least =>
    kindViolations path kinds v ++ choiceViolations path choices v ++ leastViolations path least v
  | .object properties others =>
    kindViolations path [.object] v ++
      match v with
      | .map entries =>
        let extra := entries.filter fun e => !properties.any fun p => e.1.same (.text p.1)
        othersViolations path extra others ++ entriesViolations path entries properties
      | _ => []
termination_by structural s => s

/-- What is wrong with the entries of a table that are not named. -/
def othersViolations (path : List Scalar) (extra : Mapping) :
    Option Schema → List SchemaViolation
  | none => extraViolations path (Mapping.keys extra)
  | some s => extra.flatMap fun e => violationsAt (path ++ [e.1]) e.2 s
termination_by structural s => s

/-- What is wrong with the entries of a table that are named. -/
def entriesViolations (path : List Scalar) (entries : Mapping) :
    List (String × Schema) → List SchemaViolation
  | [] => []
  | p :: rest => entryViolations path entries p ++ entriesViolations path entries rest
termination_by structural ps => ps

/-- What is wrong with an entry of a table that is named. -/
def entryViolations (path : List Scalar) (entries : Mapping) :
    String × Schema → List SchemaViolation
  | (name, s) =>
    match Mapping.get? entries name with
    | some v => violationsAt (path ++ [.text name]) v s
    | none => []
termination_by structural p => p

end

/-- Whether a key comes before another one: texts by code points, numbers by value. -/
def before (a b : Scalar) : Except Unordered Bool :=
  match a, b with
  | .text s, .text t => .ok (decide (s < t))
  | .date d, .date e => .ok (decide (d.number < e.number))
  | _, _ =>
    match a.number?, b.number? with
    | some x, some y => .ok (x.compare y == .lt)
    | _, _ => if a == .nan || b == .nan then .ok false else .error ⟨a, b⟩

/-- Whether a path comes before another: by the first keys that differ, or by length. -/
def pathBefore : List Scalar → List Scalar → Except Unordered Bool
  | _, [] => .ok false
  | [], _ :: _ => .ok true
  | a :: as, b :: bs => if a.same b then pathBefore as bs else before a b

/-- Violations in the reversed order of their paths with one more violation in its place, after those
with the same path. -/
def placed (violation : SchemaViolation) :
    List SchemaViolation → Except Unordered (List SchemaViolation)
  | [] => .ok [violation]
  | last :: rest => do
    if ← pathBefore violation.path last.path then
      let rest ← placed violation rest
      pure (last :: rest)
    else pure (violation :: last :: rest)

/-- Violations in the order of their paths, unless two of them have none. -/
def ordered (violations : List SchemaViolation) : Except Unordered (List SchemaViolation) :=
  (violations.foldlM (fun sorted violation => placed violation sorted) []).map List.reverse

/-- What is wrong with a value, in the order of paths. -/
def violations (s : Schema) (v : Value) : Except Unordered (List SchemaViolation) :=
  ordered (violationsAt [] v s)

/-- The condition on a severity. -/
def severity : Schema :=
  .scalar [.string] (some ["debug", "info", "warn", "warning", "error", "fatal"]) none

/-- The condition on a truth value. -/
def boolean : Schema := .scalar [.boolean] none none

/-- The condition on the options of reductions. -/
def reducer : Schema :=
  .object
    [("safe_mode", .scalar [.string] (some ["unsafe", "safe", "strict"]) none),
     ("include_root", .scalar [.string, .null] none none),
     ("preserve_conditionals", boolean),
     ("max_include_depth", .scalar [.integer] none (some 1)),
     ("unresolved_placeholder", boolean),
     ("failure_level", severity),
     ("severity",
       .object [("missing_include", severity), ("jail_violation", severity)] none),
     ("attributes",
       .object [] (some (.scalar [.string, .number, .boolean, .null] none none)))]
    none

/-- The condition on a whole configuration. -/
def ofConfig : Schema :=
  .object
    [("reducer", reducer),
     ("cli", .object [("failure_level", severity)] none),
     ("logging", .object [("level", severity), ("format", .scalar [.string] none none)] none)]
    none

end Schema

end Transclude
