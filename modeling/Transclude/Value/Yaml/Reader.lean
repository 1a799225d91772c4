import Transclude.Text.Lines
import Transclude.Value.Linked
import Transclude.Value.Yaml.Node

/-!
# Reading YAML

One YAML document as a value. Tables are merged into others where a key asks for it, and everything
is looked at level by level, so of two faults the one that is less deep is reported.

## Main definitions

* `Yaml.Node.check`  : what is wrong with a node, if anything.
* `Yaml.Node.value`  : the value of a node.
* `Linked.ofYaml`    : the value of a document.
-/

namespace Transclude.Yaml.Node

/-- The text of a scalar, and of a table with a default value its text. -/
def text? : Node → Option String
  | .scalar _ s => some s
  | .list _ _ => none
  | .table _ _ entries =>
    match entries.find? fun entry => entry.1.kind == .default with
    | some (_, .scalar _ s) => some s
    | _ => none

/-- The value of a node without parts; a collection is none. -/
def scalar? (n : Node) : Except YamlError (Option Scalar) :=
  match n.kind with
  | .list | .table | .pairs | .set => .ok none
  | kind =>
    match n.text? with
    | some s => (kind.read s).map some
    | none => .error .malformed

/-- The node as a key: the key of a default value counts as a text. -/
def asKey : Node → Node
  | .scalar .default s => .scalar .text s
  | n => n

/-- The entries of a table with those of other tables merged in where a key asks for it: they come
first, of a list of tables the last one, and so the others and the own entries win. The first
argument bounds the depth. -/
def merged : Nat → List (Node × Node) → Except YamlError (List (Node × Node))
  | 0, _ => .error .malformed
  | fuel + 1, entries => do
    let entriesOf : Node → Except YamlError (List (Node × Node)) := fun
      | .table _ _ entries => merged fuel entries
      | _ => .error .malformed
    let others ← (entries.filter fun entry => entry.1.kind == .merge).mapM fun entry =>
      match entry.2 with
      | .list _ items => do
        let others ← items.mapM entriesOf
        pure others.reverse.flatten
      | n => entriesOf n
    let own := (entries.filter fun entry => entry.1.kind != .merge).map fun entry =>
      (entry.1.asKey, entry.2)
    pure (others.flatten ++ own)

/-- The entries of a collection, where a list has none, and its items, where a table has none. -/
def parts (depth : Nat) (n : Node) : Except YamlError (List (Node × Node) × List Node) :=
  match n.kind, n with
  | .table, .table _ _ entries | .set, .table _ _ entries => (merged depth entries).map (·, [])
  | .list, .list _ items => .ok ([], items)
  | .pairs, .list _ items => do
    let pairs ← items.mapM fun
      | .table _ _ [(k, v)] => .ok (.list .list [k, v])
      | _ => .error .malformed
    pure ([], pairs)
  | _, _ => .error .malformed

/-- The collections among the parts of a node, each of which has to have a value or to be a
collection. A collection is no key. -/
def deeper (depth : Nat) (n : Node) : Except YamlError (List Node) := do
  let (entries, items) ← parts depth n
  let below ← entries.mapM fun (k, v) => do
    if (← k.scalar?).isNone then throw .malformed
    pure (if (← v.scalar?).isNone then [v] else [])
  let listed ← items.mapM fun n => do
    pure (if (← n.scalar?).isNone then [n] else [])
  pure (below.flatten ++ listed.flatten)

/-- What is wrong with the parts of collections, level by level. The first argument bounds the
depth. -/
def check : Nat → List Node → Except YamlError Unit
  | 0, _ => .error .malformed
  | fuel + 1, level => do
    let next ← level.mapM (deeper (fuel + 1))
    if next.flatten.isEmpty then pure () else check fuel next.flatten

/-- The value of a node of a document, in which tables are known by their places. A set, which is
written as a table, is no table but the list of its keys. The first argument bounds the depth. -/
def value (document : Nat) : Nat → Node → Except YamlError Linked
  | 0, _ => .error .malformed
  | fuel + 1, n => do
    match ← n.scalar? with
    | some s => pure (.scalar s)
    | none =>
      let (entries, items) ← parts (fuel + 1) n
      if n.kind == .table || n.kind == .set then
        let entries ← entries.mapM fun (k, v) => do
          match ← k.scalar? with
          | some key => pure (key, ← value document fuel v)
          | none => throw .malformed
        let found := Mapping.ofList entries
        if n.kind == .set then pure (.list (found.map fun entry => .scalar entry.1))
        else pure (.map (n.place?.map fun place => ⟨document, place⟩) found)
      else
        let items ← items.mapM (value document fuel)
        pure (.list items)

end Transclude.Yaml.Node

namespace Transclude

open Transclude.Yaml

/-- The value of a text with one YAML document, which has the given number; nothing is null. -/
def Linked.ofYaml (document : Nat) (text : String) : Except YamlError Linked := do
  let tokens ← Token.ofText (Text.unifiedBreaks text.toList)
  let bound := 2 * tokens.length + 2
  match ← Node.ofTokens tokens with
  | none => pure (.scalar .null)
  | some n =>
    if (← n.scalar?).isNone then n.deeper bound >>= Node.check bound
    n.value document bound

end Transclude
