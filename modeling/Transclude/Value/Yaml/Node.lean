import Transclude.Value.Yaml.Token

/-!
# YAML nodes

A sequence of tokens as a tree of nodes. Anchors and aliases are resolved, so that a node that is
referred to stands wherever it is, and so are tags. That it is one node is told by the place at
which a table starts, which no other table of the document has.

## Main definitions

* `Yaml.Node`          : a scalar, a list or a table, and its kind.
* `Yaml.Node.ofTokens` : the node of a document.
-/

namespace Transclude.Yaml

/-- A scalar, a list or a table, and what it stands for. The place of a table is counted from the
end of the document. -/
inductive Node
  | scalar (kind : Kind) (text : String)
  | list (kind : Kind) (items : List Node)
  | table (kind : Kind) (place : Nat) (entries : List (Node × Node))

/-- What a node stands for. -/
def Node.kind : Node → Kind
  | .scalar kind _ | .list kind _ | .table kind _ _ => kind

/-- The place of a table. -/
def Node.place? : Node → Option Nat
  | .table _ place _ => some place
  | .scalar _ _ | .list _ _ => none

/-- Tokens that are still to be read, and the nodes that have a name by now. -/
structure Source where
  tokens : List Token
  anchors : List (String × Node) := []

/-- The properties that may stand before a node: a name, and a tag. -/
structure Properties where
  anchor : Option String := none
  tag : Option String := none

namespace Node

/-- Whether the next token satisfies a condition; at the end none does. -/
def nextIs (s : Source) (t : Token → Bool) : Bool := (s.tokens.head?.map t).getD false

/-- The source after its next token. -/
def rest (s : Source) : Source := { s with tokens := s.tokens.drop 1 }

/-- The place of the next token, from the end. -/
def here (s : Source) : Nat := s.tokens.length

/-- The handles that tags may use without a directive. -/
def standardHandles : List (String × String) := [("!", "!"), ("!!", Kind.standardTags)]

/-- A tag with its handle replaced by what that stands for. -/
def tagOf (handles : List (String × String)) (handle : Option String) (rest : String) :
    Option String :=
  match handle with
  | none => some rest
  | some name => (handles.lookup name).map (· ++ rest)

/-- The properties before a node, each at most once, and the source after them. -/
def properties (handles : List (String × String)) (s : Source) : Option (Properties × Source) :=
  match s.tokens with
  | .anchor name :: .tag handle tail :: more => do
    let tag ← tagOf handles handle tail
    pure (⟨some name, some tag⟩, { s with tokens := more })
  | .tag handle tail :: .anchor name :: more => do
    let tag ← tagOf handles handle tail
    pure (⟨some name, some tag⟩, { s with tokens := more })
  | .anchor name :: more => some (⟨some name, none⟩, { s with tokens := more })
  | .tag handle tail :: more => do
    let tag ← tagOf handles handle tail
    pure (⟨none, some tag⟩, { s with tokens := more })
  | _ => some ({}, s)

/-- The kind of a node with a tag, or the given one without; an exclamation mark is no tag. -/
def kindOf (tag : Option String) (otherwise : Kind) : Kind :=
  match tag with
  | none | some "!" => otherwise
  | some tag => Kind.ofTag tag

/-- The node that a scalar is. A lone exclamation mark makes its text count as plain. -/
def ofScalar (tag : Option String) (text : String) (plain : Bool) : Node :=
  let plainly := (plain && tag.isNone) || tag == some "!"
  .scalar (kindOf tag (if plainly then Kind.ofPlain text else .text)) text

/-- The node that stands for nothing. -/
def empty : Node := .scalar .null ""

/-- A node and the source after it, in which the node has the name that its properties give. A name
may be given once. -/
def named (p : Properties) (n : Node) (s : Source) : Option (Node × Source) :=
  match p.anchor with
  | none => some (n, s)
  | some name =>
    if (s.anchors.lookup name).isSome then none
    else some (n, { s with anchors := (name, n) :: s.anchors })

/-- Where a node stands: whether it may be a block, and whether the items of a list may stand there
without a block of their own, as below a key. -/
inductive Position
  | flow
  | block
  | belowKey
  deriving DecidableEq, Repr

mutual

/-- The node that starts here, and the source after it. The first argument bounds the number of
nodes and their depth. -/
def node (handles : List (String × String)) :
    Nat → Position → Source → Option (Node × Source)
  | 0, _, _ => none
  | fuel + 1, position, s =>
    match s.tokens with
    | .alias name :: _ => (s.anchors.lookup name).map (·, rest s)
    | _ => do
      let (p, s) ← properties handles s
      let inBlock := position != .flow
      let (n, s) ← match s.tokens with
        | .item :: _ =>
          if position == .belowKey then do
            let (items, s) ← looseItems handles fuel s
            pure (Node.list (kindOf p.tag .list) items, s)
          else if p.anchor.isSome || p.tag.isSome then pure (ofScalar p.tag "" true, s)
          else none
        | .scalar text plain :: _ => pure (ofScalar p.tag text plain, rest s)
        | .openBracket :: _ => do
          let (items, s) ← flowItems handles fuel true (rest s)
          pure (Node.list (kindOf p.tag .list) items, s)
        | .openBrace :: _ => do
          let (entries, after) ← flowEntries handles fuel true (rest s)
          pure (Node.table (kindOf p.tag .table) (here s) entries, after)
        | first :: _ =>
          if inBlock && first == .openList then do
            let (items, s) ← blockItems handles fuel (rest s)
            pure (Node.list (kindOf p.tag .list) items, s)
          else if inBlock && first == .openTable then do
            let (entries, after) ← blockEntries handles fuel (rest s)
            pure (Node.table (kindOf p.tag .table) (here s) entries, after)
          else if p.anchor.isSome || p.tag.isSome then pure (ofScalar p.tag "" true, s)
          else none
        | [] =>
          if p.anchor.isSome || p.tag.isSome then pure (ofScalar p.tag "" true, s) else none
      named p n s

/-- The node that starts here, or nothing before one of the tokens that end it. -/
def nodeUnless (handles : List (String × String)) :
    Nat → Position → List Token → Source → Option (Node × Source)
  | 0, _, _, _ => none
  | fuel + 1, position, ends, s =>
    if nextIs s ends.contains then some (empty, s) else node handles fuel position s

/-- The items of a block up to its end. -/
def blockItems (handles : List (String × String)) : Nat → Source → Option (List Node × Source)
  | 0, _ => none
  | fuel + 1, s =>
    match s.tokens with
    | .item :: _ => do
      let (n, s) ← nodeUnless handles fuel .block [.item, .close] (rest s)
      let (more, s) ← blockItems handles fuel s
      pure (n :: more, s)
    | .close :: _ => some ([], rest s)
    | _ => none

/-- The items of a list that has no block of its own. -/
def looseItems (handles : List (String × String)) : Nat → Source → Option (List Node × Source)
  | 0, _ => none
  | fuel + 1, s =>
    match s.tokens with
    | .item :: _ => do
      let (n, s) ← nodeUnless handles fuel .block [.item, .key, .colon, .close] (rest s)
      let (more, s) ← looseItems handles fuel s
      pure (n :: more, s)
    | _ => some ([], s)

/-- The entries of a block up to its end. A key or a value may be absent. -/
def blockEntries (handles : List (String × String)) :
    Nat → Source → Option (List (Node × Node) × Source)
  | 0, _ => none
  | fuel + 1, s =>
    let ends := [Token.key, .colon, .close]
    match s.tokens with
    | .key :: _ => do
      let (k, s) ← nodeUnless handles fuel .belowKey ends (rest s)
      let (v, s) ← if nextIs s (· == .colon)
        then nodeUnless handles fuel .belowKey ends (rest s) else some (empty, s)
      let (more, s) ← blockEntries handles fuel s
      pure ((k, v) :: more, s)
    | .close :: _ => some ([], rest s)
    | _ => none

/-- A pair in flow style after the mark of its key, up to a comma or the given end. -/
def flowPair (handles : List (String × String)) :
    Nat → Token → Source → Option ((Node × Node) × Source)
  | 0, _, _ => none
  | fuel + 1, last, s => do
    let (k, s) ← nodeUnless handles fuel .flow [.colon, .comma, last] s
    let (v, s) ← if nextIs s (· == .colon)
      then nodeUnless handles fuel .flow [.comma, last] (rest s) else some (empty, s)
    pure ((k, v), s)

/-- The items of a list in flow style up to its bracket, after a comma unless they are the first. An
item may be a pair. -/
def flowItems (handles : List (String × String)) :
    Nat → Bool → Source → Option (List Node × Source)
  | 0, _, _ => none
  | fuel + 1, first, s =>
    if nextIs s (· == .closeBracket) then some ([], rest s)
    else do
      let s ← if first then some s else if nextIs s (· == .comma) then some (rest s) else none
      match s.tokens with
      | .closeBracket :: _ => pure ([], rest s)
      | .key :: _ => do
        let (pair, after) ← flowPair handles fuel .closeBracket (rest s)
        let (more, after) ← flowItems handles fuel false after
        pure (Node.table .table (here s) [pair] :: more, after)
      | _ => do
        let (n, s) ← node handles fuel .flow s
        let (more, s) ← flowItems handles fuel false s
        pure (n :: more, s)

/-- The entries of a table in flow style up to its brace, after a comma unless they are the first.
Without a mark of its own a node is a key without a value. -/
def flowEntries (handles : List (String × String)) :
    Nat → Bool → Source → Option (List (Node × Node) × Source)
  | 0, _, _ => none
  | fuel + 1, first, s =>
    if nextIs s (· == .closeBrace) then some ([], rest s)
    else do
      let s ← if first then some s else if nextIs s (· == .comma) then some (rest s) else none
      match s.tokens with
      | .closeBrace :: _ => pure ([], rest s)
      | .key :: _ => do
        let (pair, s) ← flowPair handles fuel .closeBrace (rest s)
        let (more, s) ← flowEntries handles fuel false s
        pure (pair :: more, s)
      | _ => do
        let (n, s) ← node handles fuel .flow s
        let (more, s) ← flowEntries handles fuel false s
        pure ((n, empty) :: more, s)

end

/-! ## Documents -/

/-- The handles that directives declare, and the tokens after the directives. The version may be
given once and has to be one; a handle may be declared once. -/
def directives (versioned : Bool) (handles : List (String × String)) :
    List Token → Option (List (String × String) × List Token)
  | .version major :: more =>
    if versioned || major != 1 then none else directives true handles more
  | .handle name lead :: more =>
    if (handles.lookup name).isSome then none
    else directives versioned ((name, lead) :: handles) more
  | .pragma :: more => directives versioned handles more
  | tokens => some (handles, tokens)

/-- Whether a token starts a document explicitly. -/
def announces : Token → Bool
  | .version _ | .handle _ _ | .pragma | .documentStart => true
  | _ => false

/-- Whether nothing stands in a document with a marker at its start, before the given tokens. -/
def isVoid (tokens : List Token) : Bool :=
  (tokens.head?.map fun t => announces t || t == .documentEnd).getD true

/-- The node of the only document that tokens hold, if they hold one. -/
def ofTokens (tokens : List Token) : Except YamlError (Option Node) :=
  let bound := 4 * tokens.length + 4
  let found : Option (Option Node × List Token) :=
    match tokens with
    | [] => some (none, [])
    | first :: _ =>
      if announces first then do
        let (handles, tokens) ← directives false [] tokens
        match tokens with
        | .documentStart :: tokens =>
          if isVoid tokens then some (some empty, tokens)
          else do
            let (n, s) ← node (handles ++ standardHandles) bound .block { tokens := tokens }
            pure (some n, s.tokens)
        | _ => none
      else do
        let (n, s) ← node standardHandles bound .block { tokens := tokens }
        pure (some n, s.tokens)
  match found with
  | some (n, tokens) =>
    if tokens.all (· == .documentEnd) then .ok n else .error .malformed
  | none => .error .malformed

end Node

end Transclude.Yaml
