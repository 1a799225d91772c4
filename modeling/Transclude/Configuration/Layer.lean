import Transclude.Value.Linked

/-!
# Layers of configuration

A configuration is made of layers. Tables are merged entry by entry; any other value of a higher
layer takes the place of that of a lower one. Two tables are merged into a new one, and what is not
merged stays the table that it was, wherever else that stands.

## Main definitions

* `Layer.merged`  : two layers as one.
* `Linked.merged` : two layers as one whose tables can be changed.
-/

namespace Transclude

namespace Layer

mutual

/-- A value of a layer with one of a higher layer over it. -/
def overlaid (lower : Value) : Value → Value
  | .map entries =>
    match lower with
    | .map below => .map (overlaidEntries below entries)
    | _ => .map entries
  | v => v
termination_by structural v => v

/-- A layer with the entries of a higher layer over it. -/
def overlaidEntries (lower : Mapping) : List (Scalar × Value) → Mapping
  | [] => lower
  | e :: rest => overlaidEntries (overlaidEntry lower e) rest
termination_by structural entries => entries

/-- A layer with an entry of a higher layer over it. -/
def overlaidEntry (lower : Mapping) : Scalar × Value → Mapping
  | (key, v) => Mapping.insert lower key (overlaid ((Mapping.find? lower key).getD .null) v)
termination_by structural e => e

end

/-- Two layers as one. -/
def merged (lower higher : Mapping) : Mapping := overlaidEntries lower higher

end Layer

namespace Linked

mutual

/-- A value of a layer with one of a higher layer over it. Two tables make a new one. -/
def overlaid (lower : Linked) : Linked → Linked
  | .map name entries =>
    match lower with
    | .map _ below => .map none (overlaidEntries below entries)
    | _ => .map name entries
  | v => v
termination_by structural v => v

/-- A layer with the entries of a higher layer over it. -/
def overlaidEntries (lower : Mapping Linked) : List (Scalar × Linked) → Mapping Linked
  | [] => lower
  | e :: rest => overlaidEntries (overlaidEntry lower e) rest
termination_by structural entries => entries

/-- A layer with an entry of a higher layer over it. -/
def overlaidEntry (lower : Mapping Linked) : Scalar × Linked → Mapping Linked
  | (key, v) => Mapping.insert lower key
    (overlaid ((Mapping.find? lower key).getD (.scalar .null)) v)
termination_by structural e => e

end

/-- Two layers as one. -/
def merged (lower higher : Mapping Linked) : Mapping Linked := overlaidEntries lower higher

end Linked

end Transclude
