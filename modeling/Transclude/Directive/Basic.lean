/-!
# Preprocessor directives

The kinds of line that steer a reduction. A directive fills a whole line: an include, a conditional
on attributes or on an expression, or the end of a conditional. Attribute entries are no directives,
but a scan reports them too.
-/

namespace Transclude

/-- How the names of a conditional are combined: one name, names of which any suffices (written
with commas), or names that are all required (written with plus signs). -/
inductive MatchMode
  | single
  | any
  | all
  deriving DecidableEq, Repr

/-- An include directive: the line as it stands, the target, and the text between the brackets. -/
structure Include where
  raw : String
  target : String
  attrList : String
  deriving DecidableEq, Repr

/-- A conditional on attributes. Without text it opens a block; with text it is complete. -/
structure Presence where
  raw : String
  /-- Whether the text is kept when the condition on the attributes fails. -/
  negated : Bool
  target : String
  text : Option String
  names : List String
  mode : MatchMode
  deriving DecidableEq, Repr

/-- A conditional on an expression, which opens a block. A target is a mistake. -/
structure Comparison where
  raw : String
  target : String
  expression : Option String
  deriving DecidableEq, Repr

/-- The end of a conditional block. A text is a mistake. -/
structure Closing where
  raw : String
  target : String
  text : Option String
  deriving DecidableEq, Repr

/-- A conditional that opens a block or is complete in one line. -/
inductive Opening
  | presence (d : Presence)
  | comparison (d : Comparison)
  deriving DecidableEq, Repr

namespace Opening

/-- The line as it stands. -/
def raw : Opening → String
  | .presence d => d.raw
  | .comparison d => d.raw

/-- What stands between the keyword and the brackets, in lower case. -/
def target : Opening → String
  | .presence d => d.target
  | .comparison d => d.target

/-- The keyword. -/
def keyword : Opening → String
  | .presence d => if d.negated then "ifndef" else "ifdef"
  | .comparison _ => "ifeval"

end Opening

/-- A directive. -/
inductive Directive
  | include (d : Include)
  | opening (d : Opening)
  | closing (d : Closing)
  deriving DecidableEq, Repr

/-- An attribute entry; without a value it unsets the attribute. -/
structure AttributeEntry where
  raw : String
  name : String
  value : Option String
  deriving DecidableEq, Repr

/-- What a scan stops at. -/
inductive Hit
  | directive (d : Directive)
  | entry (e : AttributeEntry)
  deriving DecidableEq, Repr

end Transclude
