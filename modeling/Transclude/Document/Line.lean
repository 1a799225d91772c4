import Transclude.Path.Name
import Transclude.Text.Lines

/-!
# Lines and their origins

Every line of a document knows where it was read: the file, the line in it, and the include
directives that led to that file.

## Main definitions

* `Origin`         : where a line was read.
* `Origin.child`   : the origin of a line of a file that an include at this origin brings in.
* `Line.ofText`    : the lines of a text, numbered from one.
-/

namespace Transclude

/-- A line of a file. -/
structure Place where
  file : String
  line : Int
  deriving DecidableEq, Repr

/-- Where a line was read: its place, and the places of the include directives from the root
document down to the one that brought it in. -/
structure Origin where
  file : String
  line : Int
  chain : List Place := []
  deriving DecidableEq, Repr

namespace Origin

/-- How many include directives led to the line. -/
def depth (o : Origin) : Nat := o.chain.length

/-- The place of the line itself. -/
def place (o : Origin) : Place := ⟨o.file, o.line⟩

/-- The last part of the file's name, or the whole name if it ends in a slash. -/
def basename (o : Origin) : String :=
  let name := Path.base o.file
  if name = "" then o.file else name

/-- The files from the root document down to this one. -/
def lineage (o : Origin) : List String := o.chain.map (·.file) ++ [o.file]

/-- The origin of a line of a file that an include directive at this origin brings in. -/
def child (o : Origin) (file : String) (line : Int) : Origin :=
  { file := file, line := line, chain := o.chain ++ [o.place] }

/-- The origin in words, from the line outwards. -/
def describe (o : Origin) : String :=
  s!"{o.file}: line {o.line}" ++
    String.join (o.chain.reverse.map fun p => s!", included from {p.file}: line {p.line}")

@[simp] theorem depth_child (o : Origin) (file : String) (line : Int) :
    (o.child file line).depth = o.depth + 1 := by
  simp [depth, child]

@[simp] theorem lineage_child (o : Origin) (file : String) (line : Int) :
    (o.child file line).lineage = o.lineage ++ [file] := by
  simp [lineage, child, place]

end Origin

/-- A line of a document. -/
structure Line where
  text : String
  origin : Origin
  deriving DecidableEq, Repr

namespace Line

/-- Texts as lines, numbered from one, with the origin of each given by its number. -/
def number (origin : Int → Origin) (texts : List String) : List Line :=
  texts.zipIdx.map fun (text, i) => ⟨text, origin ((i : Int) + 1)⟩

/-- The numbers of texts after others count on. -/
theorem number_append (origin : Int → Origin) (texts more : List String) :
    number origin (texts ++ more) =
      number origin texts ++ number (fun n => origin (texts.length + n)) more := by
  have hcount : more.zipIdx (0 + texts.length) =
      more.zipIdx.map fun (text, i) => (text, texts.length + i) := by
    rw [Nat.zero_add, List.zipIdx_eq_map_add]
  unfold number
  rw [List.zipIdx_append, List.map_append, hcount, List.map_map]
  refine congrArg (_ ++ ·) (List.map_congr_left fun p _ => ?_)
  simp [Int.add_assoc]

theorem number_cons (origin : Int → Origin) (text : String) (more : List String) :
    number origin (text :: more) = ⟨text, origin 1⟩ :: number (fun n => origin (1 + n)) more :=
  number_append origin [text] more

/-- The lines of a text. With a parent they are those of a file that an include directive at the
parent brings in. -/
def ofText (text file : String) (parent : Option Origin := none) : List Line :=
  number (fun n => match parent with
    | none => { file := file, line := n }
    | some p => p.child file n) (Text.splitLines text)

end Line

end Transclude
