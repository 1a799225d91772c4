import Transclude.Reduction.Context

/-!
# The loop over a buffer

The lines of a document are reduced in a buffer. A cursor stands before the first line that is not
done. A turn of the loop looks for the next find from the cursor on, acts on it, and sets the
cursor. An attribute entry is passed, an include is replaced by the lines that it stands for, and
the opening or the end of a conditional is dropped or kept. Lines that are put into the buffer are
looked at from the place where they stand.

## Main definitions

* `Loop`      : the point that the loop has reached.
* `Loop.step` : one turn of the loop.
-/

namespace Transclude

/-- The point that a loop has reached: the lines, and the index of the first that is not done. -/
structure Loop extends Context where
  buffer : Buffer
  cursor : Nat := 0
  deriving DecidableEq, Repr

/-- Why a turn does not come to its end: the reduction cannot go on, or an index is not one of the
buffer. -/
inductive Halt
  | interrupted (i : Interruption)
  | outOfRange (e : BufferError)
  deriving DecidableEq, Repr

/-- What a turn leads to: nothing is left to be found, or the loop goes on. -/
inductive Turn
  | last (l : Loop)
  | next (l : Loop)
  deriving DecidableEq, Repr

/-- The problems found at some indices of a buffer, each with the origin of its line. -/
def Buffer.located (b : Buffer) : List (Int × String) → Except BufferError (List (String × Origin))
  | [] => .ok []
  | (index, message) :: rest => do
    let line ← b.get index
    let problems ← b.located rest
    pure ((message, line.origin) :: problems)

namespace Loop

/-- The loop with another context. -/
def withContext (l : Loop) (c : Context) : Loop := { l with toContext := c }

/-- The loop with the cursor after the line at an index. -/
def pass (l : Loop) (index : Int) : Loop := { l with cursor := (index + 1).toNat }

/-- The loop with the lines from `start` to before `stop` replaced, and the cursor before them. -/
def splice (l : Loop) (start stop : Int) (new : List Line) : Except Halt Loop :=
  match l.buffer.replace start stop new with
  | .ok buffer => .ok { l with buffer := buffer, cursor := start.toNat }
  | .error e => .error (.outOfRange e)

/-- The loop after an include directive. -/
def onInclude (setting : Setting) (l : Loop) (index : Int) (d : Include) (origin : Origin) :
    Except Halt Loop :=
  match l.resolve setting d origin with
  | .ok (lines, c) => (l.withContext c).splice index (index + 1) lines
  | .error i => .error (.interrupted i)

/-- The loop after an `endif`. -/
def onClosing (setting : Setting) (l : Loop) (index : Int) (d : Closing) (origin : Origin) :
    Except Halt Loop :=
  let l := l.withContext (l.afterClosing d origin)
  if setting.options.preserveConditionals.meaning then .ok (l.pass index)
  else l.splice index (index + 1) []

/-- The loop after a block that is left out. -/
def skip (l : Loop) (index : Int) (d : Opening) (origin : Origin) : Except Halt Loop := do
  let (stop, problems) ← (BlockEnd.inBuffer l.buffer index d.target).mapError Halt.outOfRange
  let problems ← (l.buffer.located problems).mapError Halt.outOfRange
  let l := l.withContext (l.reportAll problems)
  match stop with
  | some stop => l.splice index (stop + 1) []
  | none =>
    (l.withContext (l.report (Context.unterminated d.raw) origin)).splice index l.buffer.size []

/-- The loop after an opening conditional of which only the content is to stay. -/
def onOpening (setting : Setting) (l : Loop) (index : Int) (d : Opening) (origin : Origin) :
    Except Halt Loop :=
  match l.judge setting d origin with
  | .error i => .error (.interrupted i)
  | .ok (active, c) =>
    let l := l.withContext c
    match d.inlineText? with
    | some text => l.splice index (index + 1) (if active then [⟨text, origin⟩] else [])
    | none =>
      if active then (l.withContext (l.enter d true origin)).splice index (index + 1) []
      else l.skip index d origin

/-- The loop after an opening conditional that is to stay itself. -/
def onPreserved (setting : Setting) (l : Loop) (index : Int) (d : Opening) (origin : Origin) :
    Except Halt Loop :=
  match d.inlineText? with
  | some text =>
    if isInclude text then l.splice index (index + 1) (d.blockForm text origin)
    else .ok (l.pass index)
  | none =>
    match l.judgeWithin setting d origin with
    | .error i => .error (.interrupted i)
    | .ok (active, c) => .ok ((l.withContext (c.enter d active origin)).pass index)

/-- The loop after the find at an index of the buffer. -/
def onHit (setting : Setting) (l : Loop) (index : Int) (hit : Hit) : Except Halt Loop :=
  match l.buffer.get index with
  | .error e => .error (.outOfRange e)
  | .ok line =>
    match hit with
    | .entry e => .ok ((l.withContext (l.afterEntry e)).pass index)
    | .directive (.include d) => l.onInclude setting index d line.origin
    | .directive (.closing d) => l.onClosing setting index d line.origin
    | .directive (.opening d) =>
      if setting.options.preserveConditionals.meaning then
        l.onPreserved setting index d line.origin
      else l.onOpening setting index d line.origin

/-- One turn of the loop: the next find is looked for from the cursor on and acted on. -/
def step (setting : Setting) (l : Loop) : Except Halt Turn :=
  match Scan.inBuffer l.verbatim l.buffer l.cursor with
  | .error e => .error (.outOfRange e)
  | .ok (verbatim, found) =>
    let l := l.withContext { l.toContext with verbatim := verbatim }
    match found with
    | none => .ok (.last l)
    | some (index, hit) => (l.onHit setting index hit).map .next

end Loop

end Transclude
