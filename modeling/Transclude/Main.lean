import Transclude.Cli.Program

/-!
# The command

Reads from the disk what a run looks at, runs the program, and writes what the run leaves behind. A
run says at which paths it looked, so it is repeated on a larger part of the disk until it looks at
nothing new.
-/

namespace Transclude.Cli

/-- The places of a path and of the directories that contain it. -/
def placesOf (cwd path : String) : List (List String) :=
  let parts := Path.normalParts (Path.absolute cwd path)
  (List.range parts.length).map fun n => parts.take (n + 1)

/-- The absolute path of a place. -/
def pathOf (place : List String) : String := "/" ++ "/".intercalate place

/-- What is at a place on the disk. -/
def nodeAt (place : List String) : IO (Option Node) := do
  let path := (← IO.currentDir) / pathOf place
  if place == ["dev", "null"] then pure (some .device)
  else if ← path.isDir then pure (some .directory)
  else
    try
      let content ← IO.FS.readBinFile path
      pure (some (.file content.toList))
    catch _ => pure none

/-- A run on the part of the disk that it looks at: how it ends, what it leaves behind, and the part
of the disk as it was before. The run is repeated at most the given number of times. -/
def settled (here : Surroundings) (arguments : List String) (known : List (List String)) :
    Nat → IO (Program.Exit × Session × FileTree)
  | 0 => do
    let (exit, session) := Program.run here arguments
    pure (exit, session, here.files)
  | rounds + 1 => do
    let (exit, session) := Program.run here arguments
    let looked := session.consulted.flatMap (placesOf here.cwd)
    let new := (looked.filter fun place => !known.contains place).eraseDups
    if new.isEmpty then pure (exit, session, here.files)
    else
      let files ← new.foldlM (fun t place => do
        match ← nodeAt place with
        | some node => pure (FileTree.put t place node)
        | none => pure t) here.files
      settled { here with files := files } arguments (known ++ new) rounds

/-- The disk is brought from one state to another. -/
def store (before after : FileTree) : IO Unit := do
  for (place, node) in after.entries do
    if before.node? place != some node then
      match node with
      | .directory => IO.FS.createDirAll (pathOf place)
      | .file content => IO.FS.writeBinFile (pathOf place) ⟨content.toArray⟩
      | .device => pure ()

/-- The text of bytes, or else the empty text. -/
def textOf (bytes : List UInt8) : List Char :=
  match Utf8.decode bytes with
  | .ok s => s
  | .error _ => []

/-- The variables of the environment. -/
def environment : IO (Table String) := do
  let raw ← IO.FS.readBinFile "/proc/self/environ"
  pure ((Text.fields (· == '\x00') (textOf raw.toList)).filterMap fun entry =>
    match Text.cut (· == '=') entry with
    | (name, some value) => some (String.ofList name, String.ofList value)
    | (_, none) => none)

/-- Standard input, if the command line asks for it. -/
def input (arguments : List String) : IO (List UInt8) := do
  match Invocation.read arguments with
  | .ok i =>
    if i.document == "-" then pure (← IO.FS.readBinFile "/dev/stdin").toList else pure []
  | .error _ => pure []

end Transclude.Cli

open Transclude Transclude.Cli

/-- Carries out a command line. -/
def main (arguments : List String) : IO UInt32 := do
  let here : Surroundings :=
    { files := {}
      cwd := (← IO.currentDir).toString
      environment := ← environment
      input := ← input arguments }
  let known := placesOf "/" here.cwd
  let files ← known.foldlM (fun t place => do
    pure (FileTree.put t place ((← nodeAt place).getD .directory))) {}
  let (exit, session, before) ← settled { here with files := files } arguments known 10000
  store before session.output.files
  IO.print session.output.standard
  IO.eprint session.errors
  match exit with
  | .status code => pure code.toUInt32
  | .raised problem =>
    IO.eprintln s!"{Help.programName}: {problem.message}"
    pure 1
