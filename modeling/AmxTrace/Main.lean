import AmxTrace.Command.Sources
import AmxTrace.Main.Languages

/-! # The program

The outermost layer: what a run may see is read from the disk and the environment, and what the run
printed is printed. -/

namespace AmxTrace.Command

/-- Error number for reading a directory as a file. -/
def directoryNumber : UInt32 := 21

def nodeOnDisk? (path : String) : IO (Option FileNode) := do
  try
    return some (.file (← IO.FS.readBinFile path) 0)
  catch
    | .inappropriateType _ number _ =>
      return if number = directoryNumber then some .directory else none
    | _ => return none

/-- Surroundings that show what stands at a path and at the directories around it. -/
def Surroundings.showPath (s : Surroundings) (path : String) : IO Surroundings :=
  (inward path).foldlM (fun s path => do
    match ← nodeOnDisk? path with
    | some node => return s.withNode path node
    | none => return s) s

/-- Lines of a stream, without their line breaks, as many as a limit allows. -/
def linesOf (stream : IO.FS.Stream) : Nat → IO (List String)
  | 0 => return []
  | limit + 1 => do
    let line ← stream.getLine
    if line.isEmpty then return []
    else return line.trimAsciiEnd.toString :: (← linesOf stream limit)

/-- Greatest number of files that a run can be told of. -/
def toldLimit : Nat := 100000

/-- Variables that a run heeds, with their values. -/
def heededEnvironment : IO Environment :=
  heededVariables.filterMapM fun name => return (← IO.getEnv name).map (name, ·)

/-- Surroundings of a run before any file is read. -/
def bareSurroundings : IO Surroundings := do
  let directory := toString (← IO.currentDir)
  let place := ((Path.piecesOf directory.toList).filter (· ≠ [])).map String.ofList
  let files := FileTree.makeDirectory { workingDirectory := place } place
  return {
    languages := .standard
    files
    environment := ← heededEnvironment
    home := (← IO.getEnv "HOME").getD ""
    directory }

/-- Surroundings that show all that a run may look at. -/
def surroundings (arguments : List String) : IO Surroundings := do
  let bare ← bareSurroundings
  match asked? bare arguments with
  | none => return bare
  | some asked => do
    let told ← if asked.task.searches then linesOf (← IO.getStdin) toldLimit else pure []
    (asked.paths bare ++ told).foldlM Surroundings.showPath bare

end AmxTrace.Command

def main (arguments : List String) : IO UInt32 := do
  let outcome := AmxTrace.Command.run (← AmxTrace.Command.surroundings arguments) arguments
  outcome.output.forM IO.println
  outcome.errors.forM IO.eprintln
  return UInt32.ofNat outcome.code
