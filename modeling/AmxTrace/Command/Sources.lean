import AmxTrace.Command.Run

/-! # Sources of a run

The paths that a run may follow: settings files, the files that its task names, and the directories
around them. -/

namespace AmxTrace.Command

def heededVariables : List String :=
  [Configuration.searchVariable, Configuration.traceVariable, jsonVariable]

def Task.paths : Task → List String
  | .info file => [file]
  | .lookup file _ => [file]
  | .resolve file _ _ => [file]
  | .backtrace file snapshot => [file, snapshot]
  | .error file snapshot _ => [file, snapshot]
  | .locate file _ => [file]

/-- Whether a task looks at all files of some directories. -/
def Task.searches : Task → Bool
  | .locate _ _ => true
  | _ => false

def settingsPaths (s : Surroundings) : Option String → List String
  | some path => [Configuration.globalPath s.home, path]
  | none =>
    Configuration.globalPath s.home ::
      (Configuration.outward s.directory).map fun directory =>
        Path.join directory Configuration.fileName

def asked? (s : Surroundings) (arguments : List String) : Option Invocation :=
  (invocation arguments (s.environment.value? jsonVariable)).toOption

def Invocation.paths (s : Surroundings) (asked : Invocation) : List String :=
  settingsPaths s asked.settings ++ asked.task.paths

/-- A path after the directories around it, the outermost first. -/
def inward (path : String) : List String := (Path.ancestors path).reverse ++ [path]

/-- The files of some surroundings with a node put where a path leads, if nothing is there. -/
def Surroundings.withNode (s : Surroundings) (path : String) (node : FileNode) : Surroundings :=
  match s.files.place path with
  | .error _ => s
  | .ok place =>
    match s.files.nodeAt? place with
    | some _ => s
    | none => { s with files := s.files.put place node }

end AmxTrace.Command
