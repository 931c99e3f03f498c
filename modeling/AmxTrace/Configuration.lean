import AmxTrace.Files.Path
import AmxTrace.Settings

/-! # Configuration -/

namespace AmxTrace

abbrev Environment := List (String × String)

def Environment.value? (environment : Environment) (name : String) : Option String :=
  (environment.find? fun entry => entry.1 == name).map (·.2)

/-- What a run works with. -/
structure Configuration where
  trace : TraceFlags := {}
  filter : Option LineFilter := none
  limits : Limits := {}
  searchPaths : List String := Settings.defaultSearchPaths
  root : Option String := none

namespace Configuration

/-- Name of local settings files. -/
def fileName : String := "pawntrace.toml"

def searchVariable : String := "AMX_PATH"

/-- Variable with letters that replace those of the settings. -/
def traceVariable : String := "PAWNTRACE_TRACE"

/-- Path of the global settings file in a home directory. -/
def globalPath (home : String) : String :=
  Path.join (Path.join home ".pawntrace") "config.toml"

section Loading

variable (languages : Languages)

def ofSettings (settings : Settings) (root : Option String) : Configuration :=
  { trace := settings.traceFlags
    filter := settings.lineFilter languages
    limits := settings.limits
    searchPaths := settings.searchPaths
    root }

/-- Paths listed with colons between them; empty ones do not count. -/
def listedPaths (text : String) : List String :=
  ((Text.parts (· == ':') text.toList).filter (· ≠ [])).map String.ofList

def withEnvironment (c : Configuration) (environment : Environment) :
    Except SettingsError Configuration := do
  let c := match environment.value? searchVariable with
    | some text => { c with searchPaths := listedPaths text ++ c.searchPaths }
    | none => c
  match environment.value? traceVariable with
  | none => pure c
  | some text =>
    match TraceFlags.parse text with
    | .ok trace => pure { c with trace }
    | .error letter => throw (.unknownFlag letter)

variable (files : TextFiles)

/-- Global settings; none are as good as any that cannot be used. -/
def globalSettings (path : String) : Settings :=
  if files.exists? path then ((Settings.load languages files path).toOption).getD {} else {}

def outward (start : String) : List String := start :: Path.ancestors start

def localRoot? (start : String) : Option String :=
  (outward start).find? fun directory => files.exists? (Path.join directory fileName)

/-- Configuration of a start directory, given the path of the global settings file. -/
def loadFrom (environment : Environment) (global start : String) :
    Except SettingsError Configuration := do
  let root := localRoot? files start
  let nearest ← match root with
    | some directory => Settings.load languages files (Path.join directory fileName)
    | none => pure {}
  (ofSettings languages ((globalSettings languages files global).merge nearest) root).withEnvironment
    environment

def loadFile (environment : Environment) (global path : String) :
    Except SettingsError Configuration := do
  let given ← Settings.load languages files path
  (ofSettings languages ((globalSettings languages files global).merge given)
    (Path.parent? path)).withEnvironment environment

end Loading

end Configuration

end AmxTrace
