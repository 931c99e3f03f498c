import AmxTrace.Backtrace.Resolved
import AmxTrace.Files.Tree
import AmxTrace.Trace

/-! # Settings -/

namespace AmxTrace

/-- Limits on backtraces that a file gives. -/
structure LimitSettings where
  maxDepth : Option Nat := none
  maxArguments : Option Nat := none
  maxStringLength : Option Nat := none
deriving DecidableEq, Repr

def LimitSettings.merge (base top : LimitSettings) : LimitSettings :=
  { maxDepth := top.maxDepth.or base.maxDepth
    maxArguments := top.maxArguments.or base.maxArguments
    maxStringLength := top.maxStringLength.or base.maxStringLength }

/-- What a file says about the search for modules. -/
structure SearchSettings where
  paths : Option (List String) := none
deriving DecidableEq, Repr

def SearchSettings.merge (base top : SearchSettings) : SearchSettings :=
  { paths := top.paths.or base.paths }

structure Settings where
  trace : Option String := none
  /-- Pattern that lines of a trace must contain. -/
  traceFilter : Option String := none
  backtrace : Option LimitSettings := none
  search : Option SearchSettings := none
deriving DecidableEq, Repr

/-- Why settings cannot be used. -/
inductive SettingsError where
  | missing (path : String)
  | unreadable (fault : ReadFault)
  | malformed (path reason : String)
  | unknownFlag (letter : Char)
  | badFilter (reason : String)
  | zeroLimit (field : String)
deriving DecidableEq, Repr

namespace SettingsError

def invalidValue (field reason : String) : String :=
  "Invalid value for '" ++ field ++ "': " ++ reason

def message : SettingsError → String
  | missing path => "Configuration file not found: " ++ path
  | unreadable fault => "Failed to read configuration file: " ++ fault.message
  | malformed path reason => "Invalid TOML syntax in " ++ path ++ ": " ++ reason
  | unknownFlag letter =>
    invalidValue "trace"
      ("unknown trace flag '" ++ String.singleton letter ++ "' (expected n, p or f)")
  | badFilter reason => invalidValue "trace_filter" reason
  | zeroLimit field => invalidValue field "must be greater than zero"

end SettingsError

/-- What settings are written in. A text is read, or there is a reason why it cannot be. -/
structure Languages where
  /-- The settings that the text of a file gives. -/
  settings : String → Except String Settings
  pattern : String → Except String (String → Bool)

/-- The files that settings are read from, by their paths. -/
structure TextFiles where
  exists? : String → Bool
  readText : String → Except ReadFault String

def FileTree.textFiles (tree : FileTree) : TextFiles where
  exists? := tree.exists?
  readText := tree.readText

namespace Settings

variable (languages : Languages)

def traceFault? (s : Settings) : Option SettingsError :=
  s.trace.bind fun text => match TraceFlags.parse text with
    | .ok _ => none
    | .error letter => some (.unknownFlag letter)

def filterFault? (s : Settings) : Option SettingsError :=
  s.traceFilter.bind fun pattern => match LineFilter.ofPattern languages.pattern pattern with
    | .ok _ => none
    | .error reason => some (.badFilter reason)

def limitFault? (s : Settings) : Option SettingsError := do
  let limits ← s.backtrace
  let (field, _) ← [("backtrace.max_depth", limits.maxDepth),
    ("backtrace.max_arguments", limits.maxArguments),
    ("backtrace.max_string_length", limits.maxStringLength)].find? fun limit => limit.2 == some 0
  some (.zeroLimit field)

/-- First value that is refused. -/
def fault? (s : Settings) : Option SettingsError :=
  s.traceFault?.orElse fun _ => (s.filterFault? languages).orElse fun _ => s.limitFault?

def checked (s : Settings) : Except SettingsError Settings :=
  match s.fault? languages with
  | none => pure s
  | some fault => throw fault

/-- Settings of a text; the path is named when it cannot be read. -/
def parse (path text : String) : Except SettingsError Settings :=
  match languages.settings text with
  | .ok settings => settings.checked languages
  | .error reason => throw (.malformed path reason)

def load (files : TextFiles) (path : String) : Except SettingsError Settings :=
  match files.readText path with
  | .ok text => parse languages path text
  | .error .missing => throw (.missing path)
  | .error fault => throw (.unreadable fault)

/-- A section laid over another of its kind. -/
def overlay {α : Type} (combine : α → α → α) : Option α → Option α → Option α
  | some base, some top => some (combine base top)
  | base, none => base
  | none, top => top

def merge (base top : Settings) : Settings :=
  { trace := top.trace.or base.trace
    traceFilter := top.traceFilter.or base.traceFilter
    backtrace := overlay LimitSettings.merge base.backtrace top.backtrace
    search := overlay SearchSettings.merge base.search top.search }

/-- Limits on backtraces, with those that are not given at their defaults. -/
def limits (s : Settings) : Limits :=
  let given := s.backtrace.getD {}
  let defaults : Limits := {}
  { maxDepth := given.maxDepth.getD defaults.maxDepth
    maxArguments := given.maxArguments.getD defaults.maxArguments
    maxStringLength := given.maxStringLength.getD defaults.maxStringLength }

def defaultSearchPaths : List String := ["gamemodes", "filterscripts"]

def searchPaths (s : Settings) : List String :=
  (s.search.bind (·.paths)).getD defaultSearchPaths

/-- Events to trace; letters that are refused trace nothing. -/
def traceFlags (s : Settings) : TraceFlags :=
  (s.trace.bind fun text => (TraceFlags.parse text).toOption).getD {}

/-- Filter of the trace; a pattern that is refused filters nothing. -/
def lineFilter (s : Settings) : Option LineFilter :=
  s.traceFilter.bind fun pattern => (LineFilter.ofPattern languages.pattern pattern).toOption

end Settings

end AmxTrace
