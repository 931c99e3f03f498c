import AmxTrace.Command.Arguments
import AmxTrace.Command.Summaries
import AmxTrace.Configuration
import AmxTrace.Crash
import AmxTrace.Json.Value
import AmxTrace.Locator

/-! # Running commands -/

namespace AmxTrace.Command

/-- A failure with its causes, the nearest first. -/
structure Failure where
  message : String
  causes : List String := []
deriving DecidableEq, Repr

namespace Failure

def indented (first other text : String) : String :=
  first ++ ("\n" ++ other).intercalate
    ((Text.parts (· == '\n') text.toList).map String.ofList)

def causeTexts (causes : List String) : List String :=
  match causes with
  | [cause] => [indented "    " "    " cause]
  | causes => causes.mapIdx fun index cause =>
    let number := toString index
    indented (String.ofList (List.replicate (5 - number.length) ' ') ++ number ++ ": ") "       "
      cause

def texts (f : Failure) : List String :=
  ("Error: " ++ f.message) ::
    if f.causes = [] then [] else ["", "Caused by:"] ++ causeTexts f.causes

def within (context : String) (causes : List String) : Failure := { message := context, causes }

end Failure

def imageCauses (fault : ImageError) : List String :=
  fault.message :: match fault with
    | .unreadable source => [source.message]
    | .truncated source => [source.message]
    | _ => []

def debugCauses (fault : DebugError) : List String :=
  match fault with
  | .image source => imageCauses source
  | .unreadable source => [fault.message, source.message]
  | .truncated source => [fault.message, source.message]
  | _ => [fault.message]

def snapshotCauses (fault : SnapshotError) : List String :=
  fault.message :: match fault with
    | .unreadable source => [source.message]
    | _ => []

def settingsCauses (fault : SettingsError) : List String :=
  fault.message :: match fault with
    | .unreadable source => [source.message]
    | _ => []

abbrev Step := Except Failure

/-- What a run can see. -/
structure Surroundings where
  languages : Languages
  files : FileTree := {}
  environment : Environment := []
  home : String := ""
  directory : String := "/"

def loadImage (files : FileTree) (path : String) : Step Image :=
  (Image.load files path).mapError fun fault =>
    .within ("Failed to load module: " ++ path) (imageCauses fault)

/-- The debug store of a module, without which a task cannot be done. -/
def loadDebug (image : Image) (path : String) : Step DebugStore :=
  (DebugStore.ofImage image).mapError fun fault =>
    .within ("No usable debug info in " ++ path) (debugCauses fault)

def loadCrash (files : FileTree) (path snapshotPath : String) : Step Crash := do
  let image ← loadImage files path
  let snapshot ← (Snapshot.load files snapshotPath).mapError fun fault =>
    .within ("Failed to load snapshot: " ++ snapshotPath) (snapshotCauses fault)
  (Crash.restore image snapshot (Path.shownName path)).mapError fun fault =>
    .within "Snapshot does not match the module" (snapshotCauses fault)

def loadConfiguration (s : Surroundings) (settings : Option String) : Step Configuration :=
  let global := Configuration.globalPath s.home
  match settings with
  | some path =>
    (Configuration.loadFile s.languages s.files.textFiles s.environment global path).mapError fun fault =>
      .within ("Failed to load settings: " ++ path) (settingsCauses fault)
  | none =>
    (Configuration.loadFrom s.languages s.files.textFiles s.environment global s.directory).mapError fun fault =>
      .within "Failed to load pawntrace.toml" (settingsCauses fault)

def trimmed (text : List Char) : List Char :=
  ((text.dropWhile Text.isBlank).reverse.dropWhile Text.isBlank).reverse

/-- A code address: hexadecimal after `0x`, or else decimal. -/
def addressOf (text : List Char) : Except Text.IntegerFault Cell :=
  let hexadecimal (digits : List Char) : Except Text.IntegerFault Cell :=
    (Text.unsigned 16 0xFFFFFFFF digits).map fun n => (UInt32.ofNat n).toInt32
  match text with
  | '0' :: 'x' :: digits => hexadecimal digits
  | '0' :: 'X' :: digits => hexadecimal digits
  | text => (Text.signed32 text).map Int32.ofInt

def parseAddress (text : String) : Step Cell :=
  let text := trimmed text.toList
  (addressOf text).mapError fun fault =>
    .within ("Invalid address: " ++ String.ofList text) [fault.message]

def printed (json : Bool) (lines : List String) (value : Json) : List String :=
  if json then [value.pretty] else lines

def targetAddress (debug : DebugStore) (source : String) : Target → Step Cell
  | .function name =>
    match debug.functionAddress? name source with
    | some address => pure address
    | none => throw { message := "Function " ++ name ++ " not found in " ++ source }
  | .line number =>
    match debug.lineAddress? (Int32.ofInt number) source with
    | some address => pure address
    | none => throw { message := "No code for " ++ source ++ ":" ++ toString number }

def targetMember : Target → String × Json
  | .function name => ("function", .string name)
  | .line number => ("line", .integer number)

def locateModule (files : FileTree) (path : String) (directories : List String) (json : Bool)
    (image : Image) : Step (List String) :=
  let locator : Locator := { searchPaths := directories }
  let found := (locator.find files image.headerBytes).1
  if json then
    pure [Json.pretty (.object [("module", .string path), ("found", Json.ofOptionString found),
      ("searched", Json.ofStrings directories)])]
  else match found with
    | some path => pure [path]
    | none =>
      throw { message := "No module matching " ++ path ++ " in: " ++ ", ".intercalate directories }

def perform (files : FileTree) (configuration : Configuration) (json : Bool) :
    Task → Step (List String)
  | .info path => do
    let summary := ModuleSummary.ofImage path (← loadImage files path)
    pure (printed json summary.lines summary.toJson)
  | .lookup path address => do
    let address ← parseAddress address
    let image ← loadImage files path
    let location := SourceLocation.ofStore (← loadDebug image path) address
    pure (printed json location.lines location.toJson)
  | .resolve path source target => do
    let image ← loadImage files path
    let debug ← loadDebug image path
    let address ← targetAddress debug source target
    pure (printed json [ModuleSummary.addressText address]
      (.object [("file", .string source), targetMember target,
        ("address", .integer address.toInt)]))
  | .backtrace path snapshot => do
    let crash ← loadCrash files path snapshot
    pure (printed json (crash.backtraceLines configuration.limits)
      (ResolvedFrame.listToJson (crash.frames configuration.limits)))
  | .error path snapshot code =>
    match RuntimeError.ofCode? code with
    | none => throw { message := RuntimeError.heading code }
    | some error => do
      let crash ← loadCrash files path snapshot
      pure (printed json (crash.errorLines configuration.limits error)
        (crash.errorJson configuration.limits error))
  | .locate path directories => do
    let image ← loadImage files path
    locateModule files path (directories ++ configuration.searchPaths) json image

/-- How a run ended. -/
structure Outcome where
  code : Nat
  /-- What was printed, each text ended by a line break. -/
  output : List String := []
  errors : List String := []
deriving DecidableEq, Repr

def programName : String := "pawntrace"

def programVersion : String := "0.1.0"

def versionLine (task : Option TaskName) : String :=
  programName ++ (task.map fun task => "-" ++ task.text).getD "" ++ " " ++ programVersion

def usageLine : String :=
  "Usage: " ++ programName ++ " [--config FILE] <" ++
    "|".intercalate (TaskName.all.map TaskName.text) ++ "> ..."

def halted (stop : Stop) : Outcome :=
  match stop.halt with
  | .usage => { code := 2, errors := [usageLine] }
  | .help => { code := 0, output := [usageLine] }
  | .version => { code := 0, output := [versionLine stop.task] }

def execute (s : Surroundings) (asked : Invocation) : Step (List String) := do
  let configuration ← loadConfiguration s asked.settings
  perform s.files configuration asked.json asked.task

def run (s : Surroundings) (arguments : List String) : Outcome :=
  match invocation arguments (s.environment.value? jsonVariable) with
  | .error stop => halted stop
  | .ok asked =>
    match execute s asked with
    | .ok output => { code := 0, output }
    | .error failure => { code := 1, errors := failure.texts }

end AmxTrace.Command
