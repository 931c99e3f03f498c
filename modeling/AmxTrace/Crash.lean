import AmxTrace.Backtrace.Interchange
import AmxTrace.Backtrace
import AmxTrace.Debug.Section
import AmxTrace.RuntimeError
import AmxTrace.Snapshot

/-! # Crashes -/

namespace AmxTrace

/-- A captured instance with its memory restored. -/
structure Crash where
  image : Image
  snapshot : Snapshot
  memory : ByteArray
  debug : DebugStore
  /-- Name of the script on frames that cannot be found in source. -/
  scriptName : String

namespace Crash

/-- The crash that a snapshot of a module describes. -/
def restore (image : Image) (snapshot : Snapshot) (scriptName : String) :
    Except SnapshotError Crash := do
  let memory ← snapshot.apply image.data
  pure { image, snapshot, memory, debug := DebugStore.orEmpty image, scriptName }

def machine (c : Crash) : Machine := c.snapshot.machine c.image c.memory

/-- What its frames are resolved against. -/
def renderer (c : Crash) (limits : Limits) : Renderer :=
  { debug := c.debug, limits, scriptName := some c.scriptName }

def entries (c : Crash) (limits : Limits) : List BacktraceEntry :=
  Backtrace.capture c.machine c.snapshot.callLog noModules limits.maxDepth

def frames (c : Crash) (limits : Limits) : List ResolvedFrame :=
  Backtrace.resolve (c.renderer limits) c.machine (c.entries limits)

def backtraceLines (c : Crash) (limits : Limits) : List String :=
  Backtrace.heading :: Backtrace.lines (c.renderer limits) c.machine (c.entries limits)

def report (c : Crash) (error : RuntimeError) : List String :=
  error.report c.machine c.snapshot.errorRegisters

def errorLines (c : Crash) (limits : Limits) (error : RuntimeError) : List String :=
  c.report error ++ if error.wantsBacktrace then c.backtraceLines limits else []

def errorJson (c : Crash) (limits : Limits) (error : RuntimeError) : Json :=
  .object [("code", .integer error.code), ("error", .string error.name),
    ("message", .string error.message), ("report", Json.ofStrings (c.report error)),
    ("backtrace",
      if error.wantsBacktrace then ResolvedFrame.listToJson (c.frames limits) else .null)]

end Crash

end AmxTrace
