import AmxTrace.Backtrace.Renderer
import AmxTrace.CallLog

/-! # Backtraces

A backtrace joins the call log with walks along the frames of the machine. Records are taken from
the most recent on: a native call gives one entry, and a public call gives the frames walked from
the cursor, the outermost of which is known to run the public. -/

namespace AmxTrace

/-- Names the host module that holds a host address. -/
abbrev ModuleResolver := Nat → Option String

/-- The resolver of a host that cannot name its modules. -/
def noModules : ModuleResolver := fun _ => none

/-- One level of a backtrace, before its names are found. -/
inductive BacktraceEntry where
  | script (frame : Frame)
  | native (frame : NativeFrame)
deriving DecidableEq, Repr

namespace Backtrace

/-- First line of a printed backtrace. -/
def heading : String := "AMX backtrace:"

def nativeFrame (m : Machine) (modules : ModuleResolver) (index : Cell) : NativeFrame :=
  let native := m.native? index
  let address := (native.map (·.address)).filter (· ≠ 0)
  { index, name := native.map (·.name), address, module := address.bind modules }

/-- Frames with the calling function of the last one replaced. -/
def withOutermostCaller (m : Machine) (address : Cell) : List Frame → List Frame
  | [] => []
  | [outermost] => [outermost.withCaller m address]
  | frame :: outer :: rest => frame :: withOutermostCaller m address (outer :: rest)

/-- Frames of a public call, walked from a cursor. A walk cannot see past the function the
host entered, so its last frame is given the public's address. Where there is nothing to
walk, the public has no frame of its own yet. -/
def publicFrames (m : Machine) (maxDepth : Nat) (index frm cip : Cell) : List Frame :=
  let entry := (m.publicAddress? index).getD 0
  match Walk.fromRegisters m frm cip maxDepth with
  | [] => [Frame.ofParts m frm 0 0 entry]
  | frames => withOutermostCaller m entry frames

theorem publicFrames_of_walk_ne_nil {m : Machine} {maxDepth : Nat} {index frm cip : Cell}
    (h : Walk.fromRegisters m frm cip maxDepth ≠ []) :
    publicFrames m maxDepth index frm cip =
      withOutermostCaller m ((m.publicAddress? index).getD 0)
        (Walk.fromRegisters m frm cip maxDepth) := by
  unfold publicFrames
  split
  · contradiction
  · rfl

def recordEntries (m : Machine) (modules : ModuleResolver) (maxDepth : Nat) (record : CallRecord)
    (frm cip : Cell) : List BacktraceEntry :=
  match record.kind with
  | .nativeCall => [.native (nativeFrame m modules record.index)]
  | .publicCall => (publicFrames m maxDepth record.index frm cip).map .script

def captureFrom (m : Machine) (modules : ModuleResolver) (maxDepth : Nat) :
    CallLog → Cell → Cell → List BacktraceEntry
  | [], _, _ => []
  | record :: older, frm, cip =>
    if cip = 0 ∨ record.instanceId ≠ m.id then []
    else
      recordEntries m modules maxDepth record frm cip ++
        captureFrom m modules maxDepth older record.frm record.cip

/-- Entries of a log, from the live registers; the innermost first. -/
def capture (m : Machine) (log : CallLog) (modules : ModuleResolver) (maxDepth : Nat) :
    List BacktraceEntry :=
  captureFrom m modules maxDepth log m.registers.frm m.registers.cip

def resolve (renderer : Renderer) (m : Machine) (entries : List BacktraceEntry) :
    List ResolvedFrame :=
  entries.map fun entry => match entry with
    | .script frame => .script (renderer.resolve m frame)
    | .native frame => .native frame

def numberedLines (frames : List ResolvedFrame) : List String :=
  frames.mapIdx fun index frame => "#" ++ toString index ++ " " ++ frame.text

def lines (renderer : Renderer) (m : Machine) (entries : List BacktraceEntry) : List String :=
  numberedLines (resolve renderer m entries)

end Backtrace

end AmxTrace
