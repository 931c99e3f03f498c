import AmxTrace.Backtrace
import AmxTrace.Debug.Section
import AmxTrace.RuntimeError

/-! # Registry -/

namespace AmxTrace

structure Script where
  /-- Name shown on frames that cannot be found in source. -/
  name : String
  path : Option String := none
  debug : DebugStore := .empty
deriving DecidableEq, Repr

def Script.load (tree : FileTree) (path : String) : Script × List LogEntry :=
  let (debug, notes) := DebugStore.load tree path
  ({ name := Path.shownName path, path := some path, debug }, notes)

/-- A script with the bound of its traced frames. -/
structure Attachment where
  script : Script
  bound : Cell
deriving Repr

/-- Scripts attached to a host, its calls in flight and what it wants to see of them. -/
structure Registry where
  attachments : List (Nat × Attachment) := []
  calls : CallLog := []
  trace : TraceFlags := {}
  filter : Option LineFilter := none
  limits : Limits := {}

namespace Registry

def attachment? (r : Registry) (id : Nat) : Option Attachment :=
  (r.attachments.find? fun entry => entry.1 == id).map (·.2)

def script? (r : Registry) (id : Nat) : Option Script := (r.attachment? id).map (·.script)

/-- The registry without the script of an instance. -/
def detach (r : Registry) (id : Nat) : Registry :=
  { r with attachments := r.attachments.filter fun entry => entry.1 != id }

/-- The registry with a script for an instance; every frame lies below its first bound. -/
def attach (r : Registry) (id : Nat) (script : Script) : Registry :=
  { r with
    attachments := (id, { script, bound := Cell.greatest }) :: (r.detach id).attachments }

/-- The registry with the bound of an instance moved, if a script is attached for it. -/
def setBound (r : Registry) (id : Nat) (bound : Cell) : Registry :=
  { r with
    attachments := r.attachments.map fun entry =>
      if entry.1 = id then (entry.1, { entry.2 with bound }) else entry }

/-- Debug store of an instance, empty if no script is attached for it. -/
def debug (r : Registry) (id : Nat) : DebugStore :=
  ((r.script? id).map (·.debug)).getD .empty

/-- What frames of an instance are resolved against. -/
def renderer (r : Registry) (id : Nat) : Renderer :=
  { debug := r.debug id, limits := r.limits, scriptName := (r.script? id).map (·.name) }

def passes (r : Registry) (line : String) : Bool :=
  match r.filter with
  | some filter => filter.accepts line
  | none => true

/-- Name of a script or native that is not known. -/
def unknownName : String := "<unknown>"

def nativeLine (m : Machine) (index : Cell) : String :=
  "native " ++ (m.nativeName? index).getD unknownName ++ " ()"

/-- The frame that a public call enters, given the public's address. -/
def enteredFrame (m : Machine) (address : Cell) : Frame :=
  match Walk.fromRegisters m m.registers.frm m.registers.cip 1 with
  | frame :: _ => frame.withCaller m address
  | [] => Frame.ofParts m m.registers.frm 0 0 address

def publicLine? (r : Registry) (m : Machine) (index : Cell) : Option String := do
  let address ← m.publicAddress? index
  if address = 0 then none
  some ((r.renderer m.id).resolve m (enteredFrame m address)).signature

/-- The line of the function just entered, for an instance with a debug store whose frame lies
below the bound. -/
def entryLine? (r : Registry) (m : Machine) : Option String := do
  let attached ← r.attachment? m.id
  if attached.script.debug.loaded ∧ m.registers.frm < attached.bound then
    let frame ← (Walk.fromRegisters m m.registers.frm m.registers.cip 1).head?
    some ((r.renderer m.id).resolve m frame).signature
  else none

/-- The line of the function just entered, if function entries are traced. -/
def functionLine? (r : Registry) (m : Machine) : Option String :=
  if r.trace.functions then r.entryLine? m else none

/-- The log entries of an event with a line, if the event is traced and the line passes. -/
def traced (r : Registry) (event : TraceEvent) (line : Option String) : List LogEntry :=
  match line with
  | some line => if r.trace.has event && r.passes line then [.traced event line] else []
  | none => []

/-- A call begins. The bound falls at the start of a public call, when functions are traced. -/
def enter (r : Registry) (kind : CallKind) (m : Machine) (index : Cell) :
    Registry × List LogEntry :=
  let r := { r with calls := r.calls.push (.capture m kind index) }
  match kind with
  | .nativeCall => (r, r.traced .nativeCall (some (nativeLine m index)))
  | .publicCall =>
    let r := if r.trace.functions then r.setBound m.id 0 else r
    (r, r.traced .publicCall (r.publicLine? m index))

/-- The most recent call ends. -/
def leave? (r : Registry) : Option Registry :=
  r.calls.pop?.map fun (_, older) => { r with calls := older }

def functionEntered (r : Registry) (m : Machine) : Registry × List LogEntry :=
  (r.setBound m.id m.registers.frm, r.traced .functionEntry (r.functionLine? m))

def isInside (r : Registry) : Bool := !r.calls.isEmpty

/-- The heading and the numbered lines of the backtrace of an instance. -/
def backtraceLines (r : Registry) (m : Machine) (modules : ModuleResolver) : List String :=
  Backtrace.heading ::
    Backtrace.lines (r.renderer m.id) m (Backtrace.capture m r.calls modules r.limits.maxDepth)

def printBacktrace (r : Registry) (m : Machine) (modules : ModuleResolver) : List LogEntry :=
  (r.backtraceLines m modules).map .reported

/-- The report on a runtime error with the backtrace, if the error wants one. -/
def errorLines (r : Registry) (m : Machine) (saved : Registers) (error : RuntimeError)
    (modules : ModuleResolver) : List String :=
  error.report m saved ++ if error.wantsBacktrace then r.backtraceLines m modules else []

/-- The report on a runtime error in the log; codes that are no errors are passed over. -/
def reportError (r : Registry) (m : Machine) (saved : Registers) (error : RuntimeError)
    (modules : ModuleResolver) : List LogEntry :=
  if error.isError then (r.errorLines m saved error modules).map .reported else []

/-- The report on a crash of the host, in a script if one is given and a call is in flight. -/
def reportCrash (r : Registry) (m : Option Machine) (modules : ModuleResolver) : List LogEntry :=
  match m.filter fun _ => r.isInside with
  | some m =>
    .reported ("Server crashed while executing " ++
      ((r.script? m.id).map (·.name)).getD unknownName) :: r.printBacktrace m modules
  | none => [.reported "Server crashed due to an unknown error"]

end Registry

/-- What a host tells the registry, with the events that happen inside a call. -/
inductive HostEvent where
  | call (kind : CallKind) (m : Machine) (index : Cell) (body : List HostEvent)
  | entered (m : Machine)
  | attach (id : Nat) (script : Script)
  | detach (id : Nat)

namespace Registry

mutual

/-- The registry after an event, and what it logs. A call that ends without having begun
gives nothing. -/
def run? (r : Registry) : HostEvent → Option (Registry × List LogEntry)
  | .call kind m index body => do
    let (r, first) := r.enter kind m index
    let (r, inner) ← runAll? r body
    let r ← r.leave?
    some (r, first ++ inner)
  | .entered m => some (r.functionEntered m)
  | .attach id script => some (r.attach id script, [])
  | .detach id => some (r.detach id, [])

def runAll? (r : Registry) : List HostEvent → Option (Registry × List LogEntry)
  | [] => some (r, [])
  | event :: events => do
    let (r, first) ← run? r event
    let (r, others) ← runAll? r events
    some (r, first ++ others)

end

end Registry

end AmxTrace
