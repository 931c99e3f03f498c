import AmxTrace.Command.Run
import AmxTrace.Proofs.Image.Header
import AmxTrace.Proofs.Registry.Nesting
import AmxTrace.Proofs.Snapshot.Overlay

/-! # Live and captured reports -/

namespace AmxTrace

open Command

/-- What a host writes down about an instance: its registers, the calls in flight, and a window of
its memory outside of which the memory is like the data that it started with. -/
structure Snapshot.Captures (s : Snapshot) (m : Machine) (log : CallLog) (data : ByteArray) :
    Prop where
  instanceId : s.instanceId = m.id
  registers : s.registers = m.registers
  calls : s.calls = log.oldestFirst
  size : m.data.size = data.size
  window : ∃ start, s.stack.IsWindow start m.data data

variable {image : Image} {s : Snapshot} {m : Machine} {log : CallLog} {id : Nat}
  {memory : ByteArray} {registers : Registers}

theorem Snapshot.Captures.apply (h : s.Captures m log image.data) :
    s.apply image.data = .ok m.data := by
  obtain ⟨start, hwindow⟩ := h.window
  exact apply_of_isWindow hwindow h.size

theorem Snapshot.Captures.callLog {data : ByteArray} (h : s.Captures m log data)
    (hlog : ∀ record ∈ log, record.instanceId = m.id) : s.callLog = log := by
  have hsame : ∀ record ∈ log, { record with instanceId := m.id } = record := by
    intro record hrecord
    rw [← hlog record hrecord]
  rw [Snapshot.callLog, h.calls, h.instanceId, CallLog.ofOldestFirst, CallLog.oldestFirst,
    List.map_reverse, List.reverse_reverse, List.map_congr_left hsame, List.map_id']

/-- The crash that a snapshot brings back. -/
def Crash.captured (image : Image) (s : Snapshot) (memory : ByteArray) (scriptName : String) :
    Crash where
  image := image
  snapshot := s
  memory := memory
  debug := DebugStore.orEmpty image
  scriptName := scriptName

theorem Crash.restore_eq_ok (h : s.apply image.data = .ok memory) (scriptName : String) :
    Crash.restore image s scriptName = .ok (captured image s memory scriptName) := by
  rw [restore, h]
  rfl

section Reports

variable {r : Registry} {script : Script}

theorem Crash.machine_captured
    (h : s.Captures (image.machineWith id memory registers) log image.data) (scriptName : String) :
    (captured image s memory scriptName).machine = image.machineWith id memory registers := by
  have hid : s.instanceId = id := h.instanceId
  have hregisters : s.registers = registers := h.registers
  rw [machine, captured, Snapshot.machine, hid, hregisters]

variable (hscript : r.script? id = some script) (hdebug : script.debug = DebugStore.orEmpty image)
include hscript hdebug

theorem Registry.renderer_eq :
    r.renderer id = (Crash.captured image s memory script.name).renderer r.limits := by
  rw [renderer, debug, hscript]
  exact congrArg (fun debug => Renderer.mk debug r.limits (some script.name)) hdebug

variable (h : s.Captures (image.machineWith id memory registers) r.calls image.data)
  (hcalls : ∀ record ∈ r.calls, record.instanceId = id)
include h hcalls

theorem Crash.backtraceLines_captured :
    (captured image s memory script.name).backtraceLines r.limits =
      r.backtraceLines (image.machineWith id memory registers) noModules := by
  have hid : (image.machineWith id memory registers).id = id := rfl
  have hlog : s.callLog = r.calls := h.callLog hcalls
  rw [backtraceLines, entries, Crash.machine_captured h, Registry.backtraceLines, hid,
    Registry.renderer_eq hscript hdebug]
  dsimp only [captured]
  rw [hlog]

theorem Crash.errorLines_captured (error : RuntimeError) :
    (captured image s memory script.name).errorLines r.limits error =
      r.errorLines (image.machineWith id memory registers) s.errorRegisters error noModules := by
  rw [errorLines, Crash.backtraceLines_captured hscript hdebug h hcalls, Registry.errorLines,
    report, Crash.machine_captured h]
  rfl

theorem Crash.exists_of_captures :
    ∃ crash, restore image s script.name = .ok crash ∧
      crash.backtraceLines r.limits =
        r.backtraceLines (image.machineWith id memory registers) noModules ∧
      ∀ error, crash.errorLines r.limits error =
        r.errorLines (image.machineWith id memory registers) s.errorRegisters error noModules :=
  ⟨captured image s memory script.name, restore_eq_ok h.apply script.name,
    Crash.backtraceLines_captured hscript hdebug h hcalls,
    Crash.errorLines_captured hscript hdebug h hcalls⟩

end Reports

namespace Command

def Asks (around : Surroundings) (arguments : List String) (asked : Invocation) : Prop :=
  invocation arguments (around.environment.value? jsonVariable) = .ok asked

/-- The files and settings that a run can see are a module, a snapshot and limits. -/
structure Surroundings.Hold (around : Surroundings) (settings : Option String)
    (path snapshotPath : String) (image : Image) (s : Snapshot) (limits : Limits) : Prop where
  image : Image.load around.files path = .ok image
  snapshot : Snapshot.load around.files snapshotPath = .ok s
  configuration : ∃ c, loadConfiguration around settings = .ok c ∧ c.limits = limits

variable {around : Surroundings} {settings : Option String} {path snapshotPath : String}
  {limits : Limits} {crash : Crash}

theorem run_eq_of_perform {arguments : List String} {asked : Invocation} {c : Configuration}
    {output : List String} (hasks : Asks around arguments asked)
    (hc : loadConfiguration around asked.settings = .ok c)
    (h : perform around.files c asked.json asked.task = .ok output) :
    run around arguments = { code := 0, output } := by
  have hexecute : execute around asked = .ok output := by
    rw [execute, hc]
    exact h
  rw [Asks] at hasks
  rw [run, hasks]
  dsimp only
  rw [hexecute]

theorem loadCrash_eq_ok (himage : Image.load around.files path = .ok image)
    (hsnapshot : Snapshot.load around.files snapshotPath = .ok s)
    (hcrash : Crash.restore image s (Path.shownName path) = .ok crash) :
    loadCrash around.files path snapshotPath = .ok crash := by
  rw [loadCrash, loadImage, himage, hsnapshot]
  change (Crash.restore image s (Path.shownName path)).mapError _ = _
  rw [hcrash]
  rfl

theorem Surroundings.Hold.run_backtrace (h : around.Hold settings path snapshotPath image s limits)
    (hcrash : Crash.restore image s (Path.shownName path) = .ok crash) {arguments : List String}
    (hasks : Asks around arguments { settings, task := .backtrace path snapshotPath }) :
    run around arguments = { code := 0, output := crash.backtraceLines limits } := by
  obtain ⟨c, hc, rfl⟩ := h.configuration
  refine run_eq_of_perform hasks hc ?_
  rw [perform, loadCrash_eq_ok h.image h.snapshot hcrash]
  rfl

theorem Surroundings.Hold.run_error (h : around.Hold settings path snapshotPath image s limits)
    (hcrash : Crash.restore image s (Path.shownName path) = .ok crash) {arguments : List String}
    {code : Int} {error : RuntimeError} (herror : RuntimeError.ofCode? code = some error)
    (hasks : Asks around arguments { settings, task := .error path snapshotPath code }) :
    run around arguments = { code := 0, output := crash.errorLines limits error } := by
  obtain ⟨c, hc, rfl⟩ := h.configuration
  refine run_eq_of_perform hasks hc ?_
  dsimp only
  rw [perform, herror]
  dsimp only
  rw [loadCrash_eq_ok h.image h.snapshot hcrash]
  rfl

end Command

/-- Laid over its module a snapshot gives the memory of an instance, and what is printed about it
under the name of a script is what a registry reports about the instance. -/
structure ReportsLike (image : Image) (s : Snapshot) (name : String) (r : Registry) (m : Machine) :
    Prop where
  memory : s.apply image.data = .ok m.data
  crash : ∃ crash, Crash.restore image s name = .ok crash ∧
    crash.backtraceLines r.limits = r.backtraceLines m noModules ∧
    ∀ error, crash.errorLines r.limits error = r.errorLines m s.errorRegisters error noModules
  backtrace : ∀ {around settings path snapshotPath arguments},
    Surroundings.Hold around settings path snapshotPath image s r.limits →
      Path.shownName path = name →
        Asks around arguments { settings, task := .backtrace path snapshotPath } →
          run around arguments = { code := 0, output := r.backtraceLines m noModules }
  error : ∀ {around settings path snapshotPath arguments code error},
    Surroundings.Hold around settings path snapshotPath image s r.limits →
      Path.shownName path = name → RuntimeError.ofCode? code = some error →
        Asks around arguments { settings, task := .error path snapshotPath code } →
          run around arguments =
            { code := 0, output := r.errorLines m s.errorRegisters error noModules }

/-- A snapshot taken inside calls of one instance, with the debug store of its module attached,
is reported on as the host reports on the instance. -/
theorem reportsLike_of_captures {start r : Registry} {script : Script} (hstart : start.calls = [])
    (hscript : start.script? id = some script) (hdebug : script.debug = DebugStore.orEmpty image)
    (hnested : start.Nested id r)
    (h : s.Captures (image.machineWith id memory registers) r.calls image.data) :
    ReportsLike image s script.name r (image.machineWith id memory registers) := by
  have hattached : r.script? id = some script := (hnested.scripts id).trans hscript
  have hcalls : ∀ record ∈ r.calls, record.instanceId = id := by
    obtain ⟨newer, hnewer, hall⟩ := hnested.exists_calls
    rw [hnewer, hstart, List.append_nil]
    exact hall
  obtain ⟨crash, hrestore, hbacktrace, herror⟩ :=
    Crash.exists_of_captures hattached hdebug h hcalls
  refine ⟨h.apply, ⟨crash, hrestore, hbacktrace, herror⟩, ?_, ?_⟩
  · intro around settings path snapshotPath arguments hhold hname hasks
    rw [← hname] at hrestore
    rw [hhold.run_backtrace hrestore hasks, hbacktrace]
  · intro around settings path snapshotPath arguments code error hhold hname hcode hasks
    rw [← hname] at hrestore
    rw [hhold.run_error hrestore hcode hasks, herror]

/-- A module with four cells of data. -/
def crashedImage : Image where
  header := Header.bare 72
  headerBytes := (Header.bare 72).toBytes
  code := ByteArray.empty
  data := Segment.zeros 16
  publics := []
  natives := []
  debugSection := none

/-- Its instance with a seven on the stack. -/
def crashedMachine : Machine :=
  crashedImage.machineWith 0 (Segment.ofCells [0, 7, 0, 0])
    { frm := 4, cip := 8, stk := 4, stp := 12, hea := 0, hlw := 0 }

def outsideNative : Registry :=
  ({} : Registry).attach 0 { name := "gm.amx", debug := DebugStore.orEmpty crashedImage }

def insideNative : Registry := (outsideNative.enter .nativeCall crashedMachine 0).1

/-- What is written down inside the call. -/
def crashedSnapshot : Snapshot where
  registers := crashedMachine.registers
  stack := { base := 4, cells := [7] }
  calls := [{ kind := .nativeCall, index := 0, frm := 4, cip := 8 }]

def crashedText : String :=
  "\x7b\"registers\":\x7b\"frm\":4,\"cip\":8,\"stk\":4,\"stp\":12,\"hea\":0,\"hlw\":0\x7d," ++
    "\"stack\":\x7b\"base\":4,\"cells\":[7]\x7d," ++
    "\"calls\":[\x7b\"kind\":\"native\",\"index\":0,\"frm\":4,\"cip\":8\x7d]\x7d"

/-- The files that a run on the crash can see. None of them is a settings file. -/
def crashedFiles : Surroundings where
  languages := ⟨fun _ => .error "no settings", fun _ => .error "no pattern"⟩
  files :=
    { entries :=
        [(["gm.amx"], .file (Header.bareFile 72) 0), (["gm.json"], .file crashedText.toUTF8 0)] }

theorem hold_crashedFiles :
    crashedFiles.Hold none "gm.amx" "gm.json" crashedImage crashedSnapshot {} := by
  have hsnapshot : (Snapshot.load crashedFiles.files "gm.json").toOption =
      some crashedSnapshot := by decide +kernel
  refine ⟨rfl, ?_, _, rfl, rfl⟩
  cases hload : Snapshot.load crashedFiles.files "gm.json" with
  | error fault =>
    rw [hload] at hsnapshot
    exact absurd hsnapshot nofun
  | ok s =>
    rw [hload] at hsnapshot
    exact congrArg Except.ok (Option.some.inj hsnapshot)

theorem captures_insideNative :
    crashedSnapshot.Captures crashedMachine insideNative.calls crashedImage.data := by
  have hcells : Segment.HoldsCells crashedMachine.data 4 [7] := by
    intro index cell hcell
    cases index with
    | zero =>
      cases hcell
      decide
    | succ index => exact absurd hcell nofun
  have houtside : ∀ place, place < 4 ∨ 4 + 4 * 1 ≤ place →
      (Segment.bytes crashedMachine.data)[place]? = (Segment.bytes crashedImage.data)[place]? := by
    have hbelow : ∀ place < 16, place < 4 ∨ 4 + 4 * 1 ≤ place →
        (Segment.bytes crashedMachine.data)[place]? =
          (Segment.bytes crashedImage.data)[place]? := by decide
    intro place hplace
    by_cases hlt : place < 16
    · exact hbelow place hlt hplace
    · rw [List.getElem?_eq_none (Nat.not_lt.mp hlt), List.getElem?_eq_none (Nat.not_lt.mp hlt)]
  exact ⟨rfl, rfl, rfl, rfl, 4, by decide, by decide, hcells, houtside⟩

theorem reportsLike_insideNative :
    outsideNative.Nested 0 insideNative ∧
      crashedSnapshot.Captures crashedMachine insideNative.calls crashedImage.data ∧
      ReportsLike crashedImage crashedSnapshot "gm.amx" insideNative crashedMachine ∧
      run crashedFiles ["backtrace", "gm.amx", "gm.json"] =
        { code := 0, output := ["AMX backtrace:", "#0 native unknown ()"] } := by
  have hnested : outsideNative.Nested 0 insideNative :=
    .enter .here .nativeCall (m := crashedMachine) rfl 0
  have hcalls : outsideNative.calls = [] := rfl
  have hscript : outsideNative.script? 0 =
      some { name := "gm.amx", debug := DebugStore.orEmpty crashedImage } := rfl
  have hreports : ReportsLike crashedImage crashedSnapshot "gm.amx" insideNative crashedMachine :=
    reportsLike_of_captures hcalls hscript rfl hnested captures_insideNative
  refine ⟨hnested, captures_insideNative, hreports, ?_⟩
  exact hreports.backtrace hold_crashedFiles (by decide) rfl

end AmxTrace
