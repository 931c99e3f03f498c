import AmxTrace.Backtrace
import AmxTrace.Proofs.Frame.Checked

/-! # What a backtrace reads of the registers -/

namespace AmxTrace

/-- The machine stopped elsewhere: with another frame pointer and instruction pointer. -/
def Machine.atCursor (m : Machine) (frm cip : Cell) : Machine :=
  { m with registers := { m.registers with frm, cip } }

namespace Machine

variable (m : Machine) (frm cip : Cell)

@[simp] theorem id_atCursor : (m.atCursor frm cip).id = m.id := rfl

@[simp] theorem dataCell?_atCursor : (m.atCursor frm cip).dataCell? = m.dataCell? := rfl

@[simp] theorem codeCell?_atCursor : (m.atCursor frm cip).codeCell? = m.codeCell? := rfl

@[simp] theorem opcodeAt?_atCursor : (m.atCursor frm cip).opcodeAt? = m.opcodeAt? := rfl

@[simp] theorem codeBase_atCursor : (m.atCursor frm cip).codeBase = m.codeBase := rfl

@[simp] theorem stackAddr_atCursor : (m.atCursor frm cip).stackAddr = m.stackAddr := rfl

@[simp] theorem codeAddr_atCursor : (m.atCursor frm cip).codeAddr = m.codeAddr := rfl

@[simp] theorem isDataAddress_atCursor :
    (m.atCursor frm cip).isDataAddress = m.isDataAddress := rfl

@[simp] theorem publicAddress?_atCursor :
    (m.atCursor frm cip).publicAddress? = m.publicAddress? := rfl

@[simp] theorem findPublic?_atCursor : (m.atCursor frm cip).findPublic? = m.findPublic? := rfl

@[simp] theorem isPublicAddress_atCursor :
    (m.atCursor frm cip).isPublicAddress = m.isPublicAddress := rfl

@[simp] theorem isMainAddress_atCursor :
    (m.atCursor frm cip).isMainAddress = m.isMainAddress := rfl

@[simp] theorem dataCells_atCursor (address : Cell) (count : Nat) :
    (m.atCursor frm cip).dataCells address count = m.dataCells address count := by
  induction count generalizing address with
  | zero => rfl
  | succ count ih =>
    simp only [dataCells, dataCell?_atCursor]
    cases m.dataCell? address with
    | none => rfl
    | some value =>
      cases address.add? Cell.width with
      | none => rfl
      | some next => simp only [ih]

end Machine

namespace Frame

variable (m : Machine) (frm cip : Cell)

theorem storedReturn_atCursor (a : Addr) :
    storedReturn (m.atCursor frm cip) a = storedReturn m a := by
  simp only [storedReturn, storedCodeAddr, Machine.dataCell?_atCursor, Machine.codeAddr_atCursor]

theorem calledBefore_atCursor (a : Addr) :
    calledBefore (m.atCursor frm cip) a = calledBefore m a := by
  simp only [calledBefore, Machine.codeCell?_atCursor, Machine.codeAddr_atCursor,
    Machine.codeBase_atCursor]

theorem ofAddress_atCursor (value : Cell) :
    ofAddress (m.atCursor frm cip) value = ofAddress m value := by
  simp only [ofAddress, Machine.stackAddr_atCursor, Machine.dataCell?_atCursor,
    storedReturn_atCursor, calledBefore_atCursor]

theorem ofParts_atCursor (address returnAddress callee caller : Cell) :
    ofParts (m.atCursor frm cip) address returnAddress callee caller =
      ofParts m address returnAddress callee caller := by
  simp only [ofParts, Machine.stackAddr_atCursor, Machine.codeAddr_atCursor]

theorem previous_atCursor (f : Frame) : f.previous (m.atCursor frm cip) = f.previous m := by
  simp only [previous, ofAddress_atCursor]

theorem argumentCount_atCursor (f : Frame) :
    f.argumentCount (m.atCursor frm cip) = f.argumentCount m := by
  simp only [argumentCount, storedArgumentCount?, previous_atCursor, Machine.dataCell?_atCursor]

theorem argument?_atCursor (f : Frame) (index : Nat) :
    f.argument? (m.atCursor frm cip) index = f.argument? m index := by
  simp only [argument?, previous_atCursor, Machine.dataCell?_atCursor]

end Frame

namespace Walk

variable (m : Machine) (frm cip : Cell)

theorem fromFrame_atCursor (limit : Nat) (f : Frame) :
    fromFrame (m.atCursor frm cip) limit f = fromFrame m limit f := by
  induction limit generalizing f with
  | zero => rfl
  | succ limit ih => simp only [fromFrame, Frame.previous_atCursor, ih]

theorem fromRegisters_atCursor (frm' cip' : Cell) (limit : Nat) :
    fromRegisters (m.atCursor frm cip) frm' cip' limit = fromRegisters m frm' cip' limit := by
  simp only [fromRegisters, fromFrame_atCursor, head, Frame.ofAddress_atCursor,
    Frame.ofParts_atCursor]

end Walk

section Dispatch

variable (m : Machine) (frm cip : Cell)

theorem CaseTable.readCases_atCursor (count : Nat) (slot : Cell) :
    readCases (m.atCursor frm cip) count slot = readCases m count slot := by
  induction count generalizing slot with
  | zero => rfl
  | succ count ih =>
    simp only [readCases, Machine.codeCell?_atCursor, ih]
    rfl

theorem CaseTable.read?_atCursor (address : Cell) :
    read? (m.atCursor frm cip) address = read? m address := by
  simp only [read?, Machine.opcodeAt?_atCursor, Machine.codeCell?_atCursor, readCases_atCursor]
  rfl

theorem StateDispatch.at?_atCursor (function : Cell) :
    at? (m.atCursor frm cip) function = at? m function := by
  simp only [at?, hasOpcode, Machine.opcodeAt?_atCursor, Machine.codeCell?_atCursor,
    CaseTable.read?_atCursor]
  rfl

theorem StateInfo.resolve?_atCursor (debug : DebugStore) (function address : Cell) :
    resolve? (m.atCursor frm cip) debug function address = resolve? m debug function address := by
  simp only [resolve?, StateDispatch.at?_atCursor]

end Dispatch

namespace Renderer

variable (r : Renderer) (m : Machine) (frm cip : Cell)

theorem stringText?_atCursor (address : Cell) (size : UInt32) :
    r.stringText? (m.atCursor frm cip) address size = r.stringText? m address size := by
  simp only [stringText?, Machine.isDataAddress_atCursor, Machine.dataCells_atCursor]
  rfl

theorem targetText_atCursor (tag : Option String) (address : Cell) :
    targetText (m.atCursor frm cip) tag address = targetText m tag address := rfl

theorem arrayString?_atCursor (argument : DebugSymbol) (tag : Option String)
    (value : Cell) :
    r.arrayString? (m.atCursor frm cip) argument tag value = r.arrayString? m argument tag value := by
  unfold arrayString?
  split
  · rw [stringText?_atCursor]
  · rfl

theorem valueText_atCursor (argument : DebugSymbol) (tag : Option String) (value : Cell) :
    r.valueText (m.atCursor frm cip) argument tag value = r.valueText m argument tag value := by
  simp only [valueText, targetText_atCursor, arrayString?_atCursor]

theorem plainArguments_atCursor (f : Frame) (index count : Nat) :
    plainArguments (m.atCursor frm cip) f index count = plainArguments m f index count := by
  induction count generalizing index with
  | zero => rfl
  | succ count ih => simp only [plainArguments, Frame.argument?_atCursor, ih]

theorem shownArguments_atCursor (f : Frame) :
    r.shownArguments (m.atCursor frm cip) f = r.shownArguments m f := by
  have hargument (argument : DebugSymbol) (value : Option Cell) :
      r.argumentText (m.atCursor frm cip) argument value = r.argumentText m argument value := by
    cases value with
    | none => rfl
    | some value => simp only [argumentText, Option.elim_some, valueText_atCursor]
  simp only [shownArguments, hargument, Frame.argument?_atCursor, Frame.argumentCount_atCursor,
    plainArguments_atCursor]

/-- A frame resolves to the same names and values wherever the machine stopped. -/
theorem resolve_atCursor (f : Frame) :
    r.resolve (m.atCursor frm cip) f = r.resolve m f := by
  simp only [resolve, shownArguments_atCursor, totalArguments, Frame.argumentCount_atCursor,
    automatonStates?, StateInfo.resolve?_atCursor, Machine.findPublic?_atCursor,
    Machine.isPublicAddress_atCursor, Machine.isMainAddress_atCursor]

end Renderer

namespace Backtrace

variable (m : Machine) (frm cip : Cell)

theorem withOutermostCaller_atCursor (address : Cell) (frames : List Frame) :
    withOutermostCaller (m.atCursor frm cip) address frames =
      withOutermostCaller m address frames := by
  fun_induction withOutermostCaller m address frames with
  | case1 => rfl
  | case2 outermost => rfl
  | case3 frame outer rest ih => rw [withOutermostCaller, ih]

theorem recordEntries_atCursor (modules : ModuleResolver) (maxDepth : Nat) (record : CallRecord)
    (frm' cip' : Cell) :
    recordEntries (m.atCursor frm cip) modules maxDepth record frm' cip' =
      recordEntries m modules maxDepth record frm' cip' := by
  have hnative : nativeFrame (m.atCursor frm cip) modules record.index =
      nativeFrame m modules record.index := rfl
  simp only [recordEntries, hnative, publicFrames, Machine.publicAddress?_atCursor,
    Walk.fromRegisters_atCursor, withOutermostCaller_atCursor, Frame.ofParts_atCursor]

theorem captureFrom_atCursor (modules : ModuleResolver) (maxDepth : Nat) (log : CallLog)
    (frm' cip' : Cell) :
    captureFrom (m.atCursor frm cip) modules maxDepth log frm' cip' =
      captureFrom m modules maxDepth log frm' cip' := by
  induction log generalizing frm' cip' with
  | nil => rfl
  | cons record older ih =>
    simp only [captureFrom, recordEntries_atCursor, ih, Machine.id_atCursor]

theorem resolve_append (renderer : Renderer) (inner outer : List BacktraceEntry) :
    resolve renderer m (inner ++ outer) = resolve renderer m inner ++ resolve renderer m outer := by
  rw [resolve, List.map_append, ← resolve, ← resolve]

theorem resolve_entries_atCursor (renderer : Renderer) (entries : List BacktraceEntry) :
    resolve renderer (m.atCursor frm cip) entries = resolve renderer m entries := by
  simp only [resolve, Renderer.resolve_atCursor]

/-- A backtrace splits at its most recent call: the frames of that call alone, followed by what
the older calls give in the machine stopped at the registers kept with it. -/
theorem resolve_capture_cons (m : Machine) (record : CallRecord) (older : CallLog)
    (modules : ModuleResolver) (maxDepth : Nat) (renderer : Renderer)
    (hid : record.instanceId = m.id) (hz : m.registers.cip ≠ 0) :
    resolve renderer m (capture m (record :: older) modules maxDepth) =
      resolve renderer m (capture m [record] modules maxDepth) ++
        resolve renderer (m.atCursor record.frm record.cip)
          (capture (m.atCursor record.frm record.cip) older modules maxDepth) := by
  have hgo : ¬ (m.registers.cip = 0 ∨ record.instanceId ≠ m.id) := by simp [hid, hz]
  have holder : capture (m.atCursor record.frm record.cip) older modules maxDepth =
      captureFrom m modules maxDepth older record.frm record.cip :=
    captureFrom_atCursor m record.frm record.cip modules maxDepth older record.frm record.cip
  rw [resolve_entries_atCursor, holder, ← resolve_append]
  simp only [capture, captureFrom, if_neg hgo, List.append_nil]

/-- The self-linked machine inside a second public call, made where there was no frame yet. -/
theorem resolve_capture_selfLinked :
    Frame.selfLinked.registers.cip ≠ 0 ∧
      resolve {} Frame.selfLinked
          (capture Frame.selfLinked [⟨0, .publicCall, 0, 0, 8⟩, ⟨0, .publicCall, 0, 0, 0⟩]
            noModules 3) =
        resolve {} Frame.selfLinked
            (capture Frame.selfLinked [⟨0, .publicCall, 0, 0, 8⟩] noModules 3) ++
          resolve {} (Frame.selfLinked.atCursor 0 8)
            (capture (Frame.selfLinked.atCursor 0 8) [⟨0, .publicCall, 0, 0, 0⟩] noModules 3) :=
  have hz : Frame.selfLinked.registers.cip ≠ 0 := by decide
  ⟨hz, resolve_capture_cons Frame.selfLinked ⟨0, .publicCall, 0, 0, 8⟩
    [⟨0, .publicCall, 0, 0, 0⟩] noModules 3 {} rfl hz⟩

end Backtrace

end AmxTrace
