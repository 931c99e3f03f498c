import AmxTrace.Backtrace
import AmxTrace.Proofs.Frame.Neighbours

/-! # Frames keep only checked addresses -/

namespace AmxTrace

/-- An address is absent, or not zero and inside the stack region. -/
def Machine.OnStack (m : Machine) (a : Addr) : Prop :=
  ∀ offset, a = .present offset →
    offset ≠ 0 ∧ m.registers.hlw.toInt ≤ offset.toInt ∧ offset.toInt < m.registers.stp.toInt

/-- An address is absent, or not zero and inside the code segment. -/
def Machine.InCode (m : Machine) (a : Addr) : Prop :=
  ∀ offset, a = .present offset → offset ≠ 0 ∧ 0 ≤ offset.toInt ∧ offset.toInt < m.code.size

theorem Machine.onStack_stackAddr (m : Machine) (value : Cell) : m.OnStack (m.stackAddr value) := by
  intro offset h
  obtain ⟨rfl, hz, hv⟩ := Addr.checked_eq_present_iff.mp h
  exact ⟨hz, (m.isStackAddress_iff offset).mp hv⟩

theorem Machine.inCode_codeAddr (m : Machine) (value : Cell) : m.InCode (m.codeAddr value) := by
  intro offset h
  obtain ⟨rfl, hz, hv⟩ := Addr.checked_eq_present_iff.mp h
  exact ⟨hz, (m.isCodeAddress_iff offset).mp hv⟩

theorem Machine.inCode_absent (m : Machine) : m.InCode .absent := by
  intro offset h
  exact absurd h (by simp)

namespace Frame

/-- Every field of a frame passed its check. -/
structure Checked (m : Machine) (f : Frame) : Prop where
  address : m.OnStack f.address
  returnAddress : m.InCode f.returnAddress
  callee : m.InCode f.callee
  caller : m.InCode f.caller

def Missing (f : Frame) : Prop :=
  f.address = .absent ∧ f.returnAddress = .absent ∧ f.callee = .absent ∧ f.caller = .absent

theorem missing_absent : absent.Missing := ⟨rfl, rfl, rfl, rfl⟩

theorem inCode_storedReturn (m : Machine) (a : Addr) : m.InCode (storedReturn m a) := by
  cases a with
  | absent => exact m.inCode_absent
  | present base =>
    rw [storedReturn, storedCodeAddr]
    cases m.dataCell? (base + Cell.width) with
    | none => exact m.inCode_absent
    | some value => exact m.inCode_codeAddr value

theorem inCode_calledBefore (m : Machine) (a : Addr) : m.InCode (calledBefore m a) := by
  cases a with
  | absent => exact m.inCode_absent
  | present site =>
    rw [calledBefore]
    cases m.codeCell? (site - Cell.width) with
    | none => exact m.inCode_absent
    | some operand => exact m.inCode_codeAddr (operand - m.codeBase)

theorem checked_absent (m : Machine) : absent.Checked m where
  address := by
    intro offset h
    exact absurd h (by simp [absent])
  returnAddress := m.inCode_absent
  callee := m.inCode_absent
  caller := m.inCode_absent

theorem checked_ofAddress (m : Machine) (value : Cell) : (ofAddress m value).Checked m := by
  have hcallee (v : Cell) : m.InCode (ofAddress m v).callee := by
    rw [callee_ofAddress]
    exact inCode_calledBefore m _
  refine ⟨?_, ?_, hcallee value, ?_⟩
  · rw [address_ofAddress]
    exact m.onStack_stackAddr value
  · rw [returnAddress_ofAddress]
    exact inCode_storedReturn m _
  · rw [caller_ofAddress]
    cases h : (ofAddress m value).address with
    | absent =>
      rw [previous_of_absent h]
      exact m.inCode_absent
    | present base =>
      rw [previous_of_present h]
      exact hcallee _

theorem checked_ofParts (m : Machine) (address returnAddress callee caller : Cell) :
    (ofParts m address returnAddress callee caller).Checked m where
  address := m.onStack_stackAddr address
  returnAddress := m.inCode_codeAddr returnAddress
  callee := m.inCode_codeAddr callee
  caller := m.inCode_codeAddr caller

theorem Checked.withCaller {m : Machine} {f : Frame} (h : f.Checked m) (address : Cell) :
    (f.withCaller m address).Checked m :=
  ⟨h.address, h.returnAddress, h.callee, m.inCode_codeAddr address⟩

theorem checked_previous (m : Machine) (f : Frame) : (f.previous m).Checked m := by
  cases h : f.address with
  | absent =>
    rw [previous_of_absent h]
    exact checked_absent m
  | present base =>
    rw [previous_of_present h]
    exact checked_ofAddress m f.link

theorem checked_of_mem_fromFrame {m : Machine} {limit : Nat} {start f : Frame}
    (hs : start.Checked m) (hf : f ∈ Walk.fromFrame m limit start) : f.Checked m := by
  induction limit generalizing start with
  | zero => simp [Walk.fromFrame] at hf
  | succ limit ih =>
    rw [Walk.fromFrame] at hf
    split at hf
    · simp at hf
    · rcases List.mem_cons.mp hf with rfl | hf
      · exact hs
      · exact ih (checked_previous m start) hf

theorem checked_of_mem_fromRegisters {m : Machine} {frm cip : Cell} {limit : Nat} {f : Frame}
    (hf : f ∈ Walk.fromRegisters m frm cip limit) : f.Checked m :=
  checked_of_mem_fromFrame (checked_ofParts m _ _ _ _) hf

end Frame

namespace Backtrace

theorem checked_of_mem_withOutermostCaller {m : Machine} {address : Cell} {frames : List Frame}
    (h : ∀ f ∈ frames, f.Checked m) :
    ∀ f ∈ withOutermostCaller m address frames, f.Checked m := by
  fun_induction withOutermostCaller m address frames with
  | case1 => simp
  | case2 outermost =>
    intro f hf
    obtain rfl := List.mem_singleton.mp hf
    exact (h outermost (by simp)).withCaller address
  | case3 frame outer rest ih =>
    intro f hf
    rcases List.mem_cons.mp hf with rfl | hf
    · exact h f (by simp)
    · exact ih (fun g hg => h g (List.mem_cons_of_mem _ hg)) f hf

theorem checked_of_mem_publicFrames {m : Machine} {maxDepth : Nat} {index frm cip : Cell} {f : Frame}
    (hf : f ∈ publicFrames m maxDepth index frm cip) : f.Checked m := by
  unfold publicFrames at hf
  split at hf
  · obtain rfl := List.mem_singleton.mp hf
    exact Frame.checked_ofParts m _ _ _ _
  · exact checked_of_mem_withOutermostCaller
      (fun g hg => Frame.checked_of_mem_fromRegisters hg) f hf

theorem checked_of_mem_captureFrom {m : Machine} {modules : ModuleResolver} {maxDepth : Nat}
    {log : CallLog} {frm cip : Cell} {f : Frame}
    (hf : .script f ∈ captureFrom m modules maxDepth log frm cip) : f.Checked m := by
  induction log generalizing frm cip with
  | nil => simp [captureFrom] at hf
  | cons record older ih =>
    rw [captureFrom] at hf
    split at hf
    · simp at hf
    · rcases List.mem_append.mp hf with hf | hf
      · unfold recordEntries at hf
        split at hf
        · simp at hf
        · obtain ⟨g, hg, he⟩ := List.mem_map.mp hf
          cases he
          exact checked_of_mem_publicFrames hg
      · exact ih hf

end Backtrace

namespace Frame

/-- Frames of one machine that some sequence of operations can produce. -/
inductive Obtainable (m : Machine) : Frame → Prop where
  | ofAddress (value : Cell) : Obtainable m (ofAddress m value)
  | ofParts (address returnAddress callee caller : Cell) :
      Obtainable m (ofParts m address returnAddress callee caller)
  | withCaller (f : Frame) (address : Cell) (h : Obtainable m f) :
      Obtainable m (f.withCaller m address)
  | previous (f : Frame) (h : Obtainable m f) : Obtainable m (f.previous m)
  | walked (start f : Frame) (limit : Nat) (h : Obtainable m start)
      (hf : f ∈ Walk.fromFrame m limit start) : Obtainable m f
  | walkedFromRegisters (f : Frame) (frm cip : Cell) (limit : Nat)
      (hf : f ∈ Walk.fromRegisters m frm cip limit) : Obtainable m f
  | captured (f : Frame) (log : CallLog) (modules : ModuleResolver) (maxDepth : Nat)
      (hf : .script f ∈ Backtrace.capture m log modules maxDepth) : Obtainable m f

theorem Obtainable.checked {m : Machine} {f : Frame} (h : Obtainable m f) : f.Checked m := by
  induction h with
  | ofAddress value => exact checked_ofAddress m value
  | ofParts address returnAddress callee caller => exact checked_ofParts m _ _ _ _
  | withCaller f address _ ih => exact ih.withCaller address
  | previous f _ _ => exact checked_previous m f
  | walked start f limit _ hf ih => exact checked_of_mem_fromFrame ih hf
  | walkedFromRegisters f frm cip limit hf => exact checked_of_mem_fromRegisters hf
  | captured f log modules maxDepth hf => exact Backtrace.checked_of_mem_captureFrom hf

theorem isPresent_stackAddr_iff (m : Machine) (value : Cell) :
    (m.stackAddr value).isPresent = true ↔
      value ≠ 0 ∧ m.registers.hlw.toInt ≤ value.toInt ∧ value.toInt < m.registers.stp.toInt := by
  rw [← m.isStackAddress_iff]
  constructor
  · intro h
    cases ha : m.stackAddr value with
    | absent => simp [ha, Addr.isPresent, Addr.get?] at h
    | present base =>
      obtain ⟨rfl, hz, hv⟩ := Addr.checked_eq_present_iff.mp ha
      exact ⟨hz, hv⟩
  · rintro ⟨hz, hv⟩
    rw [Machine.stackAddr, Addr.checked_of_valid hz hv]
    rfl

theorem argumentCount_of_absent {m : Machine} {f : Frame} (h : f.address = .absent) :
    f.argumentCount m = 0 := by
  simp [argumentCount, previous_of_absent h, storedArgumentCount?, absent]

theorem argument?_of_absent {m : Machine} {f : Frame} (h : f.address = .absent) (index : Nat) :
    f.argument? m index = none := by
  simp [argument?, previous_of_absent h, absent, Addr.get?]

/-- Every obtainable frame holds checked addresses only, whatever the memory. A frame is decoded
exactly at the non-zero addresses of the stack region, and one without an address has no frame
before it and no arguments. -/
theorem obtainable_checked_decoded_iff (m : Machine) :
    (∀ f, Obtainable m f → f.Checked m) ∧
    (∀ value, (ofAddress m value).address.isPresent = true ↔
      value ≠ 0 ∧ m.registers.hlw.toInt ≤ value.toInt ∧
        value.toInt < m.registers.stp.toInt) ∧
    (∀ value, (ofAddress m value).address.isPresent = false → (ofAddress m value).Missing) ∧
    (∀ f : Frame, f.address = .absent →
      (f.previous m).Missing ∧ f.argumentCount m = 0 ∧ ∀ index, f.argument? m index = none) := by
  refine ⟨fun f h => h.checked, ?_, ?_, ?_⟩
  · intro value
    rw [address_ofAddress]
    exact isPresent_stackAddr_iff m value
  · intro value h
    rw [address_ofAddress] at h
    cases ha : m.stackAddr value with
    | absent =>
      rw [ofAddress_of_absent ha]
      exact missing_absent
    | present base => simp [ha, Addr.isPresent, Addr.get?] at h
  · intro f h
    refine ⟨?_, argumentCount_of_absent h, argument?_of_absent h⟩
    rw [previous_of_absent h]
    exact missing_absent

/-- A machine whose only frame chains to itself. -/
def selfLinked : Machine :=
  { id := 0
    code := Segment.ofCells [0, 49, 8, 0]
    data := Segment.ofCells [0, 0, 0, 0, 16, 12, -8, 0]
    registers := { frm := 16, cip := 12, hlw := 16, stp := 32 }
    publics := [⟨"OnTick", 4⟩] }

/-- The last of three frames walked along the self-linked frame is obtainable and checked. -/
theorem selfLinked_outermost_checked :
    .script ⟨.present 16, .present 12, .present 8, .present 4, 16⟩ ∈
        Backtrace.capture selfLinked [⟨0, .publicCall, 0, 0, 0⟩] noModules 3 ∧
      Checked selfLinked ⟨.present 16, .present 12, .present 8, .present 4, 16⟩ :=
  have hf : .script ⟨.present 16, .present 12, .present 8, .present 4, 16⟩ ∈
      Backtrace.capture selfLinked [⟨0, .publicCall, 0, 0, 0⟩] noModules 3 := by decide
  ⟨hf, (obtainable_checked_decoded_iff selfLinked).1 _ (.captured _ _ _ _ hf)⟩

end Frame

end AmxTrace
