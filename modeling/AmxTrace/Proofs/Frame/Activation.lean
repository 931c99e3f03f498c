import AmxTrace.Proofs.Frame.Neighbours

/-! # Activations in memory -/

namespace AmxTrace

/-- Cell stored a distance past an address. The distance and the address reached must be cells. -/
def Machine.cellPast? (m : Machine) (base : Cell) (distance : Nat) : Option Cell := do
  let offset ← Cell.ofInt? distance
  m.dataCell? (← base.add? offset)

/-- One activation of a script function. -/
structure Activation where
  base : Cell
  function : Cell
  site : Cell
  arguments : List Cell
deriving DecidableEq, Repr

/-- The frame of an activation in memory: its return address, the size of its arguments in
bytes, and the arguments. -/
structure Machine.HoldsFrame (m : Machine) (a : Activation) : Prop where
  base_ne_zero : a.base ≠ 0
  onStack : m.isStackAddress a.base = true
  site : m.cellPast? a.base 4 = some a.site
  size : ∃ size : Cell, m.cellPast? a.base 8 = some size ∧ size.toInt = 4 * a.arguments.length
  arguments : ∀ index (h : index < a.arguments.length),
    m.cellPast? a.base (12 + 4 * index) = some a.arguments[index]

/-- An activation returns just after a call of its own function. -/
structure Machine.ReturnsToCall (m : Machine) (a : Activation) : Prop where
  site_ne_zero : a.site ≠ 0
  site_inCode : m.isCodeAddress a.site = true
  target : m.codeCell? (a.site - Cell.width) = some (a.function + m.codeBase)
  function_ne_zero : a.function ≠ 0
  function_inCode : m.isCodeAddress a.function = true

/-- A chain of activations in memory, from the innermost to the one that runs `entry` for the
host. The frame of each activation but the outermost links to the next one, and the activation
returns to the call that made it. -/
inductive Machine.HoldsChain (m : Machine) (entry : Cell) :
    Activation → List Activation → Prop where
  | outermost (a : Activation) (frame : m.HoldsFrame a)
      (stop : a.site = 0 ∨ m.isCodeAddress a.site = false) (function : a.function = entry) :
      HoldsChain m entry a []
  | called (a caller : Activation) (outer : List Activation) (frame : m.HoldsFrame a)
      (link : m.cellPast? a.base 0 = some caller.base) (call : m.ReturnsToCall a)
      (rest : HoldsChain m entry caller outer) : HoldsChain m entry a (caller :: outer)

/-- Each activation of a chain with the code address where it stopped: the innermost at `site`,
every other one where the activation inside it returns to. -/
def Activation.stoppedAt (site : Cell) : List Activation → List (Cell × Activation)
  | [] => []
  | a :: outer => (site, a) :: stoppedAt a.site outer

namespace Machine

theorem cellPast?_eq_some_iff {m : Machine} {base value : Cell} {distance : Nat} :
    m.cellPast? base distance = some value ↔
      ∃ offset, Cell.ofInt? distance = some offset ∧
        ∃ address, base.add? offset = some address ∧ m.dataCell? address = some value := by
  simp [cellPast?, Option.bind_eq_some_iff]

theorem cellPast?_iff_toInt {m : Machine} {base value : Cell} {distance : Nat} :
    m.cellPast? base distance = some value ↔
      distance < 0x80000000 ∧
        ∃ target : Cell, target.toInt = base.toInt + distance ∧ m.dataCell? target = some value := by
  rw [cellPast?_eq_some_iff]
  constructor
  · intro h
    obtain ⟨offset, hoffset, target, htarget, hvalue⟩ := h
    have hdistance := Cell.ofInt?_eq_some_iff.mp hoffset
    have hsum := Cell.toInt_of_add?_eq_some htarget
    have hhigh := offset.toInt_lt
    exact ⟨by omega, target, by omega, hvalue⟩
  · intro h
    obtain ⟨hfits, target, htarget, hvalue⟩ := h
    have hdistance : (Int32.ofInt distance).toInt = distance :=
      Int32.toInt_ofInt_of_le (by omega) (by omega)
    refine ⟨Int32.ofInt distance, Cell.ofInt?_eq_some_iff.mpr hdistance, target, ?_, hvalue⟩
    apply Cell.ofInt?_eq_some_iff.mpr
    omega

theorem dataCell?_add {m : Machine} {base value : Cell} {distance : Nat} (offset : Cell)
    (h : m.cellPast? base distance = some value) (ho : offset.toInt = distance) :
    m.dataCell? (base + offset) = some value := by
  obtain ⟨c, hc, address, ha, hv⟩ := cellPast?_eq_some_iff.mp h
  have hoffset := Cell.ofInt?_eq_some_iff.mp hc
  have hsum := Cell.toInt_of_add?_eq_some ha
  have he : base + offset = address := by
    rw [← Int32.ofInt_toInt base, ← Int32.ofInt_toInt offset, ← Int32.ofInt_add, ho, ← hoffset,
      ← hsum, Int32.ofInt_toInt]
  rwa [he]

namespace HoldsFrame

variable {m : Machine} {a : Activation}

theorem stackAddr_base (h : m.HoldsFrame a) : m.stackAddr a.base = .present a.base :=
  Addr.checked_of_valid h.base_ne_zero h.onStack

theorem address_ofAddress (h : m.HoldsFrame a) :
    (Frame.ofAddress m a.base).address = .present a.base := by
  rw [Frame.address_ofAddress, h.stackAddr_base]

theorem link_ofAddress {link : Cell} (h : m.HoldsFrame a)
    (hl : m.cellPast? a.base 0 = some link) : (Frame.ofAddress m a.base).link = link := by
  have hcell := dataCell?_add 0 hl rfl
  rw [Int32.add_zero] at hcell
  simp [Frame.ofAddress, h.stackAddr_base, hcell]

theorem returnAddress_ofAddress (h : m.HoldsFrame a) :
    (Frame.ofAddress m a.base).returnAddress = m.codeAddr a.site := by
  have hcell := dataCell?_add Cell.width h.site rfl
  rw [Frame.returnAddress_ofAddress, h.stackAddr_base]
  simp [Frame.storedReturn, Frame.storedCodeAddr, hcell]

theorem returnAddress_of_outermost (h : m.HoldsFrame a)
    (hs : a.site = 0 ∨ m.isCodeAddress a.site = false) :
    (Frame.ofAddress m a.base).returnAddress = .absent := by
  rw [h.returnAddress_ofAddress, codeAddr, Addr.checked]
  rcases hs with hs | hs <;> simp [hs]

theorem returnAddress_of_call (h : m.HoldsFrame a) (hc : m.ReturnsToCall a) :
    (Frame.ofAddress m a.base).returnAddress = .present a.site := by
  rw [h.returnAddress_ofAddress]
  exact Addr.checked_of_valid hc.site_ne_zero hc.site_inCode

theorem callee_of_call (h : m.HoldsFrame a) (hc : m.ReturnsToCall a) :
    (Frame.ofAddress m a.base).callee = .present a.function := by
  rw [Frame.callee_ofAddress, ← Frame.returnAddress_ofAddress, h.returnAddress_of_call hc]
  simp only [Frame.calledBefore, hc.target, Option.elim_some, Int32.add_sub_cancel]
  exact Addr.checked_of_valid hc.function_ne_zero hc.function_inCode

theorem storedArgumentCount?_ofAddress (h : m.HoldsFrame a) :
    (Frame.ofAddress m a.base).storedArgumentCount? m = some (a.arguments.length : Int) := by
  obtain ⟨size, hs, hn⟩ := h.size
  have hcell := dataCell?_add 8 hs rfl
  simp only [Frame.storedArgumentCount?, h.address_ofAddress, hcell, Option.map_some, hn]
  rw [Int.mul_tdiv_cancel_left _ (by decide)]

theorem argumentCount_above {f : Frame} (h : m.HoldsFrame a)
    (hf : f.previous m = Frame.ofAddress m a.base) :
    f.argumentCount m = a.arguments.length := by
  have hcount := h.storedArgumentCount?_ofAddress
  have hnonneg : ¬ ((a.arguments.length : Int) < 0) := by omega
  simp [Frame.argumentCount, hf, hcount, hnonneg]

theorem argument?_above {f : Frame} (h : m.HoldsFrame a)
    (hf : f.previous m = Frame.ofAddress m a.base) (index : Nat)
    (hi : index < a.arguments.length) : f.argument? m index = some a.arguments[index] := by
  obtain ⟨slot, hslot, address, haddress, hvalue⟩ :=
    cellPast?_eq_some_iff.mp (h.arguments index hi)
  have hdistance : ((12 + 4 * index : Nat) : Int) = ((index : Int) + 3) * 4 := by omega
  rw [hdistance] at hslot
  simp only [Frame.argument?, hf, h.address_ofAddress, Addr.get?, Option.bind_eq_bind,
    Option.bind_some, hslot, haddress, hvalue]

end HoldsFrame

end Machine

namespace Frame

/-- What a frame shows of an activation that stopped at a code address. -/
structure Shows (m : Machine) (stopped : Cell × Activation) (f : Frame) : Prop where
  returnAddress : f.returnAddress = .present stopped.1
  caller : f.caller = .present stopped.2.function
  base : (f.previous m).address = .present stopped.2.base
  count : f.argumentCount m = stopped.2.arguments.length
  arguments : ∀ index (h : index < stopped.2.arguments.length),
    f.argument? m index = some stopped.2.arguments[index]

theorem shows_of_above {m : Machine} {a : Activation} {site : Cell} {f : Frame}
    (h : m.HoldsFrame a) (hf : f.previous m = ofAddress m a.base)
    (hsite : f.returnAddress = .present site) (hcaller : f.caller = .present a.function) :
    f.Shows m (site, a) where
  returnAddress := hsite
  caller := hcaller
  base := by rw [hf, h.address_ofAddress]
  count := h.argumentCount_above hf
  arguments := h.argument?_above hf

end Frame

namespace Walk

theorem fromFrame_of_absent {m : Machine} {f : Frame} (h : f.returnAddress = .absent)
    (limit : Nat) : fromFrame m limit f = [] := by
  cases limit with
  | zero => rfl
  | succ limit => simp [fromFrame, h, Addr.isAbsent, Addr.get?]

theorem fromFrame_of_present {m : Machine} {f : Frame} {site : Cell}
    (h : f.returnAddress = .present site) (limit : Nat) :
    fromFrame m (limit + 1) f = f :: fromFrame m limit (f.previous m) := by
  simp [fromFrame, h, Addr.isAbsent, Addr.get?]

end Walk

end AmxTrace
