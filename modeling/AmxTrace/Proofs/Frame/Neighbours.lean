import AmxTrace.Frame

/-! # Neighbouring frames -/

namespace AmxTrace

namespace Frame

theorem ofAddress_of_absent {m : Machine} {value : Cell} (h : m.stackAddr value = .absent) :
    ofAddress m value = absent := by
  simp [ofAddress, h]

@[simp] theorem address_ofAddress (m : Machine) (value : Cell) :
    (ofAddress m value).address = m.stackAddr value := by
  cases h : m.stackAddr value with
  | absent => rw [ofAddress_of_absent h, absent]
  | present base => simp [ofAddress, h]

theorem returnAddress_ofAddress (m : Machine) (value : Cell) :
    (ofAddress m value).returnAddress = storedReturn m (m.stackAddr value) := by
  cases h : m.stackAddr value with
  | absent => rw [ofAddress_of_absent h, absent, storedReturn]
  | present base => simp [ofAddress, h]

theorem callee_ofAddress (m : Machine) (value : Cell) :
    (ofAddress m value).callee = calledBefore m (storedReturn m (m.stackAddr value)) := by
  cases h : m.stackAddr value with
  | absent => rw [ofAddress_of_absent h, absent, storedReturn, calledBefore]
  | present base => simp [ofAddress, h]

theorem previous_of_absent {m : Machine} {f : Frame} (h : f.address = .absent) :
    f.previous m = absent := by
  simp [previous, h]

theorem previous_of_present {m : Machine} {f : Frame} {base : Cell} (h : f.address = .present base) :
    f.previous m = ofAddress m f.link := by
  simp [previous, h]

/-- The function that runs in a decoded frame is the one its previous frame called. -/
theorem caller_ofAddress (m : Machine) (value : Cell) :
    (ofAddress m value).caller = ((ofAddress m value).previous m).callee := by
  cases h : m.stackAddr value with
  | absent =>
    rw [ofAddress_of_absent h, previous_of_absent rfl]
    rfl
  | present base =>
    rw [previous_of_present (by rw [address_ofAddress, h]), callee_ofAddress]
    simp [ofAddress, h]

theorem caller_previous (m : Machine) (f : Frame) :
    (f.previous m).caller = ((f.previous m).previous m).callee := by
  cases h : f.address with
  | absent =>
    have habsent : f.previous m = absent := previous_of_absent h
    rw [habsent, previous_of_absent rfl]
    rfl
  | present base =>
    have hdecoded : f.previous m = ofAddress m f.link := previous_of_present h
    rw [hdecoded]
    exact caller_ofAddress m f.link

/-- A frame of known values lies on top of the frame stored at its address. -/
theorem previous_ofParts (m : Machine) (address returnAddress callee caller : Cell) :
    (ofParts m address returnAddress callee caller).previous m = ofAddress m address := by
  cases h : m.stackAddr address with
  | absent =>
    rw [ofAddress_of_absent h, previous_of_absent]
    simpa [ofParts] using h
  | present base =>
    obtain ⟨rfl, _, _⟩ := Addr.checked_eq_present_iff.mp h
    have haddress : (ofParts m base returnAddress callee caller).address = .present base := h
    rw [previous_of_present haddress]
    simp [ofParts, h, Addr.raw, Addr.get?]

end Frame

namespace Walk

@[simp] theorem previous_head (m : Machine) (frm cip : Cell) :
    (head m frm cip).previous m = Frame.ofAddress m frm :=
  Frame.previous_ofParts m frm cip _ _

/-- The first frame of a walk runs the function that the frame stored at `frm` called. -/
theorem caller_head (m : Machine) (frm cip : Cell) :
    (head m frm cip).caller = (Frame.ofAddress m frm).callee := by
  change m.codeAddr (Frame.ofAddress m frm).callee.raw = _
  rw [Frame.callee_ofAddress]
  cases Frame.storedReturn m (m.stackAddr frm) with
  | absent => rfl
  | present site =>
    cases h : m.codeCell? (site - Cell.width) with
    | none => simp [Frame.calledBefore, h, Addr.raw, Addr.get?, Machine.codeAddr, Addr.checked]
    | some operand =>
      simp only [Frame.calledBefore, h, Option.elim_some]
      exact Addr.checked_raw_checked _ _

end Walk

end AmxTrace
