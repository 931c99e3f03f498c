import AmxTrace.Proofs.Backtrace.History
import AmxTrace.Proofs.Backtrace.Shape

/-! # The depth limit -/

namespace AmxTrace

/-- Two frames show one activation: the same frame address, return address and arguments. -/
structure Frame.SameActivation (m : Machine) (f g : Frame) : Prop where
  address : g.address = f.address
  returnAddress : g.returnAddress = f.returnAddress
  count : g.argumentCount m = f.argumentCount m
  arguments : ∀ index, g.argument? m index = f.argument? m index

namespace Frame

theorem SameActivation.refl (m : Machine) (f : Frame) : f.SameActivation m f :=
  ⟨rfl, rfl, rfl, fun _ => rfl⟩

theorem sameActivation_withCaller (m : Machine) (f : Frame) (address : Cell) :
    f.SameActivation m (f.withCaller m address) :=
  ⟨rfl, rfl, rfl, fun _ => rfl⟩

end Frame

namespace Walk

theorem take_fromFrame (m : Machine) {shallow deep : Nat} (h : shallow ≤ deep) (f : Frame) :
    (fromFrame m deep f).take shallow = fromFrame m shallow f := by
  induction shallow generalizing deep f with
  | zero => rfl
  | succ shallow ih =>
    cases deep with
    | zero => omega
    | succ deep =>
      rw [fromFrame, fromFrame]
      split
      · rfl
      · rw [List.take_succ_cons, ih (by omega)]

theorem take_fromRegisters (m : Machine) (frm cip : Cell) {shallow deep : Nat}
    (h : shallow ≤ deep) :
    (fromRegisters m frm cip deep).take shallow = fromRegisters m frm cip shallow :=
  take_fromFrame m h (head m frm cip)

end Walk

namespace Backtrace

variable (m : Machine)

@[simp] theorem length_withOutermostCaller (address : Cell) (frames : List Frame) :
    (withOutermostCaller m address frames).length = frames.length := by
  fun_induction withOutermostCaller m address frames with
  | case1 => rfl
  | case2 outermost => rfl
  | case3 frame outer rest ih => simp only [List.length_cons, ih]

theorem withOutermostCaller_idem (address : Cell) (frames : List Frame) :
    withOutermostCaller m address (withOutermostCaller m address frames) =
      withOutermostCaller m address frames := by
  rcases List.eq_nil_or_concat frames with rfl | ⟨inner, outermost, rfl⟩
  · rfl
  · rw [List.concat_eq_append, withOutermostCaller_concat, withOutermostCaller_concat]
    rfl

theorem take_withOutermostCaller (address : Cell) {frames : List Frame} {count : Nat}
    (h : count < frames.length) :
    (withOutermostCaller m address frames).take count = frames.take count := by
  rcases List.eq_nil_or_concat frames with rfl | ⟨inner, outermost, rfl⟩
  · simp at h
  · rw [List.concat_eq_append, List.length_append, List.length_singleton] at h
    rw [List.concat_eq_append, withOutermostCaller_concat,
      List.take_append_of_le_length (by omega), List.take_append_of_le_length (by omega)]

theorem sameActivation_withOutermostCaller (address : Cell) (frames : List Frame) :
    List.Forall₂ (Frame.SameActivation m) frames (withOutermostCaller m address frames) := by
  fun_induction withOutermostCaller m address frames with
  | case1 => exact .nil
  | case2 outermost => exact .cons (Frame.sameActivation_withCaller m outermost address) .nil
  | case3 frame outer rest ih => exact .cons (Frame.SameActivation.refl m frame) ih

/-- A walk cut at a depth is named as the cut walk is. -/
theorem withOutermostCaller_take (address : Cell) (frames : List Frame) (count : Nat) :
    withOutermostCaller m address ((withOutermostCaller m address frames).take count) =
      withOutermostCaller m address (frames.take count) := by
  rcases Nat.lt_or_ge count frames.length with h | h
  · rw [take_withOutermostCaller m address h]
  · rw [List.take_of_length_le (by simpa using h), List.take_of_length_le h,
      withOutermostCaller_idem]

/-- Frames of a public call at a smaller limit: those at the greater one, cut, with the public's
address given to the last that is left. -/
theorem publicFrames_of_le {shallow deep : Nat} (h1 : 1 ≤ shallow) (h : shallow ≤ deep)
    (index frm cip : Cell) :
    publicFrames m shallow index frm cip =
      withOutermostCaller m ((m.publicAddress? index).getD 0)
        ((publicFrames m deep index frm cip).take shallow) := by
  have hwalk := Walk.take_fromRegisters m frm cip h
  by_cases hdeep : Walk.fromRegisters m frm cip deep = []
  · rw [hdeep, List.take_nil] at hwalk
    rw [publicFrames, publicFrames, hdeep, ← hwalk, List.take_of_length_le (by simpa using h1)]
    rfl
  · have hshallow : Walk.fromRegisters m frm cip shallow ≠ [] := by
      rw [← hwalk, Ne, List.take_eq_nil_iff, not_or]
      exact ⟨by omega, hdeep⟩
    rw [publicFrames_of_walk_ne_nil hshallow, publicFrames_of_walk_ne_nil hdeep,
      withOutermostCaller_take, hwalk]

/-- Entries of one public call: its frames, unless the machine is at code address zero. -/
theorem capture_publicCall {record : CallRecord} (hk : record.kind = .publicCall)
    (hid : record.instanceId = m.id) (modules : ModuleResolver) (maxDepth : Nat) :
    capture m [record] modules maxDepth =
      (if m.registers.cip = 0 then [] else
        publicFrames m maxDepth record.index m.registers.frm m.registers.cip).map .script := by
  by_cases hz : m.registers.cip = 0
  · simp [capture, captureFrom, hz]
  · simp [capture, captureFrom, recordEntries, hz, hid, hk]

/-- One public call at two depth limits. Both show the same activations, the smaller limit the
first of them. The frames are the same too if the smaller limit cuts nothing off. Otherwise they
differ in the last one only, which the smaller limit takes for the public itself. -/
theorem capture_depth_cut (m : Machine) (record : CallRecord) (modules : ModuleResolver)
    {shallow deep : Nat} (hk : record.kind = .publicCall) (hid : record.instanceId = m.id)
    (h1 : 1 ≤ shallow) (h : shallow ≤ deep) :
    ∃ full cut : List Frame,
      capture m [record] modules deep = full.map .script ∧
      capture m [record] modules shallow = cut.map .script ∧
      cut.length = min shallow full.length ∧
      List.Forall₂ (Frame.SameActivation m) (full.take shallow) cut ∧
      (full.length ≤ shallow → cut = full) ∧
      (shallow < full.length → ∃ inner last, full.take shallow = inner ++ [last] ∧
        cut = inner ++ [last.withCaller m ((m.publicAddress? record.index).getD 0)]) := by
  rw [capture_publicCall m hk hid, capture_publicCall m hk hid]
  refine ⟨_, _, rfl, rfl, ?_⟩
  split
  · exact ⟨by simp, by simp, fun _ => rfl, by simp⟩
  · generalize hframes : publicFrames m deep record.index m.registers.frm m.registers.cip = full
    generalize hentry : (m.publicAddress? record.index).getD 0 = entry
    have hcut : publicFrames m shallow record.index m.registers.frm m.registers.cip =
        withOutermostCaller m entry (full.take shallow) := by
      rw [← hframes, ← hentry]
      exact publicFrames_of_le m h1 h _ _ _
    rw [hcut]
    refine ⟨by simp, sameActivation_withOutermostCaller m entry _, ?_, ?_⟩
    · intro hlength
      have hfull := publicFrames_of_le m (Nat.le_trans h1 h) (Nat.le_refl deep) record.index
        m.registers.frm m.registers.cip
      rw [hframes, hentry, List.take_of_length_le (Nat.le_trans hlength h)] at hfull
      rw [List.take_of_length_le hlength, ← hfull]
    · intro hlength
      rcases List.eq_nil_or_concat (full.take shallow) with hnil | ⟨inner, last, hlast⟩
      · rw [List.take_eq_nil_iff] at hnil
        rcases hnil with hnil | rfl
        · omega
        · simp at hlength
      · rw [List.concat_eq_append] at hlast
        exact ⟨inner, last, hlast, by rw [hlast, withOutermostCaller_concat]⟩

/-- The call of `OnReply` that the re-entrant machine is in. -/
def replyCall : CallRecord := ⟨7, .publicCall, 0, 112, 20⟩

/-- The re-entrant machine inside `OnReply`, seen at depth one and at depth two. -/
theorem capture_depth_cut_reentrant :
    (replyCall.kind = .publicCall ∧ replyCall.instanceId = reentrant.id ∧ 1 ≤ 1 ∧ 1 ≤ 2) ∧
    ∃ full cut : List Frame,
      capture reentrant [replyCall] noModules 2 = full.map .script ∧
      capture reentrant [replyCall] noModules 1 = cut.map .script ∧
      cut.length = min 1 full.length ∧
      List.Forall₂ (Frame.SameActivation reentrant) (full.take 1) cut ∧
      (full.length ≤ 1 → cut = full) ∧
      (1 < full.length → ∃ inner last, full.take 1 = inner ++ [last] ∧
        cut = inner ++ [last.withCaller reentrant ((reentrant.publicAddress? replyCall.index).getD 0)]) :=
  ⟨⟨rfl, rfl, by decide, by decide⟩,
    capture_depth_cut reentrant replyCall noModules rfl rfl (by decide) (by decide)⟩

/-- A smaller limit does not merely cut. At depth one the innermost frame of the re-entrant
machine runs `OnReply`, at depth two the function that `OnReply` called. -/
theorem capture_ne_take_capture :
    ¬ ∀ (m : Machine) (record : CallRecord) (modules : ModuleResolver) (shallow deep : Nat),
      record.kind = .publicCall → record.instanceId = m.id → 1 ≤ shallow → shallow ≤ deep →
        capture m [record] modules shallow = (capture m [record] modules deep).take shallow := by
  intro h
  have hcut := h reentrant replyCall noModules 1 2 rfl rfl (by decide) (by decide)
  revert hcut
  decide +kernel

end Backtrace

end AmxTrace
