import AmxTrace.Proofs.Frame.Neighbours
import Mathlib.Data.List.Chain

/-! # Callers along a walk -/

namespace AmxTrace.Walk

private theorem eq_of_mem_head?_fromFrame {m : Machine} {limit : Nat} {start first : Frame}
    (hfirst : first ∈ (fromFrame m limit start).head?) : first = start := by
  cases limit with
  | zero => simp [fromFrame] at hfirst
  | succ limit =>
    rw [fromFrame] at hfirst
    split at hfirst
    · simp at hfirst
    · exact (Option.some.inj hfirst).symm

/-- A walk that starts at a frame whose caller agrees goes on with frames whose callers agree. -/
theorem isChain_fromFrame {m : Machine} {start : Frame} (limit : Nat)
    (hstart : start.caller = (start.previous m).callee) :
    (fromFrame m limit start).IsChain fun inner outer =>
      outer = inner.previous m ∧ inner.caller = outer.callee := by
  induction limit generalizing start with
  | zero => exact .nil
  | succ limit ih =>
    have hrest := ih (Frame.caller_previous m start)
    rw [fromFrame]
    split
    · exact .nil
    · -- what follows is empty or starts at the frame before this one
      apply List.isChain_cons.mpr
      refine ⟨fun outer houter => ?_, hrest⟩
      have hnext : outer = start.previous m := eq_of_mem_head?_fromFrame houter
      exact ⟨hnext, hnext ▸ hstart⟩

/-- Looking ahead for the caller and decoding the frame before agree, whatever the memory holds: on
decoded frames, on the first frame of a walk, and between frames that follow one another. -/
theorem callers_agree_with_callees (m : Machine) :
    (∀ value, (Frame.ofAddress m value).caller = ((Frame.ofAddress m value).previous m).callee) ∧
    ∀ frm cip,
      (head m frm cip).caller = ((head m frm cip).previous m).callee ∧
      ∀ limit, (fromRegisters m frm cip limit).IsChain fun inner outer =>
        outer = inner.previous m ∧ inner.caller = outer.callee := by
  refine ⟨Frame.caller_ofAddress m, fun frm cip => ?_⟩
  have hhead : (head m frm cip).caller = ((head m frm cip).previous m).callee := by
    rw [previous_head]
    exact caller_head m frm cip
  exact ⟨hhead, fun limit => isChain_fromFrame limit hhead⟩

end AmxTrace.Walk
