import AmxTrace.Proofs.Image.Packing
import AmxTrace.Snapshot

/-! # Dumps laid over data -/

namespace AmxTrace

namespace Segment

/-- Cells stand one after the other in a segment, from a place on. -/
def HoldsCells (segment : ByteArray) (start : Nat) (cells : List Cell) : Prop :=
  ∀ index cell, cells[index]? = some cell → cellFrom? segment (start + 4 * index) = some cell

theorem HoldsCells.cellBytes {segment : ByteArray} {start : Nat} {cells : List Cell}
    (h : HoldsCells segment start cells) :
    ((bytes segment).drop start).take (4 * cells.length) = cellBytes cells := by
  induction cells generalizing start with
  | nil => rfl
  | cons cell rest ih =>
    have hfirst : ((bytes segment).drop start).take 4 = Word.toBytes32 cell.toUInt32 :=
      bytes_of_cellFrom? (h 0 cell rfl)
    have hrest : HoldsCells segment (start + 4) rest := by
      intro index next hnext
      rw [Nat.add_assoc, Nat.add_comm 4, ← Nat.mul_succ]
      exact h (index + 1) next hnext
    rw [List.length_cons, Nat.mul_succ, Nat.add_comm, List.take_add, List.drop_drop, ih hrest,
      hfirst]
    rfl

theorem bytes_overlay (segment : ByteArray) (start : Nat) (new : ByteArray) :
    bytes (overlay segment start new) =
      (bytes segment).take start ++ bytes new ++ (bytes segment).drop (start + new.size) := by
  have hback : ((bytes segment).drop (start + new.size)).length ≤
      segment.size - (start + new.size) := by
    rw [List.length_drop, length_bytes]
  rw [overlay, bytes_append, bytes_append, bytes_extract, bytes_extract, List.drop_zero,
    Nat.sub_zero, List.take_of_length_le hback]

theorem overlay_eq {segment memory new : ByteArray} {start : Nat}
    (hnew : ((bytes memory).drop start).take new.size = bytes new)
    (houtside : ∀ place, place < start ∨ start + new.size ≤ place →
      (bytes memory)[place]? = (bytes segment)[place]?) :
    overlay segment start new = memory := by
  apply bytes_injective
  have hfront : (bytes segment).take start = (bytes memory).take start := by
    apply List.ext_getElem?
    intro place
    rw [List.getElem?_take, List.getElem?_take]
    split
    next hlt => rw [houtside place (.inl hlt)]
    next => rfl
  have hback : (bytes segment).drop (start + new.size) =
      (bytes memory).drop (start + new.size) := by
    apply List.ext_getElem?
    intro place
    rw [List.getElem?_drop, List.getElem?_drop, houtside _ (.inr (Nat.le_add_right _ _))]
  rw [bytes_overlay, hfront, hback, ← hnew, List.append_assoc, ← List.drop_drop,
    List.take_append_drop, List.take_append_drop]

end Segment

/-- A dump is a window of a memory, from a place on, and the memory is like some data outside it. -/
structure StackDump.IsWindow (dump : StackDump) (start : Nat) (memory data : ByteArray) : Prop where
  base : dump.base.offset? = some start
  inside : start ≤ memory.size
  cells : Segment.HoldsCells memory start dump.cells
  outside : ∀ place, place < start ∨ start + 4 * dump.cells.length ≤ place →
    (Segment.bytes memory)[place]? = (Segment.bytes data)[place]?

theorem Snapshot.apply_of_isWindow {s : Snapshot} {start : Nat} {memory data : ByteArray}
    (h : s.stack.IsWindow start memory data) (hsize : memory.size = data.size) :
    s.apply data = .ok memory := by
  have hcells := h.cells.cellBytes
  have hlength := congrArg List.length hcells
  rw [Segment.length_cellBytes, List.length_take, List.length_drop, Segment.length_bytes] at hlength
  have hin : start + 4 * s.stack.cells.length ≤ data.size := by
    have hinside := h.inside
    omega
  have hstart : s.dumpStart? data.size = some start := by
    rw [dumpStart?, h.base]
    exact if_pos hin
  have hnew : (Segment.ofCells s.stack.cells).size = 4 * s.stack.cells.length := by
    rw [Segment.ofCells, Segment.size_ofBytes, Segment.length_cellBytes]
  rw [apply, hstart]
  refine congrArg Except.ok (Segment.overlay_eq ?_ ?_)
  · rw [hnew, hcells, Segment.ofCells, Segment.bytes_ofBytes]
  · rw [hnew]
    exact h.outside

end AmxTrace
