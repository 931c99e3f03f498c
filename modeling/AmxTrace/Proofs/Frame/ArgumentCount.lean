import AmxTrace.Frame

/-! # Numbers of arguments -/

namespace AmxTrace.Frame

/-- Size in bytes of the arguments stored in a frame. -/
def argumentSize? (m : Machine) (frame : Frame) : Option Cell :=
  frame.address.get?.bind fun base => m.dataCell? (base + 8)

def wholeArguments (size : Cell) : Nat := (size.toInt / 4).toNat

/-- Arguments that a frame stores on its own account. -/
def ownArguments (m : Machine) (frame : Frame) : Nat :=
  (frame.argumentSize? m).elim 0 wholeArguments

/-- Number of arguments as frames are laid out: every negative size defers to the frame before. -/
def documentedCount (m : Machine) (frame : Frame) : Nat :=
  match (frame.previous m).argumentSize? m with
  | none => 0
  | some size =>
    if size.toInt < 0 then ((frame.previous m).previous m).ownArguments m else wholeArguments size

/-- A size just below zero, which rounds to no arguments. -/
def RoundsToZero (size : Cell) : Prop := -4 < size.toInt ∧ size.toInt < 0

variable {m : Machine} {frame : Frame}

theorem storedArgumentCount?_eq_map (m : Machine) (frame : Frame) :
    frame.storedArgumentCount? m = (frame.argumentSize? m).map fun size => size.toInt.tdiv 4 := by
  unfold storedArgumentCount? argumentSize?
  cases frame.address with
  | absent => rfl
  | present base => rfl

private theorem tdiv_width_of_nonpos {n : Int} (h : n ≤ 0) : n.tdiv 4 = -(-n / 4) := by
  have hpos : 0 ≤ -n := by omega
  have hneg := Int.neg_tdiv (-n) 4
  rw [Int.neg_neg, Int.tdiv_eq_ediv_of_nonneg hpos] at hneg
  exact hneg

private theorem tdiv_width_neg_iff (n : Int) : n.tdiv 4 < 0 ↔ n ≤ -4 := by
  rcases Int.le_total 0 n with hn | hn
  · rw [Int.tdiv_eq_ediv_of_nonneg hn]
    omega
  · rw [tdiv_width_of_nonpos hn]
    omega

/-- However a size is rounded, one below zero gives no arguments. -/
theorem toNat_tdiv_width (n : Int) : (n.tdiv 4).toNat = (n / 4).toNat := by
  rcases Int.le_total 0 n with hn | hn
  · rw [Int.tdiv_eq_ediv_of_nonneg hn]
  · rw [tdiv_width_of_nonpos hn]
    omega

theorem toNat_storedArgumentCount? (m : Machine) (frame : Frame) :
    ((frame.storedArgumentCount? m).getD 0).toNat = frame.ownArguments m := by
  rw [storedArgumentCount?_eq_map, ownArguments]
  cases frame.argumentSize? m with
  | none => rfl
  | some size => exact toNat_tdiv_width size.toInt

theorem argumentCount_eq (m : Machine) (frame : Frame) :
    frame.argumentCount m =
      match (frame.previous m).argumentSize? m with
      | none => 0
      | some size =>
        if size.toInt ≤ -4 then ((frame.previous m).previous m).ownArguments m
        else wholeArguments size := by
  unfold argumentCount
  simp only [storedArgumentCount?_eq_map m (frame.previous m)]
  cases (frame.previous m).argumentSize? m with
  | none => rfl
  | some size =>
    simp only [Option.map_some, tdiv_width_neg_iff]
    by_cases hsize : size.toInt ≤ -4
    · rw [if_pos hsize, if_pos hsize, toNat_storedArgumentCount?]
    · rw [if_neg hsize, if_neg hsize]
      exact toNat_tdiv_width size.toInt

theorem wholeArguments_of_roundsToZero {size : Cell} (h : RoundsToZero size) :
    wholeArguments size = 0 := by
  obtain ⟨-, hneg⟩ := h
  unfold wholeArguments
  omega

/-- A number of arguments is the documented one, unless the size in the previous frame is just below zero
and the frame before has arguments. Then they are not found. -/
theorem argumentCount_eq_documentedCount_iff (m : Machine) (frame : Frame) :
    frame.argumentCount m = frame.documentedCount m ↔
      ∀ size ∈ (frame.previous m).argumentSize? m, RoundsToZero size →
        ((frame.previous m).previous m).ownArguments m = 0 := by
  rw [argumentCount_eq, documentedCount]
  cases (frame.previous m).argumentSize? m with
  | none => simp
  | some size =>
    simp only [Option.mem_some_iff, forall_eq']
    by_cases hround : RoundsToZero size
    · have hzero := wholeArguments_of_roundsToZero hround
      obtain ⟨hlow, hneg⟩ := hround
      rw [if_neg (by omega), if_pos hneg, hzero]
      exact ⟨fun h _ => h.symm, fun h => (h ⟨hlow, hneg⟩).symm⟩
    · have hsame : size.toInt ≤ -4 ↔ size.toInt < 0 := by
        unfold RoundsToZero at hround
        omega
      simp only [hsame, hround, false_implies]

/-- A frame at 32 over one at 48 that stores the size `size`, and one at 64 with two arguments. -/
def withSize (size : Cell) : Machine :=
  { id := 0
    code := Segment.ofCells [0, 49, 16, 0, 0, 0, 0, 0]
    data := Segment.ofCells [0, 0, 0, 0, 0, 0, 0, 0, 48, 12, 0, 0, 64, 12, size, 5, 0, 12, 8, 0, 0, 0, 0, 0]
    registers := { hlw := 32, stp := 96 } }

/-- Not every negative size defers to the frame before: minus one does not, minus four does. -/
theorem argumentCount_ne_documentedCount :
    (ofAddress (withSize (-1)) 32).argumentCount (withSize (-1)) ≠
        (ofAddress (withSize (-1)) 32).documentedCount (withSize (-1)) ∧
      (ofAddress (withSize (-1)) 32).documentedCount (withSize (-1)) = 2 ∧
      (ofAddress (withSize (-4)) 32).argumentCount (withSize (-4)) = 2 := by
  decide

end AmxTrace.Frame
