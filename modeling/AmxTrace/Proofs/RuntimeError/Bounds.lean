import AmxTrace.Proofs.Dispatch.Relocation
import AmxTrace.RuntimeError
import Mathlib.Algebra.Group.Int.Defs
import Mathlib.Tactic.SplitIfs

/-! # Reports on failed bounds checks -/

namespace AmxTrace

theorem Cell.toNat_toUInt32 (c : Cell) :
    (c.toUInt32.toNat : Int) = if c.toInt < 0 then c.toInt + 2 ^ 32 else c.toInt := by
  have hsigned : c.toInt = c.toBitVec.toInt := rfl
  have hunsigned : c.toUInt32.toNat = c.toBitVec.toNat := rfl
  have hlt := c.toBitVec.isLt
  rw [hsigned, hunsigned, BitVec.toInt_eq_toNat_cond]
  split_ifs <;> omega

/-- What is below a cell without signs is below it with signs too, if the cell has none. -/
theorem Cell.toInt_lt_of_toUInt32_lt {a b : Cell} (hb : 0 ≤ b.toInt)
    (h : a.toUInt32 < b.toUInt32) : 0 ≤ a.toInt ∧ a.toInt < b.toInt := by
  have hlower := Cell.toNat_toUInt32 a
  have hupper := Cell.toNat_toUInt32 b
  have hlow := a.le_toInt
  have hhigh := b.toInt_lt
  rw [UInt32.lt_iff_toNat_lt] at h
  rw [if_neg (by omega)] at hupper
  split_ifs at hlower <;> omega

namespace RuntimeError

/-- Word that stands for a bounds check in the code of a machine. -/
def boundsWord (m : Machine) : Cell := Opcode.wordOf m.opcodeMap Opcode.bounds.number

/-- The opcodes are as they are, or relocated with a word of its own for a bounds check. -/
def HasBoundsWord (m : Machine) : Prop :=
  ∀ words ∈ m.opcodeMap, 121 < words.length ∧ words.Nodup

/-- A bounds check stands at `cip` with an operand that can be read, and `pri` is above the operand
as the machine compares them, without signs. -/
structure FailedBounds (m : Machine) (saved : Registers) (upper : Cell) : Prop where
  stands : m.HoldsWords saved.cip.toInt [boundsWord m, upper]
  exceeds : upper.toUInt32 < saved.pri.toUInt32

variable {m : Machine} {saved : Registers} {upper : Cell}

theorem opcodeAt?_eq_bounds_iff (hmap : HasBoundsWord m) {address : Cell} :
    m.opcodeAt? address = some .bounds ↔ m.wordAt? address.toInt = some (boundsWord m) := by
  apply Machine.opcodeAt?_eq_some_iff
  · exact fun words hwords => (hmap words hwords).2
  · unfold Opcode.HasWord
    cases hwords : m.opcodeMap with
    | none => decide
    | some words => exact (hmap words hwords).1

theorem boundsDetail_of_stands (hmap : HasBoundsWord m)
    (h : m.HoldsWords saved.cip.toInt [boundsWord m, upper]) :
    boundsDetail m saved = if saved.pri < 0 then
        [" Attempted to read/write array element at negative index " ++ saved.pri.decimal]
      else [" Attempted to read/write array element at index " ++ saved.pri.decimal ++
        " in array of size " ++ (upper + 1).decimal] := by
  obtain ⟨hcheck, hoperand⟩ := Machine.holdsWords_cons_iff.mp h
  have hread : (saved.cip.add? Cell.width).bind m.codeCell? = some upper :=
    (Machine.holdsWords_cons_iff.mp hoperand).1
  rw [boundsDetail, if_pos ((opcodeAt?_eq_bounds_iff hmap).mpr hcheck), hread]

/-- After a failed check of an index without a sign the size is the operand plus one, which does not
wrap, and the index is not below it. -/
theorem FailedBounds.size_le (h : FailedBounds m saved upper) (hindex : 0 ≤ saved.pri.toInt) :
    0 < upper.toInt + 1 ∧ upper.toInt + 1 ≤ saved.pri.toInt ∧
      (upper + 1).toInt = upper.toInt + 1 := by
  obtain ⟨hzero, hlt⟩ := Cell.toInt_lt_of_toUInt32_lt hindex h.exceeds
  have hhigh := saved.pri.toInt_lt
  have hone : (1 : Cell).toInt = 1 := by decide
  refine ⟨by omega, by omega, ?_⟩
  rw [Int32.toInt_add, hone, Int.bmod_eq_of_le (by omega) (by omega)]

/-- The report on a failed bounds check has one line of details: it gives the index if that is
negative, and else the index with the size of the array, which is positive and not above the index.
Where no bounds check stands the report has no details. -/
theorem report_bounds (hmap : HasBoundsWord m) (saved : Registers) :
    (∀ upper, FailedBounds m saved upper →
      (saved.pri.toInt < 0 → report m saved bounds = [heading 4,
        " Attempted to read/write array element at negative index " ++ toString saved.pri.toInt]) ∧
      (0 ≤ saved.pri.toInt → 0 < upper.toInt + 1 ∧ upper.toInt + 1 ≤ saved.pri.toInt ∧
        report m saved bounds = [heading 4,
          " Attempted to read/write array element at index " ++ toString saved.pri.toInt ++
            " in array of size " ++ toString (upper.toInt + 1)])) ∧
    (m.wordAt? saved.cip.toInt ≠ some (boundsWord m) → report m saved bounds = [heading 4]) := by
  have hsign : saved.pri < 0 ↔ saved.pri.toInt < 0 := Int32.lt_iff_toInt_lt
  constructor
  · intro upper h
    have hdetail := boundsDetail_of_stands hmap h.stands
    constructor
    · intro hindex
      rw [if_pos (hsign.mpr hindex)] at hdetail
      exact congrArg (heading 4 :: ·) hdetail
    · intro hindex
      obtain ⟨hpositive, hle, hsize⟩ := h.size_le hindex
      rw [if_neg (hsign.not.mpr (Int.not_lt.mpr hindex)), Cell.decimal, Cell.decimal, hsize] at hdetail
      exact ⟨hpositive, hle, congrArg (heading 4 :: ·) hdetail⟩
  · intro hother
    have hdetail : boundsDetail m saved = [] :=
      if_neg fun hcheck => hother ((opcodeAt?_eq_bounds_iff hmap).mp hcheck)
    exact congrArg (heading 4 :: ·) hdetail

/-- Relocated code with a bounds check of an array of ten cells. -/
def tenCells : Machine where
  id := 0
  code := Segment.ofCells [4096 + 16 * 121, 9]
  data := .empty
  registers := {}
  opcodeMap := some loaderWords

theorem report_bounds_tenCells :
    HasBoundsWord tenCells ∧
    FailedBounds tenCells { pri := 12 } 9 ∧
    report tenCells { pri := 12 } bounds = ["Run time error 4: \"Array index out of bounds\"",
      " Attempted to read/write array element at index 12 in array of size 10"] ∧
    FailedBounds tenCells { pri := -1 } 9 ∧
    report tenCells { pri := -1 } bounds = ["Run time error 4: \"Array index out of bounds\"",
      " Attempted to read/write array element at negative index -1"] ∧
    tenCells.wordAt? 4 ≠ some (boundsWord tenCells) ∧
    report tenCells { pri := 12, cip := 4 } bounds =
      ["Run time error 4: \"Array index out of bounds\""] := by
  have hmap : HasBoundsWord tenCells := by
    rintro words ⟨⟩
    exact ⟨by simp [loaderWords], nodup_loaderWords⟩
  have hstands : tenCells.HoldsWords 0 [boundsWord tenCells, 9] :=
    Machine.holdsWords_ofCells (by decide) rfl
  have habove : FailedBounds tenCells { pri := 12 } 9 := ⟨hstands, by decide⟩
  have hnegative : FailedBounds tenCells { pri := -1 } 9 := ⟨hstands, by decide⟩
  have hother : tenCells.wordAt? 4 ≠ some (boundsWord tenCells) := by decide
  refine ⟨hmap, habove, ?_, hnegative, ?_, hother, ?_⟩
  · exact (((report_bounds hmap _).1 9 habove).2 (by decide)).2.2
  · exact ((report_bounds hmap _).1 9 hnegative).1 (by decide)
  · exact (report_bounds hmap { pri := 12, cip := 4 }).2 hother

end RuntimeError

end AmxTrace
