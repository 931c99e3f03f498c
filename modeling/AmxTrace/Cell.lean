/-! # Cells -/

namespace AmxTrace

/-- A machine word: 32 bits, read as a signed number unless said otherwise. -/
abbrev Cell := Int32

namespace Cell

/-- Number of bytes in a cell, as a cell. -/
def width : Cell := 4

def greatest : Cell := Int32.maxValue

/-- The cell holding a number, if the number fits. -/
def ofInt? (n : Int) : Option Cell :=
  if -0x80000000 ≤ n ∧ n < 0x80000000 then some (Int32.ofInt n) else none

/-- Sum of two cells, if it fits. -/
def add? (a b : Cell) : Option Cell := ofInt? (a.toInt + b.toInt)

/-- Byte offset named by a cell; a negative cell names none. -/
def offset? (c : Cell) : Option Nat :=
  if c < 0 then none else some c.toNatClampNeg

def decimal (c : Cell) : String := toString c.toInt

/-- The bits of a cell as an unsigned number. -/
def unsigned (c : Cell) : Nat := c.toUInt32.toNat

theorem ofInt?_eq_some_iff {n : Int} {c : Cell} : ofInt? n = some c ↔ c.toInt = n := by
  unfold ofInt?
  constructor
  · intro h
    split at h
    next hr =>
      injection h with h
      subst h
      exact Int32.toInt_ofInt_of_le (by omega) (by omega)
    next => exact absurd h (by simp)
  · rintro rfl
    have hlow := c.le_toInt
    have hhigh := c.toInt_lt
    rw [if_pos ⟨by omega, by omega⟩, Int32.ofInt_toInt]

/-- The sum of two cells fits exactly when it is the sum of the numbers. -/
theorem toInt_of_add?_eq_some {a b c : Cell} (h : add? a b = some c) :
    c.toInt = a.toInt + b.toInt :=
  ofInt?_eq_some_iff.mp h

/-- The difference of two cells does not wrap where neither the lower one nor it is negative. -/
theorem toInt_sub_of_le {a b : Cell} (hzero : 0 ≤ b.toInt) (hle : b.toInt ≤ a.toInt) :
    (a - b).toInt = a.toInt - b.toInt := by
  have hhigh := a.toInt_lt
  rw [Int32.toInt_sub, Int.bmod_eq_of_le (by omega) (by omega)]

theorem toInt_div_of_nonneg {a b : Cell} (ha : 0 ≤ a.toInt) (hb : 0 < b.toInt) :
    (a / b).toInt = a.toInt / b.toInt := by
  have hhigh := a.toInt_lt
  have hle : a.toInt / b.toInt ≤ a.toInt := Int.ediv_le_self b.toInt ha
  have hzero : 0 ≤ a.toInt / b.toInt := Int.ediv_nonneg ha (Int.le_of_lt hb)
  rw [Int32.toInt_div, Int.tdiv_eq_ediv_of_nonneg ha, Int.bmod_eq_of_le (by omega) (by omega)]

theorem offset?_eq_some_iff {c : Cell} {n : Nat} : c.offset? = some n ↔ c.toInt = n := by
  unfold offset?
  have hz : (0 : Cell).toInt = 0 := by decide
  split
  next h =>
    rw [Int32.lt_iff_toInt_lt, hz] at h
    constructor
    · simp
    · intro hn; omega
  next h =>
    rw [Int32.lt_iff_toInt_lt, hz] at h
    have hc : c.toNatClampNeg = c.toInt.toNat := rfl
    rw [Option.some.injEq, hc]
    omega

theorem any_offset?_lt_iff {c : Cell} {bound : Nat} :
    c.offset?.any (· < bound) = true ↔ 0 ≤ c.toInt ∧ c.toInt < bound := by
  rw [Option.any_eq_true]
  constructor
  · rintro ⟨n, hn, hlt⟩
    have hc := offset?_eq_some_iff.mp hn
    have hlt : n < bound := by simpa using hlt
    omega
  · rintro ⟨hzero, hlt⟩
    refine ⟨c.toInt.toNat, offset?_eq_some_iff.mpr (by omega), ?_⟩
    simp only [decide_eq_true_eq]
    omega

end Cell

end AmxTrace
