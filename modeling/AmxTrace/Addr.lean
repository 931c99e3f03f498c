import AmxTrace.Cell
import AmxTrace.Hex

/-! # Checked addresses

Every address decoded from machine memory is wrapped right after its bounds check. -/

namespace AmxTrace

/-- An address that passed its bounds check, or none. -/
inductive Addr where
  | absent
  | present (offset : Cell)
deriving DecidableEq, Inhabited, Repr

namespace Addr

/-- Accept a non-zero value that passes a check. -/
def checked (valid : Cell → Bool) (value : Cell) : Addr :=
  if value ≠ 0 ∧ valid value then .present value else .absent

def get? : Addr → Option Cell
  | .absent => none
  | .present offset => some offset

/-- The address as a cell, zero when absent. -/
def raw (a : Addr) : Cell := a.get?.getD 0

def isPresent (a : Addr) : Bool := a.get?.isSome

def isAbsent (a : Addr) : Bool := a.get?.isNone

/-- The address stored as an optional cell, where zero stands for absence. -/
def ofOption : Option Cell → Addr
  | none => .absent
  | some value => if value = 0 then .absent else .present value

/-- Eight hexadecimal digits, or as many question marks. -/
def text : Addr → String
  | .absent => "????????"
  | .present offset => Hex.text 8 offset.unsigned

theorem isAbsent_iff {a : Addr} : a.isAbsent = true ↔ a = .absent := by
  cases a <;> simp [isAbsent, get?]

theorem checked_eq_present_iff {valid : Cell → Bool} {value offset : Cell} :
    checked valid value = .present offset ↔ offset = value ∧ value ≠ 0 ∧ valid value = true := by
  unfold checked
  split
  next h => simp [h, eq_comm]
  next h => simp; intro _ hz; simpa [hz] using h

theorem checked_of_valid {valid : Cell → Bool} {value : Cell} (hz : value ≠ 0)
    (hv : valid value = true) : checked valid value = .present value := by
  simp [checked, hz, hv]

theorem checked_raw_checked (valid : Cell → Bool) (value : Cell) :
    checked valid (checked valid value).raw = checked valid value := by
  cases h : checked valid value with
  | absent => simp [raw, get?, checked]
  | present offset =>
    obtain ⟨rfl, _, _⟩ := checked_eq_present_iff.mp h
    exact h

theorem ofOption_get? {a : Addr} (h : a ≠ .present 0) : ofOption a.get? = a := by
  cases a with
  | absent => rfl
  | present offset =>
    have hz : offset ≠ 0 := fun e => h (e ▸ rfl)
    simp [get?, ofOption, hz]

end Addr

end AmxTrace
