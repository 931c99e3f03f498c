import AmxTrace.Cell
import Mathlib.Algebra.Group.Int.Defs
import Mathlib.Algebra.Group.Nat.Defs

/-! # Strict computations

A strict computation does its arithmetic on 64-bit numbers and on cells, takes slices and makes
offsets of cells one operation at a time, and an operation whose operands are out of range is a
fault: it gives neither a value nor a reason to give up. -/

namespace AmxTrace

/-- A computation that gives a value, gives up with a reason, or faults. -/
abbrev Strict (ε α : Type) := ExceptT ε Option α

namespace Strict

variable {ε α β : Type}

def fault : Strict ε α := .mk none

/-- A computation that cannot fault. -/
def of (outcome : Except ε α) : Strict ε α := .mk (some outcome)

/-- A number that has to fit into 64 bits. -/
def word (n : Nat) : Strict ε Nat := if n < 2 ^ 64 then pure n else fault

/-- A difference that has to be no less than zero. -/
def sub (a b : Nat) : Strict ε Nat := if b ≤ a then pure (a - b) else fault

/-- A slice that has to lie inside a segment. -/
def slice (segment : ByteArray) (start stop : Nat) : Strict ε ByteArray :=
  if start ≤ stop ∧ stop ≤ segment.size then pure (segment.extract start stop) else fault

/-- A number that has to fit into a cell. -/
def cell (n : Int) : Strict ε Cell :=
  match Cell.ofInt? n with
  | some c => pure c
  | none => fault

/-- A quotient of cells, rounded towards zero, whose divisor has to be other than zero. -/
def cellDiv (a b : Cell) : Strict ε Cell := if b = 0 then fault else cell (a.toInt.tdiv b.toInt)

/-- A cell as an unsigned 64-bit number: a negative one is taken around. -/
def widened (c : Cell) : Nat := (c.toInt % 2 ^ 64).toNat

theorem widened_of_nonneg {c : Cell} (h : 0 ≤ c.toInt) : widened c = c.toNatClampNeg := by
  have hhigh := c.toInt_lt
  rw [widened, Int.emod_eq_of_lt h (by omega), Int32.toNatClampNeg]

theorem widened_of_neg {c : Cell} (h : c.toInt < 0) : 2 ^ 63 ≤ widened c := by
  have hlow := c.le_toInt
  rw [widened]
  omega

/-- A strict computation comes to an outcome without a fault. -/
def Agrees (computation : Strict ε α) (outcome : Except ε α) : Prop :=
  computation.run = some outcome

theorem agrees_pure (value : α) : Agrees (pure value : Strict ε α) (pure value) := rfl

theorem agrees_throw (reason : ε) : Agrees (throw reason : Strict ε α) (throw reason) := rfl

theorem agrees_of (outcome : Except ε α) : Agrees (of outcome) outcome := rfl

theorem agrees_word {n : Nat} (h : n < 2 ^ 64) : Agrees (word n : Strict ε Nat) (pure n) := by
  rw [word, if_pos h]
  exact agrees_pure n

theorem agrees_sub {a b : Nat} (h : b ≤ a) : Agrees (sub a b : Strict ε Nat) (pure (a - b)) := by
  rw [sub, if_pos h]
  exact agrees_pure (a - b)

theorem agrees_slice {segment : ByteArray} {start stop : Nat} (hle : start ≤ stop)
    (hstop : stop ≤ segment.size) :
    Agrees (slice segment start stop : Strict ε ByteArray) (pure (segment.extract start stop)) := by
  rw [slice, if_pos ⟨hle, hstop⟩]
  exact agrees_pure _

theorem agrees_cell {n : Int} {c : Cell} (h : c.toInt = n) :
    Agrees (cell n : Strict ε Cell) (pure c) := by
  rw [cell, Cell.ofInt?_eq_some_iff.mpr h]
  exact agrees_pure c

theorem agrees_cellDiv {a b c : Cell} (hb : b ≠ 0) (h : c.toInt = a.toInt.tdiv b.toInt) :
    Agrees (cellDiv a b : Strict ε Cell) (pure c) := by
  rw [cellDiv, if_neg hb]
  exact agrees_cell h

section Sequencing

variable {computation : Strict ε α} {outcome : Except ε α} {value : α}
  {next : α → Strict ε β} {result : Except ε β}

theorem Agrees.bind {others : α → Except ε β} (h : Agrees computation outcome)
    (hnext : ∀ value, outcome = .ok value → Agrees (next value) (others value)) :
    Agrees (computation >>= next) (outcome >>= others) := by
  rw [Agrees, ExceptT.run_bind, show computation.run = some outcome from h]
  cases outcome with
  | error reason => rfl
  | ok value => exact hnext value rfl

theorem Agrees.andThen (h : Agrees computation (pure value)) (hnext : Agrees (next value) result) :
    Agrees (computation >>= next) result := by
  rw [Agrees, ExceptT.run_bind, show computation.run = some (.ok value) from h]
  exact hnext

theorem agrees_mapM {list : List α} {step : α → Strict ε β} {plain : α → β}
    (h : ∀ a ∈ list, Agrees (step a) (pure (plain a))) :
    Agrees (list.mapM step) (pure (list.map plain)) := by
  induction list with
  | nil => exact agrees_pure []
  | cons a rest ih =>
    have hrest := ih fun b hb => h b (List.mem_cons_of_mem a hb)
    rw [List.mapM_cons]
    exact (h a List.mem_cons_self).andThen (hrest.andThen (agrees_pure _))

theorem agrees_refuse {ground : Prop} [Decidable ground] {reason : ε} {rest : Strict ε α}
    (h : ¬ground → Agrees rest outcome) :
    Agrees (if ground then throw reason else rest) (if ground then throw reason else outcome) := by
  by_cases hground : ground
  · rw [if_pos hground, if_pos hground]
    exact agrees_throw reason
  · rw [if_neg hground, if_neg hground]
    exact h hground

end Sequencing

end Strict

end AmxTrace
