import AmxTrace.Cell

/-! # Instructions

Only the instructions met at call sites, state dispatch stubs and runtime error sites are named. -/

namespace AmxTrace

/-- Instructions that diagnostics look at. -/
inductive Opcode where
  | loadPri
  | proc
  | call
  | bounds
  | sysreqC
  | switch
  | casetbl
deriving DecidableEq, Repr

namespace Opcode

def all : List Opcode := [loadPri, proc, call, bounds, sysreqC, switch, casetbl]

/-- Number of an instruction in the instruction set. -/
def number : Opcode → Nat
  | loadPri => 1
  | proc => 46
  | call => 49
  | bounds => 121
  | sysreqC => 123
  | switch => 129
  | casetbl => 130

/-- Assembly name of an instruction. -/
def mnemonic : Opcode → String
  | loadPri => "load.pri"
  | proc => "proc"
  | call => "call"
  | bounds => "bounds"
  | sysreqC => "sysreq.c"
  | switch => "switch"
  | casetbl => "casetbl"

def ofNumber? (n : Nat) : Option Opcode := all.find? fun op => op.number == n

/-- Instruction number a word stands for, under an optional relocation map. -/
def numberOf? (map : Option (List Cell)) (word : Cell) : Option Nat :=
  match map with
  | none => word.offset?
  | some words => words.findIdx? (· == word)

/-- The instruction a word stands for, under an optional relocation map. -/
def decode? (map : Option (List Cell)) (word : Cell) : Option Opcode :=
  (numberOf? map word).bind ofNumber?

theorem ofNumber?_number (op : Opcode) : ofNumber? op.number = some op := by
  cases op <;> rfl

end Opcode

end AmxTrace
