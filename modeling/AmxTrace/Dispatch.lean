import AmxTrace.Debug.Store
import AmxTrace.Machine

/-! # State dispatch

A function with variants per automaton state compiles to a stub that switches on the state variable:
`proc`, `load.pri` with the variable's address, and `switch` with the address of a case table. The
table is `casetbl` with a count, a default target, and a value and a target for each case. -/

namespace AmxTrace

/-- A case table; targets are code addresses. -/
structure CaseTable where
  defaultTarget : Cell
  cases : List (Cell × Cell)
deriving DecidableEq, Repr

namespace CaseTable

/-- Cases stored from a code address on. -/
def readCases (m : Machine) : Nat → Cell → Option (List (Cell × Cell))
  | 0, _ => some []
  | count + 1, slot => do
    let value ← m.codeCell? slot
    let target ← m.codeCell? (← slot.add? 4)
    let others ← readCases m count (← slot.add? 8)
    pure ((value, target - m.codeBase) :: others)

/-- The table at a code address. A case takes two cells, so a count that cannot fit the
code is refused. -/
def read? (m : Machine) (address : Cell) : Option CaseTable := do
  let op ← m.opcodeAt? address
  if op ≠ .casetbl then none
  let count ← (← m.codeCell? (← address.add? 4)).offset?
  if m.code.size / 8 < count then none
  let defaultTarget ← m.codeCell? (← address.add? 8)
  let cases ← readCases m count (← address.add? 12)
  pure { defaultTarget := defaultTarget - m.codeBase, cases }

def targets (t : CaseTable) : List Cell := t.defaultTarget :: t.cases.map (·.2)

/-- Greatest jump target that is not past an address. -/
def lastTargetUpTo? (t : CaseTable) (address : Cell) : Option Cell :=
  (t.targets.filter (· ≤ address)).max?

end CaseTable

structure StateDispatch where
  /-- Data address of the variable with the current state. -/
  stateVariable : Cell
  table : CaseTable
deriving DecidableEq, Repr

namespace StateDispatch

/-- Whether an instruction stands at a distance from a code address. -/
def hasOpcode (m : Machine) (address distance : Cell) (op : Opcode) : Bool :=
  ((address.add? distance).bind m.opcodeAt?) == some op

/-- The stub at a code address, if there is one. -/
def at? (m : Machine) (function : Cell) : Option StateDispatch := do
  if ¬(hasOpcode m function 0 .proc ∧ hasOpcode m function 4 .loadPri ∧
      hasOpcode m function 12 .switch) then none
  let stateVariable ← m.codeCell? (← function.add? 8)
  let tableAddress ← m.codeCell? (← function.add? 16)
  let table ← CaseTable.read? m (tableAddress - m.codeBase)
  pure { stateVariable, table }

end StateDispatch

/-- States under which a state function was entered. -/
structure StateInfo where
  entry : Cell
  /-- Data address of the variable with the current state. -/
  stateVariable : Cell
  states : List Cell
  /-- No case leads to the body but the default does, and state zero is assumed. -/
  viaDefault : Bool
deriving DecidableEq, Repr

namespace StateInfo

/-- Values of the cases with a target, ascending and without repetition. -/
def casesTo (t : CaseTable) (entry : Cell) : List Cell :=
  (((t.cases.filter (·.2 == entry)).map (·.1)).mergeSort (· ≤ ·)).eraseReps

/-- States of a dispatch stub that lead to a body. -/
def ofEntry? (dispatch : StateDispatch) (entry : Cell) : Option StateInfo :=
  let states := casesTo dispatch.table entry
  if states ≠ [] then
    some { entry, stateVariable := dispatch.stateVariable, states, viaDefault := false }
  else if dispatch.table.defaultTarget = entry then
    some { entry, stateVariable := dispatch.stateVariable, states := [0], viaDefault := true }
  else none

/-- States of the stub at a code address, given an address inside one of its bodies. The
body is the function that holds the address, or else starts at the last target before it. -/
def resolve? (m : Machine) (debug : DebugStore) (function address : Cell) : Option StateInfo := do
  let dispatch ← StateDispatch.at? m function
  let entry ← match debug.function? address with
    | some body => some body.codeStart
    | none => dispatch.table.lastTargetUpTo? address
  ofEntry? dispatch entry

end StateInfo

end AmxTrace
