import AmxTrace.CallLog
import AmxTrace.Image
import AmxTrace.Json.Decode
import AmxTrace.Json.Parser

/-! # Snapshots

A snapshot is what a host writes down when a script crashes: the registers, the live part of the
stack and the call log. Laid over the initial data of the module it restores the crashed instance.
-/

namespace AmxTrace

/-- Data cells from an address on. -/
structure StackDump where
  base : Cell := 0
  cells : List Cell := []
deriving DecidableEq, Repr

/-- The captured state of an instance. -/
structure Snapshot where
  instanceId : Nat := 0
  registers : Registers
  /-- Registers at the moment of a runtime error, if they differ. -/
  savedRegisters : Option Registers := none
  stack : StackDump := {}
  /-- Calls in flight, from the oldest to the most recent. -/
  calls : List CallRecord := []
deriving DecidableEq, Repr

/-- Why a snapshot cannot be used. -/
inductive SnapshotError where
  | unreadable (fault : ReadFault)
  | malformed
  | outOfRange (base : Cell) (size : Nat)
deriving DecidableEq, Repr

def SnapshotError.message : SnapshotError → String
  | unreadable fault => "Failed to read snapshot: " ++ fault.message
  | malformed => "Invalid snapshot: the text is not a snapshot in JSON"
  | outOfRange base size =>
    "Stack dump at " ++ base.decimal ++ " does not fit a data segment of " ++ toString size ++
      " bytes"

namespace Registers

def fieldNames : List String := ["frm", "cip", "stk", "stp", "hea", "hlw", "pri", "alt"]

def toJson (r : Registers) : Json :=
  .object (fieldNames.zip
    ([r.frm, r.cip, r.stk, r.stp, r.hea, r.hlw, r.pri, r.alt].map fun c => .integer c.toInt))

/-- Registers read from JSON; the two accumulators may be left out. -/
def ofJson? (value : Json) : Option Registers := do
  let f ← Json.fields? fieldNames value
  let frm ← f.required? 0 Json.cell?
  let cip ← f.required? 1 Json.cell?
  let stk ← f.required? 2 Json.cell?
  let stp ← f.required? 3 Json.cell?
  let hea ← f.required? 4 Json.cell?
  let hlw ← f.required? 5 Json.cell?
  let pri ← f.defaulted? 6 0 Json.cell?
  let alt ← f.defaulted? 7 0 Json.cell?
  pure { frm, cip, stk, stp, hea, hlw, pri, alt }

end Registers

namespace CallRecord

def kindName : CallKind → String
  | .nativeCall => "native"
  | .publicCall => "public"

def kindOfJson? (value : Json) : Option CallKind := do
  let name ← Json.constant? value
  if name = "native" then some .nativeCall
  else if name = "public" then some .publicCall
  else none

def toJson (r : CallRecord) : Json :=
  .object [("instance", .integer r.instanceId), ("kind", .string (kindName r.kind)),
    ("index", .integer r.index.toInt), ("frm", .integer r.frm.toInt),
    ("cip", .integer r.cip.toInt)]

def ofJson? (value : Json) : Option CallRecord := do
  let f ← Json.fields? ["instance", "kind", "index", "frm", "cip"] value
  let instanceId ← f.defaulted? 0 0 Json.size?
  let kind ← f.required? 1 kindOfJson?
  let index ← f.required? 2 Json.cell?
  let frm ← f.required? 3 Json.cell?
  let cip ← f.required? 4 Json.cell?
  pure { instanceId, kind, index, frm, cip }

end CallRecord

namespace StackDump

def toJson (d : StackDump) : Json :=
  .object [("base", .integer d.base.toInt),
    ("cells", .array (d.cells.map fun c => .integer c.toInt))]

def ofJson? (value : Json) : Option StackDump := do
  let f ← Json.fields? ["base", "cells"] value
  let base ← f.required? 0 Json.cell?
  let cells ← f.required? 1 (Json.listOf? Json.cell?)
  pure { base, cells }

end StackDump

namespace Snapshot

def toJson (s : Snapshot) : Json :=
  .object [("instance", .integer s.instanceId), ("registers", s.registers.toJson),
    ("saved_registers", Json.ofOption Registers.toJson s.savedRegisters),
    ("stack", s.stack.toJson), ("calls", .array (s.calls.map CallRecord.toJson))]

def ofJson? (value : Json) : Option Snapshot := do
  let f ← Json.fields? ["instance", "registers", "saved_registers", "stack", "calls"] value
  let instanceId ← f.defaulted? 0 0 Json.size?
  let registers ← f.required? 1 Registers.ofJson?
  let savedRegisters ← f.defaulted? 2 none (Json.nullable? Registers.ofJson?)
  let stack ← f.defaulted? 3 {} StackDump.ofJson?
  let calls ← f.defaulted? 4 [] (Json.listOf? CallRecord.ofJson?)
  pure { instanceId, registers, savedRegisters, stack, calls }

def parse (text : String) : Except SnapshotError Snapshot :=
  match (Json.parse? text).bind ofJson? with
  | some snapshot => pure snapshot
  | none => throw .malformed

def load (tree : FileTree) (path : String) : Except SnapshotError Snapshot := do
  parse (← (tree.readText path).mapError .unreadable)

/-- Registers that a runtime error is reported against. -/
def errorRegisters (s : Snapshot) : Registers := s.savedRegisters.getD s.registers

/-- Where the stack dump starts, if it lies inside a segment of a size. -/
def dumpStart? (s : Snapshot) (size : Nat) : Option Nat := do
  let start ← s.stack.base.offset?
  if start + 4 * s.stack.cells.length ≤ size then some start else none

/-- A data segment with the stack dump written over it. -/
def apply (s : Snapshot) (data : ByteArray) : Except SnapshotError ByteArray :=
  match s.dumpStart? data.size with
  | some start => pure (Segment.overlay data start (Segment.ofCells s.stack.cells))
  | none => throw (.outOfRange s.stack.base data.size)

/-- The call log, every record attributed to the captured instance. -/
def callLog (s : Snapshot) : CallLog :=
  CallLog.ofOldestFirst (s.calls.map fun record => { record with instanceId := s.instanceId })

/-- The captured instance of a module, with memory from `apply`. -/
def machine (s : Snapshot) (image : Image) (memory : ByteArray) : Machine :=
  image.machineWith s.instanceId memory s.registers

end Snapshot

end AmxTrace
