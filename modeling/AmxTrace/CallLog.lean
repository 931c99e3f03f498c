import AmxTrace.Machine

/-! # Call log

The host records every native and public call in flight. The frame chain of the machine breaks where
a call crosses between host and script; the registers kept with a record let a backtrace go on from
the far side. -/

namespace AmxTrace

/-- Which side a call enters. -/
inductive CallKind where
  | nativeCall
  | publicCall
deriving DecidableEq, Repr

/-- One call in flight, with the registers at the moment it was made. -/
structure CallRecord where
  instanceId : Nat := 0
  kind : CallKind
  index : Cell
  frm : Cell
  cip : Cell
deriving DecidableEq, Repr

namespace CallRecord

def capture (m : Machine) (kind : CallKind) (index : Cell) : CallRecord :=
  { instanceId := m.id, kind, index, frm := m.registers.frm, cip := m.registers.cip }

def isNative (r : CallRecord) : Bool := r.kind == .nativeCall

def isPublic (r : CallRecord) : Bool := r.kind == .publicCall

end CallRecord

/-- Calls in flight, the most recent first. -/
abbrev CallLog := List CallRecord

namespace CallLog

/-- The log of calls listed from the oldest to the most recent. -/
def ofOldestFirst (records : List CallRecord) : CallLog := records.reverse

/-- The calls from the oldest to the most recent. -/
def oldestFirst (log : CallLog) : List CallRecord := log.reverse

def push (log : CallLog) (record : CallRecord) : CallLog := record :: log

/-- The most recent call and the log without it. -/
def pop? (log : CallLog) : Option (CallRecord × CallLog) :=
  match log with
  | [] => none
  | record :: older => some (record, older)

def top? (log : CallLog) : Option CallRecord := log.head?

/-- What is said when a call ends that never began. -/
def underflowMessage : String := "call stack underflow: pop without a matching push"

end CallLog

end AmxTrace
