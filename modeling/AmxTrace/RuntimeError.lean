import AmxTrace.Machine

/-! # Runtime errors -/

namespace AmxTrace

/-- Error codes of the abstract machine. -/
inductive RuntimeError where
  | noError
  | exit
  | assert
  | stackErr
  | bounds
  | memAccess
  | invInstr
  | stackLow
  | heapLow
  | callback
  | native
  | divide
  | sleep
  | invState
  | memory
  | format
  | version
  | notFound
  | index
  | debug
  | init
  | userData
  | initJit
  | params
  | domain
  | general
deriving DecidableEq, Repr

namespace RuntimeError

/-- All error codes, in numeric order. -/
def all : List RuntimeError :=
  [noError, exit, assert, stackErr, bounds, memAccess, invInstr, stackLow, heapLow, callback,
   native, divide, sleep, invState, memory, format, version, notFound, index, debug, init,
   userData, initJit, params, domain, general]

/-- Number of an error code; fourteen and fifteen are reserved. -/
def code : RuntimeError → Int
  | noError => 0
  | exit => 1
  | assert => 2
  | stackErr => 3
  | bounds => 4
  | memAccess => 5
  | invInstr => 6
  | stackLow => 7
  | heapLow => 8
  | callback => 9
  | native => 10
  | divide => 11
  | sleep => 12
  | invState => 13
  | memory => 16
  | format => 17
  | version => 18
  | notFound => 19
  | index => 20
  | debug => 21
  | init => 22
  | userData => 23
  | initJit => 24
  | params => 25
  | domain => 26
  | general => 27

def name : RuntimeError → String
  | noError => "None"
  | exit => "Exit"
  | assert => "Assert"
  | stackErr => "StackErr"
  | bounds => "Bounds"
  | memAccess => "MemAccess"
  | invInstr => "InvInstr"
  | stackLow => "StackLow"
  | heapLow => "HeapLow"
  | callback => "Callback"
  | native => "Native"
  | divide => "Divide"
  | sleep => "Sleep"
  | invState => "InvState"
  | memory => "Memory"
  | format => "Format"
  | version => "Version"
  | notFound => "NotFound"
  | index => "Index"
  | debug => "Debug"
  | init => "Init"
  | userData => "UserData"
  | initJit => "InitJit"
  | params => "Params"
  | domain => "Domain"
  | general => "General"

def message : RuntimeError → String
  | noError => "(none)"
  | exit => "Forced exit"
  | assert => "Assertion failed"
  | stackErr => "Stack/heap collision (insufficient stack size)"
  | bounds => "Array index out of bounds"
  | memAccess => "Invalid memory access"
  | invInstr => "Invalid instruction"
  | stackLow => "Stack underflow"
  | heapLow => "Heap underflow"
  | callback => "No (valid) native function callback"
  | native => "Native function failed"
  | divide => "Divide by zero"
  | sleep => "(sleep mode)"
  | invState => "Invalid state"
  | memory => "Out of memory"
  | format => "Invalid/unsupported P-code file format"
  | version => "File is for a newer version of the AMX"
  | notFound => "File or function is not found"
  | index => "Invalid index parameter (bad entry point)"
  | debug => "Debugger cannot run"
  | init => "AMX not initialized (or doubly initialized)"
  | userData => "Unable to set user data field (table full)"
  | initJit => "Cannot initialize the JIT"
  | params => "Parameter error"
  | domain => "Domain error, expression result does not fit in range"
  | general => "General error (unknown or unspecific error)"

def ofCode? (n : Int) : Option RuntimeError := all.find? fun e => e.code == n

/-- Whether the code reports a failure: a normal exit and a parked machine do not. -/
def isError (e : RuntimeError) : Bool := e != noError && e != sleep

/-- Whether a backtrace adds to the report; some codes are raised before any code runs. -/
def wantsBacktrace (e : RuntimeError) : Bool :=
  e != notFound && e != index && e != callback && e != init

def describe (n : Int) : String :=
  match ofCode? n with
  | some error => error.message
  | none => if n = 14 ∨ n = 15 then "(reserved)" else "(unknown)"

/-- First line of a report. -/
def heading (n : Int) : String :=
  "Run time error " ++ toString n ++ ": \"" ++ describe n ++ "\""

/-- A word in upper-case hexadecimal with at least a number of digits. -/
def upperHex (width : Nat) (value : Cell) : String :=
  (Hex.text width value.unsigned).toUpper

/-- Native called by the instruction that returned to a code address. -/
def failedNative? (m : Machine) (cip : Cell) : Option String := do
  let instruction ← Cell.ofInt? (cip.toInt - 8)
  let op ← m.opcodeAt? instruction
  if op ≠ .sysreqC then none
  let index ← m.codeCell? (← Cell.ofInt? (cip.toInt - 4))
  m.nativeName? index

/-- What a failed bounds check says about the index and the array. -/
def boundsDetail (m : Machine) (saved : Registers) : List String :=
  if m.opcodeAt? saved.cip = some .bounds then
    if saved.pri < 0 then
      [" Attempted to read/write array element at negative index " ++ saved.pri.decimal]
    else
      match (saved.cip.add? Cell.width).bind m.codeCell? with
      | some upper =>
        [" Attempted to read/write array element at index " ++ saved.pri.decimal ++
          " in array of size " ++ (upper + 1).decimal]
      | none => []
  else []

/-- Detail lines of a report on an error with the registers saved at it. -/
def details (m : Machine) (saved : Registers) : RuntimeError → List String
  | bounds => boundsDetail m saved
  | notFound => (m.natives.filter fun n => n.address == 0).map fun n => " " ++ n.name
  | stackErr =>
    [" Stack pointer (STK) is 0x" ++ upperHex 1 saved.stk ++ ", heap pointer (HEA) is 0x" ++
      upperHex 1 saved.hea]
  | stackLow =>
    [" Stack pointer (STK) is 0x" ++ upperHex 1 saved.stk ++ ", stack top (STP) is 0x" ++
      upperHex 1 saved.stp]
  | heapLow =>
    [" Heap pointer (HEA) is 0x" ++ upperHex 1 saved.hea ++ ", heap bottom (HLW) is 0x" ++
      upperHex 1 saved.hlw]
  | invInstr =>
    match m.codeCell? saved.cip with
    | some word =>
      [" Unknown opcode 0x" ++ Hex.text 1 word.unsigned ++ " at address 0x" ++
        upperHex 8 saved.cip]
    | none => []
  | native =>
    match failedNative? m saved.cip with
    | some name => [" " ++ name]
    | none => []
  | _ => []

def report (m : Machine) (saved : Registers) (error : RuntimeError) : List String :=
  heading error.code :: details m saved error

end RuntimeError

end AmxTrace
