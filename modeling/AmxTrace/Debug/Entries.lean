import AmxTrace.Cell

/-! # Debug entries -/

namespace AmxTrace

/-- A source file whose code starts at an address. -/
structure SourceFile where
  address : Cell
  name : String
deriving DecidableEq, Repr

/-- A line whose code starts at an address; lines are stored counted from zero. -/
structure LineEntry where
  address : Cell
  line : Cell
deriving DecidableEq, Repr

def LineEntry.number (entry : LineEntry) : Cell := entry.line + 1

theorem LineEntry.number_sub_one (entry : LineEntry) : entry.number - 1 = entry.line :=
  Int32.add_sub_cancel entry.line 1

inductive SymbolKind where
  | value
  | reference
  | array
  | arrayRef
  | function
  | functionRef
  | other (code : UInt8)
deriving DecidableEq, Repr

def SymbolKind.ofCode (code : UInt8) : SymbolKind :=
  if code = 1 then .value
  else if code = 2 then .reference
  else if code = 3 then .array
  else if code = 4 then .arrayRef
  else if code = 9 then .function
  else if code = 10 then .functionRef
  else .other code

/-- Where a symbol is stored. -/
inductive StorageClass where
  | global
  | frame
  | static
  | other (code : UInt8)
deriving DecidableEq, Repr

def StorageClass.ofCode (code : UInt8) : StorageClass :=
  if code = 0 then .global
  else if code = 1 then .frame
  else if code = 2 then .static
  else .other code

/-- One dimension of an array; size zero means unknown. -/
structure Dimension where
  tag : Int16
  size : UInt32
deriving DecidableEq, Repr

/-- A named thing. The address is a frame offset for locals, a data address for globals and
a code address for functions; the code range is where the symbol can be seen, which for a
function is its own code. -/
structure DebugSymbol where
  name : String
  address : Cell
  tag : Int16
  codeStart : Cell
  codeEnd : Cell
  kind : SymbolKind
  storage : StorageClass
  dimensions : List Dimension
deriving DecidableEq, Repr

namespace DebugSymbol

def isFunction (s : DebugSymbol) : Bool := s.kind == .function

def isLocal (s : DebugSymbol) : Bool := s.storage == .frame

def isVariable (s : DebugSymbol) : Bool := s.kind == .value

def isReference (s : DebugSymbol) : Bool := s.kind == .reference

def isArray (s : DebugSymbol) : Bool := s.kind == .array || s.kind == .arrayRef

/-- Whether the compiler added the symbol for a forwarded public. Such a symbol carries the
code range of the real function and must never be taken for it. -/
def isForwarded (s : DebugSymbol) : Bool := s.name.toList.head? == some '@'

end DebugSymbol

/-- A name for the tag of a value. -/
structure TagEntry where
  id : Int16
  name : String
deriving DecidableEq, Repr

/-- A state machine of the script. The address is that of the variable with the current
state; the anonymous automaton has an empty name. -/
structure Automaton where
  id : Int16
  address : Cell
  name : String
deriving DecidableEq, Repr

/-- A named state of an automaton. -/
structure StateEntry where
  id : Int16
  automaton : Int16
  name : String
deriving DecidableEq, Repr

end AmxTrace
