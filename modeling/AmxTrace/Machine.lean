import AmxTrace.Addr
import AmxTrace.Opcode
import AmxTrace.Segment

/-! # Machine views -/

namespace AmxTrace

/-- The register file. Frame, stack and heap registers are data addresses; `cip` is a code
address. -/
structure Registers where
  frm : Cell := 0
  cip : Cell := 0
  stk : Cell := 0
  stp : Cell := 0
  hea : Cell := 0
  hlw : Cell := 0
  pri : Cell := 0
  alt : Cell := 0
deriving DecidableEq, Repr

/-- A function of the script that the host may call, at a code address. -/
structure Public where
  name : String
  address : Cell
deriving DecidableEq, Repr

/-- A host function that the script may call; its host address is zero until it is bound. -/
structure Native where
  name : String
  address : Nat
deriving DecidableEq, Repr

/-- An instance as diagnostics see it. -/
structure Machine where
  id : Nat
  code : ByteArray
  data : ByteArray
  registers : Registers
  publics : List Public := []
  natives : List Native := []
  /-- Code address of `main`, if the module has one. -/
  entryPoint : Option Cell := none
  /-- Base added to call and jump targets when the code was relocated. -/
  codeBase : Cell := 0
  /-- Words standing for instructions when opcodes were relocated. -/
  opcodeMap : Option (List Cell) := none

namespace Machine

/-- Public index of the entry point. -/
def mainIndex : Cell := -1

/-- Name shown for the entry point. -/
def mainName : String := "main"

/-- The view with an entry point; a negative address means there is none. -/
def withEntryPoint (m : Machine) (address : Cell) : Machine :=
  { m with entryPoint := if address < 0 then none else some address }

def dataCell? (m : Machine) (address : Cell) : Option Cell := Segment.cellAt? m.data address

def codeCell? (m : Machine) (address : Cell) : Option Cell := Segment.cellAt? m.code address

/-- Consecutive data cells from an address on, at most `count`, up to the first that cannot
be read. -/
def dataCells (m : Machine) (address : Cell) : Nat → List Cell
  | 0 => []
  | count + 1 =>
    match m.dataCell? address with
    | none => []
    | some value =>
      value :: match address.add? Cell.width with
        | none => []
        | some next => dataCells m next count

def opcodeAt? (m : Machine) (address : Cell) : Option Opcode :=
  (m.codeCell? address).bind (Opcode.decode? m.opcodeMap)

/-- Whether an address lies in the stack and heap region. -/
def isStackAddress (m : Machine) (address : Cell) : Bool :=
  m.registers.hlw ≤ address && address < m.registers.stp

/-- Whether an address lies in the data segment below the stack top. -/
def isDataAddress (m : Machine) (address : Cell) : Bool :=
  address < m.registers.stp && address.offset?.any (· < m.data.size)

/-- Whether an address lies in the code segment. -/
def isCodeAddress (m : Machine) (address : Cell) : Bool :=
  address.offset?.any (· < m.code.size)

theorem isStackAddress_iff (m : Machine) (address : Cell) :
    m.isStackAddress address = true ↔
      m.registers.hlw.toInt ≤ address.toInt ∧ address.toInt < m.registers.stp.toInt := by
  simp [isStackAddress, Int32.le_iff_toInt_le, Int32.lt_iff_toInt_lt]

theorem isDataAddress_iff (m : Machine) (address : Cell) :
    m.isDataAddress address = true ↔
      address.toInt < m.registers.stp.toInt ∧ 0 ≤ address.toInt ∧ address.toInt < m.data.size := by
  rw [isDataAddress, Bool.and_eq_true, decide_eq_true_eq, Int32.lt_iff_toInt_lt,
    Cell.any_offset?_lt_iff]

theorem isCodeAddress_iff (m : Machine) (address : Cell) :
    m.isCodeAddress address = true ↔ 0 ≤ address.toInt ∧ address.toInt < m.code.size :=
  Cell.any_offset?_lt_iff

def stackAddr (m : Machine) (value : Cell) : Addr := Addr.checked m.isStackAddress value

def codeAddr (m : Machine) (value : Cell) : Addr := Addr.checked m.isCodeAddress value

def public? (m : Machine) (index : Cell) : Option Public :=
  index.offset?.bind fun i => m.publics[i]?

/-- Code address of a public, the entry point included. -/
def publicAddress? (m : Machine) (index : Cell) : Option Cell :=
  if index = mainIndex then m.entryPoint else (m.public? index).map (·.address)

def publicName? (m : Machine) (index : Cell) : Option String :=
  if index = mainIndex then m.entryPoint.map fun _ => mainName
  else (m.public? index).map (·.name)

def isMainAddress (m : Machine) (address : Cell) : Bool := m.entryPoint == some address

/-- Name of the public that starts at an address; the entry point comes before the table. -/
def findPublic? (m : Machine) (address : Cell) : Option String :=
  if m.isMainAddress address then some mainName
  else (m.publics.find? fun p => p.address == address).map (·.name)

def isPublicAddress (m : Machine) (address : Cell) : Bool := (m.findPublic? address).isSome

def native? (m : Machine) (index : Cell) : Option Native :=
  index.offset?.bind fun i => m.natives[i]?

def nativeName? (m : Machine) (index : Cell) : Option String :=
  (m.native? index).map (·.name)

end Machine

end AmxTrace
