import AmxTrace.Machine

/-! # Call frames

A call frame in the data segment holds, from its address on, the caller's frame, the return address,
the size of the arguments in bytes, and the arguments. -/

namespace AmxTrace

/-- One decoded call frame. -/
structure Frame where
  address : Addr
  returnAddress : Addr
  /-- The function called just before the return address. -/
  callee : Addr
  /-- The function that runs at the return address. -/
  caller : Addr
  /-- The frame this one chains to, not checked yet. -/
  link : Cell
deriving DecidableEq, Repr

namespace Frame

def absent : Frame := ⟨.absent, .absent, .absent, .absent, 0⟩

def storedCodeAddr (m : Machine) (address : Cell) : Addr :=
  (m.dataCell? address).elim .absent m.codeAddr

/-- Target of the call that returns to an address: the operand just before it. -/
def calledBefore (m : Machine) (returnAddress : Addr) : Addr :=
  match returnAddress with
  | .absent => .absent
  | .present site =>
    (m.codeCell? (site - Cell.width)).elim .absent fun operand => m.codeAddr (operand - m.codeBase)

/-- Return address stored in the frame at an address. -/
def storedReturn (m : Machine) (frame : Addr) : Addr :=
  match frame with
  | .absent => .absent
  | .present base => storedCodeAddr m (base + Cell.width)

/-- The frame at a data address. Outside the stack every field is absent. -/
def ofAddress (m : Machine) (value : Cell) : Frame :=
  match m.stackAddr value with
  | .absent => absent
  | .present base =>
    let link := (m.dataCell? base).getD 0
    let returnAddress := storedReturn m (.present base)
    { address := .present base
      returnAddress
      callee := calledBefore m returnAddress
      caller := calledBefore m (storedReturn m (m.stackAddr link))
      link }

/-- A frame of known values, each checked on its own. It lies on top of the frame stored at
its address, which is the one before it. -/
def ofParts (m : Machine) (address returnAddress callee caller : Cell) : Frame :=
  { address := m.stackAddr address
    returnAddress := m.codeAddr returnAddress
    callee := m.codeAddr callee
    caller := m.codeAddr caller
    link := (m.stackAddr address).raw }

/-- The frame with another calling function. -/
def withCaller (m : Machine) (frame : Frame) (address : Cell) : Frame :=
  { frame with caller := m.codeAddr address }

def previous (m : Machine) (frame : Frame) : Frame :=
  match frame.address with
  | .absent => absent
  | .present _ => ofAddress m frame.link

/-- Number of arguments stored in a frame, rounded toward zero from their size in bytes. -/
def storedArgumentCount? (m : Machine) (frame : Frame) : Option Int :=
  match frame.address with
  | .absent => none
  | .present base => (m.dataCell? (base + 8)).map fun bytes => bytes.toInt.tdiv 4

/-- Number of arguments passed to the function that runs in the frame. They are stored in the
previous frame; a negative count there stands for the one stored before it. -/
def argumentCount (m : Machine) (frame : Frame) : Nat :=
  let previous := frame.previous m
  let count := match previous.storedArgumentCount? m with
    | some n => if n < 0 then (previous.previous m).storedArgumentCount? m else some n
    | none => none
  (count.getD 0).toNat

/-- An argument of the function that runs in the frame. -/
def argument? (m : Machine) (frame : Frame) (index : Nat) : Option Cell := do
  let base ← (frame.previous m).address.get?
  let slot ← Cell.ofInt? ((index + 3) * 4)
  m.dataCell? (← base.add? slot)

end Frame

namespace Walk

def fromFrame (m : Machine) : Nat → Frame → List Frame
  | 0, _ => []
  | limit + 1, frame =>
    if frame.returnAddress.isAbsent then []
    else frame :: fromFrame m limit (frame.previous m)

/-- First frame of a walk from registers: it names the function that owns the frame `frm` and
points at `cip`. -/
def head (m : Machine) (frm cip : Cell) : Frame :=
  Frame.ofParts m frm cip 0 (Frame.ofAddress m frm).callee.raw

def fromRegisters (m : Machine) (frm cip : Cell) (limit : Nat) : List Frame :=
  fromFrame m limit (head m frm cip)

end Walk

end AmxTrace
