import AmxTrace.Image.Error

/-! # Module file header

A module file starts with 56 bytes of fields. -/

namespace AmxTrace

/-- Fields of the file header, in file order. Offsets count from the start of the file. -/
structure Header where
  /-- Size of the image, without what follows it. -/
  size : Cell
  signature : UInt16
  fileVersion : UInt8
  machineVersion : UInt8
  flags : Int16
  entrySize : Int16
  cod : Cell
  dat : Cell
  hea : Cell
  stp : Cell
  /-- Code address of `main`; negative when the module has none. -/
  cip : Cell
  publics : Cell
  natives : Cell
  libraries : Cell
  publicVariables : Cell
  tags : Cell
  nameTable : Cell
deriving DecidableEq, Repr

namespace Header

/-- Number of bytes of the header. -/
def byteSize : Nat := 56

/-- Signature of modules for 32-bit cells. -/
def expectedSignature : UInt16 := 0xF1E0

/-- Flag of a module that carries a debug section. -/
def debugFlag : Int16 := 0x02

/-- Flag of a module whose segments are compact-encoded. -/
def compactFlag : Int16 := 0x04

def readSignature : Reader (Cell × UInt16) := do
  let size ← Reader.cell
  let signature ← Reader.word16
  pure (size, signature)

def readFields (size : Cell) (signature : UInt16) : Reader Header := do
  let fileVersion ← Reader.byte
  let machineVersion ← Reader.byte
  let flags ← Reader.short
  let entrySize ← Reader.short
  let cod ← Reader.cell
  let dat ← Reader.cell
  let hea ← Reader.cell
  let stp ← Reader.cell
  let cip ← Reader.cell
  let publics ← Reader.cell
  let natives ← Reader.cell
  let libraries ← Reader.cell
  let publicVariables ← Reader.cell
  let tags ← Reader.cell
  let nameTable ← Reader.cell
  pure { size, signature, fileVersion, machineVersion, flags, entrySize, cod, dat, hea, stp,
         cip, publics, natives, libraries, publicVariables, tags, nameTable }

def segmentsOrdered (h : Header) : Bool :=
  56 ≤ h.cod && h.cod ≤ h.dat && h.dat ≤ h.hea && h.hea ≤ h.stp

/-- Whether the function tables lie in order between the header and the code. -/
def tablesOrdered (h : Header) : Bool :=
  56 ≤ h.publics && h.publics ≤ h.natives && h.natives ≤ h.libraries && h.libraries ≤ h.cod

/-- First rule that the fields break. -/
def fault? (h : Header) : Option ImageError :=
  if h.fileVersion < 6 ∨ 11 < h.fileVersion then some (.unsupportedVersion h.fileVersion)
  else if h.entrySize ≠ 8 then some (.badEntrySize h.entrySize)
  else if ¬h.segmentsOrdered then some (.segmentOrder h.cod h.dat h.hea h.stp)
  else if ImageError.stackLimit < h.stp - h.hea then some (.stackTooLarge (h.stp - h.hea))
  else if ¬h.tablesOrdered then some (.tableOrder h.publics h.natives h.libraries)
  else none

/-- Read and judge the header at the start of a file. -/
def parse (bytes : List UInt8) : Except ImageError Header := do
  let ((size, signature), cursor) ← (readSignature ⟨0, bytes⟩).mapError .truncated
  if signature ≠ expectedSignature then throw (.badSignature signature)
  let (header, _) ← (readFields size signature cursor).mapError .truncated
  match header.fault? with
  | some fault => throw fault
  | none => pure header

/-- Whether the module announces a debug section. -/
def hasDebugInfo (h : Header) : Bool := h.flags &&& debugFlag != 0

/-- Whether code and data are compact-encoded. -/
def isCompact (h : Header) : Bool := h.flags &&& compactFlag != 0

/-- Number of entries of a function table between two offsets. -/
def entryCount (start stop : Cell) : Nat := (stop.toInt - start.toInt).toNat / 8

def publicCount (h : Header) : Nat := entryCount h.publics h.natives

def nativeCount (h : Header) : Nat := entryCount h.natives h.libraries

end Header

end AmxTrace
