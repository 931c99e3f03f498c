import AmxTrace.Files.Tree
import AmxTrace.Image.Header
import AmxTrace.Machine
import AmxTrace.Text.Utf8

/-! # Module images

Compact code and data store each cell as a run of 7-bit groups, most significant first. Every byte
but the last of a run has bit `0x80`; bit `0x40` of the first byte is the sign. -/

namespace AmxTrace

namespace Compact

/-- Value before the first group of a run: all ones for a negative cell. -/
def signFill (first : UInt8) : UInt32 :=
  if first &&& 0x40 = 0 then 0 else 0xFFFFFFFF

def addGroup (value : UInt32) (group : UInt8) : UInt32 :=
  (value <<< 7) ||| (group &&& 0x7F).toUInt32

/-- Cells of the bytes, given the value of the run they are in the middle of. A run that is
not closed gives nothing. -/
def cellsFrom : Option UInt32 → List UInt8 → Option (List UInt32)
  | none, [] => some []
  | some _, [] => none
  | value, b :: rest =>
    let value := addGroup (value.getD (signFill b)) b
    if b &&& 0x80 = 0 then (value :: ·) <$> cellsFrom none rest
    else cellsFrom (some value) rest

def cells (bytes : List UInt8) : Option (List UInt32) := cellsFrom none bytes

/-- Expand compact-encoded bytes into a segment of a size, if the cells fit. -/
def expand (bytes : List UInt8) (size : Nat) : Option ByteArray := do
  let words ← cells bytes
  if 4 * words.length ≤ size then
    some (Segment.resize (Segment.ofCells (words.map UInt32.toInt32)) size)
  else none

end Compact

/-- A loaded module. -/
structure Image where
  header : Header
  /-- The bytes of the header, which identify the module file. -/
  headerBytes : List UInt8
  code : ByteArray
  /-- Initial data, filled with zero bytes up to the stack top. -/
  data : ByteArray
  publics : List Public
  natives : List Native
  debugSection : Option ByteArray

namespace Image

/-- One function table entry: an address and the offset of a name. -/
def readEntry (file : List UInt8) : Reader (UInt32 × String) := do
  let address ← Reader.word32
  let nameOffset ← Reader.word32
  match Reader.terminated.valueAt file nameOffset.toNat with
  | .ok name => pure (address, Utf8.decodeLossy name)
  | .error short => throw short

/-- A function table of a number of entries at an offset. -/
def readTable (file : List UInt8) (offset : Cell) (count : Nat) :
    Except ImageError (List (UInt32 × String)) :=
  ((Reader.repeated (readEntry file) count).valueAt file offset.toNatClampNeg).mapError .truncated

/-- Code and data as stored, from the start of the code to the heap. -/
def storedSegments (header : Header) (file : ByteArray) (size : Nat) :
    Except ImageError ByteArray :=
  let cod := header.cod.toNatClampNeg
  let hea := header.hea.toNatClampNeg
  if header.isCompact then
    -- a compact cell takes at least one byte
    if 4 * (size - cod) < hea - cod then throw .badCompactEncoding
    else match Compact.expand (Segment.bytes (file.extract cod size)) (hea - cod) with
      | some segments => pure segments
      | none => throw .badCompactEncoding
  else if hea ≤ file.size then pure (file.extract cod hea)
  else throw (.truncated ⟨file.size⟩)

/-- Size of the image in a file, checked against the file and the start of the code. -/
def imageSize (header : Header) (file : ByteArray) : Except ImageError Nat :=
  match header.size.offset? with
  | none => throw (.truncated ⟨file.size⟩)
  | some size =>
    if file.size < size then throw (.truncated ⟨file.size⟩)
    else if size < header.cod.toNatClampNeg then throw (.codePastEnd header.cod size)
    else pure size

def parse (file : ByteArray) : Except ImageError Image := do
  let bytes := Segment.bytes file
  let header ← Header.parse bytes
  let size ← imageSize header file
  let segments ← storedSegments header file size
  let codeSize := header.dat.toNatClampNeg - header.cod.toNatClampNeg
  let dataSize := header.stp.toNatClampNeg - header.dat.toNatClampNeg
  let publics ← readTable bytes header.publics header.publicCount
  let natives ← readTable bytes header.natives header.nativeCount
  pure {
    header
    headerBytes := bytes.take Header.byteSize
    code := segments.extract 0 codeSize
    data := Segment.resize (segments.extract codeSize segments.size) dataSize
    publics := publics.map fun (address, name) => ⟨name, address.toInt32⟩
    natives := natives.map fun (address, name) => ⟨name, address.toNat⟩
    debugSection :=
      if header.hasDebugInfo && size < file.size then some (file.extract size file.size)
      else none }

def load (tree : FileTree) (path : String) : Except ImageError Image := do
  parse (← (tree.read path).mapError .unreadable)

/-- Registers of a freshly started instance. The machine keeps the top cell of the stack. -/
def initialRegisters (image : Image) : Registers :=
  let h := image.header
  let stackTop := h.stp - h.dat - Cell.width
  { frm := 0
    cip := if h.cip < 0 then 0 else h.cip
    stk := stackTop
    stp := stackTop
    hea := h.hea - h.dat
    hlw := h.hea - h.dat
    pri := 0
    alt := 0 }

/-- View of an instance with given memory and registers. -/
def machineWith (image : Image) (id : Nat) (data : ByteArray) (registers : Registers) : Machine :=
  Machine.withEntryPoint
    { id, code := image.code, data, registers, publics := image.publics,
      natives := image.natives } image.header.cip

/-- View of a freshly started instance. -/
def machine (image : Image) (id : Nat) : Machine :=
  image.machineWith id image.data image.initialRegisters

end Image

end AmxTrace
