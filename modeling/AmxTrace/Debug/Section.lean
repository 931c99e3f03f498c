import AmxTrace.Debug.Store
import AmxTrace.Image
import AmxTrace.Trace

/-! # Debug section

The debug section starts with 22 bytes: its size, a signature, versions and flags, and the six table
sizes, which are unsigned. -/

namespace AmxTrace

/-- Why a module gives no debug store. -/
inductive DebugError where
  | unreadable (fault : ReadFault)
  | image (error : ImageError)
  | missing
  | badSignature (found : UInt16)
  | truncated (short : ShortRead)
deriving DecidableEq, Repr

def DebugError.message : DebugError → String
  | unreadable fault => "Failed to read module: " ++ fault.message
  | image error => error.message
  | missing => "Module has no debug section"
  | badSignature found => "Bad debug section magic 0x" ++ Hex.text 4 found.toNat
  | truncated short => "Debug section truncated: " ++ short.message

namespace DebugSection

def expectedSignature : UInt16 := 0xF1EF

/-- A name, with ill-formed bytes replaced. -/
def readName : Reader String := Utf8.decodeLossy <$> Reader.terminated

def readFile : Reader SourceFile := do
  let address ← Reader.cell
  let name ← readName
  pure { address, name }

def readLine : Reader LineEntry := do
  let address ← Reader.cell
  let line ← Reader.cell
  pure { address, line }

def readDimension : Reader Dimension := do
  let tag ← Reader.short
  let size ← Reader.word32
  pure { tag, size }

/-- A symbol. Its number of dimensions is signed, and none are stored when it is negative. -/
def readSymbol : Reader DebugSymbol := do
  let address ← Reader.cell
  let tag ← Reader.short
  let codeStart ← Reader.cell
  let codeEnd ← Reader.cell
  let kind ← Reader.byte
  let storage ← Reader.byte
  let dimensionCount ← Reader.short
  let name ← readName
  let dimensions ← Reader.repeated readDimension dimensionCount.toNatClampNeg
  pure { name, address, tag, codeStart, codeEnd, kind := .ofCode kind,
         storage := .ofCode storage, dimensions }

def readTag : Reader TagEntry := do
  let id ← Reader.short
  let name ← readName
  pure { id, name }

def readAutomaton : Reader Automaton := do
  let id ← Reader.short
  let address ← Reader.cell
  let name ← readName
  pure { id, address, name }

def readState : Reader StateEntry := do
  let id ← Reader.short
  let automaton ← Reader.short
  let name ← readName
  pure { id, automaton, name }

def readSignature : Reader UInt16 := do
  let _size ← Reader.word32
  Reader.word16

/-- The rest of the header and the six tables. -/
def readTables : Reader DebugStore := do
  let _fileVersion ← Reader.byte
  let _machineVersion ← Reader.byte
  let _flags ← Reader.word16
  let fileCount ← Reader.word16
  let lineCount ← Reader.word16
  let symbolCount ← Reader.word16
  let tagCount ← Reader.word16
  let automatonCount ← Reader.word16
  let stateCount ← Reader.word16
  let files ← Reader.repeated readFile fileCount.toNat
  let lines ← Reader.repeated readLine lineCount.toNat
  let symbols ← Reader.repeated readSymbol symbolCount.toNat
  let tags ← Reader.repeated readTag tagCount.toNat
  let automata ← Reader.repeated readAutomaton automatonCount.toNat
  let states ← Reader.repeated readState stateCount.toNat
  pure { loaded := true, files, lines, symbols, tags, automata, states }

end DebugSection

namespace DebugStore

def ofSection (bytes : List UInt8) : Except DebugError DebugStore := do
  let (signature, cursor) ← (DebugSection.readSignature ⟨0, bytes⟩).mapError .truncated
  if signature ≠ DebugSection.expectedSignature then throw (.badSignature signature)
  let (store, _) ← (DebugSection.readTables cursor).mapError .truncated
  pure store

/-- Find and read the debug section of a module file. -/
def ofModuleFile (file : ByteArray) : Except DebugError DebugStore := do
  let header ← (Header.parse (Segment.bytes file)).mapError .image
  if !header.hasDebugInfo then throw .missing
  match header.size.offset? with
  | some size =>
    if size < file.size then ofSection (Segment.bytes (file.extract size file.size))
    else throw .missing
  | none => throw .missing

/-- Read the debug section kept with an image. -/
def ofImage (image : Image) : Except DebugError DebugStore :=
  match image.debugSection with
  | some bytes => ofSection (Segment.bytes bytes)
  | none => throw .missing

def ofFile (tree : FileTree) (path : String) : Except DebugError DebugStore := do
  ofModuleFile (← (tree.read path).mapError .unreadable)

/-- The debug store of the module at a path, empty with a note if there is none. -/
def load (tree : FileTree) (path : String) : DebugStore × List LogEntry :=
  match ofFile tree path with
  | .ok store => (store, [])
  | .error fault => (empty, [.noted ("no debug info for " ++ path ++ ": " ++ fault.message)])

def orEmpty (image : Image) : DebugStore := ((ofImage image).toOption).getD empty

end DebugStore

end AmxTrace
