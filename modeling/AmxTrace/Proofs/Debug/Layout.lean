import AmxTrace.Debug.Section

/-! # Layout of a debug section -/

namespace AmxTrace

/-- A name as it is stored. It ends at its first zero byte, so it holds none. -/
structure StoredName where
  bytes : List UInt8
  zero_not_mem : 0 ∉ bytes

namespace StoredName

/-- The name closed by a zero byte. -/
def written (name : StoredName) : List UInt8 := name.bytes ++ [0]

/-- The name with ill-formed bytes replaced. -/
def text (name : StoredName) : String := Utf8.decodeLossy name.bytes

end StoredName

def SymbolKind.code : SymbolKind → UInt8
  | .value => 1
  | .reference => 2
  | .array => 3
  | .arrayRef => 4
  | .function => 9
  | .functionRef => 10
  | .other code => code

/-- A kind with a name is not spelled as another code. -/
def SymbolKind.Proper (kind : SymbolKind) : Prop :=
  kind ∉ [1, 2, 3, 4, 9, 10].map SymbolKind.other

instance (kind : SymbolKind) : Decidable kind.Proper :=
  inferInstanceAs (Decidable (kind ∉ [1, 2, 3, 4, 9, 10].map SymbolKind.other))

def StorageClass.code : StorageClass → UInt8
  | .global => 0
  | .frame => 1
  | .static => 2
  | .other code => code

/-- A storage class with a name is not spelled as another code. -/
def StorageClass.Proper (storage : StorageClass) : Prop :=
  storage ∉ [0, 1, 2].map StorageClass.other

instance (storage : StorageClass) : Decidable storage.Proper :=
  inferInstanceAs (Decidable (storage ∉ [0, 1, 2].map StorageClass.other))

structure StoredFile where
  address : Cell
  name : StoredName

/-- A symbol as it is stored. The number of its dimensions is a signed 16-bit field. -/
structure StoredSymbol where
  name : StoredName
  address : Cell
  tag : Int16
  codeStart : Cell
  codeEnd : Cell
  kind : SymbolKind
  kind_proper : kind.Proper
  storage : StorageClass
  storage_proper : storage.Proper
  dimensions : List Dimension
  dimensions_length : dimensions.length ≤ 32767

structure StoredTag where
  id : Int16
  name : StoredName

structure StoredAutomaton where
  id : Int16
  address : Cell
  name : StoredName

structure StoredState where
  id : Int16
  automaton : Int16
  name : StoredName

/-- The six tables as they are stored. Their sizes are unsigned 16-bit fields. -/
structure StoredTables where
  files : List StoredFile
  files_length : files.length ≤ 65535
  lines : List LineEntry
  lines_length : lines.length ≤ 65535
  symbols : List StoredSymbol
  symbols_length : symbols.length ≤ 65535
  tags : List StoredTag
  tags_length : tags.length ≤ 65535
  automata : List StoredAutomaton
  automata_length : automata.length ≤ 65535
  states : List StoredState
  states_length : states.length ≤ 65535

/-- Header fields of a section that nothing depends on. -/
structure SectionPreamble where
  size : UInt32
  fileVersion : UInt8
  machineVersion : UInt8
  flags : UInt16

section Written

open Word

def StoredFile.written (file : StoredFile) : List UInt8 :=
  toBytes32 file.address.toUInt32 ++ file.name.written

def LineEntry.written (entry : LineEntry) : List UInt8 :=
  toBytes32 entry.address.toUInt32 ++ toBytes32 entry.line.toUInt32

def Dimension.written (dimension : Dimension) : List UInt8 :=
  toBytes16 dimension.tag.toUInt16 ++ toBytes32 dimension.size

/-- The bytes of a symbol. Its name stands between the number of dimensions and these. -/
def StoredSymbol.written (symbol : StoredSymbol) : List UInt8 :=
  toBytes32 symbol.address.toUInt32 ++ (toBytes16 symbol.tag.toUInt16 ++
    (toBytes32 symbol.codeStart.toUInt32 ++ (toBytes32 symbol.codeEnd.toUInt32 ++
      ([symbol.kind.code] ++ ([symbol.storage.code] ++
        (toBytes16 (UInt16.ofNat symbol.dimensions.length) ++ (symbol.name.written ++
          symbol.dimensions.flatMap Dimension.written)))))))

def StoredTag.written (tag : StoredTag) : List UInt8 :=
  toBytes16 tag.id.toUInt16 ++ tag.name.written

def StoredAutomaton.written (automaton : StoredAutomaton) : List UInt8 :=
  toBytes16 automaton.id.toUInt16 ++
    (toBytes32 automaton.address.toUInt32 ++ automaton.name.written)

def StoredState.written (state : StoredState) : List UInt8 :=
  toBytes16 state.id.toUInt16 ++ (toBytes16 state.automaton.toUInt16 ++ state.name.written)

/-- Start of the header: the size of the section and its signature. -/
def SectionPreamble.signed (preamble : SectionPreamble) : List UInt8 :=
  toBytes32 preamble.size ++ toBytes16 DebugSection.expectedSignature

namespace StoredTables

variable (preamble : SectionPreamble) (tables : StoredTables)

/-- Rest of the header: versions, flags and the table sizes. -/
def sizes : List UInt8 :=
  [preamble.fileVersion] ++ ([preamble.machineVersion] ++ (toBytes16 preamble.flags ++
    (toBytes16 (UInt16.ofNat tables.files.length) ++
      (toBytes16 (UInt16.ofNat tables.lines.length) ++
        (toBytes16 (UInt16.ofNat tables.symbols.length) ++
          (toBytes16 (UInt16.ofNat tables.tags.length) ++
            (toBytes16 (UInt16.ofNat tables.automata.length) ++
              toBytes16 (UInt16.ofNat tables.states.length))))))))

def body : List UInt8 :=
  tables.files.flatMap StoredFile.written ++ (tables.lines.flatMap LineEntry.written ++
    (tables.symbols.flatMap StoredSymbol.written ++ (tables.tags.flatMap StoredTag.written ++
      (tables.automata.flatMap StoredAutomaton.written ++
        tables.states.flatMap StoredState.written))))

def written : List UInt8 := preamble.signed ++ (tables.sizes preamble ++ tables.body)

end StoredTables

end Written

def StoredFile.entry (file : StoredFile) : SourceFile := ⟨file.address, file.name.text⟩

def StoredSymbol.entry (symbol : StoredSymbol) : DebugSymbol :=
  { name := symbol.name.text, address := symbol.address, tag := symbol.tag,
    codeStart := symbol.codeStart, codeEnd := symbol.codeEnd, kind := symbol.kind,
    storage := symbol.storage, dimensions := symbol.dimensions }

def StoredTag.entry (tag : StoredTag) : TagEntry := ⟨tag.id, tag.name.text⟩

def StoredAutomaton.entry (automaton : StoredAutomaton) : Automaton :=
  ⟨automaton.id, automaton.address, automaton.name.text⟩

def StoredState.entry (state : StoredState) : StateEntry :=
  ⟨state.id, state.automaton, state.name.text⟩

def StoredTables.store (tables : StoredTables) : DebugStore :=
  { loaded := true
    files := tables.files.map StoredFile.entry
    lines := tables.lines
    symbols := tables.symbols.map StoredSymbol.entry
    tags := tables.tags.map StoredTag.entry
    automata := tables.automata.map StoredAutomaton.entry
    states := tables.states.map StoredState.entry }

end AmxTrace
