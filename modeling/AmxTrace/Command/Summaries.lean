import AmxTrace.Debug.Section
import AmxTrace.Image
import AmxTrace.Json.Decode

/-! # Module summaries and source locations -/

namespace AmxTrace

def Header.toJson (h : Header) : Json :=
  let cell (c : Cell) : Json := .integer c.toInt
  .object [("size", cell h.size), ("magic", .integer h.signature.toNat),
    ("file_version", .integer h.fileVersion.toNat),
    ("amx_version", .integer h.machineVersion.toNat), ("flags", .integer h.flags.toInt),
    ("defsize", .integer h.entrySize.toInt), ("cod", cell h.cod), ("dat", cell h.dat),
    ("hea", cell h.hea), ("stp", cell h.stp), ("cip", cell h.cip), ("publics", cell h.publics),
    ("natives", cell h.natives), ("libraries", cell h.libraries),
    ("pubvars", cell h.publicVariables), ("tags", cell h.tags), ("nametable", cell h.nameTable)]

def Public.toJson (p : Public) : Json :=
  .object [("name", .string p.name), ("address", .integer p.address.toInt)]

def Native.toJson (n : Native) : Json :=
  .object [("name", .string n.name), ("address", .integer n.address)]

def Public.ofJson? (value : Json) : Option Public := do
  let f ← Json.fields? ["name", "address"] value
  let name ← f.required? 0 Json.text?
  let address ← f.required? 1 Json.cell?
  pure { name, address }

def Native.ofJson? (value : Json) : Option Native := do
  let f ← Json.fields? ["name", "address"] value
  let name ← f.required? 0 Json.text?
  let address ← f.defaulted? 1 0 Json.size?
  pure { name, address }

/-- Numbers of entries in the tables of a debug store. -/
structure DebugCounts where
  files : Nat
  lines : Nat
  symbols : Nat
  tags : Nat
  automata : Nat
  states : Nat
deriving DecidableEq, Repr

namespace DebugCounts

def ofStore (store : DebugStore) : DebugCounts :=
  { files := store.files.length, lines := store.lines.length, symbols := store.symbols.length,
    tags := store.tags.length, automata := store.automata.length, states := store.states.length }

def named (c : DebugCounts) : List (String × Nat) :=
  [("files", c.files), ("lines", c.lines), ("symbols", c.symbols), ("tags", c.tags),
    ("automatons", c.automata), ("states", c.states)]

def text (c : DebugCounts) : String :=
  ", ".intercalate (c.named.map fun entry => toString entry.2 ++ " " ++ entry.1)

def toJson (c : DebugCounts) : Json :=
  .object (c.named.map fun entry => (entry.1, .integer entry.2))

end DebugCounts

structure ModuleSummary where
  path : String
  image : Image
  debug : Option DebugCounts

namespace ModuleSummary

def ofImage (path : String) (image : Image) : ModuleSummary :=
  { path, image, debug := ((DebugStore.ofImage image).toOption).map .ofStore }

def flagText (header : Header) : String :=
  let flags := (if header.hasDebugInfo then ["debug"] else []) ++
    (if header.isCompact then ["compact"] else [])
  if flags = [] then "-" else " ".intercalate flags

def addressText (address : Cell) : String := "0x" ++ Hex.text 8 address.unsigned

def lines (s : ModuleSummary) : List String :=
  let header := s.image.header
  [s.path,
    "  version:  file " ++ toString header.fileVersion.toNat ++ ", amx " ++
      toString header.machineVersion.toNat,
    "  flags:    " ++ flagText header,
    "  code:     " ++ toString s.image.code.size ++ " bytes",
    "  data:     " ++ toString s.image.data.size ++ " bytes (stack and heap included)",
    "  main:     " ++ (if header.cip < 0 then "none" else addressText header.cip),
    "publics (" ++ toString s.image.publics.length ++ "):"] ++
  s.image.publics.map (fun p => "  " ++ addressText p.address ++ " " ++ p.name) ++
  ["natives (" ++ toString s.image.natives.length ++ "):"] ++
  s.image.natives.map (fun n => "  " ++ n.name) ++
  ["debug info: " ++ (s.debug.map DebugCounts.text).getD "none"]

def toJson (s : ModuleSummary) : Json :=
  .object [("file", .string s.path), ("header", s.image.header.toJson),
    ("code_size", .integer s.image.code.size), ("data_size", .integer s.image.data.size),
    ("publics", .array (s.image.publics.map Public.toJson)),
    ("natives", .array (s.image.natives.map Native.toJson)),
    ("debug", Json.ofOption DebugCounts.toJson s.debug)]

end ModuleSummary

/-- What is known about a code address. -/
structure SourceLocation where
  address : Cell
  file : Option String := none
  line : Option Cell := none
  function : Option String := none
  entryOf : Option String := none
deriving DecidableEq, Repr

namespace SourceLocation

def ofStore (debug : DebugStore) (address : Cell) : SourceLocation :=
  { address
    file := (debug.file? address).map (·.name)
    line := (debug.line? address).map (·.number)
    function := (debug.function? address).map (·.name)
    entryOf := (debug.exactFunction? address).map (·.name) }

def lines (l : SourceLocation) : List String :=
  ["address:  " ++ ModuleSummary.addressText l.address,
    "file:     " ++ l.file.getD "??",
    "line:     " ++ (l.line.map Cell.decimal).getD "??",
    "function: " ++ l.function.getD "??"] ++
  (l.entryOf.map fun name => "entry of: " ++ name).toList

def toJson (l : SourceLocation) : Json :=
  .object [("address", .integer l.address.toInt), ("file", Json.ofOptionString l.file),
    ("line", Json.ofOption (fun c : Cell => .integer c.toInt) l.line),
    ("function", Json.ofOptionString l.function), ("entry_of", Json.ofOptionString l.entryOf)]

end SourceLocation

end AmxTrace
