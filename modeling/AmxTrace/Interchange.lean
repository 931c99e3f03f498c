import AmxTrace.Backtrace.Interchange
import AmxTrace.Debug.Store
import AmxTrace.Dispatch
import AmxTrace.Frame
import AmxTrace.Settings

/-! # Debug tables, frames and settings in JSON -/

namespace AmxTrace

def SourceFile.toJson (f : SourceFile) : Json :=
  .object [("address", .integer f.address.toInt), ("name", .string f.name)]

def LineEntry.toJson (l : LineEntry) : Json :=
  .object [("address", .integer l.address.toInt), ("line", .integer l.line.toInt)]

def SymbolKind.toJson : SymbolKind → Json
  | .value => .string "Variable"
  | .reference => .string "Reference"
  | .array => .string "Array"
  | .arrayRef => .string "ArrayRef"
  | .function => .string "Function"
  | .functionRef => .string "FunctionRef"
  | .other code => .object [("Other", .integer code.toNat)]

def StorageClass.toJson : StorageClass → Json
  | .global => .string "Global"
  | .frame => .string "Local"
  | .static => .string "Static"
  | .other code => .object [("Other", .integer code.toNat)]

def Dimension.toJson (d : Dimension) : Json :=
  .object [("tag", .integer d.tag.toInt), ("size", .integer d.size.toNat)]

def DebugSymbol.traits (s : DebugSymbol) : List String :=
  ([("function", s.isFunction), ("local", s.isLocal), ("variable", s.isVariable),
    ("reference", s.isReference), ("array", s.isArray),
    ("forwarded", s.isForwarded)].filter (·.2)).map (·.1)

def DebugSymbol.toJson (s : DebugSymbol) : Json :=
  .object [("name", .string s.name), ("address", .integer s.address.toInt),
    ("tag", .integer s.tag.toInt), ("codestart", .integer s.codeStart.toInt),
    ("codeend", .integer s.codeEnd.toInt), ("kind", s.kind.toJson), ("class", s.storage.toJson),
    ("dims", .array (s.dimensions.map Dimension.toJson)), ("is", Json.ofStrings s.traits)]

def TagEntry.toJson (t : TagEntry) : Json :=
  .object [("id", .integer t.id.toInt), ("name", .string t.name)]

def Automaton.toJson (a : Automaton) : Json :=
  .object [("id", .integer a.id.toInt), ("address", .integer a.address.toInt),
    ("name", .string a.name)]

def StateEntry.toJson (s : StateEntry) : Json :=
  .object [("id", .integer s.id.toInt), ("automaton", .integer s.automaton.toInt),
    ("name", .string s.name)]

def DebugStore.toJson (d : DebugStore) : Json :=
  .object [("loaded", .bool d.loaded), ("files", .array (d.files.map SourceFile.toJson)),
    ("lines", .array (d.lines.map LineEntry.toJson)),
    ("symbols", .array (d.symbols.map DebugSymbol.toJson)),
    ("tags", .array (d.tags.map TagEntry.toJson)),
    ("automatons", .array (d.automata.map Automaton.toJson)),
    ("states", .array (d.states.map StateEntry.toJson))]

def Cell.toJson (c : Cell) : Json := .integer c.toInt

/-- A frame in JSON, with the first arguments of the function that runs in it. -/
def Frame.toJson (m : Machine) (arguments : Nat) (f : Frame) : Json :=
  .object [("address", f.address.toJson), ("return", f.returnAddress.toJson),
    ("callee", f.callee.toJson), ("caller", f.caller.toJson),
    ("argument_count", .integer (f.argumentCount m)),
    ("arguments", .array ((List.range arguments).map fun index =>
      Json.ofOption Cell.toJson (f.argument? m index)))]

def CaseTable.toJson (t : CaseTable) : Json :=
  .object [("default", t.defaultTarget.toJson),
    ("cases", .array (t.cases.map fun c => .array [Cell.toJson c.1, Cell.toJson c.2])),
    ("targets", .array (t.targets.map Cell.toJson))]

def StateDispatch.toJson (d : StateDispatch) : Json :=
  .object [("state_variable", d.stateVariable.toJson), ("table", d.table.toJson)]

/-- What is known about the states of a function in JSON. -/
def StateInfo.toJson (s : StateInfo) : Json :=
  .object [("entry", s.entry.toJson), ("state_variable", s.stateVariable.toJson),
    ("states", .array (s.states.map Cell.toJson)), ("via_default", .bool s.viaDefault)]

def givenMember {α : Type} (name : String) (encode : α → Json) (value : Option α) :
    List (String × Json) :=
  (value.map fun value => (name, encode value)).toList

def limitJson (limit : Nat) : Json := .integer limit

def Limits.toJson (l : Limits) : Json :=
  .array ([l.maxDepth, l.maxArguments, l.maxStringLength].map limitJson)

def LimitSettings.toJson (l : LimitSettings) : Json :=
  .object (givenMember "max_depth" limitJson l.maxDepth ++
    givenMember "max_arguments" limitJson l.maxArguments ++
    givenMember "max_string_length" limitJson l.maxStringLength)

def SearchSettings.toJson (s : SearchSettings) : Json :=
  .object (givenMember "paths" Json.ofStrings s.paths)

def Settings.toJson (s : Settings) : Json :=
  .object (givenMember "trace" Json.string s.trace ++
    givenMember "trace_filter" Json.string s.traceFilter ++
    givenMember "backtrace" LimitSettings.toJson s.backtrace ++
    givenMember "search" SearchSettings.toJson s.search)

end AmxTrace
