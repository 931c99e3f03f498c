import AmxTrace.Debug.Entries

/-! # Debug store -/

namespace AmxTrace

/-- Debug tables of one module. -/
structure DebugStore where
  loaded : Bool := false
  files : List SourceFile := []
  lines : List LineEntry := []
  symbols : List DebugSymbol := []
  tags : List TagEntry := []
  automata : List Automaton := []
  states : List StateEntry := []
deriving DecidableEq, Repr

namespace DebugStore

/-- The store of a module without debug entries. -/
def empty : DebugStore := {}

def line? (d : DebugStore) (address : Cell) : Option LineEntry :=
  d.lines.reverse.find? fun l => l.address ≤ address

def file? (d : DebugStore) (address : Cell) : Option SourceFile :=
  d.files.reverse.find? fun f => f.address ≤ address

/-- Functions of the script, without those added for forwarded publics. -/
def functions (d : DebugStore) : List DebugSymbol :=
  d.symbols.filter fun s => s.isFunction && !s.isForwarded

def function? (d : DebugStore) (address : Cell) : Option DebugSymbol :=
  d.functions.find? fun s => s.codeStart ≤ address && address < s.codeEnd

def exactFunction? (d : DebugStore) (address : Cell) : Option DebugSymbol :=
  d.functions.find? fun s => s.codeStart == address

/-- Declared arguments of a function, ordered by frame offset. -/
def arguments (d : DebugStore) (function : DebugSymbol) : List DebugSymbol :=
  (d.symbols.filter fun s => s.isLocal && s.codeStart == function.codeStart && 0 < s.address)
    |>.mergeSort fun a b => a.address ≤ b.address

def tag? (d : DebugStore) (id : Int16) : Option TagEntry := d.tags.find? fun t => t.id == id

def tagName? (d : DebugStore) (id : Int16) : Option String := (d.tag? id).map (·.name)

def automaton? (d : DebugStore) (id : Int16) : Option Automaton :=
  d.automata.find? fun a => a.id == id

/-- Automaton whose state variable lies at an address. -/
def automatonAt? (d : DebugStore) (address : Cell) : Option Automaton :=
  d.automata.find? fun a => a.address == address

def state? (d : DebugStore) (id automaton : Int16) : Option StateEntry :=
  d.states.find? fun s => s.id == id && s.automaton == automaton

/-- First entry of a named file and where the next entry starts. -/
def entryAndNext? (name : String) : List SourceFile → Option (Cell × Cell)
  | [] => none
  | f :: rest =>
    if f.name = name then
      some (f.address, (rest.head?.map (·.address)).getD Cell.greatest)
    else entryAndNext? name rest

/-- Code range of a file: from its first entry to the next entry, or to the end of code. -/
def fileRange? (d : DebugStore) (name : String) : Option (Cell × Cell) :=
  entryAndNext? name d.files

def functionAddress? (d : DebugStore) (name file : String) : Option Cell := do
  let (start, stop) ← d.fileRange? file
  let symbol ← d.symbols.find? fun s =>
    s.isFunction && s.name == name && start ≤ s.codeStart && s.codeStart < stop
  pure symbol.codeStart

/-- First code address at or after a line, counted from one, of a file. -/
def lineAddress? (d : DebugStore) (number : Cell) (file : String) : Option Cell := do
  let (start, stop) ← d.fileRange? file
  let inFile := (d.lines.dropWhile fun l => l.address < start).takeWhile fun l => l.address < stop
  let entry ← inFile.find? fun l => number - 1 ≤ l.line
  pure entry.address

end DebugStore

end AmxTrace
