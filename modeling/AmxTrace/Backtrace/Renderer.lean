import AmxTrace.Backtrace.Resolved
import AmxTrace.Decimal
import AmxTrace.Dispatch
import AmxTrace.Frame
import AmxTrace.Text.CellString

/-! # Frame renderer -/

namespace AmxTrace

/-- What frames of a script are resolved against. -/
structure Renderer where
  debug : DebugStore := .empty
  limits : Limits := {}
  /-- Module name shown on frames that cannot be found in source. -/
  scriptName : Option String := none

namespace Renderer

/-- Name of a tag; none for the untagged tag and for unknown ones. -/
def tagName? (r : Renderer) (id : Int16) : Option String :=
  (r.debug.tagName? id).filter (· ≠ "_")

/-- A value in the form its tag asks for. -/
def scalarText (tag : Option String) (value : Cell) : String :=
  if tag = some "bool" then (if value = 0 then "false" else "true")
  else if tag = some "Float" then Decimal.Binary32.text value.unsigned
  else value.decimal

/-- A data address as shown for references and arrays. -/
def pointerText (value : Cell) : String := "=@0x" ++ Hex.text 8 value.unsigned

/-- One dimension of an array; an unknown size is left out. -/
def dimensionText (r : Renderer) (dimension : Dimension) : String :=
  if dimension.size = 0 then "[]"
  else "[" ++ (r.tagName? dimension.tag).elim "" (· ++ ":") ++ toString dimension.size.toNat ++ "]"

/-- Number of cells to look at for a string of a declared size, zero meaning unknown. -/
def stringCells (r : Renderer) (m : Machine) (address : Cell) (size : UInt32) : Nat :=
  let available := ((m.registers.stp.toInt - address.toInt).tdiv 4).toNat
  min (if size = 0 then available else size.toNat) (r.limits.maxStringLength + 1)

/-- The string stored at a data address in quotes, with `!` before a packed one. -/
def stringText? (r : Renderer) (m : Machine) (address : Cell) (size : UInt32) : Option String :=
  if m.isDataAddress address then
    let limit := r.limits.maxStringLength
    let cells := m.dataCells address (r.stringCells m address size)
    let decoded := CellString.decode cells (limit + 1)
    some ((if decoded.packed then "!\"" else "\"") ++ CellString.clip decoded.text limit ++ "\"")
  else none

/-- The target of a reference, if it can be read. -/
def targetText (m : Machine) (tag : Option String) (address : Cell) : String :=
  if m.isDataAddress address then
    optionalText " " ((m.dataCell? address).map (scalarText tag))
  else ""

/-- The string an array argument holds: an untagged array of one untagged dimension does. -/
def arrayString? (r : Renderer) (m : Machine) (argument : DebugSymbol) (tag : Option String)
    (value : Cell) : Option String :=
  match argument.dimensions, tag with
  | [dimension], none =>
    if r.tagName? dimension.tag = none then r.stringText? m value dimension.size else none
  | _, _ => none

/-- What is shown after the name of an argument with a known value. -/
def valueText (r : Renderer) (m : Machine) (argument : DebugSymbol) (tag : Option String)
    (value : Cell) : String :=
  if argument.isVariable then "=" ++ scalarText tag value
  else if argument.isReference then pointerText value ++ targetText m tag value
  else if argument.isArray then
    String.join (argument.dimensions.map r.dimensionText) ++ pointerText value ++
      optionalText " " (r.arrayString? m argument tag value)
  else "=" ++ value.decimal

def argumentText (r : Renderer) (m : Machine) (argument : DebugSymbol) (value : Option Cell) :
    String :=
  let tag := r.tagName? argument.tag
  (if argument.isReference then "&" else "") ++ tag.elim "" (· ++ ":") ++ argument.name ++
    value.elim "=?" (r.valueText m argument tag)

/-- Function that runs in a frame: the one that starts at the caller address, or else the one
whose code holds it. -/
def function? (r : Renderer) (frame : Frame) : Option DebugSymbol := do
  let address ← frame.caller.get?
  (r.debug.exactFunction? address).orElse fun _ => r.debug.function? address

/-- Values of the first arguments of a frame, up to the first that cannot be read. -/
def plainArguments (m : Machine) (frame : Frame) (index : Nat) : Nat → List String
  | 0 => []
  | count + 1 =>
    match frame.argument? m index with
    | none => []
    | some value => value.decimal :: plainArguments m frame (index + 1) count

def shownArguments (r : Renderer) (m : Machine) (frame : Frame) : List String :=
  if frame.address.isAbsent then []
  else
    let limit := r.limits.maxArguments
    match r.function? frame with
    | some function =>
      ((r.debug.arguments function).take limit).mapIdx fun index argument =>
        r.argumentText m argument (frame.argument? m index)
    | none => plainArguments m frame 0 (min (frame.argumentCount m) limit)

/-- Number of arguments of a frame, declared or passed. -/
def totalArguments (r : Renderer) (m : Machine) (frame : Frame) : Nat :=
  if frame.address.isAbsent then 0
  else
    let passed := frame.argumentCount m
    match r.function? frame with
    | some function => max (r.debug.arguments function).length passed
    | none => passed

def stateName (r : Renderer) (automaton : Automaton) (id : Cell) : String :=
  let name := do
    if id.toInt < -32768 ∨ 32767 < id.toInt then none
    let entry ← r.debug.state? id.toInt16 automaton.id
    pure entry.name
  name.getD id.decimal

/-- Automaton and states under which the function of a frame was entered. -/
def automatonStates? (r : Renderer) (m : Machine) (frame : Frame) :
    Option (String × List String) := do
  let function ← frame.caller.get?
  let site ← frame.returnAddress.get?
  let info ← StateInfo.resolve? m r.debug function site
  let automaton ← r.debug.automatonAt? info.stateVariable
  pure (automaton.name, info.states.map (r.stateName automaton))

def resolve (r : Renderer) (m : Machine) (frame : Frame) : ScriptFrame :=
  let caller := frame.caller.get?
  let symbol := r.function? frame
  let site := frame.returnAddress.get?
  let shown := r.shownArguments m frame
  let states := r.automatonStates? m frame
  { returnAddress := frame.returnAddress
    function := match symbol with
      | some function => some function.name
      | none => caller.bind m.findPublic?
    isPublic := caller.any fun address => m.isPublicAddress address && !m.isMainAddress address
    tag := symbol.bind fun function => r.tagName? function.tag
    arguments := shown
    omittedArguments := r.totalArguments m frame - shown.length
    automaton := states.map (·.1)
    states := (states.map (·.2)).getD []
    file := (site.bind r.debug.file?).map (·.name)
    line := (site.bind r.debug.line?).map (·.number)
    module := if r.debug.loaded then none else r.scriptName }

end Renderer

end AmxTrace
