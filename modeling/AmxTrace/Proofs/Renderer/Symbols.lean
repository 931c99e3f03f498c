import AmxTrace.Backtrace.Renderer

/-! # Symbol tables alike to a renderer -/

namespace AmxTrace

namespace DebugStore

variable {d : DebugStore} {symbols : List DebugSymbol}

theorem function?_withSymbols (h : { d with symbols }.functions = d.functions) (address : Cell) :
    { d with symbols }.function? address = d.function? address := by
  rw [function?, h, function?]

theorem exactFunction?_withSymbols (h : { d with symbols }.functions = d.functions)
    (address : Cell) : { d with symbols }.exactFunction? address = d.exactFunction? address := by
  rw [exactFunction?, h, exactFunction?]

end DebugStore

theorem StateInfo.resolve?_withSymbols {d : DebugStore} {symbols : List DebugSymbol}
    (h : { d with symbols }.functions = d.functions) (m : Machine) (function address : Cell) :
    resolve? m { d with symbols } function address = resolve? m d function address := by
  simp only [resolve?, DebugStore.function?_withSymbols h]

namespace Renderer

/-- The renderer with another symbol table in its debug store. -/
def withSymbols (r : Renderer) (symbols : List DebugSymbol) : Renderer :=
  { r with debug := { r.debug with symbols } }

variable {r : Renderer} {symbols : List DebugSymbol}

theorem argumentText_withSymbols (r : Renderer) (symbols : List DebugSymbol) (m : Machine)
    (argument : DebugSymbol) (value : Option Cell) :
    (r.withSymbols symbols).argumentText m argument value = r.argumentText m argument value := rfl

/-- A table has the same functions as the renderer's, and the same arguments for one that runs in a frame. -/
structure Alike (r : Renderer) (symbols : List DebugSymbol) (frame : Frame) : Prop where
  functions : { r.debug with symbols }.functions = r.debug.functions
  arguments : ∀ function ∈ r.function? frame,
    { r.debug with symbols }.arguments function = r.debug.arguments function

theorem function?_withSymbols (h : { r.debug with symbols }.functions = r.debug.functions)
    (frame : Frame) : (r.withSymbols symbols).function? frame = r.function? frame := by
  simp only [function?, withSymbols, DebugStore.exactFunction?_withSymbols h,
    DebugStore.function?_withSymbols h]

namespace Alike

variable {frame : Frame} (h : r.Alike symbols frame) (m : Machine)

include h

theorem shownArguments :
    (r.withSymbols symbols).shownArguments m frame = r.shownArguments m frame := by
  have harguments := h.arguments
  simp only [Renderer.shownArguments, function?_withSymbols h.functions, argumentText_withSymbols]
  cases hfunction : r.function? frame with
  | none => rfl
  | some function => simp only [withSymbols, harguments function hfunction]

theorem totalArguments :
    (r.withSymbols symbols).totalArguments m frame = r.totalArguments m frame := by
  have harguments := h.arguments
  simp only [Renderer.totalArguments, function?_withSymbols h.functions]
  cases hfunction : r.function? frame with
  | none => rfl
  | some function => simp only [withSymbols, harguments function hfunction]

theorem automatonStates? :
    (r.withSymbols symbols).automatonStates? m frame = r.automatonStates? m frame := by
  simp only [Renderer.automatonStates?, withSymbols, StateInfo.resolve?_withSymbols h.functions]
  rfl

theorem resolve : (r.withSymbols symbols).resolve m frame = r.resolve m frame := by
  simp only [Renderer.resolve, function?_withSymbols h.functions, h.shownArguments m,
    h.totalArguments m, h.automatonStates? m]
  rfl

end Alike

end Renderer

end AmxTrace
