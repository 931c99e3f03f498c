import AmxTrace.Proofs.Renderer.Symbols

/-! # Symbols of forwarded publics -/

namespace AmxTrace

/-- A symbol that the compiler adds for a forwarded public. -/
structure DebugSymbol.ForForward (s : DebugSymbol) : Prop where
  function : s.kind = .function
  notLocal : s.storage ≠ .frame
  marked : ∃ rest, s.name.toList = '@' :: rest

/-- A symbol table, and the table with symbols of forwarded publics put in anywhere. -/
inductive WithForwards : List DebugSymbol → List DebugSymbol → Prop where
  | nil : WithForwards [] []
  | kept (s : DebugSymbol) {plain full : List DebugSymbol} (h : WithForwards plain full) :
      WithForwards (s :: plain) (s :: full)
  | added {s : DebugSymbol} (hs : s.ForForward) {plain full : List DebugSymbol}
      (h : WithForwards plain full) : WithForwards plain (s :: full)

theorem WithForwards.filter_eq {plain full : List DebugSymbol} (h : WithForwards plain full)
    {select : DebugSymbol → Bool} (hskip : ∀ s : DebugSymbol, s.ForForward → select s = false) :
    full.filter select = plain.filter select := by
  induction h with
  | nil => rfl
  | kept s _ ih => simp only [List.filter_cons, ih]
  | added hs _ ih =>
    have hout := hskip _ hs
    simp [hout, ih]

namespace DebugStore

variable {d : DebugStore} {symbols : List DebugSymbol}

theorem functions_withForwards (h : WithForwards d.symbols symbols) :
    { d with symbols }.functions = d.functions := by
  apply h.filter_eq
  intro s hs
  obtain ⟨rest, hname⟩ := hs.marked
  have hforwarded : s.isForwarded = true := by simp [DebugSymbol.isForwarded, hname]
  simp [hforwarded]

theorem function?_withForwards (h : WithForwards d.symbols symbols) (address : Cell) :
    { d with symbols }.function? address = d.function? address :=
  function?_withSymbols (functions_withForwards h) address

theorem exactFunction?_withForwards (h : WithForwards d.symbols symbols) (address : Cell) :
    { d with symbols }.exactFunction? address = d.exactFunction? address :=
  exactFunction?_withSymbols (functions_withForwards h) address

theorem arguments_withForwards (h : WithForwards d.symbols symbols) (function : DebugSymbol) :
    { d with symbols }.arguments function = d.arguments function := by
  rw [arguments, arguments]
  apply congrArg (List.mergeSort · _)
  apply h.filter_eq
  intro s hs
  have hlocal : s.isLocal = false := by simpa [DebugSymbol.isLocal] using hs.notLocal
  simp [hlocal]

end DebugStore

theorem StateInfo.resolve?_withForwards {d : DebugStore} {symbols : List DebugSymbol}
    (h : WithForwards d.symbols symbols) (m : Machine) (function address : Cell) :
    resolve? m { d with symbols } function address = resolve? m d function address :=
  resolve?_withSymbols (DebugStore.functions_withForwards h) m function address

theorem Renderer.resolve_withForwards {r : Renderer} {symbols : List DebugSymbol}
    (h : WithForwards r.debug.symbols symbols) (m : Machine) (frame : Frame) :
    (r.withSymbols symbols).resolve m frame = r.resolve m frame := by
  have halike : r.Alike symbols frame :=
    ⟨DebugStore.functions_withForwards h,
      fun function _ => DebugStore.arguments_withForwards h function⟩
  exact halike.resolve m

namespace DebugStore

/-- A store gives the same functions, the same states and the same frames with symbols of forwarded
publics as without them, wherever they stand in its table and whatever code they claim. -/
theorem forwards_never_found {d : DebugStore} {symbols : List DebugSymbol}
    (h : WithForwards d.symbols symbols) :
    (∀ address, { d with symbols }.function? address = d.function? address) ∧
    (∀ address, { d with symbols }.exactFunction? address = d.exactFunction? address) ∧
    (∀ m function address, StateInfo.resolve? m { d with symbols } function address =
      StateInfo.resolve? m d function address) ∧
    ∀ limits scriptName m frame,
      Renderer.resolve { debug := { d with symbols }, limits, scriptName } m frame =
        Renderer.resolve { debug := d, limits, scriptName } m frame := by
  refine ⟨function?_withForwards h, exactFunction?_withForwards h,
    StateInfo.resolve?_withForwards h, fun limits scriptName m frame => ?_⟩
  let r : Renderer := { debug := d, limits, scriptName }
  have hr : WithForwards r.debug.symbols symbols := h
  exact Renderer.resolve_withForwards hr m frame

/-- A symbol with the code of a function, under another name. -/
def forwardOf (function : DebugSymbol) (name : String) : DebugSymbol := { function with name }

def tick : DebugSymbol where
  name := "Tick"
  address := 8
  tag := 0
  codeStart := 8
  codeEnd := 64
  kind := .function
  storage := .global
  dimensions := []

/-- Symbols of two forwarded publics stand around the function that they forward to. -/
theorem forwards_never_found_tick :
    WithForwards [tick] [forwardOf tick "@Tick", tick, forwardOf tick "@Late"] ∧
    DebugStore.function? { symbols := [forwardOf tick "@Tick", tick, forwardOf tick "@Late"] } 16 =
      some tick := by
  have hforward (name : String) (hname : ∃ rest, name.toList = '@' :: rest) :
      (forwardOf tick name).ForForward := ⟨rfl, by simp [forwardOf, tick], hname⟩
  have h : WithForwards [tick] [forwardOf tick "@Tick", tick, forwardOf tick "@Late"] :=
    .added (hforward "@Tick" ⟨['T', 'i', 'c', 'k'], by decide⟩)
      (.kept tick (.added (hforward "@Late" ⟨['L', 'a', 't', 'e'], by decide⟩) .nil))
  obtain ⟨hfunction, -⟩ := forwards_never_found (d := { symbols := [tick] }) h
  refine ⟨h, (hfunction 16).trans ?_⟩
  decide

end DebugStore

end AmxTrace
