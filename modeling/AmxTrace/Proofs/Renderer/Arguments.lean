import AmxTrace.Proofs.Reader.Strict
import AmxTrace.Proofs.Renderer.ArgumentText

/-! # The limit on arguments -/

namespace AmxTrace

/-- A symbol is an argument of a function: a local one with the function's code, above its frame. -/
def DebugSymbol.DeclaredBy (s function : DebugSymbol) : Prop :=
  s.storage = .frame ∧ s.codeStart = function.codeStart ∧ 0 < s.address.toInt

instance (s function : DebugSymbol) : Decidable (s.DeclaredBy function) :=
  inferInstanceAs (Decidable (_ ∧ _ ∧ _))

/-- The arguments of a function, as the table has them. -/
def DebugStore.localsAbove (d : DebugStore) (function : DebugSymbol) : List DebugSymbol :=
  d.symbols.filter fun s => s.DeclaredBy function

theorem DebugStore.arguments_perm_localsAbove (d : DebugStore) (function : DebugSymbol) :
    (d.arguments function).Perm (d.localsAbove function) := by
  have hfilter : (d.symbols.filter fun s =>
      s.isLocal && s.codeStart == function.codeStart && 0 < s.address) = d.localsAbove function := by
    apply List.filter_congr
    intro s _
    have hzero : (0 : Cell).toInt = 0 := by decide
    rw [Bool.eq_iff_iff, decide_eq_true_iff]
    simp [DebugSymbol.DeclaredBy, DebugSymbol.isLocal, Int32.lt_iff_toInt_lt, hzero, and_assoc]
  rw [arguments, hfilter]
  exact List.mergeSort_perm _ _

namespace Renderer

open Strict

/-- The renderer with another limit on the arguments of a frame. -/
def withMaxArguments (r : Renderer) (count : Nat) : Renderer :=
  { r with limits := { r.limits with maxArguments := count } }

theorem take_plainArguments (m : Machine) (frame : Frame) (index count limit : Nat) :
    (plainArguments m frame index count).take limit =
      plainArguments m frame index (min count limit) := by
  induction count generalizing index limit with
  | zero => simp [plainArguments]
  | succ count ih =>
    cases limit with
    | zero => simp [plainArguments]
    | succ limit =>
      rw [Nat.succ_min_succ, plainArguments, plainArguments]
      cases frame.argument? m index with
      | none => rfl
      | some value => simp [ih]

theorem length_plainArguments_le (m : Machine) (frame : Frame) (index count : Nat) :
    (plainArguments m frame index count).length ≤ count := by
  induction count generalizing index with
  | zero => simp [plainArguments]
  | succ count ih =>
    rw [plainArguments]
    cases frame.argument? m index with
    | none => simp
    | some value => simpa using ih (index + 1)

theorem length_shownArguments_le_limit (r : Renderer) (m : Machine) (frame : Frame) :
    (r.shownArguments m frame).length ≤ r.limits.maxArguments := by
  unfold shownArguments
  split
  · simp
  · cases r.function? frame with
    | some function =>
      simp only [List.length_mapIdx, List.length_take]
      exact Nat.min_le_left _ _
    | none =>
      have hlength := length_plainArguments_le m frame 0
        (min (frame.argumentCount m) r.limits.maxArguments)
      exact Nat.le_trans hlength (Nat.min_le_right _ _)

theorem length_shownArguments_le_total (r : Renderer) (m : Machine) (frame : Frame) :
    (r.shownArguments m frame).length ≤ r.totalArguments m frame := by
  unfold shownArguments totalArguments
  split
  · simp
  · cases r.function? frame with
    | some function =>
      simp only [List.length_mapIdx, List.length_take]
      omega
    | none =>
      have hlength := length_plainArguments_le m frame 0
        (min (frame.argumentCount m) r.limits.maxArguments)
      exact Nat.le_trans hlength (Nat.min_le_left _ _)

theorem argumentText_withMaxArguments (r : Renderer) (count : Nat) (m : Machine)
    (argument : DebugSymbol) (value : Option Cell) :
    (r.withMaxArguments count).argumentText m argument value = r.argumentText m argument value := rfl

theorem shownArguments_withMaxArguments (r : Renderer) (m : Machine) (frame : Frame)
    {fewer more : Nat} (h : fewer ≤ more) :
    (r.withMaxArguments fewer).shownArguments m frame =
      ((r.withMaxArguments more).shownArguments m frame).take fewer := by
  have hfunction (count : Nat) : (r.withMaxArguments count).function? frame = r.function? frame := rfl
  have hlimit (count : Nat) : (r.withMaxArguments count).limits.maxArguments = count := rfl
  have hdebug (count : Nat) : (r.withMaxArguments count).debug = r.debug := rfl
  unfold shownArguments
  split
  · simp
  · simp only [hfunction, hlimit, hdebug, argumentText_withMaxArguments]
    cases r.function? frame with
    | some function =>
      apply List.ext_getElem?
      intro index
      simp only [List.getElem?_mapIdx, List.getElem?_take]
      by_cases hindex : index < fewer
      · have hmore : index < more := by omega
        simp [hindex, hmore]
      · simp [hindex]
    | none =>
      simp only [take_plainArguments]
      have hmin : min (min (frame.argumentCount m) more) fewer =
          min (frame.argumentCount m) fewer := by omega
      rw [hmin]

/-- Number of cells to look at for a string, where the distance to the top of the stack has to be a cell. -/
def strictStringCells (r : Renderer) (m : Machine) (address : Cell) (size : UInt32) :
    Strict Empty Nat := do
  let distance ← cell (m.registers.stp.toInt - address.toInt)
  let available ← cellDiv distance Cell.width
  pure (min (if size = 0 then available.toNatClampNeg else size.toNat)
    (r.limits.maxStringLength + 1))

def strictStringText? (r : Renderer) (m : Machine) (address : Cell) (size : UInt32) :
    Strict Empty (Option String) :=
  if m.isDataAddress address then do
    let count ← r.strictStringCells m address size
    pure (some (r.quotedText (m.dataCells address count)))
  else pure none

def strictArrayString? (r : Renderer) (m : Machine) (argument : DebugSymbol) (tag : Option String)
    (value : Cell) : Strict Empty (Option String) :=
  match argument.dimensions, tag with
  | [dimension], none =>
    if r.tagName? dimension.tag = none then r.strictStringText? m value dimension.size else pure none
  | _, _ => pure none

def strictArgumentText (r : Renderer) (m : Machine) (argument : DebugSymbol) (value : Option Cell) :
    Strict Empty String :=
  match value with
  | none => pure (r.argumentText m argument none)
  | some value =>
    if argument.isArray then do
      let text ← r.strictArrayString? m argument (r.tagName? argument.tag) value
      pure (r.argumentName argument ++ r.arrayText argument value text)
    else pure (r.argumentText m argument (some value))

def strictShownArguments (r : Renderer) (m : Machine) (frame : Frame) : Strict Empty (List String) :=
  if frame.address.isAbsent then pure []
  else
    let limit := r.limits.maxArguments
    match r.function? frame with
    | some function =>
      ((r.debug.arguments function).take limit).zipIdx.mapM fun entry =>
        r.strictArgumentText m entry.1 (frame.argument? m entry.2)
    | none => pure (plainArguments m frame 0 (min (frame.argumentCount m) limit))

/-- Resolve a frame, where no more arguments may be shown than there are. Nothing else is subtracted on the
way to the other fields, except for code addresses, which wrap. -/
def strictResolve (r : Renderer) (m : Machine) (frame : Frame) : Strict Empty ScriptFrame := do
  let shown ← r.strictShownArguments m frame
  let omitted ← sub (r.totalArguments m frame) shown.length
  pure { r.resolve m frame with arguments := shown, omittedArguments := omitted }

section Agreement

variable (r : Renderer) (m : Machine)

theorem agrees_strictStringCells {address : Cell} (h : m.isDataAddress address = true)
    (size : UInt32) :
    Agrees (r.strictStringCells m address size) (pure (r.stringCells m address size)) := by
  -- an address of the data lies between zero and the top of the stack
  obtain ⟨hbelow, hzero, -⟩ := (m.isDataAddress_iff address).mp h
  have hdistance : (m.registers.stp - address).toInt = m.registers.stp.toInt - address.toInt :=
    Cell.toInt_sub_of_le hzero (Int.le_of_lt hbelow)
  have hwidth : Cell.width.toInt = 4 := by decide
  have hpositive : 0 ≤ (m.registers.stp - address).toInt := by omega
  have havailable : ((m.registers.stp - address) / Cell.width).toInt =
      (m.registers.stp - address).toInt.tdiv Cell.width.toInt := by
    rw [Cell.toInt_div_of_nonneg hpositive (by decide), Int.tdiv_eq_ediv_of_nonneg hpositive]
  unfold strictStringCells
  apply (agrees_cell hdistance).andThen
  apply (agrees_cellDiv (by decide) havailable).andThen
  rw [stringCells, Int32.toNatClampNeg, havailable, hdistance, hwidth]
  exact agrees_pure _

theorem agrees_strictStringText? (address : Cell) (size : UInt32) :
    Agrees (r.strictStringText? m address size) (pure (r.stringText? m address size)) := by
  unfold strictStringText?
  by_cases h : m.isDataAddress address = true
  · rw [if_pos h, r.stringText?_of_isDataAddress m h]
    exact (r.agrees_strictStringCells m h size).andThen (agrees_pure _)
  · rw [if_neg h, stringText?, if_neg h]
    exact agrees_pure none

theorem agrees_strictArrayString? (argument : DebugSymbol) (tag : Option String) (value : Cell) :
    Agrees (r.strictArrayString? m argument tag value)
      (pure (r.arrayString? m argument tag value)) := by
  unfold strictArrayString? arrayString?
  rcases argument.dimensions with _ | ⟨dimension, _ | ⟨second, others⟩⟩
  · exact agrees_pure none
  · cases tag with
    | none =>
      by_cases htag : r.tagName? dimension.tag = none
      · simp only [if_pos htag]
        exact r.agrees_strictStringText? m value dimension.size
      · simp only [if_neg htag]
        exact agrees_pure none
    | some name => exact agrees_pure none
  · exact agrees_pure none

theorem agrees_strictArgumentText (argument : DebugSymbol) (value : Option Cell) :
    Agrees (r.strictArgumentText m argument value) (pure (r.argumentText m argument value)) := by
  unfold strictArgumentText
  cases value with
  | none => exact agrees_pure _
  | some value =>
    by_cases harray : argument.isArray = true
    · simp only [if_pos harray]
      rw [argumentText_some, valueText_of_isArray r m argument harray]
      exact (r.agrees_strictArrayString? m argument _ value).andThen (agrees_pure _)
    · simp only [if_neg harray]
      exact agrees_pure _

theorem agrees_strictShownArguments (frame : Frame) :
    Agrees (r.strictShownArguments m frame) (pure (r.shownArguments m frame)) := by
  unfold strictShownArguments shownArguments
  split
  · exact agrees_pure []
  · cases r.function? frame with
    | some function =>
      simp only [List.mapIdx_eq_zipIdx_map]
      apply agrees_mapM
      intro entry _
      exact r.agrees_strictArgumentText m entry.1 (frame.argument? m entry.2)
    | none => exact agrees_pure _

theorem agrees_strictResolve (frame : Frame) :
    Agrees (r.strictResolve m frame) (pure (r.resolve m frame)) := by
  unfold strictResolve
  apply (r.agrees_strictShownArguments m frame).andThen
  apply (agrees_sub (r.length_shownArguments_le_total m frame)).andThen
  exact agrees_pure _

end Agreement

theorem length_arguments_add_omitted (r : Renderer) (m : Machine) (frame : Frame) :
    (r.resolve m frame).arguments.length + (r.resolve m frame).omittedArguments =
      r.totalArguments m frame :=
  Nat.add_sub_of_le (r.length_shownArguments_le_total m frame)

theorem totalArguments_of_present {r : Renderer} {m : Machine} {frame : Frame}
    (h : frame.address ≠ .absent) :
    r.totalArguments m frame =
      (r.function? frame).elim (frame.argumentCount m) fun function =>
        max (r.debug.symbols.countP fun s => s.DeclaredBy function) (frame.argumentCount m) := by
  rw [totalArguments, if_neg (mt Addr.isAbsent_iff.mp h)]
  cases r.function? frame with
  | none => rfl
  | some function =>
    rw [Option.elim_some, List.countP_eq_length_filter]
    exact congrArg (max · _) (r.debug.arguments_perm_localsAbove function).length_eq

/-- A frame resolved under a limit on its arguments goes below zero nowhere, shows or counts every argument
that is declared or was passed, and is the frame resolved under any greater limit with its arguments cut. -/
theorem resolve_cut_by_limit (r : Renderer) (m : Machine) (frame : Frame) {fewer more : Nat}
    (h : fewer ≤ more) :
    let few := (r.withMaxArguments fewer).resolve m frame
    let many := (r.withMaxArguments more).resolve m frame
    Agrees ((r.withMaxArguments fewer).strictResolve m frame) (pure few) ∧
    (frame.address = .absent → few.arguments = [] ∧ few.omittedArguments = 0) ∧
    (frame.address ≠ .absent →
      few.arguments.length ≤ fewer ∧
      few.arguments.length + few.omittedArguments =
        (r.function? frame).elim (frame.argumentCount m) fun function =>
          max (r.debug.symbols.countP fun s => s.DeclaredBy function) (frame.argumentCount m)) ∧
    few.arguments = many.arguments.take fewer ∧
    few = { many with arguments := few.arguments, omittedArguments := few.omittedArguments } := by
  intro few many
  have haccount : few.arguments.length + few.omittedArguments =
      (r.withMaxArguments fewer).totalArguments m frame :=
    length_arguments_add_omitted _ m frame
  refine ⟨(r.withMaxArguments fewer).agrees_strictResolve m frame, ?_, ?_, ?_, rfl⟩
  · intro habsent
    have htotal : (r.withMaxArguments fewer).totalArguments m frame = 0 :=
      if_pos (Addr.isAbsent_iff.mpr habsent)
    rw [htotal] at haccount
    have hlength : few.arguments.length = 0 := by omega
    exact ⟨List.length_eq_zero_iff.mp hlength, by omega⟩
  · intro hpresent
    have htotal := totalArguments_of_present (r := r.withMaxArguments fewer) (m := m) hpresent
    exact ⟨(r.withMaxArguments fewer).length_shownArguments_le_limit m frame, haccount.trans htotal⟩
  · exact r.shownArguments_withMaxArguments m frame h

/-- A machine in a function at 16 that was called with the arguments 7, 8 and 9. -/
def askedMachine : Machine :=
  { id := 0
    code := Segment.ofCells [0, 49, 16, 0, 0, 0, 0, 0]
    data := Segment.ofCells
      [0, 0, 0, 0, 0, 0, 0, 0, 48, 12, 0, 0, 72, 12, 12, 7, 8, 9, 0, 0, 0, 0, 0, 0]
    registers := { hlw := 32, stp := 96 } }

def askFunction : DebugSymbol := ⟨"Ask", 16, 0, 16, 32, .function, .global, []⟩

def askLocal (name : String) (offset : Cell) : DebugSymbol :=
  ⟨name, offset, 0, 16, 32, .value, .frame, []⟩

/-- A renderer that knows the function at 16 and four arguments of it, in another order. -/
def askedRenderer : Renderer where
  debug :=
    { symbols := [askLocal "second" 16, askFunction, askLocal "fourth" 24, askLocal "first" 12,
        askLocal "sum" (-4), askLocal "third" 20] }

/-- Three arguments were passed, four are declared and one is shown. -/
theorem resolve_cut_by_limit_asked :
    1 ≤ 2 ∧
    (let few := (askedRenderer.withMaxArguments 1).resolve askedMachine (.ofAddress askedMachine 32)
    let many := (askedRenderer.withMaxArguments 2).resolve askedMachine (.ofAddress askedMachine 32)
    few.arguments.length ≤ 1 ∧ few.arguments.length + few.omittedArguments = 4 ∧
      few.arguments = many.arguments.take 1) := by
  have hcut := @resolve_cut_by_limit askedRenderer askedMachine (.ofAddress askedMachine 32) 1 2
    (by decide)
  obtain ⟨-, -, hpresent, harguments, -⟩ := hcut
  obtain ⟨hlength, htotal⟩ := hpresent (by decide)
  have hfunction : askedRenderer.function? (.ofAddress askedMachine 32) = some askFunction := by decide
  have hdeclared : askedRenderer.debug.symbols.countP (fun s => s.DeclaredBy askFunction) = 4 := by
    decide
  have hpassed : (Frame.ofAddress askedMachine 32).argumentCount askedMachine = 3 := by decide
  rw [hfunction, Option.elim_some, hdeclared, hpassed] at htotal
  exact ⟨by decide, hlength, htotal, harguments⟩

end Renderer

end AmxTrace
