import AmxTrace.Proofs.Renderer.Arguments
import AmxTrace.Proofs.Renderer.Shown
import AmxTrace.Proofs.Renderer.Symbols
import Mathlib.Data.List.Nodup

/-! # Declared arguments and their cells

The names of the arguments of a function come out of the symbol table, their values are read by
position from the previous frame. The compiler gives the first argument the frame offset 12 and each
further one the next cell, but the table may list them in any order. -/

namespace AmxTrace

namespace DebugStore

/-- Frame offset of the argument at a position. -/
def argumentOffset (index : Nat) : Int := 12 + 4 * index

/-- The locals of a function above its frame are `count` arguments, at the offsets 12, 16 and so on, in
any order. -/
def DeclaresArguments (d : DebugStore) (function : DebugSymbol) (count : Nat) : Prop :=
  ((d.localsAbove function).map (·.address.toInt)).Perm ((List.range count).map argumentOffset)

theorem pairwise_arguments (d : DebugStore) (function : DebugSymbol) :
    (d.arguments function).Pairwise fun a b => a.address ≤ b.address := by
  have htrans : ∀ a b c : DebugSymbol, decide (a.address ≤ b.address) = true →
      decide (b.address ≤ c.address) = true → decide (a.address ≤ c.address) = true := by
    intro a b c hab hbc
    simp only [decide_eq_true_eq] at hab hbc ⊢
    exact Int32.le_trans hab hbc
  have htotal : ∀ a b : DebugSymbol,
      (decide (a.address ≤ b.address) || decide (b.address ≤ a.address)) = true := by
    intro a b
    simpa using Int32.le_total a.address b.address
  have hsorted := List.pairwise_mergeSort htrans htotal (d.symbols.filter fun s =>
    s.isLocal && s.codeStart == function.codeStart && 0 < s.address)
  exact hsorted.imp fun hle => of_decide_eq_true hle

namespace DeclaresArguments

variable {d : DebugStore} {function : DebugSymbol} {count : Nat}

theorem length_arguments (h : d.DeclaresArguments function count) :
    (d.arguments function).length = count := by
  have hlength := h.length_eq
  rw [List.length_map, List.length_map, List.length_range] at hlength
  rw [(d.arguments_perm_localsAbove function).length_eq, hlength]

theorem map_offset_arguments (h : d.DeclaresArguments function count) :
    (d.arguments function).map (·.address.toInt) = (List.range count).map argumentOffset := by
  have hperm : ((d.arguments function).map (·.address.toInt)).Perm
      ((List.range count).map argumentOffset) :=
    ((d.arguments_perm_localsAbove function).map _).trans h
  refine List.Perm.eq_of_pairwise (fun a b _ _ hab hba => Int.le_antisymm hab hba) ?_ ?_ hperm
  · apply List.pairwise_map.mpr
    exact (d.pairwise_arguments function).imp fun hle => Int32.le_iff_toInt_le.mp hle
  · apply List.pairwise_map.mpr
    apply List.pairwise_lt_range.imp
    intro i j hij
    unfold argumentOffset
    omega

theorem eq_of_address_eq (h : d.DeclaresArguments function count) {s t : DebugSymbol}
    (hs : s ∈ d.localsAbove function) (ht : t ∈ d.localsAbove function)
    (haddress : s.address.toInt = t.address.toInt) : s = t := by
  have hrange : ((List.range count).map argumentOffset).Nodup := by
    apply List.nodup_range.map
    intro i j hij
    unfold argumentOffset at hij
    omega
  have hnodup : ((d.localsAbove function).map (·.address.toInt)).Nodup := h.nodup_iff.mpr hrange
  exact List.inj_on_of_nodup_map hnodup hs ht haddress

theorem arguments_of_perm (h : d.DeclaresArguments function count) {symbols : List DebugSymbol}
    (hperm : symbols.Perm d.symbols) : { d with symbols }.arguments function = d.arguments function := by
  have hlocals : ({ d with symbols }.localsAbove function).Perm (d.localsAbove function) :=
    hperm.filter _
  have hleft := (arguments_perm_localsAbove { d with symbols } function).trans hlocals
  have hright := d.arguments_perm_localsAbove function
  refine List.Perm.eq_of_pairwise ?_ (pairwise_arguments { d with symbols } function)
    (d.pairwise_arguments function) (hleft.trans hright.symm)
  intro s t hs ht hst hts
  have haddress : s.address = t.address := Int32.le_antisymm hst hts
  exact h.eq_of_address_eq (hleft.mem_iff.mp hs) (hright.mem_iff.mp ht) (congrArg _ haddress)

end DeclaresArguments

theorem functions_of_filter_eq {d : DebugStore} {symbols : List DebugSymbol}
    (h : symbols.filter (·.isFunction) = d.symbols.filter (·.isFunction)) :
    { d with symbols }.functions = d.functions := by
  have hsplit (table : List DebugSymbol) :
      (table.filter fun s => s.isFunction && !s.isForwarded) =
        (table.filter (·.isFunction)).filter fun s => !s.isForwarded := by
    simp only [List.filter_filter, Bool.and_comm]
  rw [functions, functions, hsplit, hsplit, h]

end DebugStore

namespace Frame

/-- The cell of an argument: as far past the previous frame as the offset of the argument says. -/
def ownCell? (m : Machine) (frame : Frame) (argument : DebugSymbol) : Option Cell :=
  (frame.previous m).address.get?.bind fun base =>
    (base.add? argument.address).bind m.dataCell?

theorem argument?_eq_ownCell? (m : Machine) (frame : Frame) {argument : DebugSymbol} {index : Nat}
    (h : argument.address.toInt = DebugStore.argumentOffset index) :
    frame.argument? m index = frame.ownCell? m argument := by
  have hslot : Cell.ofInt? (((index : Int) + 3) * 4) = some argument.address := by
    rw [Cell.ofInt?_eq_some_iff, h]
    unfold DebugStore.argumentOffset
    omega
  unfold argument? ownCell?
  simp only [Option.bind_eq_bind, hslot, Option.bind_some]

end Frame

namespace Renderer

open DebugStore (argumentOffset)

variable {r : Renderer} {function : DebugSymbol} {count : Nat} {m : Machine} {frame : Frame}

theorem arguments_of_function? (hpresent : frame.address ≠ .absent)
    (hfunction : r.function? frame = some function) :
    (r.resolve m frame).arguments =
      ((r.debug.arguments function).take r.limits.maxArguments).mapIdx fun index argument =>
        r.argumentText m argument (frame.argument? m index) := by
  change r.shownArguments m frame = _
  rw [shownArguments, if_neg (mt Addr.isAbsent_iff.mp hpresent), hfunction]

/-- Where a function declares its arguments at the offsets the compiler gives them, a frame that runs it shows
each argument that the limit leaves under its own name and with its own cell, and no order of the symbols other
than that of the functions matters. -/
theorem declared_arguments_show_own_cells (hdeclared : r.debug.DeclaresArguments function count)
    (m : Machine) (hpresent : frame.address ≠ .absent)
    (hfunction : r.function? frame = some function) :
    (r.resolve m frame).arguments.length = min r.limits.maxArguments count ∧
    (∀ index (hindex : index < (r.resolve m frame).arguments.length),
      ∃ argument,
        (∀ s, s ∈ r.debug.localsAbove function ∧ s.address.toInt = argumentOffset index ↔
          s = argument) ∧
        (r.resolve m frame).arguments[index] =
          r.argumentText m argument (frame.ownCell? m argument) ∧
        r.ShowsArgument m argument (frame.ownCell? m argument) (r.resolve m frame).arguments[index] ∧
        ((r.resolve m frame).arguments[index] = r.argumentName argument ++ "=?" ↔
          frame.ownCell? m argument = none)) ∧
    ∀ symbols : List DebugSymbol, symbols.Perm r.debug.symbols →
      symbols.filter (·.isFunction) = r.debug.symbols.filter (·.isFunction) →
      (r.withSymbols symbols).resolve m frame = r.resolve m frame := by
  have hshown := arguments_of_function? (m := m) hpresent hfunction
  refine ⟨?_, ?_, ?_⟩
  · rw [hshown, List.length_mapIdx, List.length_take, hdeclared.length_arguments]
  · intro index hindex
    have htable : index < (r.debug.arguments function).length := by
      rw [hshown, List.length_mapIdx, List.length_take] at hindex
      omega
    generalize hargument : (r.debug.arguments function)[index] = argument
    have hmember : argument ∈ r.debug.localsAbove function := by
      rw [← hargument]
      exact (r.debug.arguments_perm_localsAbove function).mem_iff.mp (List.getElem_mem htable)
    have hoffset : argument.address.toInt = argumentOffset index := by
      have hat := congrArg (·[index]?) hdeclared.map_offset_arguments
      have hcount : index < count := hdeclared.length_arguments ▸ htable
      simpa [htable, hcount, hargument] using hat
    have htext : (r.resolve m frame).arguments[index] =
        r.argumentText m argument (frame.ownCell? m argument) := by
      simp only [hshown, List.getElem_mapIdx, List.getElem_take, hargument]
      rw [frame.argument?_eq_ownCell? m hoffset]
    refine ⟨argument, ?_, htext, ?_, ?_⟩
    · intro s
      constructor
      · intro hs
        exact hdeclared.eq_of_address_eq hs.1 hmember (hs.2.trans hoffset.symm)
      · intro hs
        exact hs ▸ ⟨hmember, hoffset⟩
    · rw [htext]
      exact r.showsArgument_argumentText m argument _
    · rw [htext]
      exact r.argumentText_eq_unknown_iff m argument _
  · intro symbols hperm hfunctions
    have halike : r.Alike symbols frame := by
      refine ⟨DebugStore.functions_of_filter_eq hfunctions, ?_⟩
      intro other hother
      obtain rfl : function = other := Option.some.inj (hfunction.symm.trans hother)
      exact hdeclared.arguments_of_perm hperm
    exact halike.resolve m

/-- The second of four arguments, which the table has first, shows its own cell, and a table in order
gives the same frame. -/
theorem declared_arguments_asked :
    (askedRenderer.debug.DeclaresArguments askFunction 4 ∧
      (Frame.ofAddress askedMachine 32).address ≠ .absent ∧
      askedRenderer.function? (.ofAddress askedMachine 32) = some askFunction) ∧
    (askedRenderer.resolve askedMachine (.ofAddress askedMachine 32)).arguments[1]? =
      some "second=8" ∧
    (askedRenderer.withSymbols
        [askLocal "first" 12, askFunction, askLocal "second" 16, askLocal "third" 20,
          askLocal "fourth" 24, askLocal "sum" (-4)]).resolve askedMachine (.ofAddress askedMachine 32) =
      askedRenderer.resolve askedMachine (.ofAddress askedMachine 32) := by
  have hdeclared : askedRenderer.debug.DeclaresArguments askFunction 4 := by
    unfold DebugStore.DeclaresArguments
    decide
  have hpresent : (Frame.ofAddress askedMachine 32).address ≠ .absent := by decide
  have hfunction : askedRenderer.function? (.ofAddress askedMachine 32) = some askFunction := by
    decide
  obtain ⟨hlength, hcells, hsymbols⟩ :=
    declared_arguments_show_own_cells hdeclared askedMachine hpresent hfunction
  have hindex : 1 < (askedRenderer.resolve askedMachine (.ofAddress askedMachine 32)).arguments.length := by
    rw [hlength]
    decide
  obtain ⟨argument, hargument, htext, -⟩ := hcells 1 hindex
  have hsecond : askLocal "second" 16 = argument := (hargument _).mp ⟨by decide, by decide⟩
  have hcell : (Frame.ofAddress askedMachine 32).ownCell? askedMachine (askLocal "second" 16) = some 8 := by
    decide
  have hshown : askedRenderer.argumentText askedMachine (askLocal "second" 16) (some 8) = "second=8" :=
    rfl
  rw [← hsecond, hcell, hshown] at htext
  refine ⟨⟨hdeclared, hpresent, hfunction⟩, ?_, hsymbols _ (by decide) (by decide)⟩
  rw [List.getElem?_eq_getElem hindex, htext]

end Renderer

end AmxTrace
