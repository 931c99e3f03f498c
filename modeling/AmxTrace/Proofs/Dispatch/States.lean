import AmxTrace.Proofs.Dispatch.Relocation

/-! # States that lead to a body -/

namespace AmxTrace

section Repetitions

variable {α : Type}

theorem eraseRepsBy_loop_eq (r : α → α → Bool) (last : α) (rest acc : List α) :
    List.eraseRepsBy.loop r last rest acc = acc.reverse ++ List.eraseRepsBy.loop r last rest [] := by
  induction rest generalizing last acc with
  | nil => simp [List.eraseRepsBy.loop]
  | cons next rest ih =>
    simp only [List.eraseRepsBy.loop]
    split
    · exact ih last acc
    · rw [ih next (last :: acc), ih next [last]]
      simp

theorem eraseReps_cons_cons [BEq α] [LawfulBEq α] (first second : α) (rest : List α) :
    (first :: second :: rest).eraseReps =
      if first == second then (second :: rest).eraseReps
      else first :: (second :: rest).eraseReps := by
  change List.eraseRepsBy.loop _ first (second :: rest) [] = _
  rw [List.eraseRepsBy.loop]
  split
  next hsame =>
    obtain rfl := beq_iff_eq.mp hsame
    simp only [BEq.rfl, ite_true]
    rfl
  next hother =>
    rw [eraseRepsBy_loop_eq, if_neg (by simp [hother])]
    rfl

theorem mem_eraseReps [BEq α] [LawfulBEq α] {a : α} {l : List α} : a ∈ l.eraseReps ↔ a ∈ l := by
  induction l with
  | nil => rfl
  | cons first rest ih =>
    cases rest with
    | nil => rfl
    | cons second rest =>
      rw [eraseReps_cons_cons]
      split
      next hsame =>
        obtain rfl := beq_iff_eq.mp hsame
        simp [ih]
      next => rw [List.mem_cons, ih, ← List.mem_cons]

/-- Erasing repetitions leaves an ordered list without equal neighbours. -/
theorem pairwise_lt_eraseReps {l : List Cell} (h : l.Pairwise (· ≤ ·)) :
    l.eraseReps.Pairwise (· < ·) := by
  induction l with
  | nil => exact .nil
  | cons first rest ih =>
    obtain ⟨hfirst, hrest⟩ := List.pairwise_cons.mp h
    cases rest with
    | nil => exact List.pairwise_singleton _ _
    | cons second rest =>
      rw [eraseReps_cons_cons]
      split
      next => exact ih hrest
      next hother =>
        refine List.pairwise_cons.mpr ⟨fun a ha => ?_, ih hrest⟩
        have hlt : first < second :=
          Int32.lt_of_le_of_ne (hfirst second List.mem_cons_self) (by simpa using hother)
        rcases List.mem_cons.mp (mem_eraseReps.mp ha) with rfl | ha
        · exact hlt
        · exact Int32.lt_of_lt_of_le hlt ((List.pairwise_cons.mp hrest).1 a ha)

end Repetitions

instance : Std.LawfulOrderMax Cell where
  max_eq_or a b := by
    change (if a ≤ b then b else a) = a ∨ (if a ≤ b then b else a) = b
    split <;> simp
  max_le_iff a b c := by
    change (if a ≤ b then b else a) ≤ c ↔ a ≤ c ∧ b ≤ c
    split
    next hle => exact ⟨fun h => ⟨Int32.le_trans hle h, h⟩, fun h => h.2⟩
    next hnot =>
      have hle := Int32.le_of_lt (Int32.not_le.mp hnot)
      exact ⟨fun h => ⟨h, Int32.le_trans hle h⟩, fun h => h.1⟩

namespace CaseTable

/-- The table jumps to a code address, by default or for a value. -/
def JumpsTo (t : CaseTable) (target : Cell) : Prop :=
  target = t.defaultTarget ∨ ∃ value, (value, target) ∈ t.cases

/-- The last jump target that is not past an address. -/
structure IsLastUpTo (t : CaseTable) (address target : Cell) : Prop where
  jumps : t.JumpsTo target
  le : target ≤ address
  last : ∀ other, t.JumpsTo other → other ≤ address → other ≤ target

variable {t : CaseTable} {address target : Cell}

theorem mem_targets_iff : target ∈ t.targets ↔ t.JumpsTo target := by
  simp [targets, JumpsTo]

theorem lastTargetUpTo?_eq_some_iff :
    t.lastTargetUpTo? address = some target ↔ t.IsLastUpTo address target := by
  simp only [lastTargetUpTo?, List.max?_eq_some_iff, List.mem_filter, mem_targets_iff,
    decide_eq_true_eq, and_imp]
  constructor
  · rintro ⟨⟨hjumps, hle⟩, hlast⟩
    exact ⟨hjumps, hle, hlast⟩
  · intro h
    exact ⟨⟨h.jumps, h.le⟩, h.last⟩

end CaseTable

namespace StateInfo

open CaseTable

variable {t : CaseTable} {entry value : Cell}

theorem mem_casesTo_iff : value ∈ casesTo t entry ↔ (value, entry) ∈ t.cases := by
  simp [casesTo, mem_eraseReps]

theorem casesTo_ascending (t : CaseTable) (entry : Cell) :
    (casesTo t entry).Pairwise (· < ·) := by
  have htrans (a b c : Cell) (hab : decide (a ≤ b) = true) (hbc : decide (b ≤ c) = true) :
      decide (a ≤ c) = true :=
    decide_eq_true (Int32.le_trans (of_decide_eq_true hab) (of_decide_eq_true hbc))
  have htotal (a b : Cell) : (decide (a ≤ b) || decide (b ≤ a)) = true := by
    simpa using Int32.le_total a b
  exact pairwise_lt_eraseReps ((List.pairwise_mergeSort htrans htotal _).imp of_decide_eq_true)

theorem casesTo_eq_nil_iff : casesTo t entry = [] ↔ ¬ ∃ value, (value, entry) ∈ t.cases := by
  simp only [List.eq_nil_iff_forall_not_mem, mem_casesTo_iff, not_exists]

/-- The start of the body that holds an address: of the function there, or else the last jump target. -/
inductive BodyStart (debug : DebugStore) (t : CaseTable) (address : Cell) : Cell → Prop
  | function (body : DebugSymbol) (hbody : debug.function? address = some body) :
      BodyStart debug t address body.codeStart
  | target (start : Cell) (hnone : debug.function? address = none)
      (hlast : t.IsLastUpTo address start) : BodyStart debug t address start

/-- The states of a body that a stub leads to. -/
structure Reports (dispatch : StateDispatch) (entry : Cell) (info : StateInfo) : Prop where
  entry_eq : info.entry = entry
  stateVariable_eq : info.stateVariable = dispatch.stateVariable
  ascending : info.states.Pairwise (· < ·)
  nonempty : info.states ≠ []
  byCase : (∃ value, (value, entry) ∈ dispatch.table.cases) →
    (∀ value, value ∈ info.states ↔ (value, entry) ∈ dispatch.table.cases) ∧
      info.viaDefault = false
  byDefault : (¬ ∃ value, (value, entry) ∈ dispatch.table.cases) →
    info.states = [0] ∧ info.viaDefault = true

variable {m : Machine} {debug : DebugStore} {stub address : Cell} {dispatch : StateDispatch}
  {info : StateInfo}

theorem ofEntry?_of_case (hcase : ∃ value, (value, entry) ∈ dispatch.table.cases) :
    ofEntry? dispatch entry = some {
      entry, stateVariable := dispatch.stateVariable, states := casesTo dispatch.table entry,
      viaDefault := false } :=
  if_pos fun hnil => casesTo_eq_nil_iff.mp hnil hcase

theorem ofEntry?_of_no_case (hnone : ¬ ∃ value, (value, entry) ∈ dispatch.table.cases) :
    ofEntry? dispatch entry = if dispatch.table.defaultTarget = entry then some {
      entry, stateVariable := dispatch.stateVariable, states := [0], viaDefault := true } else none :=
  if_neg (not_not.mpr (casesTo_eq_nil_iff.mpr hnone))

theorem exists_ofEntry?_iff :
    (∃ info, ofEntry? dispatch entry = some info) ↔ dispatch.table.JumpsTo entry := by
  by_cases hcase : ∃ value, (value, entry) ∈ dispatch.table.cases
  · exact iff_of_true ⟨_, ofEntry?_of_case hcase⟩ (.inr hcase)
  · rw [ofEntry?_of_no_case hcase, CaseTable.JumpsTo, or_iff_left hcase]
    split
    next hdefault => exact iff_of_true ⟨_, rfl⟩ hdefault.symm
    next hother => exact iff_of_false (by simp) (Ne.symm hother)

theorem reports_of_ofEntry?_eq_some (h : ofEntry? dispatch entry = some info) :
    Reports dispatch entry info := by
  by_cases hcase : ∃ value, (value, entry) ∈ dispatch.table.cases
  · rw [ofEntry?_of_case hcase] at h
    obtain rfl := Option.some.inj h
    exact {
      entry_eq := rfl
      stateVariable_eq := rfl
      ascending := casesTo_ascending _ _
      nonempty := fun hnil => casesTo_eq_nil_iff.mp hnil hcase
      byCase := fun _ => ⟨fun value => mem_casesTo_iff, rfl⟩
      byDefault := fun hnone => absurd hcase hnone }
  · rw [ofEntry?_of_no_case hcase, Option.ite_none_right_eq_some] at h
    obtain rfl := Option.some.inj h.2
    exact {
      entry_eq := rfl
      stateVariable_eq := rfl
      ascending := List.pairwise_singleton _ _
      nonempty := List.cons_ne_nil _ _
      byCase := fun hsome => absurd hsome hcase
      byDefault := fun _ => ⟨rfl, rfl⟩ }

theorem resolve?_of_bodyStart (hstub : StateDispatch.at? m stub = some dispatch)
    (hstart : BodyStart debug dispatch.table address entry) :
    resolve? m debug stub address = ofEntry? dispatch entry := by
  simp only [resolve?, hstub, Option.bind_eq_bind, Option.bind_some]
  cases hstart with
  | function body hbody => simp only [hbody]
  | target start hnone hlast =>
    rw [hnone]
    simp only [lastTargetUpTo?_eq_some_iff.mpr hlast, Option.bind_some]

theorem exists_bodyStart (hstub : StateDispatch.at? m stub = some dispatch)
    (h : resolve? m debug stub address = some info) :
    ∃ start, BodyStart debug dispatch.table address start := by
  simp only [resolve?, hstub, Option.bind_eq_bind, Option.bind_some] at h
  cases hbody : debug.function? address with
  | some body => exact ⟨body.codeStart, .function body hbody⟩
  | none =>
    rw [hbody] at h
    obtain ⟨start, hstart, -⟩ := Option.bind_eq_some_iff.mp h
    exact ⟨start, .target start hbody (lastTargetUpTo?_eq_some_iff.mp hstart)⟩

/-- States are found when the table jumps to the body that holds the address, and they are the states
that lead there. A function that starts at the last jump target changes nothing. -/
theorem resolve?_reports_states (debug : DebugStore) (address : Cell)
    (hstub : StateDispatch.at? m stub = some dispatch) :
    ((∃ info, resolve? m debug stub address = some info) ↔
      ∃ start, BodyStart debug dispatch.table address start ∧ dispatch.table.JumpsTo start) ∧
    (∀ start info, BodyStart debug dispatch.table address start →
      resolve? m debug stub address = some info → Reports dispatch start info) ∧
    (∀ body, debug.function? address = some body →
      dispatch.table.IsLastUpTo address body.codeStart →
        resolve? m debug stub address = resolve? m .empty stub address) := by
  refine ⟨⟨?_, ?_⟩, ?_, ?_⟩
  · rintro ⟨info, h⟩
    obtain ⟨start, hstart⟩ := exists_bodyStart hstub h
    rw [resolve?_of_bodyStart hstub hstart] at h
    exact ⟨start, hstart, exists_ofEntry?_iff.mp ⟨info, h⟩⟩
  · rintro ⟨start, hstart, hjumps⟩
    rw [resolve?_of_bodyStart hstub hstart]
    exact exists_ofEntry?_iff.mpr hjumps
  · intro start info hstart h
    rw [resolve?_of_bodyStart hstub hstart] at h
    exact reports_of_ofEntry?_eq_some h
  · intro body hbody hlast
    rw [resolve?_of_bodyStart hstub (.function body hbody),
      resolve?_of_bodyStart hstub (.target body.codeStart rfl hlast)]

/-- The function of the body that two states share. -/
def bodySymbol : DebugSymbol where
  name := "Respawn"
  address := 64
  tag := 0
  codeStart := 64
  codeEnd := 80
  kind := .function
  storage := .global
  dimensions := []

def bodyStore : DebugStore where
  symbols := [bodySymbol]

/-- The same two states are found for an address in their body, with its function or without it. -/
theorem resolve?_reports_states_stateProgram :
    StateDispatch.at? (stateProgram.loaded none 0) 0 = some ⟨512, stateTable⟩ ∧
    (∃ info, resolve? (stateProgram.loaded none 0) bodyStore 0 72 = some info ∧
      Reports ⟨512, stateTable⟩ 64 info) ∧
    resolve? (stateProgram.loaded none 0) bodyStore 0 72 =
      resolve? (stateProgram.loaded none 0) .empty 0 72 := by
  have hstub : StateDispatch.at? (stateProgram.loaded none 0) 0 = some ⟨512, stateTable⟩ := by
    decide +kernel
  have hbody : bodyStore.function? 72 = some bodySymbol := rfl
  have hlast : stateTable.IsLastUpTo 72 64 := lastTargetUpTo?_eq_some_iff.mp (by decide)
  obtain ⟨hfound, hreports, hsame⟩ := resolve?_reports_states bodyStore 72 hstub
  have hstart : BodyStart bodyStore stateTable 72 bodySymbol.codeStart := .function bodySymbol hbody
  obtain ⟨info, hinfo⟩ := hfound.mpr ⟨_, hstart, hlast.jumps⟩
  exact ⟨hstub, ⟨info, hinfo, hreports _ info hstart hinfo⟩, hsame _ hbody hlast⟩

end StateInfo

end AmxTrace
