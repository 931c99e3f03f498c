import AmxTrace.Dispatch
import AmxTrace.Proofs.Machine.Words

/-! # Dispatch stubs in the code -/

namespace AmxTrace

/-- Code that cells can address, and words of its own for each instruction of a stub. -/
structure Machine.Legible (m : Machine) : Prop where
  size : m.code.size < 2 ^ 31
  map : ∀ words ∈ m.opcodeMap, 130 < words.length ∧ words.Nodup

namespace Machine

variable {m : Machine}

theorem Legible.distinct (h : m.Legible) : Opcode.Distinct m.opcodeMap :=
  fun words hwords => (h.map words hwords).2

theorem Legible.hasWord (h : m.Legible) (op : Opcode) : Opcode.HasWord m.opcodeMap op.number := by
  have hle : op.number ≤ 130 := by cases op <;> decide
  have hmap := h.map
  unfold Opcode.HasWord
  cases hwords : m.opcodeMap with
  | none => exact Nat.lt_of_le_of_lt hle (by decide)
  | some words => exact Nat.lt_of_le_of_lt hle (hmap words hwords).1

/-- Word that stands for an instruction in the code. -/
def word (m : Machine) (op : Opcode) : Cell := Opcode.wordOf m.opcodeMap op.number

theorem Legible.opcodeAt?_eq_some_iff (h : m.Legible) {op : Opcode} {address : Cell} :
    m.opcodeAt? address = some op ↔ m.wordAt? address.toInt = some (m.word op) :=
  Machine.opcodeAt?_eq_some_iff h.distinct (h.hasWord op)

theorem bind_add?_bind (m : Machine) (address distance : Cell) {α : Type} (next : Cell → Option α) :
    (address.add? distance).bind (fun sum => (m.codeCell? sum).bind next) =
      (m.wordAt? (address.toInt + distance.toInt)).bind next := by
  rw [wordAt?, Option.bind_assoc]
  rfl

theorem Legible.hasOpcode_iff (h : m.Legible) {op : Opcode} {address distance : Cell} :
    StateDispatch.hasOpcode m address distance op = true ↔
      m.wordAt? (address.toInt + distance.toInt) = some (m.word op) := by
  simp only [StateDispatch.hasOpcode, beq_iff_eq, Option.bind_eq_some_iff, h.opcodeAt?_eq_some_iff,
    wordAt?_toInt]
  exact Option.bind_eq_some_iff.symm

end Machine

namespace CaseTable

def caseWords (base : Cell) (cases : List (Cell × Cell)) : List Cell :=
  cases.flatMap fun c => [c.1, c.2 + base]

def words (m : Machine) (t : CaseTable) : List Cell :=
  m.word .casetbl :: Int32.ofNat t.cases.length :: (t.defaultTarget + m.codeBase) ::
    caseWords m.codeBase t.cases

theorem length_caseWords (base : Cell) (cases : List (Cell × Cell)) :
    (caseWords base cases).length = 2 * cases.length := by
  induction cases with
  | nil => rfl
  | cons first rest ih =>
    have hcons : caseWords base (first :: rest) =
        first.1 :: (first.2 + base) :: caseWords base rest := rfl
    rw [hcons, List.length_cons, List.length_cons, ih, List.length_cons]
    omega

variable {m : Machine}

theorem length_cases_le {place : Int} {cases : List (Cell × Cell)}
    (h : m.HoldsWords place (caseWords m.codeBase cases)) : cases.length ≤ m.code.size / 8 := by
  by_cases hempty : cases = []
  · simp [hempty]
  · have hlength := length_caseWords m.codeBase cases
    have hpos := List.length_pos_iff.mpr hempty
    have hwords : caseWords m.codeBase cases ≠ [] := by
      rw [← List.length_pos_iff]
      omega
    have hend := h.end_le hwords
    omega

theorem readCases_eq_some_iff (hcode : m.code.size < 2 ^ 31) {count : Nat} {slot : Cell}
    {cases : List (Cell × Cell)} : readCases m count slot = some cases ↔
      cases.length = count ∧ m.HoldsWords slot.toInt (caseWords m.codeBase cases) := by
  have height : (8 : Cell).toInt = 8 := by decide
  induction count generalizing slot cases with
  | zero =>
    rw [readCases, List.length_eq_zero_iff, Option.some.injEq]
    constructor
    · rintro rfl
      exact ⟨rfl, Machine.holdsWords_nil m _⟩
    · rintro ⟨rfl, -⟩
      rfl
  | succ count ih =>
    have hplace : slot.toInt + 4 + 4 = slot.toInt + (8 : Cell).toInt := by omega
    simp only [readCases, Option.bind_eq_bind, Option.pure_def, Machine.bind_add?_bind,
      Int32.reduceToInt, Option.bind_eq_some_iff, Option.some.injEq]
    constructor
    · rintro ⟨value, hvalue, target, htarget, next, hnext, others, hothers, rfl⟩
      obtain ⟨rfl, hrest⟩ := ih.mp hothers
      refine ⟨rfl, ?_⟩
      change m.HoldsWords slot.toInt (value :: (target - m.codeBase + m.codeBase) ::
        caseWords m.codeBase others)
      rw [Int32.sub_add_cancel, Machine.holdsWords_cons_iff, Machine.holdsWords_cons_iff,
        Machine.wordAt?_toInt, hplace, ← Cell.toInt_of_add?_eq_some hnext]
      exact ⟨hvalue, htarget, hrest⟩
    · rintro ⟨hlength, hwords⟩
      cases cases with
      | nil => simp at hlength
      | cons first others =>
        change m.HoldsWords slot.toInt (first.1 :: (first.2 + m.codeBase) ::
          caseWords m.codeBase others) at hwords
        rw [Machine.holdsWords_cons_iff, Machine.holdsWords_cons_iff, Machine.wordAt?_toInt,
          hplace] at hwords
        obtain ⟨hvalue, htarget, hrest⟩ := hwords
        obtain ⟨next, hnext, hafter⟩ := Machine.exists_add? hcode htarget hplace.symm
        rw [← hafter] at hrest
        refine ⟨first.1, hvalue, first.2 + m.codeBase, htarget, next, hnext, others, ?_, ?_⟩
        · exact ih.mpr ⟨by simpa using hlength, hrest⟩
        · rw [Int32.add_sub_cancel]

theorem read?_eq_some_iff (h : m.Legible) {address : Cell} {t : CaseTable} :
    read? m address = some t ↔ m.HoldsWords address.toInt (t.words m) := by
  have htwelve : (12 : Cell).toInt = 12 := by decide
  simp only [read?, Option.bind_eq_bind, Option.pure_def, Machine.bind_add?_bind, Int32.reduceToInt,
    Option.bind_none, Option.ite_none_left_eq_some, Option.bind_eq_some_iff, Option.some.injEq,
    Cell.offset?_eq_some_iff, h.opcodeAt?_eq_some_iff, words, Machine.holdsWords_cons_iff,
    Int.add_assoc, Int.reduceAdd, readCases_eq_some_iff h.size]
  constructor
  · rintro ⟨op, hop, hcasetbl, count, hcount, _, hnumber, -, target, htarget, slot, hslot, cases,
      ⟨rfl, hcases⟩, rfl⟩
    obtain rfl : op = .casetbl := not_not.mp hcasetbl
    rw [Cell.toInt_of_add?_eq_some hslot, htwelve] at hcases
    have hlength : Int32.ofNat cases.length = count := by
      rw [← Int32.ofInt_toInt count, hnumber, Int32.ofInt_eq_ofNat]
    rw [hlength, Int32.sub_add_cancel]
    exact ⟨hop, hcount, htarget, hcases⟩
  · rintro ⟨hop, hcount, htarget, hcases⟩
    have hplace : address.toInt + (12 : Cell).toInt = address.toInt + 8 + 4 := by omega
    obtain ⟨slot, hslot, hafter⟩ := Machine.exists_add? h.size htarget hplace
    rw [htwelve] at hafter
    rw [← hafter] at hcases
    have hroom := length_cases_le hcases
    have hsize := h.size
    have hnumber : (Int32.ofNat t.cases.length).toInt = t.cases.length :=
      Int32.toInt_ofNat_of_lt (by omega)
    refine ⟨.casetbl, hop, by simp, _, hcount, _, hnumber, by omega, _, htarget, slot, hslot,
      t.cases, ⟨rfl, hcases⟩, ?_⟩
    rw [Int32.add_sub_cancel]

end CaseTable

namespace StateDispatch

variable {m : Machine}

/-- A stub is read exactly where its words stand and lead to the words of its table. -/
theorem at?_eq_some_iff (h : m.Legible) {function : Cell} {stub : StateDispatch} :
    at? m function = some stub ↔ ∃ place,
      m.HoldsWords function.toInt
        [m.word .proc, m.word .loadPri, stub.stateVariable, m.word .switch, place] ∧
      m.HoldsWords (place - m.codeBase).toInt (stub.table.words m) := by
  simp only [at?, Option.bind_eq_bind, Option.pure_def, Machine.bind_add?_bind, Int32.reduceToInt,
    Option.bind_none, Option.ite_none_left_eq_some, Option.bind_eq_some_iff, Option.some.injEq,
    not_not, h.hasOpcode_iff, Int.add_zero, CaseTable.read?_eq_some_iff h,
    Machine.holdsWords_cons_iff, Machine.holdsWords_nil, and_true, Int.add_assoc, Int.reduceAdd]
  constructor
  · rintro ⟨⟨hproc, hload, hswitch⟩, state, hstate, place, hplace, table, htable, rfl⟩
    exact ⟨place, ⟨hproc, hload, hstate, hswitch, hplace⟩, htable⟩
  · rintro ⟨place, ⟨hproc, hload, hstate, hswitch, hplace⟩, htable⟩
    exact ⟨⟨hproc, hload, hswitch⟩, stub.stateVariable, hstate, place, hplace, stub.table,
      htable, rfl⟩

end StateDispatch

end AmxTrace
