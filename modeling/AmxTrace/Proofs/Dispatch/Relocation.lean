import AmxTrace.Proofs.Dispatch.Stub

/-! # Relocated programs -/

namespace AmxTrace

/-- An operand of an instruction: a value, which a loader leaves alone, or a code address. -/
inductive Operand where
  | value (cell : Cell)
  | target (address : Cell)

def Operand.word (base : Cell) : Operand → Cell
  | value cell => cell
  | target address => address + base

/-- An instruction with its operands. Those of a stub are named, others have a number. -/
inductive Instruction where
  | proc
  | loadPri (address : Cell)
  | switch (table : Cell)
  | casetbl (table : CaseTable)
  | other (number : Nat) (notNamed : number ∉ [46, 1, 129, 130]) (operands : List Operand)

namespace Instruction

def number : Instruction → Nat
  | proc => 46
  | loadPri _ => 1
  | switch _ => 129
  | casetbl _ => 130
  | other number _ _ => number

def words (m : Machine) : Instruction → List Cell
  | proc => [m.word .proc]
  | loadPri address => [m.word .loadPri, address]
  | switch table => [m.word .switch, table + m.codeBase]
  | casetbl table => table.words m
  | other number _ operands =>
    Opcode.wordOf m.opcodeMap number :: operands.map (Operand.word m.codeBase)

/-- Number of words of an instruction, wherever it is loaded. -/
def length : Instruction → Nat
  | proc => 1
  | loadPri _ => 2
  | switch _ => 2
  | casetbl table => 3 + 2 * table.cases.length
  | other _ _ operands => 1 + operands.length

theorem length_words (m : Machine) (i : Instruction) : (i.words m).length = i.length := by
  cases i with
  | proc => rfl
  | loadPri => rfl
  | switch => rfl
  | casetbl table =>
    have hcases := CaseTable.length_caseWords m.codeBase table.cases
    simp only [words, CaseTable.words, List.length_cons, hcases, length]
    omega
  | other =>
    simp only [words, List.length_cons, List.length_map, length]
    omega

theorem exists_words_eq (m : Machine) (i : Instruction) :
    ∃ operands, i.words m = Opcode.wordOf m.opcodeMap i.number :: operands := by
  cases i <;> exact ⟨_, rfl⟩

theorem eq_of_number {i : Instruction} {op : Opcode} (h : i.number = op.number) :
    match op with
    | .proc => i = .proc
    | .loadPri => ∃ address, i = .loadPri address
    | .switch => ∃ table, i = .switch table
    | .casetbl => ∃ table, i = .casetbl table
    | _ => True := by
  cases i with
  | proc => cases op <;> simp [number, Opcode.number] at h ⊢
  | loadPri => cases op <;> simp [number, Opcode.number] at h ⊢
  | switch => cases op <;> simp [number, Opcode.number] at h ⊢
  | casetbl => cases op <;> simp [number, Opcode.number] at h ⊢
  | other code notNamed operands =>
    have hcode : code = op.number := h
    subst hcode
    cases op <;> simp [Opcode.number] at notNamed ⊢

end Instruction

abbrev Program := List Instruction

namespace Program

def size (program : Program) : Nat := 4 * (program.map Instruction.length).sum

def Continues (program : Program) (place : Int) (rest : Program) : Prop :=
  ∃ before, program = before ++ rest ∧ place = size before

/-- Each switch leads to an instruction of the program. -/
def SwitchesLand (program : Program) : Prop :=
  ∀ table, .switch table ∈ program →
    ∃ i rest, program.Continues (Int32.toInt table) (i :: rest)

def HasStub (program : Program) (place : Int) (stub : StateDispatch) : Prop :=
  ∃ table after others,
    program.Continues place (.proc :: .loadPri stub.stateVariable :: .switch table :: after) ∧
    program.Continues (Int32.toInt table) (.casetbl stub.table :: others)

theorem Continues.mem {program rest : Program} {place : Int} {i : Instruction}
    (h : program.Continues place (i :: rest)) : i ∈ program := by
  obtain ⟨before, rfl, -⟩ := h
  simp

theorem Continues.next {program rest : Program} {place : Int} {i : Instruction}
    (h : program.Continues place (i :: rest)) : program.Continues (place + 4 * i.length) rest := by
  obtain ⟨before, rfl, rfl⟩ := h
  refine ⟨before ++ [i], by simp, ?_⟩
  simp only [size, List.map_append, List.sum_append, List.map_cons, List.map_nil, List.sum_cons,
    List.sum_nil]
  omega

end Program

namespace Machine

/-- The code of a machine is a program, loaded with its words and its base. -/
structure Loads (m : Machine) (program : Program) : Prop where
  code : m.code = Segment.ofCells (program.flatMap (Instruction.words m))
  hasWord : ∀ i ∈ program, Opcode.HasWord m.opcodeMap i.number

variable {m : Machine} {program rest : Program} {place : Int} {i : Instruction}

theorem holdsWords_ofCells {cells : List Cell} (hsize : m.code.size < 2 ^ 31)
    (hcode : m.code = Segment.ofCells cells) : m.HoldsWords 0 cells := by
  intro index word hword
  obtain ⟨hlt, -⟩ := List.getElem?_eq_some_iff.mp hword
  have hbytes := Segment.size_ofCells cells
  rw [← hcode] at hbytes
  have haddress : (Int32.ofInt (0 + 4 * index)).toInt = 0 + 4 * index :=
    Int32.toInt_ofInt_of_le (by omega) (by omega)
  have hoffset : Cell.offset? (Int32.ofInt (0 + 4 * index)) = some (4 * index) := by
    rw [Cell.offset?_eq_some_iff, haddress]
    omega
  rw [wordAt?, Cell.ofInt?_eq_some_iff.mpr haddress, Option.bind_some, codeCell?, Segment.cellAt?,
    hoffset, Option.bind_some, hcode]
  exact Segment.cellFrom?_ofCells hword

theorem length_flatMap_words (m : Machine) (program : Program) :
    4 * (program.flatMap (Instruction.words m)).length = program.size := by
  rw [List.length_flatMap, Program.size]
  simp only [Instruction.length_words]

theorem Loads.holdsWords (hload : m.Loads program) (hm : m.Legible)
    (h : program.Continues place rest) :
    m.HoldsWords place (rest.flatMap (Instruction.words m)) := by
  obtain ⟨before, rfl, rfl⟩ := h
  have hwords := holdsWords_ofCells hm.size hload.code
  rw [List.flatMap_append, holdsWords_append_iff] at hwords
  have hplace := length_flatMap_words m before
  have hcast : (0 : Int) + 4 * (before.flatMap (Instruction.words m)).length = before.size := by
    omega
  rw [hcast] at hwords
  exact hwords.2

theorem Loads.holdsWords_first (hload : m.Loads program) (hm : m.Legible)
    (h : program.Continues place (i :: rest)) : m.HoldsWords place (i.words m) := by
  have hwords := hload.holdsWords hm h
  rw [List.flatMap_cons] at hwords
  exact (holdsWords_append_iff.mp hwords).1

theorem Loads.exists_instruction (hload : m.Loads program) (hm : m.Legible)
    (h : program.Continues place rest) {op : Opcode} (hword : m.wordAt? place = some (m.word op)) :
    ∃ i after, rest = i :: after ∧ i.number = op.number := by
  cases rest with
  | nil =>
    -- no word can be read at the end of the code
    obtain ⟨before, rfl, rfl⟩ := h
    have hroom := (inside_of_wordAt? hword).2
    have hsize := Segment.size_ofCells ((before ++ []).flatMap (Instruction.words m))
    rw [← hload.code, length_flatMap_words, List.append_nil] at hsize
    omega
  | cons i after =>
    have hwords := hload.holdsWords_first hm h
    obtain ⟨operands, hoperands⟩ := Instruction.exists_words_eq m i
    rw [hoperands, holdsWords_cons_iff, hword] at hwords
    have hsame := Opcode.wordOf_injective hm.distinct (hload.hasWord i h.mem) (hm.hasWord op)
      (Option.some.inj hwords.1).symm
    exact ⟨i, after, rfl, hsame⟩

theorem Loads.proc_at (hload : m.Loads program) (hm : m.Legible) (h : program.Continues place rest)
    (hwords : m.HoldsWords place [m.word .proc]) :
    ∃ after, rest = .proc :: after ∧ program.Continues (place + 4) after := by
  obtain ⟨first, after, rfl, hnumber⟩ :=
    hload.exists_instruction hm h (holdsWords_cons_iff.mp hwords).1
  obtain rfl : first = .proc := Instruction.eq_of_number hnumber
  exact ⟨after, rfl, h.next⟩

theorem Loads.loadPri_at (hload : m.Loads program) (hm : m.Legible)
    (h : program.Continues place rest) {address : Cell}
    (hwords : m.HoldsWords place [m.word .loadPri, address]) :
    ∃ after, rest = .loadPri address :: after ∧ program.Continues (place + 8) after := by
  obtain ⟨first, after, rfl, hnumber⟩ :=
    hload.exists_instruction hm h (holdsWords_cons_iff.mp hwords).1
  obtain ⟨own, rfl⟩ : ∃ own, first = .loadPri own := Instruction.eq_of_number hnumber
  obtain rfl : address = own := by
    have hsame := hwords.unique (hload.holdsWords_first hm h) rfl
    simpa [Instruction.words] using hsame
  exact ⟨after, rfl, h.next⟩

theorem Loads.switch_at (hload : m.Loads program) (hm : m.Legible)
    (h : program.Continues place rest) {target : Cell}
    (hwords : m.HoldsWords place [m.word .switch, target]) :
    ∃ table after, rest = .switch table :: after ∧ target = table + m.codeBase := by
  obtain ⟨first, after, rfl, hnumber⟩ :=
    hload.exists_instruction hm h (holdsWords_cons_iff.mp hwords).1
  obtain ⟨own, rfl⟩ : ∃ own, first = .switch own := Instruction.eq_of_number hnumber
  have hsame := hwords.unique (hload.holdsWords_first hm h) rfl
  exact ⟨own, after, rfl, by simpa [Instruction.words] using hsame⟩

theorem Loads.casetbl_at (hload : m.Loads program) (hm : m.Legible) {address : Cell}
    (h : program.Continues address.toInt rest) {table : CaseTable}
    (hwords : m.HoldsWords address.toInt (table.words m)) :
    ∃ after, rest = .casetbl table :: after := by
  obtain ⟨first, after, rfl, hnumber⟩ :=
    hload.exists_instruction hm h (holdsWords_cons_iff.mp hwords).1
  obtain ⟨own, rfl⟩ : ∃ own, first = .casetbl own := Instruction.eq_of_number hnumber
  -- the counts of cases may differ, so the words are not compared one by one
  have hread := (CaseTable.read?_eq_some_iff hm).mpr (hload.holdsWords_first hm h)
  rw [(CaseTable.read?_eq_some_iff hm).mpr hwords] at hread
  obtain rfl : table = own := Option.some.inj hread
  exact ⟨after, rfl⟩

end Machine

namespace StateDispatch

variable {m : Machine} {program : Program}

theorem at?_eq_some_iff_hasStub (hm : m.Legible) (hload : m.Loads program)
    (hland : program.SwitchesLand) {function : Cell} {rest : Program}
    (hstart : program.Continues function.toInt rest) {stub : StateDispatch} :
    at? m function = some stub ↔ program.HasStub function.toInt stub := by
  rw [at?_eq_some_iff hm]
  constructor
  · rintro ⟨place, hwords, htable⟩
    obtain ⟨hproc, hwords⟩ := Machine.holdsWords_append_iff.mp
      (show m.HoldsWords _ ([m.word .proc] ++ _) from hwords)
    obtain ⟨hloadPri, hswitch⟩ := Machine.holdsWords_append_iff.mp
      (show m.HoldsWords _ ([m.word .loadPri, stub.stateVariable] ++ _) from hwords)
    obtain ⟨rest, rfl, hsecond⟩ := hload.proc_at hm hstart hproc
    obtain ⟨rest, rfl, hthird⟩ := hload.loadPri_at hm hsecond hloadPri
    obtain ⟨table, after, rfl, rfl⟩ := hload.switch_at hm hthird hswitch
    rw [Int32.add_sub_cancel] at htable
    obtain ⟨landed, others, hlanded⟩ := hland table hthird.mem
    obtain ⟨others, hother⟩ := hload.casetbl_at hm hlanded htable
    rw [hother] at hlanded
    exact ⟨table, after, others, hstart, hlanded⟩
  · rintro ⟨table, after, others, hstub, htable⟩
    have hwords : m.HoldsWords _ ([m.word .proc, m.word .loadPri, stub.stateVariable,
        m.word .switch, table + m.codeBase] ++ after.flatMap (Instruction.words m)) :=
      hload.holdsWords hm hstub
    refine ⟨table + m.codeBase, (Machine.holdsWords_append_iff.mp hwords).1, ?_⟩
    rw [Int32.add_sub_cancel]
    exact hload.holdsWords_first hm htable

/-- A stub is read exactly where the words of a dispatch stand and lead to the words of its table; and
where a program has an instruction, the stub read there is the same however the program is loaded. -/
theorem accepts_exactly_stubs (hm : m.Legible) :
    (∀ function stateVariable defaultTarget cases,
      at? m function = some ⟨stateVariable, ⟨defaultTarget, cases⟩⟩ ↔ ∃ place,
        m.HoldsWords function.toInt
          [m.word .proc, m.word .loadPri, stateVariable, m.word .switch, place] ∧
        m.HoldsWords (place - m.codeBase).toInt
          (m.word .casetbl :: Int32.ofNat cases.length :: (defaultTarget + m.codeBase) ::
            cases.flatMap fun c => [c.1, c.2 + m.codeBase])) ∧
    ∀ (copy : Machine) (program : Program), copy.Legible → m.Loads program → copy.Loads program →
      program.SwitchesLand → ∀ (function : Cell) (rest : Program),
        program.Continues function.toInt rest → at? copy function = at? m function := by
  refine ⟨fun function stateVariable defaultTarget cases => at?_eq_some_iff hm, ?_⟩
  intro copy program hcopy hload hloadCopy hland function rest hstart
  apply Option.ext
  intro stub
  rw [at?_eq_some_iff_hasStub hcopy hloadCopy hland hstart,
    at?_eq_some_iff_hasStub hm hload hland hstart]

end StateDispatch

def Program.loaded (program : Program) (map : Option (List Cell)) (base : Cell) : Machine :=
  let loader : Machine := { id := 0, code := .empty, data := .empty, registers := {},
                            codeBase := base, opcodeMap := map }
  { loader with code := Segment.ofCells (program.flatMap (Instruction.words loader)) }

theorem Program.loads_loaded {program : Program} {map : Option (List Cell)} {base : Cell}
    (h : ∀ i ∈ program, Opcode.HasWord map i.number) : (program.loaded map base).Loads program :=
  ⟨rfl, h⟩

theorem Program.legible_loaded {program : Program} {map : Option (List Cell)} (base : Cell)
    (hsize : program.size < 2 ^ 31) (hmap : ∀ words ∈ map, 130 < words.length ∧ words.Nodup) :
    (program.loaded map base).Legible := by
  refine ⟨?_, hmap⟩
  change (Segment.ofCells (program.flatMap (Instruction.words _))).size < 2 ^ 31
  rwa [Segment.size_ofCells, Machine.length_flatMap_words]

/-- Two states share a body, a third one has a body of its own, and so have all others. -/
def stateTable : CaseTable := ⟨96, [(1, 64), (2, 80), (3, 64)]⟩

/-- A stub with its table, and the bodies that the table leads to. -/
def stateProgram : Program :=
  let body : Program := [.proc, .loadPri 4, .other 48 (by decide) []]
  [.proc, .loadPri 512, .switch 20, .casetbl stateTable, .other 51 (by decide) [.target 56]] ++
    body ++ body ++ body

/-- Words of a loader for the instructions up to the last one of a stub. -/
def loaderWords : List Cell := (List.range 131).map fun number => Int32.ofNat (4096 + 16 * number)

theorem nodup_loaderWords : loaderWords.Nodup := by
  refine List.Nodup.map_on ?_ List.nodup_range
  intro number hnumber other hother h
  rw [List.mem_range] at hnumber hother
  rw [← Int32.toInt_inj, Int32.toInt_ofNat_of_lt (by omega), Int32.toInt_ofNat_of_lt (by omega)] at h
  omega

theorem StateDispatch.accepts_exactly_stubs_stateProgram :
    (stateProgram.loaded none 0).Legible ∧
    StateDispatch.at? (stateProgram.loaded none 0) 0 = some ⟨512, stateTable⟩ ∧
    StateDispatch.at? (stateProgram.loaded (some loaderWords) 16384) 0 =
      StateDispatch.at? (stateProgram.loaded none 0) 0 := by
  have hplain : (stateProgram.loaded none 0).Legible :=
    Program.legible_loaded 0 (by decide) (by simp)
  have hcopy : (stateProgram.loaded (some loaderWords) 16384).Legible :=
    Program.legible_loaded 16384 (by decide) (by
      rintro words ⟨⟩
      exact ⟨by simp [loaderWords], nodup_loaderWords⟩)
  have hload : (stateProgram.loaded none 0).Loads stateProgram :=
    Program.loads_loaded (by simp [stateProgram, Opcode.HasWord, Instruction.number])
  have hloadCopy : (stateProgram.loaded (some loaderWords) 16384).Loads stateProgram :=
    Program.loads_loaded
      (by simp [stateProgram, Opcode.HasWord, Instruction.number, loaderWords])
  have hstart : stateProgram.Continues 0 stateProgram := ⟨[], rfl, rfl⟩
  have htable : stateProgram.Continues 20 (stateProgram.drop 3) :=
    ⟨stateProgram.take 3, (List.take_append_drop 3 _).symm, by decide⟩
  have hland : stateProgram.SwitchesLand := by
    intro table hswitch
    obtain rfl : table = 20 := by simpa [stateProgram] using hswitch
    exact ⟨_, _, htable⟩
  have hexact := accepts_exactly_stubs hplain
  refine ⟨hplain, ?_, hexact.2 _ stateProgram hcopy hload hloadCopy hland 0 _ hstart⟩
  refine (hexact.1 0 512 stateTable.defaultTarget stateTable.cases).mpr ⟨20, ?_, ?_⟩
  · have hwords : (stateProgram.loaded none 0).HoldsWords 0 ([_, _, _, _, _] ++ _) :=
      hload.holdsWords hplain hstart
    exact (Machine.holdsWords_append_iff.mp hwords).1
  · exact hload.holdsWords_first hplain htable

end AmxTrace
