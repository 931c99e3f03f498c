import AmxTrace.Machine
import Mathlib.Algebra.Ring.Nat
import Mathlib.Data.List.GetD
import Mathlib.Data.List.Nodup

/-! # Words of the code -/

namespace AmxTrace

namespace Opcode

/-- A loader has a word for an instruction number. -/
def HasWord (map : Option (List Cell)) (number : Nat) : Prop :=
  match map with
  | none => number < 2 ^ 31
  | some words => number < words.length

/-- Word that stands for an instruction number. -/
def wordOf (map : Option (List Cell)) (number : Nat) : Cell :=
  match map with
  | none => Int32.ofNat number
  | some words => words.getD number 0

/-- No word stands for two instruction numbers. -/
def Distinct (map : Option (List Cell)) : Prop := ∀ words ∈ map, words.Nodup

variable {map : Option (List Cell)} {word : Cell} {number : Nat}

theorem numberOf?_eq_some_iff (hmap : Distinct map) :
    numberOf? map word = some number ↔ HasWord map number ∧ word = wordOf map number := by
  cases map with
  | none =>
    simp only [numberOf?, HasWord, wordOf, Cell.offset?_eq_some_iff]
    constructor
    · intro h
      have hhigh := word.toInt_lt
      refine ⟨by omega, ?_⟩
      rw [← Int32.toInt_inj, Int32.toInt_ofNat_of_lt (by omega), h]
    · rintro ⟨hlt, rfl⟩
      exact Int32.toInt_ofNat_of_lt hlt
  | some words =>
    have hnodup := hmap words rfl
    simp only [numberOf?, HasWord, wordOf, List.findIdx?_eq_some_iff_getElem, beq_iff_eq]
    constructor
    · rintro ⟨hlt, rfl, -⟩
      exact ⟨hlt, (List.getD_eq_getElem _ _ hlt).symm⟩
    · rintro ⟨hlt, rfl⟩
      rw [List.getD_eq_getElem _ _ hlt]
      refine ⟨hlt, rfl, fun earlier hearlier heq => ?_⟩
      have hsame := (hnodup.getElem_inj_iff).mp heq
      omega

theorem wordOf_injective (hmap : Distinct map) {other : Nat} (hnumber : HasWord map number)
    (hother : HasWord map other) (h : wordOf map number = wordOf map other) : number = other := by
  have hdecoded := (numberOf?_eq_some_iff hmap).mpr ⟨hnumber, rfl⟩
  rw [h, (numberOf?_eq_some_iff hmap).mpr ⟨hother, rfl⟩] at hdecoded
  exact (Option.some.inj hdecoded).symm

theorem ofNumber?_eq_some_iff {op : Opcode} : ofNumber? number = some op ↔ number = op.number := by
  constructor
  · intro h
    have hnumber := List.find?_some h
    exact (beq_iff_eq.mp hnumber).symm
  · rintro rfl
    exact ofNumber?_number op

theorem decode?_eq_some_iff (hmap : Distinct map) {op : Opcode} (hop : HasWord map op.number) :
    decode? map word = some op ↔ word = wordOf map op.number := by
  simp only [decode?, Option.bind_eq_some_iff, ofNumber?_eq_some_iff, exists_eq_right,
    numberOf?_eq_some_iff hmap, hop, true_and]

end Opcode

namespace Machine

def wordAt? (m : Machine) (place : Int) : Option Cell := (Cell.ofInt? place).bind m.codeCell?

/-- Words stand one after the other in the code, from a place on. -/
def HoldsWords (m : Machine) (place : Int) (words : List Cell) : Prop :=
  ∀ (index : Nat) (word : Cell), words[index]? = some word →
    m.wordAt? (place + 4 * index) = some word

variable {m : Machine} {place : Int} {word : Cell} {words : List Cell}

theorem wordAt?_toInt (m : Machine) (address : Cell) :
    m.wordAt? address.toInt = m.codeCell? address := by
  have hcell : Cell.ofInt? address.toInt = some address := Cell.ofInt?_eq_some_iff.mpr rfl
  rw [wordAt?, hcell, Option.bind_some]

theorem inside_of_wordAt? (h : m.wordAt? place = some word) :
    0 ≤ place ∧ place + 4 ≤ m.code.size := by
  obtain ⟨address, haddress, hword⟩ := Option.bind_eq_some_iff.mp h
  have hplace := Cell.ofInt?_eq_some_iff.mp haddress
  obtain ⟨offset, hoffset, hcell⟩ := Option.bind_eq_some_iff.mp hword
  have hstart := Cell.offset?_eq_some_iff.mp hoffset
  have hroom : offset + 4 ≤ m.code.size := by
    by_contra hout
    simp [Segment.cellFrom?, hout] at hcell
  omega

theorem exists_add? (hcode : m.code.size < 2 ^ 31) {address distance : Cell}
    (h : m.wordAt? place = some word) (hafter : address.toInt + distance.toInt = place + 4) :
    ∃ next, address.add? distance = some next ∧ next.toInt = address.toInt + distance.toInt := by
  obtain ⟨hzero, hroom⟩ := inside_of_wordAt? h
  have hnext : (Int32.ofInt (place + 4)).toInt = place + 4 :=
    Int32.toInt_ofInt_of_le (by omega) (by omega)
  rw [Cell.add?, hafter]
  exact ⟨_, Cell.ofInt?_eq_some_iff.mpr hnext, hnext⟩

theorem opcodeAt?_eq_some_iff (hmap : Opcode.Distinct m.opcodeMap) {op : Opcode}
    (hop : Opcode.HasWord m.opcodeMap op.number) {address : Cell} :
    m.opcodeAt? address = some op ↔
      m.wordAt? address.toInt = some (Opcode.wordOf m.opcodeMap op.number) := by
  simp only [opcodeAt?, Option.bind_eq_some_iff, Opcode.decode?_eq_some_iff hmap hop,
    exists_eq_right, wordAt?_toInt]

theorem holdsWords_nil (m : Machine) (place : Int) : m.HoldsWords place [] := by
  intro index word h
  simp at h

theorem holdsWords_cons_iff : m.HoldsWords place (word :: words) ↔
    m.wordAt? place = some word ∧ m.HoldsWords (place + 4) words := by
  have hstep (index : Nat) : place + 4 * (index + 1 : Nat) = place + 4 + 4 * index := by omega
  constructor
  · intro h
    refine ⟨by simpa using h 0 word rfl, fun index other hother => ?_⟩
    rw [← hstep]
    exact h (index + 1) other hother
  · rintro ⟨hfirst, hrest⟩ index other hother
    cases index with
    | zero => simpa [hfirst] using hother
    | succ index =>
      rw [hstep]
      exact hrest index other hother

theorem holdsWords_append_iff {others : List Cell} : m.HoldsWords place (words ++ others) ↔
    m.HoldsWords place words ∧ m.HoldsWords (place + 4 * words.length) others := by
  induction words generalizing place with
  | nil => simp [holdsWords_nil]
  | cons first rest ih =>
    have hplace : place + 4 + 4 * rest.length = place + 4 * (first :: rest).length := by
      rw [List.length_cons]
      omega
    rw [List.cons_append, holdsWords_cons_iff, ih, holdsWords_cons_iff, and_assoc, hplace]

theorem HoldsWords.unique {others : List Cell} (h : m.HoldsWords place words)
    (hothers : m.HoldsWords place others) (hlength : words.length = others.length) :
    words = others := by
  apply List.ext_getElem hlength
  intro index hword hother
  have hstands := h index _ (List.getElem?_eq_getElem hword)
  rw [hothers index _ (List.getElem?_eq_getElem hother)] at hstands
  exact (Option.some.inj hstands).symm

theorem HoldsWords.end_le (h : m.HoldsWords place words) (hwords : words ≠ []) :
    0 ≤ place ∧ place + 4 * words.length ≤ m.code.size := by
  induction words generalizing place with
  | nil => exact absurd rfl hwords
  | cons first rest ih =>
    obtain ⟨hfirst, hrest⟩ := holdsWords_cons_iff.mp h
    have hinside := inside_of_wordAt? hfirst
    rw [List.length_cons]
    by_cases hempty : rest = []
    · subst hempty
      simpa using hinside
    · have hend := ih hrest hempty
      omega

end Machine

end AmxTrace
