import AmxTrace.Proofs.Frame.Activation
import AmxTrace.Proofs.Renderer.ArgumentText
import AmxTrace.Proofs.Text.CellString

/-! # String arguments -/

namespace AmxTrace

namespace Machine

/-- Cells lie one after the other in the data, from an address on. -/
def HoldsCells (m : Machine) (address : Cell) (cells : List Cell) : Prop :=
  ∀ index (h : index < cells.length), m.cellPast? address (4 * index) = some cells[index]

variable {m : Machine} {address : Cell}

theorem HoldsCells.head {cell : Cell} {rest : List Cell} (h : m.HoldsCells address (cell :: rest)) :
    m.dataCell? address = some cell := by
  have hcell := dataCell?_add 0 (h 0 (by simp)) rfl
  rwa [Int32.add_zero] at hcell

theorem HoldsCells.tail {cell next : Cell} {rest : List Cell}
    (h : m.HoldsCells address (cell :: rest)) (hnext : address.add? Cell.width = some next) :
    m.HoldsCells next rest := by
  intro index hindex
  have hwidth : Cell.width.toInt = 4 := by decide
  have hstep := Cell.toInt_of_add?_eq_some hnext
  have hcell := h (index + 1) (by simpa using hindex)
  obtain ⟨hfits, target, htarget, hvalue⟩ := cellPast?_iff_toInt.mp hcell
  exact cellPast?_iff_toInt.mpr ⟨by omega, target, by omega, by simpa using hvalue⟩

theorem HoldsCells.exists_next {first second : Cell} {rest : List Cell}
    (h : m.HoldsCells address (first :: second :: rest)) :
    ∃ next, address.add? Cell.width = some next := by
  have hwidth : Cell.width.toInt = 4 := by decide
  obtain ⟨-, target, htarget, -⟩ := cellPast?_iff_toInt.mp (h 1 (by simp))
  refine ⟨target, Cell.ofInt?_eq_some_iff.mpr ?_⟩
  omega

theorem HoldsCells.take_prefix_dataCells {cells : List Cell} (h : m.HoldsCells address cells)
    (count : Nat) : cells.take count <+: m.dataCells address count := by
  induction count generalizing cells address with
  | zero => simp
  | succ count ih =>
    cases cells with
    | nil => simp
    | cons cell rest =>
      rw [dataCells, h.head, List.take_succ_cons]
      apply List.cons_prefix_cons.mpr
      refine ⟨rfl, ?_⟩
      cases hnext : address.add? Cell.width with
      | some next => exact ih (h.tail hnext)
      | none =>
        cases rest with
        | nil => simp
        | cons second rest =>
          obtain ⟨next, hsome⟩ := h.exists_next
          rw [hnext] at hsome
          cases hsome

end Machine

namespace Renderer

open CellString

/-- A text in quotes as it is shown under a limit on its characters, marked where it is packed. -/
def shownString (limit : Nat) (form : Form) (text : String) : String :=
  (if form.isPacked = true ∧ text ≠ "" then "!" else "") ++ "\"" ++
    (if text.length ≤ limit then text else String.ofList (text.toList.take limit) ++ "...") ++ "\""

/-- A text that is read to one character past the limit is cut exactly where it is longer. -/
theorem clip_take (text : String) (limit : Nat) :
    clip (String.ofList (text.toList.take (limit + 1))) limit =
      if text.length ≤ limit then text else String.ofList (text.toList.take limit) ++ "..." := by
  have hlength : text.toList.length = text.length := String.length_toList
  unfold clip
  by_cases h : text.length ≤ limit
  · have hwhole : text.toList.take (limit + 1) = text.toList :=
      List.take_of_length_le (by omega)
    rw [hwhole, String.ofList_toList, if_neg (by omega), if_pos h]
  · have hlong : limit < (String.ofList (text.toList.take (limit + 1))).length := by
      rw [String.length_ofList, List.length_take]
      omega
    rw [if_pos hlong, if_neg h, String.toList_ofList, List.take_take]
    simp

theorem quotedText_of_front (r : Renderer) (form : Form) {text : String}
    (hprintable : Printable text.toList) {cells : List Cell}
    (hcells : (form.cells text.toList).take (r.limits.maxStringLength + 1) <+: cells) :
    r.quotedText cells = shownString r.limits.maxStringLength form text := by
  have hdecode := decode_of_front form hprintable hcells
  have hmark : (form.isPacked && !text.toList.isEmpty) = true ↔ form.isPacked = true ∧ text ≠ "" := by
    simp
  unfold quotedText shownString
  simp only [hdecode, clip_take, hmark]
  by_cases hpacked : form.isPacked = true ∧ text ≠ ""
  · rw [if_pos hpacked, if_pos hpacked]
    rfl
  · rw [if_neg hpacked, if_neg hpacked]
    rfl

/-- A stored string of `count` cells has room: it lies below the top of the stack where the declared size is not
known, and does not exceed the size where it is. -/
def HasRoom (m : Machine) (address : Cell) (size : UInt32) (count : Nat) : Prop :=
  (size = 0 ∧ address.toInt + 4 * count ≤ m.registers.stp.toInt) ∨ count ≤ size.toNat

/-- The cells looked at are enough for the stored string, or for one character more than the limit. -/
theorem take_stringCells (r : Renderer) {m : Machine} {address : Cell} {size : UInt32}
    {cells : List Cell} (hne : cells ≠ []) (hroom : HasRoom m address size cells.length) :
    cells.take (r.stringCells m address size) = cells.take (r.limits.maxStringLength + 1) := by
  have hpositive := List.length_pos_iff.mpr hne
  have havailable : cells.length ≤
      if size = 0 then ((m.registers.stp.toInt - address.toInt).tdiv 4).toNat else size.toNat := by
    rcases hroom with ⟨hsize, hbelow⟩ | hsize
    · rw [if_pos hsize, Int.tdiv_eq_ediv_of_nonneg (by omega)]
      omega
    · have hknown : size ≠ 0 := by
        intro hzero
        rw [hzero, UInt32.toNat_zero] at hsize
        omega
      rwa [if_neg hknown]
  unfold stringCells
  dsimp only
  generalize (if size = 0 then _ else size.toNat) = available at havailable ⊢
  by_cases hlimit : available ≤ r.limits.maxStringLength + 1
  · rw [Nat.min_eq_left hlimit, List.take_of_length_le havailable,
      List.take_of_length_le (Nat.le_trans havailable hlimit)]
  · rw [Nat.min_eq_right (by omega)]

/-- An untagged array argument of one dimension shows the string that its cells hold in either form: whole up
to the limit, else its first characters and three dots. -/
theorem string_argument_shows_stored (r : Renderer) (m : Machine) {argument : DebugSymbol}
    {dimension : Dimension} {address : Cell} {form : Form} {text : String}
    (harray : argument.isArray = true) (hdimensions : argument.dimensions = [dimension])
    (htag : r.tagName? argument.tag = none) (hcellTag : r.tagName? dimension.tag = none)
    (hprintable : ∀ c ∈ text.toList, 32 ≤ c.toNat ∧ c.toNat ≤ 126)
    (haddress : m.isDataAddress address = true)
    (hholds : m.HoldsCells address (form.cells text.toList))
    (hroom : HasRoom m address dimension.size (form.cells text.toList).length) :
    r.argumentText m argument (some address) =
      r.argumentName argument ++ r.dimensionText dimension ++ pointerText address ++ " " ++
        shownString r.limits.maxStringLength form text := by
  have hcodes : Printable text.toList := by
    intro c hc
    obtain ⟨hlow, hhigh⟩ := hprintable c hc
    simp [isPrintable, hlow, hhigh]
  obtain ⟨first, others, hstored, -⟩ := exists_first_cell form hcodes
  have hread := hholds.take_prefix_dataCells (r.stringCells m address dimension.size)
  rw [r.take_stringCells (by simp [hstored]) hroom] at hread
  have hstring : r.arrayString? m argument none address =
      some (shownString r.limits.maxStringLength form text) := by
    simp only [arrayString?, hdimensions, hcellTag, if_true]
    rw [r.stringText?_of_isDataAddress m haddress, r.quotedText_of_front form hcodes hread]
  rw [argumentText_some, htag, r.valueText_of_isArray m argument harray, hstring, arrayText,
    hdimensions]
  simp [optionalText, String.append_assoc]

/-- A machine with a packed string at the top of its data. -/
def greetingMachine : Machine :=
  { id := 0
    code := Segment.ofCells []
    data := Segment.ofCells [0, 0, 0x50696E67, 0]
    registers := { stp := 16 } }

def greetingRenderer : Renderer where
  limits := { maxStringLength := 3 }

def greetingArgument : DebugSymbol := ⟨"text", 12, 0, 0, 64, .arrayRef, .frame, [⟨0, 0⟩]⟩

/-- A packed string of four characters of which three are shown. -/
theorem string_argument_shows_greeting :
    (greetingArgument.isArray = true ∧ greetingArgument.dimensions = [⟨0, 0⟩] ∧
      greetingRenderer.tagName? greetingArgument.tag = none ∧
      greetingRenderer.tagName? 0 = none ∧
      (∀ c ∈ "Ping".toList, 32 ≤ c.toNat ∧ c.toNat ≤ 126) ∧
      greetingMachine.isDataAddress 8 = true ∧
      greetingMachine.HoldsCells 8 ((Form.packed 0).cells "Ping".toList) ∧
      HasRoom greetingMachine 8 0 ((Form.packed 0).cells "Ping".toList).length) ∧
    greetingRenderer.argumentText greetingMachine greetingArgument (some 8) =
      greetingRenderer.argumentName greetingArgument ++ "[]" ++ pointerText 8 ++ " " ++
        "!\"Pin...\"" := by
  have hprintable : ∀ c ∈ "Ping".toList, 32 ≤ c.toNat ∧ c.toNat ≤ 126 := by simp
  have haddress : greetingMachine.isDataAddress 8 = true := by decide
  have hholds : greetingMachine.HoldsCells 8 ((Form.packed 0).cells "Ping".toList) := by
    unfold Machine.HoldsCells
    decide
  have hroom : HasRoom greetingMachine 8 0 ((Form.packed 0).cells "Ping".toList).length :=
    .inl ⟨rfl, by decide⟩
  have hshown : shownString 3 (.packed 0) "Ping" = "!\"Pin...\"" := by
    have hlength : "Ping".length = 4 := rfl
    simp [shownString, Form.isPacked, hlength]
  refine ⟨⟨rfl, rfl, rfl, rfl, hprintable, haddress, hholds, hroom⟩, ?_⟩
  rw [← hshown]
  exact @string_argument_shows_stored greetingRenderer greetingMachine greetingArgument ⟨0, 0⟩ 8
    (.packed 0) "Ping" rfl rfl rfl rfl hprintable haddress hholds hroom

end Renderer

end AmxTrace
