import AmxTrace.Proofs.Image.Packed
import AmxTrace.Proofs.Image.Strict

/-! # Loaded modules and fresh instances -/

namespace AmxTrace

open Strict

namespace Image

theorem TableAt.stands_row {file : List UInt8} {offset : Nat} {rows : List TableRow}
    (h : TableAt file offset rows) {i : Nat} {row : TableRow} (hrow : rows[i]? = some row) :
    row.written <+: file.drop (offset + 8 * i) := by
  obtain ⟨hi, rfl⟩ := List.getElem?_eq_some_iff.mp hrow
  obtain ⟨rest, hrest⟩ := h.stands
  have hfront : ((rows.take i).flatMap TableRow.written).length = 8 * i := by
    rw [length_flatMap_written, List.length_take, Nat.min_eq_left (Nat.le_of_lt hi)]
  have hsplit : rows = rows.take i ++ rows[i] :: rows.drop (i + 1) := by
    rw [← List.drop_eq_getElem_cons hi, List.take_append_drop]
  rw [hsplit, List.flatMap_append, List.flatMap_cons, List.append_assoc] at hrest
  rw [← List.drop_drop, ← hrest, ← hfront, List.drop_left, List.append_assoc]
  exact List.prefix_append _ _

theorem readTable_address {file : ByteArray} {offset : Cell} {count : Nat}
    {entries : List (UInt32 × String)}
    (hread : readTable (Segment.bytes file) offset count = .ok entries) {i : Nat} {address : UInt32}
    {name : String} (hentry : entries[i]? = some (address, name)) :
    Segment.cellFrom? file (offset.toNatClampNeg + 8 * i) = some address.toInt32 := by
  obtain ⟨-, rows, -, hat, rfl⟩ := readTable_eq_ok_iff.mp hread
  rw [List.getElem?_map] at hentry
  obtain ⟨row, hrow, hpair⟩ := Option.map_eq_some_iff.mp hentry
  cases hpair
  exact Segment.cellFrom?_of_stands ((List.prefix_append _ _).trans (hat.stands_row hrow))

theorem length_readTable {file : List UInt8} {offset : Cell} {count : Nat}
    {entries : List (UInt32 × String)} (hread : readTable file offset count = .ok entries) :
    entries.length = count := by
  obtain ⟨-, rows, hcount, -, rfl⟩ := readTable_eq_ok_iff.mp hread
  rw [List.length_map, hcount]

/-- Registers of a fresh instance, where no difference may wrap. -/
def strictRegisters (image : Image) : Strict ImageError Registers := do
  let heap ← cell (image.header.hea.toInt - image.header.dat.toInt)
  let span ← cell (image.header.stp.toInt - image.header.dat.toInt)
  let stackTop ← cell (span.toInt - Cell.width.toInt)
  pure {
    frm := 0
    cip := if image.header.cip < 0 then 0 else image.header.cip
    stk := stackTop
    stp := stackTop
    hea := heap
    hlw := heap
    pri := 0
    alt := 0 }

/-- What a loaded image owes to its file and to fresh instances. -/
structure Consistent (image : Image) (file : ByteArray) : Prop where
  code_size : (image.code.size : Int) = image.header.dat.toInt - image.header.cod.toInt
  data_size : (image.data.size : Int) = image.header.stp.toInt - image.header.dat.toInt
  data_zero : ∀ i (hi : i < image.data.size),
    image.header.hea.toInt - image.header.dat.toInt ≤ i → image.data[i] = 0
  length_publics : image.publics.length = image.header.publicCount
  public_address : ∀ i entry, image.publics[i]? = some entry →
    Segment.cellFrom? file (image.header.publics.toNatClampNeg + 8 * i) = some entry.address
  length_natives : image.natives.length = image.header.nativeCount
  native_address : ∀ i entry, image.natives[i]? = some entry →
    (Segment.cellFrom? file (image.header.natives.toNatClampNeg + 8 * i)).map Cell.unsigned =
      some entry.address
  registers : Agrees image.strictRegisters (pure image.initialRegisters)
  stack_readable : ∀ id address, (image.machine id).isStackAddress address = true →
    ∃ value, (image.machine id).dataCell? address = some value
  stack_in_data : ∀ id address, (image.machine id).isStackAddress address = true →
    0 ≤ address.toInt ∧ (image.machine id).isDataAddress address = true

section Accepted

variable {image : Image}

theorem toInt_hlw_initialRegisters (hv : image.header.Valid) :
    image.initialRegisters.hlw.toInt = image.header.hea.toInt - image.header.dat.toInt :=
  Cell.toInt_sub_of_le hv.zero_le_dat hv.dat_le_hea

theorem toInt_span_of_valid (hv : image.header.Valid) :
    (image.header.stp - image.header.dat).toInt =
      image.header.stp.toInt - image.header.dat.toInt :=
  Cell.toInt_sub_of_le hv.zero_le_dat hv.dat_le_stp

/-- The machine keeps the top cell, also where there is no room for it. -/
theorem toInt_stp_initialRegisters (hv : image.header.Valid) :
    image.initialRegisters.stp.toInt = image.header.stp.toInt - image.header.dat.toInt - 4 := by
  have hspan := toInt_span_of_valid hv
  have hdat := hv.zero_le_dat
  have hstp := hv.dat_le_stp
  have hhigh := image.header.stp.toInt_lt
  have hwidth : Cell.width.toInt = 4 := by decide
  change (image.header.stp - image.header.dat - Cell.width).toInt = _
  rw [Int32.toInt_sub, hspan, hwidth, Int.bmod_eq_of_le (by omega) (by omega)]

theorem agrees_strictRegisters (hv : image.header.Valid) :
    Agrees image.strictRegisters (pure image.initialRegisters) := by
  have hspan := toInt_span_of_valid hv
  have hheap := toInt_hlw_initialRegisters hv
  have htop := toInt_stp_initialRegisters hv
  have hwidth : Cell.width.toInt = 4 := by decide
  refine (agrees_cell hheap).andThen ((agrees_cell hspan).andThen ?_)
  refine (agrees_cell (c := image.initialRegisters.stp) ?_).andThen (agrees_pure _)
  rw [htop, hspan, hwidth]

theorem stack_fits (hv : image.header.Valid)
    (hdata : (image.data.size : Int) = image.header.stp.toInt - image.header.dat.toInt) {id : Nat}
    {address : Cell} (hstack : (image.machine id).isStackAddress address = true) :
    0 ≤ address.toInt ∧ address.toInt + 4 < image.data.size ∧
      address.toInt < image.initialRegisters.stp.toInt := by
  obtain ⟨hbelow, habove⟩ := (Machine.isStackAddress_iff _ _).mp hstack
  change image.initialRegisters.hlw.toInt ≤ _ at hbelow
  change _ < image.initialRegisters.stp.toInt at habove
  have hheap := toInt_hlw_initialRegisters hv
  have htop := toInt_stp_initialRegisters hv
  have hhea := hv.dat_le_hea
  omega

end Accepted

section Parts

variable {file segments : ByteArray} {header : Header} {publics natives : List (UInt32 × String)}
  (h : Parts file header segments publics natives)
include h

theorem Parts.valid : header.Valid := Header.valid_of_parse h.read_header

theorem Parts.code_size :
    ((assemble file header segments publics natives).code.size : Int) =
      header.dat.toInt - header.cod.toInt := by
  have hspan := size_storedSegments h.read_segments
  have hlow := h.valid.le_cod
  have hdat := h.valid.cod_le_dat
  have hhea := h.valid.dat_le_hea
  change ((segments.extract 0 (header.dat.toNatClampNeg - header.cod.toNatClampNeg)).size : Int) = _
  rw [ByteArray.size_extract, hspan]
  simp only [Int32.toNatClampNeg]
  omega

theorem Parts.data_size :
    ((assemble file header segments publics natives).data.size : Int) =
      header.stp.toInt - header.dat.toInt := by
  have hdat := h.valid.zero_le_dat
  have hstp := h.valid.dat_le_stp
  rw [assemble, Segment.size_resize]
  simp only [Int32.toNatClampNeg]
  omega

theorem Parts.data_zero (i : Nat)
    (hi : i < (assemble file header segments publics natives).data.size)
    (hfilled : header.hea.toInt - header.dat.toInt ≤ i) :
    (assemble file header segments publics natives).data[i] = 0 := by
  have hspan := size_storedSegments h.read_segments
  have hlow := h.valid.le_cod
  have hdat := h.valid.cod_le_dat
  have hhea := h.valid.dat_le_hea
  refine Segment.getElem_resize_of_le ?_ hi
  rw [ByteArray.size_extract, hspan]
  simp only [Int32.toNatClampNeg]
  omega

theorem Parts.consistent : (assemble file header segments publics natives).Consistent file where
  code_size := h.code_size
  data_size := h.data_size
  data_zero := h.data_zero
  length_publics := (List.length_map _).trans (length_readTable h.read_publics)
  public_address i entry hentry := by
    obtain ⟨⟨address, name⟩, hread, rfl⟩ :=
      Option.map_eq_some_iff.mp ((List.getElem?_map ..).symm.trans hentry)
    exact readTable_address h.read_publics hread
  length_natives := (List.length_map _).trans (length_readTable h.read_natives)
  native_address i entry hentry := by
    obtain ⟨⟨address, name⟩, hread, rfl⟩ :=
      Option.map_eq_some_iff.mp ((List.getElem?_map ..).symm.trans hentry)
    have hcell := readTable_address h.read_natives hread
    exact (congrArg (Option.map Cell.unsigned) hcell).trans rfl
  registers := agrees_strictRegisters h.valid
  stack_readable id address hstack := by
    obtain ⟨hzero, hroom, -⟩ := stack_fits h.valid h.data_size hstack
    exact Segment.exists_cellAt? hzero (Int.le_of_lt hroom)
  stack_in_data id address hstack := by
    obtain ⟨hzero, hroom, habove⟩ := stack_fits h.valid h.data_size hstack
    exact ⟨hzero, (Machine.isDataAddress_iff _ _).mpr
      ⟨habove, hzero, Int.lt_trans (Int.lt_add_of_pos_right _ (by decide)) hroom⟩⟩

end Parts

/-- No operation of reading a module file is out of range, and what is read is consistent. The bound on
the file is that of every byte string in memory. -/
theorem parse_faultless_consistent (file : ByteArray) :
    (file.size < 2 ^ 63 → Agrees (strictParse file) (parse file)) ∧
      ∀ image, parse file = .ok image → image.Consistent file := by
  refine ⟨agrees_strictParse, fun image hparse => ?_⟩
  obtain ⟨segments, publics, natives, hparts, himage⟩ := parse_eq_ok_iff.mp hparse
  rw [← himage]
  exact hparts.consistent

/-- A place of the stack that is not aligned can be read too. -/
theorem plainFile_faultless_consistent :
    plainFile.size < 2 ^ 63 ∧ Agrees (strictParse plainFile) (pure plainImage) ∧
      plainImage.Consistent plainFile ∧ ∃ value, (plainImage.machine 1).dataCell? 5 = some value := by
  have hparse : parse plainFile = .ok plainImage := rfl
  have hsize : plainFile.size < 2 ^ 63 := by decide
  obtain ⟨hfaultless, hconsistent⟩ := parse_faultless_consistent plainFile
  have hloaded := hconsistent plainImage hparse
  refine ⟨hsize, ?_, hloaded, hloaded.stack_readable 1 5 (by decide)⟩
  rw [← show parse plainFile = pure plainImage from hparse]
  exact hfaultless hsize

end Image

end AmxTrace
