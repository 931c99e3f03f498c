import AmxTrace.Proofs.Snapshot.Overlay

/-! # Applied dumps -/

namespace AmxTrace

namespace StackDump

/-- The cells of a dump lie inside a segment of a size. -/
structure Fits (dump : StackDump) (size : Nat) : Prop where
  base : 0 ≤ dump.base.toInt
  stop : dump.base.toInt + 4 * dump.cells.length ≤ size

def Outside (dump : StackDump) (place : Nat) : Prop :=
  place < dump.base.toInt ∨ dump.base.toInt + 4 * dump.cells.length ≤ place

/-- A memory is some data with the cells of a dump in their places, and is like it elsewhere. -/
structure LiesOver (dump : StackDump) (data memory : ByteArray) : Prop where
  size : memory.size = data.size
  cells : Segment.HoldsCells memory dump.base.toInt.toNat dump.cells
  outside : ∀ place, dump.Outside place →
    (Segment.bytes memory)[place]? = (Segment.bytes data)[place]?

def ofMemory (memory : ByteArray) (base : Cell) (count : Nat) : StackDump where
  base
  cells := (List.range count).map fun index =>
    (Segment.cellFrom? memory (base.toInt.toNat + 4 * index)).getD 0

@[simp] theorem base_ofMemory (memory : ByteArray) (base : Cell) (count : Nat) :
    (ofMemory memory base count).base = base := rfl

@[simp] theorem length_cells_ofMemory (memory : ByteArray) (base : Cell) (count : Nat) :
    (ofMemory memory base count).cells.length = count := by
  rw [ofMemory, List.length_map, List.length_range]

theorem holdsCells_ofMemory {memory : ByteArray} {base : Cell} {count : Nat}
    (hfits : (ofMemory memory base count).Fits memory.size) :
    Segment.HoldsCells memory base.toInt.toNat (ofMemory memory base count).cells := by
  intro index cell hcell
  have hbase : 0 ≤ base.toInt := hfits.base
  have hstop : base.toInt + 4 * count ≤ memory.size := by simpa using hfits.stop
  rw [ofMemory, List.getElem?_map, Option.map_eq_some_iff] at hcell
  obtain ⟨found, hfound, hcell⟩ := hcell
  obtain ⟨hindex, rfl⟩ := List.getElem?_eq_some_iff.mp hfound
  rw [List.length_range] at hindex
  rw [List.getElem_range] at hcell
  obtain ⟨value, hread⟩ : ∃ value,
      Segment.cellFrom? memory (base.toInt.toNat + 4 * index) = some value :=
    ⟨_, dif_pos (by omega)⟩
  rw [← hcell, hread]
  rfl

end StackDump

namespace Segment

theorem size_overlay {segment new : ByteArray} {start : Nat} (h : start + new.size ≤ segment.size) :
    (overlay segment start new).size = segment.size := by
  rw [← length_bytes, bytes_overlay, List.length_append, List.length_append, List.length_take,
    List.length_drop, length_bytes, length_bytes]
  omega

theorem getElem?_bytes_overlay {segment new : ByteArray} {start place : Nat}
    (h : start + new.size ≤ segment.size) (hout : place < start ∨ start + new.size ≤ place) :
    (bytes (overlay segment start new))[place]? = (bytes segment)[place]? := by
  have hfront : ((bytes segment).take start).length = start := by
    rw [List.length_take, length_bytes]
    omega
  rw [bytes_overlay]
  rcases hout with hout | hout
  · rw [List.append_assoc, List.getElem?_append_left (by rwa [hfront]), List.getElem?_take,
      if_pos hout]
  · rw [List.getElem?_append_right (by rwa [List.length_append, hfront, length_bytes]),
      List.length_append, hfront, length_bytes, List.getElem?_drop, Nat.add_sub_cancel' hout]

theorem holdsCells_overlay {segment : ByteArray} {start : Nat} {cells : List Cell}
    (h : start ≤ segment.size) : HoldsCells (overlay segment start (ofCells cells)) start cells := by
  have hfront : ((bytes segment).take start).length = start := by
    rw [List.length_take, length_bytes]
    omega
  have hstands : cellBytes cells <+: (bytes (overlay segment start (ofCells cells))).drop start := by
    rw [bytes_overlay, List.append_assoc, List.drop_left' hfront, ofCells, bytes_ofBytes]
    exact List.prefix_append _ _
  exact fun index cell hcell => cellFrom?_of_cellBytes hstands hcell

end Segment

namespace Snapshot

variable {s : Snapshot} {data memory : ByteArray}

theorem dumpStart?_eq_some_iff {size start : Nat} :
    s.dumpStart? size = some start ↔ s.stack.base.toInt = start ∧ s.stack.Fits size := by
  simp only [dumpStart?, Option.bind_eq_bind, Option.bind_eq_some_iff, Cell.offset?_eq_some_iff]
  constructor
  · rintro ⟨found, hbase, hstart⟩
    split at hstart
    next hroom =>
      obtain rfl := Option.some.inj hstart
      exact ⟨hbase, by omega, by omega⟩
    next => cases hstart
  · rintro ⟨hbase, -, hstop⟩
    exact ⟨start, hbase, if_pos (by omega)⟩

theorem apply_of_fits (h : s.stack.Fits data.size) :
    s.apply data =
      .ok (Segment.overlay data s.stack.base.toInt.toNat (Segment.ofCells s.stack.cells)) := by
  have hbase := h.base
  have hstart : s.dumpStart? data.size = some s.stack.base.toInt.toNat :=
    dumpStart?_eq_some_iff.mpr ⟨by omega, h⟩
  rw [apply, hstart]
  rfl

theorem apply_of_not_fits (h : ¬ s.stack.Fits data.size) :
    s.apply data = .error (.outOfRange s.stack.base data.size) := by
  have hnone : s.dumpStart? data.size = none :=
    Option.eq_none_iff_forall_ne_some.mpr fun _ hstart => h (dumpStart?_eq_some_iff.mp hstart).2
  rw [apply, hnone]
  rfl

theorem apply_eq_ok_iff :
    s.apply data = .ok memory ↔ s.stack.Fits data.size ∧
      memory = Segment.overlay data s.stack.base.toInt.toNat (Segment.ofCells s.stack.cells) := by
  by_cases h : s.stack.Fits data.size
  · simp [apply_of_fits h, h, eq_comm]
  · simp [apply_of_not_fits h, h]

theorem liesOver_of_apply (h : s.apply data = .ok memory) : s.stack.LiesOver data memory := by
  obtain ⟨hfits, rfl⟩ := apply_eq_ok_iff.mp h
  have hbase := hfits.base
  have hstop := hfits.stop
  have hroom : s.stack.base.toInt.toNat + (Segment.ofCells s.stack.cells).size ≤ data.size := by
    rw [Segment.size_ofCells]
    omega
  refine ⟨Segment.size_overlay hroom, Segment.holdsCells_overlay (by omega), ?_⟩
  intro place hplace
  rw [StackDump.Outside] at hplace
  refine Segment.getElem?_bytes_overlay hroom ?_
  rw [Segment.size_ofCells]
  omega

theorem apply_of_liesOver (hfits : s.stack.Fits data.size) (h : s.stack.LiesOver data memory) :
    s.apply data = .ok memory := by
  have hbase := hfits.base
  have hstop := hfits.stop
  have hsize := h.size
  refine apply_of_isWindow ⟨Cell.offset?_eq_some_iff.mpr (by omega), by omega, h.cells, ?_⟩ hsize
  intro place hplace
  refine h.outside place ?_
  rw [StackDump.Outside]
  omega

/-- A dump that fits is laid over the data, and one that does not is refused. A dump of a memory that
is like the data elsewhere gives the memory. -/
theorem apply_overlays_dump (s : Snapshot) (data : ByteArray) :
    ((∃ memory, s.apply data = .ok memory) ↔ s.stack.Fits data.size) ∧
    (¬ s.stack.Fits data.size → s.apply data = .error (.outOfRange s.stack.base data.size)) ∧
    (∀ memory, s.apply data = .ok memory → s.stack.LiesOver data memory) ∧
    (∀ memory base count, memory.size = data.size →
      (StackDump.ofMemory memory base count).Fits data.size →
      (∀ place, (StackDump.ofMemory memory base count).Outside place →
        (Segment.bytes memory)[place]? = (Segment.bytes data)[place]?) →
      { s with stack := .ofMemory memory base count }.apply data = .ok memory) ∧
    (s.apply data >>= s.apply) = s.apply data := by
  refine ⟨⟨?_, ?_⟩, apply_of_not_fits, fun memory => liesOver_of_apply, ?_, ?_⟩
  · rintro ⟨memory, h⟩
    exact (apply_eq_ok_iff.mp h).1
  · exact fun hfits => ⟨_, apply_of_fits hfits⟩
  · intro memory base count hsize hfits houtside
    have hcells := StackDump.holdsCells_ofMemory (hsize ▸ hfits)
    exact apply_of_liesOver hfits ⟨hsize, hcells, houtside⟩
  · cases happly : s.apply data with
    | error fault => rfl
    | ok memory =>
      -- the memory has the cells of the dump in their places already
      obtain ⟨hsize, hcells, -⟩ := liesOver_of_apply happly
      have hfits : s.stack.Fits memory.size := hsize ▸ (apply_eq_ok_iff.mp happly).1
      exact apply_of_liesOver hfits ⟨rfl, hcells, fun _ _ => rfl⟩

/-- Two cells dumped at a place that is no multiple of their size. -/
def unaligned : Snapshot := { registers := {}, stack := ⟨3, [7, -1]⟩ }

theorem apply_overlays_dump_unaligned :
    ∃ memory, unaligned.apply (Segment.zeros 11) = .ok memory ∧
      unaligned.stack.LiesOver (Segment.zeros 11) memory ∧
      { unaligned with stack := .ofMemory memory 3 2 }.apply (Segment.zeros 11) = .ok memory ∧
      unaligned.apply (Segment.zeros 10) = .error (.outOfRange 3 10) := by
  obtain ⟨happlies, -, hlies, hback, -⟩ := apply_overlays_dump unaligned (Segment.zeros 11)
  obtain ⟨-, hrefused, -⟩ := apply_overlays_dump unaligned (Segment.zeros 10)
  obtain ⟨memory, h⟩ := happlies.mpr ⟨by decide, by decide⟩
  have hover := hlies memory h
  have hfits : (StackDump.ofMemory memory 3 2).Fits (Segment.zeros 11).size :=
    ⟨by rw [StackDump.base_ofMemory]; decide,
      by rw [StackDump.base_ofMemory, StackDump.length_cells_ofMemory]; decide⟩
  refine ⟨memory, h, hover, hback memory 3 2 hover.size hfits fun place hplace => ?_, hrefused ?_⟩
  · exact hover.outside place hplace
  · rintro ⟨-, hstop⟩
    exact absurd hstop (by decide)

end Snapshot

end AmxTrace
