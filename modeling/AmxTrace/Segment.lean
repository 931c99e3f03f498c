import AmxTrace.Cell
import AmxTrace.Word

/-! # Memory segments -/

namespace AmxTrace.Segment

def bytes (segment : ByteArray) : List UInt8 := segment.data.toList

def ofBytes (bytes : List UInt8) : ByteArray := bytes.toByteArray

/-- Cell stored in the four bytes from `start` on. -/
def cellFrom? (segment : ByteArray) (start : Nat) : Option Cell :=
  if h : start + 4 ≤ segment.size then
    some (Word.ofBytes32 segment[start] segment[start + 1] segment[start + 2]
      segment[start + 3]).toInt32
  else none

/-- Cell stored at an address; a negative address holds none. -/
def cellAt? (segment : ByteArray) (address : Cell) : Option Cell :=
  address.offset?.bind (cellFrom? segment)

def zeros (count : Nat) : ByteArray := ⟨Array.replicate count 0⟩

/-- Cut a segment to a size, or fill it with zero bytes up to it. -/
def resize (segment : ByteArray) (size : Nat) : ByteArray :=
  segment.extract 0 size ++ zeros (size - segment.size)

/-- Put bytes over those from `start` on; bytes before and after keep their place. -/
def overlay (segment : ByteArray) (start : Nat) (new : ByteArray) : ByteArray :=
  segment.extract 0 start ++ new ++ segment.extract (start + new.size) segment.size

def cellBytes (cells : List Cell) : List UInt8 :=
  cells.flatMap fun c => Word.toBytes32 c.toUInt32

def ofCells (cells : List Cell) : ByteArray := ofBytes (cellBytes cells)

theorem bytes_injective {a b : ByteArray} (h : bytes a = bytes b) : a = b :=
  ByteArray.ext (Array.ext' h)

@[simp] theorem length_bytes (segment : ByteArray) : (bytes segment).length = segment.size := rfl

@[simp] theorem bytes_ofBytes (list : List UInt8) : bytes (ofBytes list) = list := by
  simp [bytes, ofBytes]

@[simp] theorem size_ofBytes (list : List UInt8) : (ofBytes list).size = list.length := by
  simp [ofBytes]

@[simp] theorem bytes_append (a b : ByteArray) : bytes (a ++ b) = bytes a ++ bytes b := by
  simp [bytes]

@[simp] theorem bytes_extract (segment : ByteArray) (start stop : Nat) :
    bytes (segment.extract start stop) = ((bytes segment).drop start).take (stop - start) := by
  simp [bytes, List.extract_eq_take_drop]

@[simp] theorem bytes_resize (segment : ByteArray) (size : Nat) :
    bytes (resize segment size) =
      (bytes segment).take size ++ List.replicate (size - segment.size) 0 := by
  simp [resize, zeros]
  simp [bytes]

@[simp] theorem size_resize (segment : ByteArray) (size : Nat) :
    (resize segment size).size = size := by
  rw [← length_bytes, bytes_resize, List.length_append, List.length_take, length_bytes,
    List.length_replicate]
  omega

theorem length_cellBytes (cells : List Cell) : (cellBytes cells).length = 4 * cells.length := by
  induction cells with
  | nil => rfl
  | cons c cells ih =>
    rw [cellBytes] at ih ⊢
    rw [List.flatMap_cons, List.length_append, ih, Word.length_toBytes32, List.length_cons]
    omega

theorem exists_cellAt? {segment : ByteArray} {address : Cell} (hzero : 0 ≤ address.toInt)
    (hroom : address.toInt + 4 ≤ segment.size) : ∃ value, cellAt? segment address = some value := by
  have hoffset : address.offset? = some address.toInt.toNat :=
    Cell.offset?_eq_some_iff.mpr (by omega)
  rw [cellAt?, hoffset]
  exact ⟨_, dif_pos (by omega)⟩

theorem bytes_of_cellFrom? {segment : ByteArray} {start : Nat} {cell : Cell}
    (h : cellFrom? segment start = some cell) :
    ((bytes segment).drop start).take 4 = Word.toBytes32 cell.toUInt32 := by
  rw [cellFrom?] at h
  split at h
  next hsize =>
    obtain rfl := Option.some.inj h
    rw [UInt32.toUInt32_toInt32, Word.toBytes32_ofBytes32]
    rw [List.drop_eq_getElem_cons (by rw [length_bytes]; omega),
      List.drop_eq_getElem_cons (by rw [length_bytes]; omega),
      List.drop_eq_getElem_cons (by rw [length_bytes]; omega),
      List.drop_eq_getElem_cons (by rw [length_bytes]; omega)]
    rfl
  next => cases h

theorem cellFrom?_of_stands {segment : ByteArray} {start : Nat} {word : UInt32}
    (h : Word.toBytes32 word <+: (bytes segment).drop start) :
    cellFrom? segment start = some word.toInt32 := by
  have hlength := h.length_le
  rw [Word.length_toBytes32, List.length_drop, length_bytes] at hlength
  obtain ⟨cell, hcell⟩ : ∃ cell, cellFrom? segment start = some cell :=
    ⟨_, dif_pos (by omega)⟩
  have hbytes := bytes_of_cellFrom? hcell
  have hstands := List.prefix_iff_eq_take.mp h
  rw [Word.length_toBytes32, hbytes] at hstands
  rw [hcell, Word.toBytes32_injective hstands, Int32.toInt32_toUInt32]

theorem getElem_resize_of_le {segment : ByteArray} {size i : Nat} (hle : segment.size ≤ i)
    (hi : i < (resize segment size).size) : (resize segment size)[i] = 0 := by
  have hsize : i < size := by rwa [size_resize] at hi
  have hbyte : (bytes (resize segment size))[i]? = some 0 := by
    have htake : ((bytes segment).take size).length = segment.size := by
      rw [List.length_take, length_bytes]
      omega
    rw [bytes_resize, List.getElem?_append_right (by rw [htake]; exact hle), htake,
      List.getElem?_replicate_of_lt (by omega)]
  exact (List.getElem?_eq_some_iff.mp hbyte).2

theorem cellFrom?_of_cellBytes {segment : ByteArray} {start index : Nat} {cells : List Cell}
    {cell : Cell} (h : cellBytes cells <+: (bytes segment).drop start)
    (hcell : cells[index]? = some cell) : cellFrom? segment (start + 4 * index) = some cell := by
  obtain ⟨hlt, rfl⟩ := List.getElem?_eq_some_iff.mp hcell
  have hbefore : (cellBytes (cells.take index)).length = 4 * index := by
    rw [length_cellBytes, List.length_take]
    omega
  have hcells : cells = cells.take index ++ cells[index] :: cells.drop (index + 1) := by
    rw [← List.drop_eq_getElem_cons hlt, List.take_append_drop]
  have hsplit : cellBytes cells = cellBytes (cells.take index) ++
      (Word.toBytes32 cells[index].toUInt32 ++ cellBytes (cells.drop (index + 1))) := by
    have hbytes := congrArg cellBytes hcells
    simpa only [cellBytes, List.flatMap_append, List.flatMap_cons] using hbytes
  have hstands : Word.toBytes32 cells[index].toUInt32 <+:
      (bytes segment).drop (start + 4 * index) := by
    obtain ⟨back, hback⟩ := h
    rw [← List.drop_drop, ← hback, hsplit, List.append_assoc, List.append_assoc, ← hbefore,
      List.drop_left]
    exact List.prefix_append _ _
  rw [cellFrom?_of_stands hstands, Int32.toInt32_toUInt32]

theorem cellFrom?_ofCells {cells : List Cell} {index : Nat} {cell : Cell}
    (h : cells[index]? = some cell) : cellFrom? (ofCells cells) (4 * index) = some cell := by
  have hstands : cellBytes cells <+: (bytes (ofCells cells)).drop 0 :=
    ⟨[], by rw [List.append_nil, List.drop_zero, ofCells, bytes_ofBytes]⟩
  have hcell := cellFrom?_of_cellBytes hstands h
  rwa [Nat.zero_add] at hcell

@[simp] theorem size_ofCells (cells : List Cell) : (ofCells cells).size = 4 * cells.length := by
  rw [ofCells, size_ofBytes, length_cellBytes]

end AmxTrace.Segment
