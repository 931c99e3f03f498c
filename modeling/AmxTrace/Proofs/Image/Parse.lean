import AmxTrace.Proofs.Image.Header
import AmxTrace.Proofs.Image.Table

/-! # Accepted files -/

namespace AmxTrace.Image

open Segment

/-- The image with given segments and function tables. -/
def assemble (file : ByteArray) (header : Header) (segments : ByteArray)
    (publics natives : List (UInt32 × String)) : Image where
  header := header
  headerBytes := (bytes file).take Header.byteSize
  code := segments.extract 0 (header.dat.toNatClampNeg - header.cod.toNatClampNeg)
  data :=
    resize (segments.extract (header.dat.toNatClampNeg - header.cod.toNatClampNeg) segments.size)
      (header.stp.toNatClampNeg - header.dat.toNatClampNeg)
  publics := publics.map fun (address, name) => ⟨name, address.toInt32⟩
  natives := natives.map fun (address, name) => ⟨name, address.toNat⟩
  debugSection :=
    if header.hasDebugInfo && header.size.toNatClampNeg < file.size then
      some (file.extract header.size.toNatClampNeg file.size)
    else none

/-- What is read from an accepted file. -/
structure Parts (file : ByteArray) (header : Header) (segments : ByteArray)
    (publics natives : List (UInt32 × String)) : Prop where
  read_header : Header.parse (bytes file) = .ok header
  cod_le_size : header.cod.toNatClampNeg ≤ header.size.toNatClampNeg
  size_le : header.size.toNatClampNeg ≤ file.size
  read_segments : storedSegments header file header.size.toNatClampNeg = .ok segments
  read_publics : readTable (bytes file) header.publics header.publicCount = .ok publics
  read_natives : readTable (bytes file) header.natives header.nativeCount = .ok natives

theorem imageSize_eq_ok_iff {header : Header} (hw : header.WellFormed) {file : ByteArray}
    {size : Nat} :
    imageSize header file = .ok size ↔
      header.size.toNatClampNeg = size ∧ header.cod.toNatClampNeg ≤ size ∧ size ≤ file.size := by
  have hcod := hw.le_cod
  unfold imageSize
  cases hsize : header.size.offset? with
  | none =>
    -- a negative size is less than that of the header
    have hneg : header.size.toNatClampNeg = 0 := by
      unfold Cell.offset? at hsize
      split at hsize
      next hlt =>
        rw [Int32.lt_iff_toInt_lt] at hlt
        exact Int.toNat_of_nonpos (Int.le_of_lt hlt)
      next => cases hsize
    constructor
    · nofun
    · rintro ⟨rfl, hle, -⟩
      omega
  | some n =>
    have hn : header.size.toNatClampNeg = n := by
      rw [Int32.toNatClampNeg, Cell.offset?_eq_some_iff.mp hsize, Int.toNat_natCast]
    simp only [except_refuse_eq_ok_iff, except_pure_eq_ok_iff, not_lt, hn]
    constructor
    · rintro ⟨hfile, hend, rfl⟩
      exact ⟨rfl, hend, hfile⟩
    · rintro ⟨rfl, hend, hfile⟩
      exact ⟨hfile, hend, rfl⟩

theorem parse_eq_ok_iff {file : ByteArray} {image : Image} :
    parse file = .ok image ↔ ∃ segments publics natives,
      Parts file image.header segments publics natives ∧
        assemble file image.header segments publics natives = image := by
  unfold parse
  simp only [except_bind_eq_ok_iff]
  constructor
  · rintro ⟨header, hheader, size, hsize, segments, hsegments, publics, hpublics, natives, hnatives,
      himage⟩
    obtain ⟨-, -, hw⟩ := Header.parse_eq_ok_iff.mp hheader
    obtain ⟨rfl, hcod, hfile⟩ := (imageSize_eq_ok_iff hw).mp hsize
    cases himage
    exact ⟨segments, publics, natives, ⟨hheader, hcod, hfile, hsegments, hpublics, hnatives⟩, rfl⟩
  · rintro ⟨segments, publics, natives, h, himage⟩
    obtain ⟨-, -, hw⟩ := Header.parse_eq_ok_iff.mp h.read_header
    have hsize := (imageSize_eq_ok_iff hw).mpr ⟨rfl, h.cod_le_size, h.size_le⟩
    exact ⟨image.header, h.read_header, _, hsize, segments, h.read_segments, publics,
      h.read_publics, natives, h.read_natives, congrArg Except.ok himage⟩

theorem Parts.parse {file : ByteArray} {header : Header} {segments : ByteArray}
    {publics natives : List (UInt32 × String)} (h : Parts file header segments publics natives) :
    parse file = .ok (assemble file header segments publics natives) :=
  parse_eq_ok_iff.mpr ⟨segments, publics, natives, h, rfl⟩

theorem Parts.wellFormed {file : ByteArray} {header : Header} {segments : ByteArray}
    {publics natives : List (UInt32 × String)} (h : Parts file header segments publics natives) :
    header.WellFormed :=
  (Header.parse_eq_ok_iff.mp h.read_header).2.2

theorem storedSegments_plain_eq_ok_iff {header : Header} (hplain : header.isCompact = false)
    {file segments : ByteArray} {size : Nat} :
    storedSegments header file size = .ok segments ↔
      header.hea.toNatClampNeg ≤ file.size ∧
        file.extract header.cod.toNatClampNeg header.hea.toNatClampNeg = segments := by
  simp only [storedSegments, hplain, Bool.false_eq_true, if_false]
  rw [← ite_not, except_refuse_eq_ok_iff, not_not, except_pure_eq_ok_iff]

theorem storedSegments_compact_eq_ok_iff {header : Header} (hcompact : header.isCompact = true)
    {file segments : ByteArray} {size : Nat} :
    storedSegments header file size = .ok segments ↔
      header.hea.toNatClampNeg - header.cod.toNatClampNeg ≤ 4 * (size - header.cod.toNatClampNeg) ∧
        Compact.expand (bytes (file.extract header.cod.toNatClampNeg size))
          (header.hea.toNatClampNeg - header.cod.toNatClampNeg) = some segments := by
  simp only [storedSegments, hcompact, if_true]
  rw [except_refuse_eq_ok_iff, not_lt]
  cases Compact.expand (bytes (file.extract header.cod.toNatClampNeg size))
    (header.hea.toNatClampNeg - header.cod.toNatClampNeg) with
  | none => exact and_congr_right fun _ => ⟨nofun, nofun⟩
  | some expanded => rw [except_pure_eq_ok_iff, Option.some.injEq]

end AmxTrace.Image
