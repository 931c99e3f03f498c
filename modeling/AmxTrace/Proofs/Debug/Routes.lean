import AmxTrace.Debug.Section
import AmxTrace.Proofs.Image.Packed

/-! # Two routes to the debug section -/

namespace AmxTrace

/-- A fault of the debug section, not of the file or the image around it. -/
def DebugError.IsSectionFault : DebugError → Prop
  | .missing | .badSignature _ | .truncated _ => True
  | .unreadable _ | .image _ => False

namespace DebugStore

open Segment

/-- The store in the bytes that follow an image, if its header announces one. -/
def ofTail (announced : Bool) (tail : List UInt8) : Except DebugError DebugStore :=
  if announced = true ∧ tail ≠ [] then ofSection tail else .error .missing

/-- A section that cannot be read has a bad signature or is cut short. -/
theorem fault_of_ofSection {bytes : List UInt8} {fault : DebugError}
    (h : ofSection bytes = .error fault) :
    (∃ found, fault = .badSignature found) ∨ ∃ short, fault = .truncated short := by
  have hshort {α : Type} {outcome : Except ShortRead α}
      (hcut : outcome.mapError DebugError.truncated = .error fault) :
      ∃ short, fault = .truncated short := by
    obtain ⟨short, -, rfl⟩ := except_mapError_eq_error_iff.mp hcut
    exact ⟨short, rfl⟩
  unfold ofSection at h
  rcases except_bind_eq_error_iff.mp h with hcut | ⟨⟨signature, cursor⟩, -, hrest⟩
  · exact .inr (hshort hcut)
  dsimp only at hrest
  by_cases hsignature : signature = DebugSection.expectedSignature
  · rw [if_neg (not_not.mpr hsignature)] at hrest
    rcases except_bind_eq_error_iff.mp hrest with hcut | ⟨_, -, hread⟩
    · exact .inr (hshort hcut)
    · cases hread
  · rw [if_pos hsignature] at hrest
    cases hrest
    exact .inl ⟨signature, rfl⟩

theorem isSectionFault_of_ofTail {announced : Bool} {tail : List UInt8} {fault : DebugError}
    (h : ofTail announced tail = .error fault) : fault.IsSectionFault := by
  unfold ofTail at h
  split at h
  · rcases fault_of_ofSection h with ⟨found, rfl⟩ | ⟨short, rfl⟩ <;> trivial
  · cases h
    trivial

theorem ofTail_eq_missing_iff {announced : Bool} {tail : List UInt8} :
    ofTail announced tail = .error .missing ↔ announced = false ∨ tail = [] := by
  unfold ofTail
  split
  next hpresent =>
    obtain ⟨rfl, htail⟩ := hpresent
    simp only [Bool.true_eq_false, htail, or_self, iff_false]
    intro hmissing
    rcases fault_of_ofSection hmissing with ⟨_, hne⟩ | ⟨_, hne⟩ <;> cases hne
  next habsent =>
    rw [not_and_not_right] at habsent
    simp only [true_iff]
    cases announced with
    | false => exact .inl rfl
    | true => exact .inr (habsent rfl)

theorem ofSection_extract (announced : Bool) (file : ByteArray) (size : Nat) :
    (if announced = true ∧ size < file.size then ofSection (bytes (file.extract size file.size))
      else .error .missing) = ofTail announced ((bytes file).drop size) := by
  have hsection : bytes (file.extract size file.size) = (bytes file).drop size := by
    rw [bytes_extract, ← length_bytes, ← List.length_drop, List.take_length]
  have hpresent : (bytes file).drop size ≠ [] ↔ size < file.size := by
    rw [ne_eq, List.drop_eq_nil_iff, length_bytes, not_le]
  simp only [ofTail, hsection, hpresent]

theorem ofModuleFile_eq_ofTail {file : ByteArray} {header : Header} {size : Nat}
    (hheader : Header.parse (bytes file) = .ok header)
    (hsize : header.size.offset? = some size) :
    ofModuleFile file = ofTail header.hasDebugInfo ((bytes file).drop size) := by
  rw [← ofSection_extract]
  unfold ofModuleFile
  rw [hheader]
  change (if (!header.hasDebugInfo) = true then _ else _) = _
  cases header.hasDebugInfo with
  | false => rfl
  | true =>
    rw [hsize]
    simp only [true_and]
    rfl

theorem ofImage_assemble (file : ByteArray) (header : Header) (segments : ByteArray)
    (publics natives : List (UInt32 × String)) :
    ofImage (Image.assemble file header segments publics natives) =
      ofTail header.hasDebugInfo ((bytes file).drop header.size.toNatClampNeg) := by
  rw [← ofSection_extract, ofImage, Image.assemble]
  simp only [Bool.and_eq_true, decide_eq_true_eq]
  split_ifs with hpresent
  · rfl
  · rfl

/-- On every file that is accepted as an image both routes give the same store or the same fault.
Such a fault is one of the section, and the section is missing exactly where the header announces
none or the file ends with the image. -/
theorem ofModuleFile_eq_ofImage {file : ByteArray} {image : Image}
    (h : Image.parse file = .ok image) :
    ofModuleFile file = ofImage image ∧
      (∀ fault, ofImage image = .error fault → fault.IsSectionFault) ∧
      (ofImage image = .error .missing ↔
        image.header.hasDebugInfo = false ∨ image.header.size.toInt = file.size) := by
  obtain ⟨segments, publics, natives, hparts, himage⟩ := Image.parse_eq_ok_iff.mp h
  have hend := hparts.size_le
  have hsize : image.header.size.toInt = image.header.size.toNatClampNeg := by
    -- an accepted size is not negative, since the code starts before it and after the header
    have hcod := hparts.wellFormed.le_cod.trans hparts.cod_le_size
    simp only [Int32.toNatClampNeg] at hcod ⊢
    omega
  have hroute : ofImage image = ofTail image.header.hasDebugInfo
      ((bytes file).drop image.header.size.toNatClampNeg) := by
    rw [← himage]
    exact ofImage_assemble ..
  rw [ofModuleFile_eq_ofTail hparts.read_header (Cell.offset?_eq_some_iff.mpr hsize), hroute]
  refine ⟨rfl, fun fault => isSectionFault_of_ofTail, ?_⟩
  rw [ofTail_eq_missing_iff, List.drop_eq_nil_iff, length_bytes]
  refine or_congr_right ?_
  omega

/-- A module whose section is cut short, by both routes. -/
theorem ofModuleFile_eq_ofImage_plainFile :
    Image.parse Image.plainFile = .ok Image.plainImage ∧
      ofModuleFile Image.plainFile = ofImage Image.plainImage ∧
        ofImage Image.plainImage = .error (.truncated ⟨0⟩) ∧
          (DebugError.truncated ⟨0⟩).IsSectionFault := by
  have hparse : Image.parse Image.plainFile = .ok Image.plainImage := rfl
  have hshort : ofImage Image.plainImage = .error (.truncated ⟨0⟩) := rfl
  obtain ⟨hsame, hfault, -⟩ := ofModuleFile_eq_ofImage hparse
  exact ⟨hparse, hsame, hshort, hfault _ hshort⟩

end DebugStore

end AmxTrace
