import AmxTrace.Image.Header
import AmxTrace.Proofs.Reader.Written
import AmxTrace.Segment
import Mathlib.Tactic.SplitIfs

/-! # Accepted headers -/

namespace AmxTrace.Header

open Reader Word

def fieldBytes (h : Header) : List UInt8 :=
  [h.fileVersion] ++ ([h.machineVersion] ++ (toBytes16 h.flags.toUInt16 ++
    (toBytes16 h.entrySize.toUInt16 ++ (toBytes32 h.cod.toUInt32 ++ (toBytes32 h.dat.toUInt32 ++
      (toBytes32 h.hea.toUInt32 ++ (toBytes32 h.stp.toUInt32 ++ (toBytes32 h.cip.toUInt32 ++
        (toBytes32 h.publics.toUInt32 ++ (toBytes32 h.natives.toUInt32 ++
          (toBytes32 h.libraries.toUInt32 ++ (toBytes32 h.publicVariables.toUInt32 ++
            (toBytes32 h.tags.toUInt32 ++ toBytes32 h.nameTable.toUInt32)))))))))))))

def toBytes (h : Header) : List UInt8 :=
  toBytes32 h.size.toUInt32 ++ (toBytes16 h.signature ++ h.fieldBytes)

theorem length_toBytes (h : Header) : h.toBytes.length = byteSize := rfl

theorem readSignature_eq_ok_iff {cursor after : Cursor} {size : Cell} {signature : UInt16} :
    readSignature cursor = .ok ((size, signature), after) ↔
      cursor.rest = toBytes32 size.toUInt32 ++ (toBytes16 signature ++ after.rest) ∧
        after.offset = cursor.offset + 6 := by
  obtain ⟨offset, bytes⟩ := cursor
  obtain ⟨last, rest⟩ := after
  simp only [readSignature, field_cell.bind_eq_ok_iff, field_word16.bind_eq_ok_iff,
    pure_eq_ok_iff, Prod.mk.injEq, Cursor.mk.injEq]
  constructor
  · rintro ⟨_, _, rfl, _, _, rfl, ⟨rfl, rfl⟩, rfl, rfl⟩
    exact ⟨rfl, rfl⟩
  · rintro ⟨rfl, rfl⟩
    exact ⟨_, _, rfl, _, _, rfl, ⟨rfl, rfl⟩, rfl, rfl⟩

theorem readFields_eq_ok_iff {size : Cell} {signature : UInt16} {cursor after : Cursor}
    {h : Header} :
    readFields size signature cursor = .ok (h, after) ↔
      h.size = size ∧ h.signature = signature ∧ cursor.rest = h.fieldBytes ++ after.rest ∧
        after.offset = cursor.offset + 50 := by
  obtain ⟨offset, bytes⟩ := cursor
  obtain ⟨last, rest⟩ := after
  simp only [readFields, field_byte.bind_eq_ok_iff, field_short.bind_eq_ok_iff,
    field_cell.bind_eq_ok_iff, pure_eq_ok_iff, Cursor.mk.injEq]
  constructor
  · rintro ⟨_, _, rfl, _, _, rfl, _, _, rfl, _, _, rfl, _, _, rfl, _, _, rfl, _, _, rfl, _, _, rfl,
      _, _, rfl, _, _, rfl, _, _, rfl, _, _, rfl, _, _, rfl, _, _, rfl, _, _, rfl, rfl, rfl, rfl⟩
    simp [fieldBytes]
  · rintro ⟨rfl, rfl, hbytes, rfl⟩
    simp only [fieldBytes, List.append_assoc] at hbytes
    exact ⟨_, _, hbytes, _, _, rfl, _, _, rfl, _, _, rfl, _, _, rfl, _, _, rfl, _, _, rfl,
      _, _, rfl, _, _, rfl, _, _, rfl, _, _, rfl, _, _, rfl, _, _, rfl, _, _, rfl, _, _, rfl,
      rfl, rfl, rfl⟩

/-- The rules of the format: a known version and entry size, segments and tables in order after the
header, and a stack that is not too large. -/
structure WellFormed (h : Header) : Prop where
  oldest_le_version : 6 ≤ h.fileVersion
  version_le_newest : h.fileVersion ≤ 11
  entrySize_eq : h.entrySize = 8
  le_cod : 56 ≤ h.cod.toNatClampNeg
  cod_le_dat : h.cod.toNatClampNeg ≤ h.dat.toNatClampNeg
  dat_le_hea : h.dat.toNatClampNeg ≤ h.hea.toNatClampNeg
  hea_le_stp : h.hea.toNatClampNeg ≤ h.stp.toNatClampNeg
  stack_le : h.stp.toNatClampNeg - h.hea.toNatClampNeg ≤ ImageError.stackLimit.toNatClampNeg
  le_publics : 56 ≤ h.publics.toNatClampNeg
  publics_le_natives : h.publics.toNatClampNeg ≤ h.natives.toNatClampNeg
  natives_le_libraries : h.natives.toNatClampNeg ≤ h.libraries.toNatClampNeg
  libraries_le_cod : h.libraries.toNatClampNeg ≤ h.cod.toNatClampNeg

/-- Four offsets in order past the header, read as numbers or as cells. -/
private theorem ordered_iff (a b c d : Cell) :
    (56 ≤ a && a ≤ b && b ≤ c && c ≤ d) = true ↔
      56 ≤ a.toNatClampNeg ∧ a.toNatClampNeg ≤ b.toNatClampNeg ∧
        b.toNatClampNeg ≤ c.toNatClampNeg ∧ c.toNatClampNeg ≤ d.toNatClampNeg := by
  have h56 : (56 : Cell).toInt = 56 := by decide
  simp only [Bool.and_eq_true, decide_eq_true_eq, Int32.le_iff_toInt_le, h56,
    Int32.toNatClampNeg]
  omega

theorem segmentsOrdered_iff (h : Header) :
    h.segmentsOrdered = true ↔ 56 ≤ h.cod.toNatClampNeg ∧
      h.cod.toNatClampNeg ≤ h.dat.toNatClampNeg ∧ h.dat.toNatClampNeg ≤ h.hea.toNatClampNeg ∧
        h.hea.toNatClampNeg ≤ h.stp.toNatClampNeg :=
  ordered_iff h.cod h.dat h.hea h.stp

theorem tablesOrdered_iff (h : Header) :
    h.tablesOrdered = true ↔ 56 ≤ h.publics.toNatClampNeg ∧
      h.publics.toNatClampNeg ≤ h.natives.toNatClampNeg ∧
        h.natives.toNatClampNeg ≤ h.libraries.toNatClampNeg ∧
          h.libraries.toNatClampNeg ≤ h.cod.toNatClampNeg :=
  ordered_iff h.publics h.natives h.libraries h.cod

theorem stackLimit_lt_iff {h : Header} (hordered : h.segmentsOrdered = true) :
    ImageError.stackLimit < h.stp - h.hea ↔
      ImageError.stackLimit.toNatClampNeg < h.stp.toNatClampNeg - h.hea.toNatClampNeg := by
  have hlimit : ImageError.stackLimit.toInt = 67108864 := by decide
  have hstp := h.stp.toInt_lt
  rw [segmentsOrdered_iff] at hordered
  simp only [Int32.toNatClampNeg] at hordered ⊢
  rw [Int32.lt_iff_toInt_lt, Int32.toInt_sub, Int.bmod_eq_of_le (by omega) (by omega)]
  omega

theorem fault?_eq_none_iff (h : Header) : h.fault? = none ↔ h.WellFormed := by
  unfold fault?
  constructor
  · intro hnone
    split_ifs at hnone with hversion hentry hsegments hstack htables
    rw [not_or, UInt8.not_lt, UInt8.not_lt] at hversion
    rw [not_ne_iff] at hentry
    rw [stackLimit_lt_iff hsegments, not_lt] at hstack
    obtain ⟨hcod, hdat, hhea, hstp⟩ := (segmentsOrdered_iff h).mp hsegments
    obtain ⟨hpublics, hnatives, hlibraries, htables⟩ := (tablesOrdered_iff h).mp htables
    exact ⟨hversion.1, hversion.2, hentry, hcod, hdat, hhea, hstp, hstack, hpublics, hnatives,
      hlibraries, htables⟩
  · intro hw
    have hversion : ¬(h.fileVersion < 6 ∨ 11 < h.fileVersion) := by
      rw [not_or, UInt8.not_lt, UInt8.not_lt]
      exact ⟨hw.oldest_le_version, hw.version_le_newest⟩
    have hsegments : h.segmentsOrdered = true :=
      (segmentsOrdered_iff h).mpr ⟨hw.le_cod, hw.cod_le_dat, hw.dat_le_hea, hw.hea_le_stp⟩
    have hstack : ¬ImageError.stackLimit < h.stp - h.hea := by
      rw [stackLimit_lt_iff hsegments, not_lt]
      exact hw.stack_le
    have htables : h.tablesOrdered = true :=
      (tablesOrdered_iff h).mpr
        ⟨hw.le_publics, hw.publics_le_natives, hw.natives_le_libraries, hw.libraries_le_cod⟩
    rw [if_neg hversion, if_neg (not_not.mpr hw.entrySize_eq), if_neg (not_not.mpr hsegments),
      if_neg hstack, if_neg (not_not.mpr htables)]

private theorem entryCount_le {start stop : Cell} (hstart : 56 ≤ start.toNatClampNeg)
    (hle : start.toNatClampNeg ≤ stop.toNatClampNeg) :
    start.toNatClampNeg + 8 * entryCount start stop ≤ stop.toNatClampNeg := by
  simp only [entryCount, Int32.toNatClampNeg] at hstart hle ⊢
  omega

theorem publics_end_le_cod {h : Header} (hw : h.WellFormed) :
    h.publics.toNatClampNeg + 8 * h.publicCount ≤ h.cod.toNatClampNeg := by
  have hend := entryCount_le hw.le_publics hw.publics_le_natives
  have hnatives := hw.natives_le_libraries
  have hlibraries := hw.libraries_le_cod
  rw [publicCount]
  omega

theorem natives_end_le_cod {h : Header} (hw : h.WellFormed) :
    h.natives.toNatClampNeg + 8 * h.nativeCount ≤ h.cod.toNatClampNeg := by
  have hend := entryCount_le (hw.le_publics.trans hw.publics_le_natives) hw.natives_le_libraries
  have hlibraries := hw.libraries_le_cod
  rw [nativeCount]
  omega

theorem parse_eq_ok_iff {bytes : List UInt8} {h : Header} :
    parse bytes = .ok h ↔
      h.toBytes <+: bytes ∧ h.signature = expectedSignature ∧ h.WellFormed := by
  unfold parse
  simp only [except_bind_eq_ok_iff, except_mapError_eq_ok_iff]
  constructor
  · rintro ⟨⟨⟨size, signature⟩, cursor⟩, hsigned, hrest⟩
    by_cases hsignature : signature = expectedSignature
    · rw [if_neg (not_not.mpr hsignature)] at hrest
      simp only [except_bind_eq_ok_iff, except_mapError_eq_ok_iff] at hrest
      obtain ⟨⟨header, last⟩, hfields, hjudged⟩ := hrest
      obtain ⟨hbytes, -⟩ := readSignature_eq_ok_iff.mp hsigned
      obtain ⟨rfl, rfl, hcursor, -⟩ := readFields_eq_ok_iff.mp hfields
      cases hfault : header.fault? with
      | some fault => rw [hfault] at hjudged; cases hjudged
      | none =>
        rw [hfault] at hjudged
        cases hjudged
        refine ⟨⟨last.rest, ?_⟩, hsignature, (fault?_eq_none_iff header).mp hfault⟩
        rw [show bytes = _ from hbytes, hcursor]
        simp only [toBytes, List.append_assoc]
    · rw [if_pos hsignature] at hrest
      cases hrest
  · rintro ⟨⟨rest, rfl⟩, hsignature, hw⟩
    have hfields : readFields h.size h.signature ⟨6, h.fieldBytes ++ rest⟩ = .ok (h, ⟨56, rest⟩) :=
      readFields_eq_ok_iff.mpr ⟨rfl, rfl, rfl, rfl⟩
    refine ⟨((h.size, h.signature), ⟨6, h.fieldBytes ++ rest⟩), ?_, ?_⟩
    · exact readSignature_eq_ok_iff.mpr ⟨by simp only [toBytes, List.append_assoc], rfl⟩
    · rw [if_neg (not_not.mpr hsignature)]
      simp only [except_bind_eq_ok_iff, except_mapError_eq_ok_iff]
      refine ⟨_, hfields, ?_⟩
      rw [(fault?_eq_none_iff h).mpr hw]
      rfl

/-- Header of a module with nothing but a stack. -/
def bare (stackTop : Cell) : Header where
  size := 56
  signature := expectedSignature
  fileVersion := 8
  machineVersion := 8
  flags := 0
  entrySize := 8
  cod := 56
  dat := 56
  hea := 56
  stp := stackTop
  cip := -1
  publics := 56
  natives := 56
  libraries := 56
  publicVariables := 56
  tags := 56
  nameTable := 56

def bareFile (stackTop : Cell) : ByteArray := Segment.ofBytes (bare stackTop).toBytes

end AmxTrace.Header
