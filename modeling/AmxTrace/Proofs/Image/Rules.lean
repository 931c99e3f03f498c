import AmxTrace.Proofs.Image.Header
import AmxTrace.Proofs.Reader.Reach

/-! # Rules for headers -/

namespace AmxTrace

namespace Header

open Reader

/-- The rules of the format, on the fields as signed numbers. -/
structure Valid (h : Header) : Prop where
  signature_eq : h.signature = 0xF1E0
  oldest_le_version : 6 ≤ h.fileVersion.toNat
  version_le_newest : h.fileVersion.toNat ≤ 11
  entrySize_eq : h.entrySize.toInt = 8
  le_cod : 56 ≤ h.cod.toInt
  cod_le_dat : h.cod.toInt ≤ h.dat.toInt
  dat_le_hea : h.dat.toInt ≤ h.hea.toInt
  hea_le_stp : h.hea.toInt ≤ h.stp.toInt
  stack_le : h.stp.toInt - h.hea.toInt ≤ 64 * 1024 * 1024
  le_publics : 56 ≤ h.publics.toInt
  publics_le_natives : h.publics.toInt ≤ h.natives.toInt
  natives_le_libraries : h.natives.toInt ≤ h.libraries.toInt
  libraries_le_cod : h.libraries.toInt ≤ h.cod.toInt

/-- The rules on signed numbers are those on offsets, since none of the offsets is negative. -/
theorem valid_iff (h : Header) : h.Valid ↔ h.signature = expectedSignature ∧ h.WellFormed := by
  have height : (8 : Int16).toInt = 8 := by decide
  have hlimit : ImageError.stackLimit.toInt = 67108864 := by decide
  constructor
  · intro hv
    obtain ⟨hsignature, holdest, hnewest, hentry, hcod, hdat, hhea, hstp, hstack, hpublics, hnatives,
      hlibraries, htables⟩ := hv
    refine ⟨hsignature, ?_⟩
    constructor
    case oldest_le_version => exact UInt8.le_iff_toNat_le.mpr holdest
    case version_le_newest => exact UInt8.le_iff_toNat_le.mpr hnewest
    case entrySize_eq => exact Int16.toInt_inj.mp (hentry.trans height.symm)
    all_goals
      simp only [Int32.toNatClampNeg]
      omega
  · rintro ⟨hsignature, hw⟩
    obtain ⟨holdest, hnewest, hentry, hcod, hdat, hhea, hstp, hstack, hpublics, hnatives,
      hlibraries, htables⟩ := hw
    simp only [Int32.toNatClampNeg] at hcod hdat hhea hstp hstack hpublics hnatives hlibraries htables
    constructor
    case signature_eq => exact hsignature
    case oldest_le_version => exact UInt8.le_iff_toNat_le.mp holdest
    case version_le_newest => exact UInt8.le_iff_toNat_le.mp hnewest
    case entrySize_eq => rw [hentry, height]
    all_goals omega

theorem valid_of_parse {bytes : List UInt8} {h : Header} (hparse : parse bytes = .ok h) :
    h.Valid := by
  obtain ⟨-, hsignature, hw⟩ := parse_eq_ok_iff.mp hparse
  exact (valid_iff h).mpr ⟨hsignature, hw⟩

theorem Valid.zero_le_dat {h : Header} (hv : h.Valid) : 0 ≤ h.dat.toInt :=
  Int.le_trans (Int.le_trans (by decide) hv.le_cod) hv.cod_le_dat

theorem Valid.dat_le_stp {h : Header} (hv : h.Valid) : h.dat.toInt ≤ h.stp.toInt :=
  Int.le_trans hv.dat_le_hea hv.hea_le_stp

theorem reach_readSignature : Reach readSignature 6 :=
  reach_cell.bind fun _ => reach_word16.bind fun _ => reach_pure _

theorem reach_readFields (size : Cell) (signature : UInt16) :
    Reach (readFields size signature) 50 :=
  reach_byte.bind fun _ => reach_byte.bind fun _ => reach_short.bind fun _ =>
    reach_short.bind fun _ => reach_cell.bind fun _ => reach_cell.bind fun _ =>
      reach_cell.bind fun _ => reach_cell.bind fun _ => reach_cell.bind fun _ =>
        reach_cell.bind fun _ => reach_cell.bind fun _ => reach_cell.bind fun _ =>
          reach_cell.bind fun _ => reach_cell.bind fun _ => reach_cell.bind fun _ => reach_pure _

theorem parse_take (bytes : List UInt8) : parse (bytes.take byteSize) = parse bytes := by
  have hsigned := reach_readSignature 0 bytes 50
  unfold parse
  rw [show byteSize = 50 + 6 from rfl, hsigned]
  cases readSignature ⟨0, bytes⟩ with
  | error short => rfl
  | ok read =>
    obtain ⟨⟨size, signature⟩, cursor⟩ := read
    by_cases hsignature : signature = expectedSignature
    · have hfields := reach_readFields size signature cursor.offset cursor.rest 0
      subst hsignature
      dsimp only [cutRest, Except.map, Except.mapError, bind, Except.bind]
      rw [if_neg (not_not.mpr rfl), show (50 : Nat) = 0 + 50 from rfl, hfields]
      cases readFields size expectedSignature cursor with
      | error short => rfl
      | ok fields => rfl
    · dsimp only [cutRest, Except.map, Except.mapError, bind, Except.bind]
      rw [if_pos hsignature, if_pos hsignature]
      rfl

/-- The differences of offsets that are taken of a header do not wrap, and the tables have the numbers
of entries that signed division by the entry size gives. -/
structure ExactSpans (h : Header) : Prop where
  stack : (h.stp - h.hea).toInt = h.stp.toInt - h.hea.toInt
  publics : (h.natives - h.publics).toInt = h.natives.toInt - h.publics.toInt
  natives : (h.libraries - h.natives).toInt = h.libraries.toInt - h.natives.toInt
  publicCount_eq : ((h.natives - h.publics) / h.entrySize.toInt32).toInt = h.publicCount
  nativeCount_eq : ((h.libraries - h.natives) / h.entrySize.toInt32).toInt = h.nativeCount

theorem toInt_span_div {start stop : Cell} {entrySize : Int16} (hentry : entrySize.toInt = 8)
    (hzero : 0 ≤ start.toInt) (hle : start.toInt ≤ stop.toInt) :
    ((stop - start) / entrySize.toInt32).toInt = entryCount start stop := by
  have hspan := Cell.toInt_sub_of_le hzero hle
  have hsize : entrySize.toInt32.toInt = 8 := by rw [Int16.toInt_toInt32, hentry]
  rw [Cell.toInt_div_of_nonneg (by omega) (by omega), hspan, hsize, entryCount]
  omega

theorem Valid.exactSpans {h : Header} (hv : h.Valid) : h.ExactSpans := by
  have hpublics : 0 ≤ h.publics.toInt := Int.le_trans (by decide) hv.le_publics
  have hnatives : 0 ≤ h.natives.toInt := Int.le_trans hpublics hv.publics_le_natives
  have hhea : 0 ≤ h.hea.toInt := Int.le_trans hv.zero_le_dat hv.dat_le_hea
  exact ⟨Cell.toInt_sub_of_le hhea hv.hea_le_stp, Cell.toInt_sub_of_le hpublics hv.publics_le_natives,
    Cell.toInt_sub_of_le hnatives hv.natives_le_libraries,
    toInt_span_div hv.entrySize_eq hpublics hv.publics_le_natives,
    toInt_span_div hv.entrySize_eq hnatives hv.natives_le_libraries⟩

/-- A header is accepted exactly when the first 56 bytes are those of its fields and the fields keep
the rules. The bytes after them change nothing, and no span of an accepted header wraps. -/
theorem parse_eq_ok_iff_valid (bytes : List UInt8) (h : Header) :
    (parse bytes = .ok h ↔
        56 ≤ bytes.length ∧ bytes.take 56 = h.toBytes ∧ h.Valid) ∧
      parse (bytes.take 56) = parse bytes ∧ (parse bytes = .ok h → h.ExactSpans) := by
  have haccepted : parse bytes = .ok h ↔
      56 ≤ bytes.length ∧ bytes.take 56 = h.toBytes ∧ h.Valid := by
    have hlength : h.toBytes.length = 56 := length_toBytes h
    rw [parse_eq_ok_iff, valid_iff, List.prefix_iff_eq_take, hlength, eq_comm (a := h.toBytes)]
    constructor
    · rintro ⟨hbytes, hrules⟩
      refine ⟨?_, hbytes, hrules⟩
      rw [← hlength, ← hbytes]
      exact List.length_take_le' 56 bytes
    · rintro ⟨-, hbytes, hrules⟩
      exact ⟨hbytes, hrules⟩
  exact ⟨haccepted, parse_take bytes, fun hparse => (valid_of_parse hparse).exactSpans⟩

/-- A header with two publics and a native. -/
def withTables : Header :=
  { bare 1000 with cod := 80, dat := 88, hea := 96, natives := 72, libraries := 80 }

theorem parse_withTables :
    parse (withTables.toBytes ++ [1, 2, 3]) = .ok withTables ∧ withTables.publicCount = 2 ∧
      ((withTables.natives - withTables.publics) / withTables.entrySize.toInt32).toInt = 2 := by
  have hvalid : withTables.Valid := by
    constructor
    all_goals decide
  obtain ⟨haccepted, -, hspans⟩ :=
    parse_eq_ok_iff_valid (withTables.toBytes ++ [1, 2, 3]) withTables
  have hparse := haccepted.mpr ⟨by decide, by decide, hvalid⟩
  exact ⟨hparse, by decide, (hspans hparse).publicCount_eq⟩

end Header

end AmxTrace
