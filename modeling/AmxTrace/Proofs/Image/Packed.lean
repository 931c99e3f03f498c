import AmxTrace.Proofs.Image.Packing
import AmxTrace.Proofs.Image.Parse

/-! # Packed modules -/

namespace AmxTrace

open Segment

namespace Header

def packed (h : Header) (size : Nat) : Header :=
  { h with size := Int32.ofNat size, flags := h.flags ||| compactFlag }

private theorem or_and_distrib (a b c : Int16) : (a ||| b) &&& c = (a &&& c) ||| (b &&& c) := by
  apply Int16.toBitVec_inj.mp
  simp only [Int16.toBitVec_or, Int16.toBitVec_and]
  ext i
  simp
  grind

theorem hasDebugInfo_packed (h : Header) (size : Nat) :
    (h.packed size).hasDebugInfo = h.hasDebugInfo := by
  have hflag : compactFlag &&& debugFlag = 0 := by decide
  simp only [hasDebugInfo, packed, or_and_distrib, hflag, Int16.or_zero]

theorem isCompact_packed (h : Header) (size : Nat) : (h.packed size).isCompact = true := by
  have hflag : (h.flags ||| compactFlag) &&& compactFlag ≠ 0 := by
    rw [or_and_distrib, Int16.and_self]
    intro hzero
    have hbit := congrArg (fun flags : Int16 => flags.toBitVec.getLsbD 2) hzero
    simp [compactFlag] at hbit
  simpa [isCompact, packed] using hflag

theorem wellFormed_packed {h : Header} (hw : h.WellFormed) (size : Nat) :
    (h.packed size).WellFormed :=
  ⟨hw.oldest_le_version, hw.version_le_newest, hw.entrySize_eq, hw.le_cod, hw.cod_le_dat,
    hw.dat_le_hea, hw.hea_le_stp, hw.stack_le, hw.le_publics, hw.publics_le_natives,
    hw.natives_le_libraries, hw.libraries_le_cod⟩

theorem size_packed {h : Header} {size : Nat} (hsize : size < 2 ^ 31) :
    (h.packed size).size.toNatClampNeg = size :=
  Int32.toNatClampNeg_ofNat_of_lt hsize

end Header

namespace Image

/-- The code and data of a plain file, as stored. -/
def storedBytes (file : List UInt8) (header : Header) : List UInt8 :=
  (file.drop header.cod.toNatClampNeg).take
    (header.size.toNatClampNeg - header.cod.toNatClampNeg)

def packedBytes (file : List UInt8) (header : Header) : List UInt8 :=
  Compact.encode (bytesCells (storedBytes file header))

def packedSize (file : List UInt8) (header : Header) : Nat :=
  header.cod.toNatClampNeg + (packedBytes file header).length

/-- The part of a file before the code, with the new size in bytes 0 to 4 and the new flags in
bytes 8 to 10. -/
def packedFront (file : List UInt8) (header : Header) : List UInt8 :=
  Word.toBytes32 (UInt32.ofNat (packedSize file header)) ++ (file.drop 4).take 4 ++
    Word.toBytes16 (header.flags ||| Header.compactFlag).toUInt16 ++
      (file.drop 10).take (header.cod.toNatClampNeg - 10)

/-- The packed form of a plain file. -/
def packedFile (file : List UInt8) (header : Header) : List UInt8 :=
  packedFront file header ++ (packedBytes file header ++ file.drop header.size.toNatClampNeg)

section Front

variable {file : List UInt8} {header : Header}

theorem length_packedFront (hcod : 56 ≤ header.cod.toNatClampNeg)
    (hfile : header.cod.toNatClampNeg ≤ file.length) :
    (packedFront file header).length = header.cod.toNatClampNeg := by
  simp only [packedFront, List.length_append, Word.length_toBytes32, Word.length_toBytes16,
    List.length_take, List.length_drop]
  omega

theorem agreeOn_packedFile (hcod : 56 ≤ header.cod.toNatClampNeg)
    (hfile : header.cod.toNatClampNeg ≤ file.length) :
    AgreeOn 56 header.cod.toNatClampNeg file (packedFile file header) := by
  intro i hlow hhigh
  have hpatched : (Word.toBytes32 (UInt32.ofNat (packedSize file header)) ++ (file.drop 4).take 4 ++
      Word.toBytes16 (header.flags ||| Header.compactFlag).toUInt16).length = 10 := by
    simp only [List.length_append, Word.length_toBytes32, Word.length_toBytes16,
      List.length_take, List.length_drop]
    omega
  have hfront := length_packedFront hcod hfile
  rw [packedFile, List.getElem?_append_left (by omega), packedFront,
    List.getElem?_append_right (by omega), hpatched, List.getElem?_take_of_lt (by omega),
    List.getElem?_drop, Nat.add_sub_cancel' (by omega)]

theorem toBytes_prefix_packedFile (hstart : header.toBytes <+: file)
    (hcod : 56 ≤ header.cod.toNatClampNeg) :
    (header.packed (packedSize file header)).toBytes <+: packedFile file header := by
  obtain ⟨rest, hrest⟩ := hstart
  have hpacked (size : Nat) : (header.packed size).toBytes =
      Word.toBytes32 (UInt32.ofNat size) ++ (header.toBytes.drop 4).take 4 ++
        Word.toBytes16 (header.flags ||| Header.compactFlag).toUInt16 ++
          header.toBytes.drop 10 := rfl
  have hlength := header.length_toBytes
  rw [Header.byteSize] at hlength
  have hkept : (file.drop 4).take 4 = (header.toBytes.drop 4).take 4 := by
    rw [← hrest, List.drop_append_of_le_length (by omega),
      List.take_append_of_le_length (by rw [List.length_drop]; omega)]
  have hlater : header.toBytes.drop 10 <+: (file.drop 10).take (header.cod.toNatClampNeg - 10) := by
    rw [← hrest, List.drop_append_of_le_length (by omega)]
    refine List.prefix_take_iff.mpr ⟨List.prefix_append _ _, ?_⟩
    rw [List.length_drop]
    omega
  refine List.IsPrefix.trans ?_ (List.prefix_append _ _)
  rw [hpacked, packedFront, hkept]
  exact (List.prefix_append_right_inj _).mpr hlater

end Front

section Parts

variable {file : ByteArray} {header : Header} {segments : ByteArray}
  {publics natives : List (UInt32 × String)}

namespace Parts

variable (h : Parts file header segments publics natives)
include h

theorem length_packedFront : (packedFront (bytes file) header).length = header.cod.toNatClampNeg :=
  Image.length_packedFront h.wellFormed.le_cod (h.cod_le_size.trans h.size_le)

theorem slice_packedFile :
    ((packedFile (bytes file) header).drop header.cod.toNatClampNeg).take
        (packedSize (bytes file) header - header.cod.toNatClampNeg) =
      packedBytes (bytes file) header := by
  rw [packedFile, List.drop_left' h.length_packedFront, packedSize, Nat.add_sub_cancel_left,
    List.take_left]

theorem drop_packedFile :
    (packedFile (bytes file) header).drop (packedSize (bytes file) header) =
      (bytes file).drop header.size.toNatClampNeg := by
  rw [packedSize, ← List.drop_drop, packedFile, List.drop_left' h.length_packedFront,
    List.drop_left]

theorem length_packedFile :
    (packedFile (bytes file) header).length =
      packedSize (bytes file) header + (file.size - header.size.toNatClampNeg) := by
  rw [packedFile, packedSize, List.length_append, List.length_append, h.length_packedFront,
    List.length_drop, length_bytes, Nat.add_assoc]

theorem length_storedBytes :
    (storedBytes (bytes file) header).length =
      header.size.toNatClampNeg - header.cod.toNatClampNeg := by
  have hfile := h.size_le
  rw [storedBytes, List.length_take, List.length_drop, length_bytes]
  omega

variable (hsize : header.size = header.hea)
  (hcells : 4 ∣ header.hea.toNatClampNeg - header.cod.toNatClampNeg)
include hsize hcells

theorem length_packedBytes :
    header.hea.toNatClampNeg - header.cod.toNatClampNeg ≤
        4 * (packedBytes (bytes file) header).length ∧
      4 * (packedBytes (bytes file) header).length ≤
        5 * (header.hea.toNatClampNeg - header.cod.toNatClampNeg) := by
  have hcount := length_cellBytes (bytesCells (storedBytes (bytes file) header))
  rw [cellBytes_bytesCells (by rwa [h.length_storedBytes, hsize]), h.length_storedBytes,
    hsize] at hcount
  have hlength := Compact.length_encode (bytesCells (storedBytes (bytes file) header))
  rw [packedBytes]
  omega

theorem size_packed (hsmall : file.size < 2 ^ 30) :
    (header.packed (packedSize (bytes file) header)).size.toNatClampNeg =
      packedSize (bytes file) header := by
  have hfile := h.size_le
  have hcod := h.cod_le_size
  have hlength := h.length_packedBytes hsize hcells
  rw [hsize] at hfile hcod
  apply Header.size_packed
  rw [packedSize]
  omega

theorem storedSegments_packedFile (hplain : header.isCompact = false) :
    storedSegments (header.packed (packedSize (bytes file) header))
      (ofBytes (packedFile (bytes file) header)) (packedSize (bytes file) header) =
        .ok segments := by
  obtain ⟨-, rfl⟩ := (storedSegments_plain_eq_ok_iff hplain).mp h.read_segments
  have hlength := h.length_packedBytes hsize hcells
  have hstored := h.length_storedBytes
  have hdvd : 4 ∣ (storedBytes (bytes file) header).length := by rwa [hstored, hsize]
  have hexpand := Compact.expand_encode_bytesCells hdvd
  have hsegments : ofBytes (storedBytes (bytes file) header) =
      file.extract header.cod.toNatClampNeg header.hea.toNatClampNeg := by
    apply bytes_injective
    rw [bytes_ofBytes, bytes_extract, storedBytes, hsize]
  rw [hsegments, hstored, hsize] at hexpand
  refine (storedSegments_compact_eq_ok_iff (Header.isCompact_packed _ _)).mpr ⟨?_, ?_⟩
  · rw [packedSize]
    dsimp only [Header.packed]
    omega
  · rw [bytes_extract, bytes_ofBytes]
    exact (congrArg (Compact.expand · _) h.slice_packedFile).trans hexpand

theorem packed (hsmall : file.size < 2 ^ 30) (hplain : header.isCompact = false)
    (hpublics : NamesWithin (bytes file) 56 header.cod.toNatClampNeg header.publics.toNatClampNeg
      header.publicCount)
    (hnatives : NamesWithin (bytes file) 56 header.cod.toNatClampNeg header.natives.toNatClampNeg
      header.nativeCount) :
    Parts (ofBytes (packedFile (bytes file) header))
      (header.packed (packedSize (bytes file) header)) segments publics natives := by
  obtain ⟨hstart, hsignature, hw⟩ := Header.parse_eq_ok_iff.mp h.read_header
  have hfile := h.cod_le_size.trans h.size_le
  have hlength := h.length_packedFile
  have hpackedSize : header.cod.toNatClampNeg ≤ packedSize (bytes file) header :=
    Nat.le_add_right ..
  have hnewSize := h.size_packed hsize hcells hsmall
  have hagree := agreeOn_packedFile hw.le_cod hfile
  have hpublicsEnd := Header.publics_end_le_cod hw
  have hnativesEnd := Header.natives_end_le_cod hw
  have hread {offset : Cell} {count : Nat} {entries : List (UInt32 × String)}
      (hentries : readTable (bytes file) offset count = .ok entries)
      (hnames : NamesWithin (bytes file) 56 header.cod.toNatClampNeg offset.toNatClampNeg count)
      (hlow : 56 ≤ offset.toNatClampNeg)
      (hhigh : offset.toNatClampNeg + 8 * count ≤ header.cod.toNatClampNeg) :
      readTable (packedFile (bytes file) header) offset count = .ok entries := by
    rw [← hentries]
    exact readTable_eq_of_agree hagree hnames hlow hhigh (by rw [length_bytes]; omega) (by omega)
  constructor
  · rw [bytes_ofBytes]
    exact Header.parse_eq_ok_iff.mpr ⟨toBytes_prefix_packedFile hstart hw.le_cod, hsignature,
      Header.wellFormed_packed hw _⟩
  · rw [hnewSize]
    exact hpackedSize
  · rw [hnewSize, size_ofBytes, hlength]
    exact Nat.le_add_right ..
  · rw [hnewSize]
    exact h.storedSegments_packedFile hsize hcells hplain
  · rw [bytes_ofBytes]
    exact hread h.read_publics hpublics hw.le_publics hpublicsEnd
  · rw [bytes_ofBytes]
    exact hread h.read_natives hnatives (hw.le_publics.trans hw.publics_le_natives) hnativesEnd

theorem debugSection_packed (hsmall : file.size < 2 ^ 30) :
    (assemble (ofBytes (packedFile (bytes file) header))
        (header.packed (packedSize (bytes file) header)) segments publics natives).debugSection =
      (assemble file header segments publics natives).debugSection := by
  have hlength := h.length_packedFile
  have hrest : (ofBytes (packedFile (bytes file) header)).extract
      (packedSize (bytes file) header) (packedFile (bytes file) header).length =
        file.extract header.size.toNatClampNeg file.size := by
    apply bytes_injective
    rw [bytes_extract, bytes_extract, bytes_ofBytes, h.drop_packedFile, hlength,
      Nat.add_sub_cancel_left]
  have hpresent : packedSize (bytes file) header < (packedFile (bytes file) header).length ↔
      header.size.toNatClampNeg < file.size := by
    omega
  simp only [assemble, Header.hasDebugInfo_packed, h.size_packed hsize hcells hsmall,
    size_ofBytes, hrest, hpresent]

end Parts

end Parts

/-- The packed form of a plain module is accepted and gives the same segments, function tables,
debug section and initial registers. -/
theorem parse_packedFile {file : ByteArray} {image : Image} (h : parse file = .ok image)
    (hsmall : file.size < 2 ^ 30) (hplain : image.header.isCompact = false)
    (hsize : image.header.size = image.header.hea)
    (hcells : 4 ∣ image.header.hea.toNatClampNeg - image.header.cod.toNatClampNeg)
    (hpublics : NamesWithin (bytes file) 56 image.header.cod.toNatClampNeg
      image.header.publics.toNatClampNeg image.header.publicCount)
    (hnatives : NamesWithin (bytes file) 56 image.header.cod.toNatClampNeg
      image.header.natives.toNatClampNeg image.header.nativeCount) :
    ∃ packed, parse (ofBytes (packedFile (bytes file) image.header)) = .ok packed ∧
      packed.header.isCompact = true ∧ packed.code = image.code ∧ packed.data = image.data ∧
        packed.publics = image.publics ∧ packed.natives = image.natives ∧
          packed.debugSection = image.debugSection ∧
            packed.initialRegisters = image.initialRegisters := by
  obtain ⟨segments, publics, natives, hparts, himage⟩ := parse_eq_ok_iff.mp h
  have hpacked := hparts.packed hsize hcells hsmall hplain hpublics hnatives
  have hdebug := hparts.debugSection_packed hsize hcells hsmall
  refine ⟨_, hpacked.parse, Header.isCompact_packed _ _, ?_⟩
  rw [← himage]
  exact ⟨rfl, rfl, rfl, rfl, hdebug, rfl⟩

def plainHeader : Header where
  size := 88
  signature := Header.expectedSignature
  fileVersion := 8
  machineVersion := 8
  flags := Header.debugFlag
  entrySize := 8
  cod := 76
  dat := 84
  hea := 88
  stp := 96
  cip := 0
  publics := 56
  natives := 64
  libraries := 72
  publicVariables := 72
  tags := 72
  nameTable := 72

/-- A plain module with a public, a native, two cells of code, one cell of data and a tail. -/
def plainFile : ByteArray :=
  ofBytes (plainHeader.toBytes ++ TableRow.written ⟨4, 72, [65]⟩ ++
    TableRow.written ⟨0, 74, [66]⟩ ++ [65, 0, 66, 0] ++ cellBytes [-1, -2147483648, 200] ++
      [1, 2, 3])

def plainImage : Image where
  header := plainHeader
  headerBytes := plainHeader.toBytes
  code := ofCells [-1, -2147483648]
  data := ofCells [200, 0, 0]
  publics := [⟨Utf8.decodeLossy [65], 4⟩]
  natives := [⟨Utf8.decodeLossy [66], 0⟩]
  debugSection := some (ofBytes [1, 2, 3])

theorem parse_packedFile_plainFile :
    ∃ packed, parse (ofBytes (packedFile (bytes plainFile) plainHeader)) = .ok packed ∧
      packed.code = plainImage.code ∧ packed.data = plainImage.data ∧
        packed.publics = plainImage.publics ∧ packed.natives = plainImage.natives ∧
          packed.debugSection = plainImage.debugSection := by
  have hpublic : TableRow.NamedIn ⟨4, 72, [65]⟩ (bytes plainFile) := ⟨by decide, by decide⟩
  have hnative : TableRow.NamedIn ⟨0, 74, [66]⟩ (bytes plainFile) := ⟨by decide, by decide⟩
  have hpublics : NamesWithin (bytes plainFile) 56 76 56 1 :=
    namesWithin_singleton (by decide) hpublic (by decide) (by decide)
  have hnatives : NamesWithin (bytes plainFile) 56 76 64 1 :=
    namesWithin_singleton (by decide) hnative (by decide) (by decide)
  have hparse : parse plainFile = .ok plainImage := rfl
  obtain ⟨packed, hpacked, -, hcode, hdata, hsame, hsame', hdebug, -⟩ :=
    parse_packedFile hparse (by decide) (by decide) rfl (by decide) hpublics hnatives
  exact ⟨packed, hpacked, hcode, hdata, hsame, hsame', hdebug⟩

end Image

end AmxTrace
