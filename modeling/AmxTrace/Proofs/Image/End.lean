import AmxTrace.Proofs.Image.Parse

/-! # What follows the image -/

namespace AmxTrace

open Segment

theorem Header.parse_of_agree {h : Header} {file other : List UInt8}
    (hparse : Header.parse file = .ok h) {high : Nat} (hagree : AgreeOn 0 high file other)
    (hhigh : Header.byteSize ≤ high) : Header.parse other = .ok h := by
  obtain ⟨hbytes, hrest⟩ := Header.parse_eq_ok_iff.mp hparse
  have hstart : h.toBytes <+: file.drop 0 := hbytes
  have hlength : 0 + h.toBytes.length ≤ high := by
    rw [Nat.zero_add, Header.length_toBytes]
    exact hhigh
  exact Header.parse_eq_ok_iff.mpr ⟨hagree.stands hstart le_rfl hlength, hrest⟩

namespace Image

theorem storedSegments_eq_of_agree {header : Header} {file other : ByteArray} {size : Nat}
    (hagree : AgreeOn 0 size (bytes file) (bytes other))
    (hend : header.isCompact = true ∨ header.hea.toNatClampNeg ≤ size) (hfile : size ≤ file.size)
    (hother : size ≤ other.size) :
    storedSegments header other size = storedSegments header file size := by
  have hslice {stop : Nat} (hstop : stop ≤ size) :
      other.extract header.cod.toNatClampNeg stop = file.extract header.cod.toNatClampNeg stop := by
    apply bytes_injective
    rw [bytes_extract, bytes_extract]
    exact (hagree.slice_eq (Nat.zero_le _) hstop).symm
  rcases hend with hcompact | hle
  · simp only [storedSegments, hcompact, if_true, hslice le_rfl]
  · simp only [storedSegments, hslice le_rfl, hslice hle, if_pos (hle.trans hfile),
      if_pos (hle.trans hother)]

variable {file other : ByteArray} {header header' : Header} {segments segments' : ByteArray}
  {publics publics' natives natives' : List (UInt32 × String)}

theorem Parts.byteSize_le_size (h : Parts file header segments publics natives) :
    Header.byteSize ≤ header.size.toNatClampNeg :=
  h.wellFormed.le_cod.trans h.cod_le_size

theorem Parts.eq_of_agree (h : Parts file header segments publics natives)
    (h' : Parts other header' segments' publics' natives')
    (hagree : AgreeOn 0 header.size.toNatClampNeg (bytes file) (bytes other))
    (hend : header.isCompact = true ∨ header.hea.toNatClampNeg ≤ header.size.toNatClampNeg)
    (hpublics : NamesWithin (bytes file) 0 header.size.toNatClampNeg header.publics.toNatClampNeg
      header.publicCount)
    (hnatives : NamesWithin (bytes file) 0 header.size.toNatClampNeg header.natives.toNatClampNeg
      header.nativeCount) :
    header' = header ∧ segments' = segments ∧ publics' = publics ∧ natives' = natives := by
  have hheader := Header.parse_of_agree h.read_header hagree h.byteSize_le_size
  rw [h'.read_header] at hheader
  cases hheader
  have hsize := h.cod_le_size
  have hfile := h.size_le
  have hother := h'.size_le
  have hpublicsEnd := Header.publics_end_le_cod h.wellFormed
  have hnativesEnd := Header.natives_end_le_cod h.wellFormed
  have hsegments := storedSegments_eq_of_agree hagree hend hfile hother
  have hreadPublics := readTable_eq_of_agree hagree hpublics (Nat.zero_le _) (by omega)
    (by rw [length_bytes]; omega) (by rw [length_bytes]; omega)
  have hreadNatives := readTable_eq_of_agree hagree hnatives (Nat.zero_le _) (by omega)
    (by rw [length_bytes]; omega) (by rw [length_bytes]; omega)
  rw [h.read_segments, h'.read_segments] at hsegments
  rw [h.read_publics, h'.read_publics] at hreadPublics
  rw [h.read_natives, h'.read_natives] at hreadNatives
  exact ⟨rfl, Except.ok.inj hsegments, Except.ok.inj hreadPublics, Except.ok.inj hreadNatives⟩

namespace TableRow

/-- The entry with the name that stands in a file at its offset. -/
def renamed (row : TableRow) (file : List UInt8) : TableRow :=
  { row with name := (file.drop row.nameOffset.toNat).takeWhile (· != 0) }

theorem renamed_name {row : TableRow} {file name rest : List UInt8} (hname : 0 ∉ name)
    (hbytes : file.drop row.nameOffset.toNat = name ++ 0 :: rest) :
    (row.renamed file).name = name := by
  rw [renamed, hbytes, Reader.takeWhile_name hname]

theorem namedIn_renamed {row : TableRow} {file : List UInt8}
    (hzero : 0 ∈ file.drop row.nameOffset.toNat) : (row.renamed file).NamedIn file := by
  obtain ⟨name, rest, hbytes, hname⟩ := List.eq_append_cons_of_mem hzero
  constructor
  · rwa [renamed_name hname hbytes]
  · rw [renamed_name hname hbytes]
    exact ⟨rest, by rw [List.append_assoc]; exact hbytes.symm⟩

theorem NamedIn.nameOffset_le {row : TableRow} {file : List UInt8} (h : row.NamedIn file) :
    row.nameOffset.toNat ≤ file.length := by
  have hle := h.stands.length_le
  simp only [List.length_append, List.length_drop, List.length_singleton] at hle
  omega

end TableRow

theorem readTable_renamed {file : List UInt8} {offset : Cell} {rows : List TableRow}
    (hoffset : offset.toNatClampNeg ≤ file.length)
    (hstands : rows.flatMap TableRow.written <+: file.drop offset.toNatClampNeg)
    (hzero : ∀ row ∈ rows, 0 ∈ file.drop row.nameOffset.toNat) :
    readTable file offset rows.length = .ok (rows.map fun row => (row.renamed file).entry) := by
  refine readTable_eq_ok_iff.mpr
    ⟨hoffset, rows.map (·.renamed file), List.length_map .., ⟨?_, ?_⟩, List.map_map ..⟩
  · rw [List.flatMap_map]
    exact hstands
  · rw [List.forall_mem_map]
    intro row hrow
    exact TableRow.namedIn_renamed (hzero row hrow)

/-- The function tables of a file. -/
structure Tables (file : List UInt8) (header : Header) (publics natives : List TableRow) :
    Prop where
  publics_length : publics.length = header.publicCount
  natives_length : natives.length = header.nativeCount
  publicsAt : TableAt file header.publics.toNatClampNeg publics
  nativesAt : TableAt file header.natives.toNatClampNeg natives

theorem Parts.exists_tables (h : Parts file header segments publics natives) :
    ∃ publicRows nativeRows, Tables (bytes file) header publicRows nativeRows := by
  obtain ⟨-, publicRows, hpublicCount, hpublicsAt, -⟩ := readTable_eq_ok_iff.mp h.read_publics
  obtain ⟨-, nativeRows, hnativeCount, hnativesAt, -⟩ := readTable_eq_ok_iff.mp h.read_natives
  exact ⟨publicRows, nativeRows, hpublicCount, hnativeCount, hpublicsAt, hnativesAt⟩

theorem Parts.exists_storedSegments_of_agree (h : Parts file header segments publics natives)
    (hlong : file.size ≤ other.size)
    (hagree : AgreeOn 0 header.size.toNatClampNeg (bytes file) (bytes other)) :
    ∃ segments', storedSegments header other header.size.toNatClampNeg = .ok segments' := by
  cases hcompact : header.isCompact with
  | true =>
    refine ⟨segments, ?_⟩
    rw [storedSegments_eq_of_agree hagree (.inl hcompact) h.size_le (h.size_le.trans hlong)]
    exact h.read_segments
  | false =>
    obtain ⟨hhea, -⟩ := (storedSegments_plain_eq_ok_iff hcompact).mp h.read_segments
    exact ⟨_, (storedSegments_plain_eq_ok_iff hcompact).mpr ⟨hhea.trans hlong, rfl⟩⟩

/-- A file with the same image that is not shorter and is closed by a zero byte is accepted. -/
theorem Parts.exists_of_agree (h : Parts file header segments publics natives)
    {publicRows nativeRows : List TableRow}
    (htables : Tables (bytes file) header publicRows nativeRows) {front : List UInt8}
    (hlong : file.size ≤ front.length)
    (hagree : AgreeOn 0 header.size.toNatClampNeg (bytes file) (front ++ [0])) :
    ∃ segments', Parts (ofBytes (front ++ [0])) header segments'
      (publicRows.map fun row => (row.renamed (front ++ [0])).entry)
      (nativeRows.map fun row => (row.renamed (front ++ [0])).entry) := by
  have hcod := h.cod_le_size
  have hfile := h.size_le
  have hpublicsEnd := Header.publics_end_le_cod h.wellFormed
  have hnativesEnd := Header.natives_end_le_cod h.wellFormed
  have hlength : (front ++ [0]).length = front.length + 1 := List.length_append
  -- wherever a name starts, the last byte closes it
  have hzero {offset : Nat} (hoffset : offset ≤ file.size) : 0 ∈ (front ++ [0]).drop offset := by
    rw [List.drop_append_of_le_length (hoffset.trans hlong)]
    exact List.mem_append_right _ (List.mem_singleton_self 0)
  have hread {offset : Cell} {rows : List TableRow}
      (hat : TableAt (bytes file) offset.toNatClampNeg rows)
      (hend : offset.toNatClampNeg + 8 * rows.length ≤ header.cod.toNatClampNeg) :
      readTable (front ++ [0]) offset rows.length =
        .ok (rows.map fun row => (row.renamed (front ++ [0])).entry) := by
    apply readTable_renamed
    · omega
    · exact hagree.stands hat.stands (Nat.zero_le _) (by rw [length_flatMap_written]; omega)
    · intro row hrow
      exact hzero (hat.named row hrow).nameOffset_le
  have hsize : file.size ≤ (ofBytes (front ++ [0])).size := by rw [size_ofBytes]; omega
  obtain ⟨segments', hsegments'⟩ :=
    h.exists_storedSegments_of_agree hsize (by rwa [bytes_ofBytes])
  refine ⟨segments', ?_, hcod, hfile.trans hsize, hsegments', ?_, ?_⟩
  · rw [bytes_ofBytes]
    exact Header.parse_of_agree h.read_header hagree h.byteSize_le_size
  · rw [bytes_ofBytes, ← htables.publics_length]
    exact hread htables.publicsAt (by rw [htables.publics_length]; exact hpublicsEnd)
  · rw [bytes_ofBytes, ← htables.natives_length]
    exact hread htables.nativesAt (by rw [htables.natives_length]; exact hnativesEnd)

/-- A name that is not closed inside the image has another text in another file with that image. -/
theorem TableRow.NamedIn.exists_renamed_ne {row : TableRow} {file : List UInt8}
    (h : row.NamedIn file) {size : Nat} (hsize : size ≤ file.length) (hpast : size < row.nameEnd) :
    ∃ front front' : List UInt8, file.length ≤ front.length ∧ file.length ≤ front'.length ∧
      front.take size = file.take size ∧ front'.take size = file.take size ∧
        (row.renamed (front ++ [0])).entry.2 ≠ (row.renamed (front' ++ [0])).entry.2 := by
  obtain ⟨hname, rest, hrest⟩ := h
  rw [List.append_assoc] at hrest
  have hnameEnd : row.nameEnd = row.nameOffset.toNat + row.name.length + 1 := rfl
  have hoffset := (TableRow.NamedIn.mk hname ⟨rest, by rwa [List.append_assoc]⟩).nameOffset_le
  -- the part of the name inside the image, closed at once or after one more letter
  let stop := max row.nameOffset.toNat size
  let kept := (file.take stop).drop row.nameOffset.toNat
  have hstop : stop ≤ file.length := max_le hoffset hsize
  have hkept : 0 ∉ kept := by
    have hpart : kept = row.name.take (stop - row.nameOffset.toNat) := by
      rw [show kept = _ from List.drop_take, ← hrest, List.take_append_of_le_length (by omega)]
    rw [hpart]
    exact fun hzero => hname (List.mem_of_mem_take hzero)
  have hdrop (tail : List UInt8) :
      (file.take stop ++ tail).drop row.nameOffset.toNat = kept ++ tail :=
    List.drop_append_of_le_length (by rw [List.length_take]; omega)
  have htake (tail : List UInt8) : (file.take stop ++ tail).take size = file.take size := by
    rw [List.take_append_of_le_length (by rw [List.length_take]; omega), List.take_take,
      min_eq_left (le_max_right _ _)]
  let zeros : List UInt8 := List.replicate file.length 0
  refine ⟨file.take stop ++ 0 :: zeros, file.take stop ++ 65 :: 0 :: zeros, by simp [zeros]; omega,
    by simp [zeros]; omega, htake _, htake _, ?_⟩
  have hfirst : (row.renamed (file.take stop ++ 0 :: zeros ++ [0])).name = kept :=
    TableRow.renamed_name hkept (by rw [List.append_assoc, hdrop, List.cons_append])
  have hsecond : (row.renamed (file.take stop ++ 65 :: 0 :: zeros ++ [0])).name = kept ++ [65] := by
    have hlonger : 0 ∉ kept ++ [65] := by simpa using hkept
    have hbytes : (file.take stop ++ 65 :: 0 :: zeros ++ [0]).drop row.nameOffset.toNat =
        kept ++ [65] ++ 0 :: (zeros ++ [0]) := by
      rw [List.append_assoc, hdrop, List.append_assoc]
      rfl
    exact TableRow.renamed_name hlonger hbytes
  rw [TableRow.entry, TableRow.entry, hfirst, hsecond,
    Utf8.decodeLossy_concat_ascii kept (by decide)]
  intro heq
  have hlength := congrArg String.length heq
  rw [String.length_append] at hlength
  simp at hlength

/-- No file with the same image gives other segments or function tables. -/
def UnaffectedByEnd (file : ByteArray) (image : Image) : Prop :=
  ∀ other image', parse other = .ok image' →
    (bytes other).take image.header.size.toNatClampNeg =
      (bytes file).take image.header.size.toNatClampNeg →
    image'.code = image.code ∧ image'.data = image.data ∧ image'.publics = image.publics ∧
      image'.natives = image.natives

theorem segments_eq_of_code_data {first second : ByteArray} {codeSize dataSize : Nat}
    (hsize : first.size = second.size) (hle : first.size ≤ codeSize + dataSize)
    (hcode : first.extract 0 codeSize = second.extract 0 codeSize)
    (hdata : resize (first.extract codeSize first.size) dataSize =
      resize (second.extract codeSize second.size) dataSize) : first = second := by
  have hfront := congrArg bytes hcode
  have hback := congrArg bytes hdata
  have hrest (segment : ByteArray) (hsegment : segment.size ≤ codeSize + dataSize) :
      (((bytes segment).drop codeSize).take (segment.size - codeSize)).take dataSize =
        (bytes segment).drop codeSize := by
    rw [List.take_take, List.take_of_length_le]
    rw [List.length_drop, length_bytes]
    omega
  simp only [bytes_extract, bytes_resize, List.drop_zero, Nat.sub_zero, ByteArray.size_extract,
    hrest first hle, hrest second (hsize ▸ hle)] at hfront hback
  rw [hsize] at hback
  apply bytes_injective
  rw [← List.take_append_drop codeSize (bytes first), hfront, List.append_cancel_right hback,
    List.take_append_drop]

variable {publicRows nativeRows : List TableRow}

theorem Parts.plain_eq_of_code_data (h : Parts file header segments publics natives)
    (h' : Parts other header segments' publics' natives') (hplain : header.isCompact = false)
    (hcode : (assemble other header segments' publics' natives').code =
      (assemble file header segments publics natives).code)
    (hdata : (assemble other header segments' publics' natives').data =
      (assemble file header segments publics natives).data) : segments' = segments := by
  obtain ⟨hfile, rfl⟩ := (storedSegments_plain_eq_ok_iff hplain).mp h.read_segments
  obtain ⟨hother, rfl⟩ := (storedSegments_plain_eq_ok_iff hplain).mp h'.read_segments
  have hdat := h.wellFormed.cod_le_dat
  have hhea := h.wellFormed.dat_le_hea
  have hstp := h.wellFormed.hea_le_stp
  refine segments_eq_of_code_data ?_ ?_ hcode hdata
  · rw [ByteArray.size_extract, ByteArray.size_extract, min_eq_left hfile, min_eq_left hother]
  · rw [ByteArray.size_extract]
    omega

theorem Parts.hea_le_of_unaffected (h : Parts file header segments publics natives)
    (hunaffected : UnaffectedByEnd file (assemble file header segments publics natives))
    (hplain : header.isCompact = false) :
    header.hea.toNatClampNeg ≤ header.size.toNatClampNeg := by
  by_contra hpast
  obtain ⟨publicRows, nativeRows, htables⟩ := h.exists_tables
  obtain ⟨hhea, hsegments⟩ := (storedSegments_plain_eq_ok_iff hplain).mp h.read_segments
  have hcod := h.cod_le_size
  -- another file with the byte after the image changed
  let size := header.size.toNatClampNeg
  have hsize : size < (bytes file).length := by rw [length_bytes]; omega
  let front := (bytes file).set size ((bytes file)[size] + 1)
  have hlength : front.length = file.size := List.length_set
  have htake : (front ++ [0]).take size = (bytes file).take size := by
    rw [List.take_append_of_le_length (by omega), List.take_set_of_le le_rfl]
  obtain ⟨segments', h'⟩ := h.exists_of_agree htables hlength.ge (AgreeOn.of_take_eq htake.symm)
  obtain ⟨-, hsegments'⟩ := (storedSegments_plain_eq_ok_iff hplain).mp h'.read_segments
  obtain ⟨hcode, hdata, -⟩ := hunaffected _ _ h'.parse (by rw [bytes_ofBytes]; exact htake)
  have hsame : segments' = segments := h.plain_eq_of_code_data h' hplain hcode hdata
  rw [← hsegments, ← hsegments'] at hsame
  have hbyte := congrArg (fun segment => (bytes segment)[size - header.cod.toNatClampNeg]?) hsame
  simp only [bytes_extract, bytes_ofBytes, List.getElem?_take, List.getElem?_drop] at hbyte
  rw [if_pos (by omega), if_pos (by omega), Nat.add_sub_cancel' hcod,
    List.getElem?_append_left (by omega), List.getElem?_set_self hsize,
    List.getElem?_eq_getElem hsize] at hbyte
  simpa using Option.some.inj hbyte

private theorem Parts.renamed_eq_of_unaffected (h : Parts file header segments publics natives)
    (htables : Tables (bytes file) header publicRows nativeRows)
    (hunaffected : UnaffectedByEnd file (assemble file header segments publics natives))
    {front front' : List UInt8} (hlong : file.size ≤ front.length)
    (hlong' : file.size ≤ front'.length)
    (htake : front.take header.size.toNatClampNeg = (bytes file).take header.size.toNatClampNeg)
    (htake' : front'.take header.size.toNatClampNeg = (bytes file).take header.size.toNatClampNeg) :
    ∀ row ∈ publicRows ++ nativeRows,
      (row.renamed (front ++ [0])).entry.2 = (row.renamed (front' ++ [0])).entry.2 := by
  have hclosed {list : List UInt8} (hlist : file.size ≤ list.length)
      (hagree : list.take header.size.toNatClampNeg =
        (bytes file).take header.size.toNatClampNeg) :
      (list ++ [0]).take header.size.toNatClampNeg =
        (bytes file).take header.size.toNatClampNeg := by
    rw [List.take_append_of_le_length (h.size_le.trans hlist), hagree]
  have htake := hclosed hlong htake
  have htake' := hclosed hlong' htake'
  obtain ⟨_, hfirst⟩ := h.exists_of_agree htables hlong (AgreeOn.of_take_eq htake.symm)
  obtain ⟨_, hsecond⟩ := h.exists_of_agree htables hlong' (AgreeOn.of_take_eq htake'.symm)
  obtain ⟨-, -, hpublics, hnatives⟩ := hunaffected _ _ hfirst.parse (by rwa [bytes_ofBytes])
  obtain ⟨-, -, hpublics', hnatives'⟩ := hunaffected _ _ hsecond.parse (by rwa [bytes_ofBytes])
  have hsamePublics := hpublics.trans hpublics'.symm
  have hsameNatives := hnatives.trans hnatives'.symm
  simp only [assemble, List.map_map, List.map_inj_left, Function.comp_apply] at hsamePublics
  simp only [assemble, List.map_map, List.map_inj_left, Function.comp_apply] at hsameNatives
  intro row hrow
  rcases List.mem_append.mp hrow with hpublic | hnative
  · exact congrArg Public.name (hsamePublics row hpublic)
  · exact congrArg Native.name (hsameNatives row hnative)

theorem Parts.nameEnd_le_of_unaffected (h : Parts file header segments publics natives)
    (htables : Tables (bytes file) header publicRows nativeRows)
    (hunaffected : UnaffectedByEnd file (assemble file header segments publics natives)) :
    ∀ row ∈ publicRows ++ nativeRows, row.nameEnd ≤ header.size.toNatClampNeg := by
  intro row hrow
  by_contra hpast
  have hnamed : row.NamedIn (bytes file) := by
    rcases List.mem_append.mp hrow with hpublic | hnative
    · exact htables.publicsAt.named row hpublic
    · exact htables.nativesAt.named row hnative
  obtain ⟨front, front', hlong, hlong', htake, htake', hne⟩ :=
    hnamed.exists_renamed_ne h.size_le (not_le.mp hpast)
  exact hne (h.renamed_eq_of_unaffected htables hunaffected hlong hlong' htake htake' row hrow)

/-- What follows the image of a file does not reach its segments and function tables exactly when
its names, and its heap if the segments are plain, end inside the image. -/
theorem unaffectedByEnd_iff {file : ByteArray} {image : Image} (h : parse file = .ok image) :
    UnaffectedByEnd file image ↔
      (image.header.isCompact = true ∨
        image.header.hea.toNatClampNeg ≤ image.header.size.toNatClampNeg) ∧
      NamesWithin (bytes file) 0 image.header.size.toNatClampNeg
        image.header.publics.toNatClampNeg image.header.publicCount ∧
      NamesWithin (bytes file) 0 image.header.size.toNatClampNeg
        image.header.natives.toNatClampNeg image.header.nativeCount := by
  obtain ⟨segments, publics, natives, hparts, himage⟩ := parse_eq_ok_iff.mp h
  constructor
  · intro hunaffected
    rw [← himage] at hunaffected
    obtain ⟨publicRows, nativeRows, htables⟩ := hparts.exists_tables
    have hend := hparts.nameEnd_le_of_unaffected htables hunaffected
    refine ⟨?_, ⟨publicRows, htables.publics_length, htables.publicsAt, fun row hrow => ?_⟩,
      ⟨nativeRows, htables.natives_length, htables.nativesAt, fun row hrow => ?_⟩⟩
    · cases hcompact : image.header.isCompact with
      | true => exact .inl rfl
      | false => exact .inr (hparts.hea_le_of_unaffected hunaffected hcompact)
    · exact ⟨Nat.zero_le _, hend row (List.mem_append_left _ hrow)⟩
    · exact ⟨Nat.zero_le _, hend row (List.mem_append_right _ hrow)⟩
  · rintro ⟨hend, hpublics, hnatives⟩ other image' h' htake
    obtain ⟨segments', publics', natives', hparts', himage'⟩ := parse_eq_ok_iff.mp h'
    obtain ⟨hheader, rfl, rfl, rfl⟩ :=
      hparts.eq_of_agree hparts' (AgreeOn.of_take_eq htake.symm) hend hpublics hnatives
    rw [← himage, ← himage', hheader]
    exact ⟨rfl, rfl, rfl, rfl⟩

/-- A header with one public, no code and one cell of data. -/
def onePublicHeader (size cod : Cell) : Header where
  size
  signature := Header.expectedSignature
  fileVersion := 8
  machineVersion := 8
  flags := 0
  entrySize := 8
  cod
  dat := cod
  hea := cod + 4
  stp := cod + 8
  cip := -1
  publics := 56
  natives := 64
  libraries := 64
  publicVariables := 64
  tags := 64
  nameTable := 64

def onePublicImage (header : Header) (value letter : UInt8) : Image where
  header
  headerBytes := header.toBytes
  code := ofBytes []
  data := ofBytes [value, 0, 0, 0, 0, 0, 0, 0]
  publics := [⟨Utf8.decodeLossy [letter], 0⟩]
  natives := []
  debugSection := none

/-- A file whose image holds the name of its public and the cell of data. -/
def closedFile (tail : List UInt8) : ByteArray :=
  ofBytes ((onePublicHeader 72 68).toBytes ++ TableRow.written ⟨0, 64, [65]⟩ ++
    [65, 0, 0, 0, 1, 0, 0, 0] ++ tail)

theorem unaffectedByEnd_closedFile :
    parse (closedFile [7]) = .ok (onePublicImage (onePublicHeader 72 68) 1 65) ∧
      UnaffectedByEnd (closedFile [7]) (onePublicImage (onePublicHeader 72 68) 1 65) := by
  have hparse : parse (closedFile [7]) = .ok (onePublicImage (onePublicHeader 72 68) 1 65) := rfl
  refine ⟨hparse, (unaffectedByEnd_iff hparse).mpr ⟨.inr (by decide), ?_, ?_⟩⟩
  · have hnamed : TableRow.NamedIn ⟨0, 64, [65]⟩ (bytes (closedFile [7])) := ⟨by decide, by decide⟩
    exact namesWithin_singleton (by decide) hnamed (by decide) (by decide)
  · exact ⟨[], rfl, ⟨by decide, nofun⟩, by decide⟩

/-- A file whose image ends before the cell of data and the name of its public. -/
def openFile (value letter : UInt8) : ByteArray :=
  ofBytes ((onePublicHeader 64 64).toBytes ++ TableRow.written ⟨0, 68, [letter]⟩ ++
    [value, 0, 0, 0, letter, 0])

/-- Data and names both change with the bytes after the image. -/
theorem openFile_affectedByEnd :
    parse (openFile 1 65) = .ok (onePublicImage (onePublicHeader 64 64) 1 65) ∧
      parse (openFile 2 66) = .ok (onePublicImage (onePublicHeader 64 64) 2 66) ∧
        (bytes (openFile 2 66)).take 64 = (bytes (openFile 1 65)).take 64 ∧
          (onePublicImage (onePublicHeader 64 64) 2 66).data ≠
            (onePublicImage (onePublicHeader 64 64) 1 65).data ∧
          (onePublicImage (onePublicHeader 64 64) 2 66).publics ≠
            (onePublicImage (onePublicHeader 64 64) 1 65).publics :=
  ⟨rfl, rfl, rfl, by decide, by decide⟩

end Image

end AmxTrace
