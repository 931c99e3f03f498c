import AmxTrace.Proofs.Image.Parse
import AmxTrace.Proofs.Image.Rules
import AmxTrace.Proofs.Reader.Strict

/-! # Strict reading

The strict forms of the functions that read a module file do every subtraction, every step of an
offset and every slice as an operation that may fault. -/

namespace AmxTrace

open Strict

namespace Header

/-- The first rule that the fields break, where the span above the heap must not wrap. The offsets of
the fields are constants. -/
def strictJudge (h : Header) : Strict ImageError Unit :=
  if h.fileVersion < 6 ∨ 11 < h.fileVersion then throw (.unsupportedVersion h.fileVersion)
  else if h.entrySize ≠ 8 then throw (.badEntrySize h.entrySize)
  else if ¬h.segmentsOrdered then throw (.segmentOrder h.cod h.dat h.hea h.stp)
  else do
    let span ← cell (h.stp.toInt - h.hea.toInt)
    if ImageError.stackLimit < span then throw (.stackTooLarge span)
    else if ¬h.tablesOrdered then throw (.tableOrder h.publics h.natives h.libraries)
    else pure ()

/-- Read and judge a header without a fault. -/
def strictParse (bytes : List UInt8) : Strict ImageError Header := do
  let ((size, signature), cursor) ← of ((readSignature ⟨0, bytes⟩).mapError .truncated)
  if signature ≠ expectedSignature then throw (.badSignature signature)
  else do
    let (header, _) ← of ((readFields size signature cursor).mapError .truncated)
    header.strictJudge
    pure header

def judged (h : Header) : Except ImageError Header :=
  match h.fault? with
  | some fault => throw fault
  | none => pure h

theorem agrees_strictJudge (h : Header) :
    Agrees (h.strictJudge >>= fun _ => pure h) h.judged := by
  unfold strictJudge judged fault?
  by_cases hversion : h.fileVersion < 6 ∨ 11 < h.fileVersion
  · rw [if_pos hversion, if_pos hversion]
    rfl
  rw [if_neg hversion, if_neg hversion]
  by_cases hentry : h.entrySize ≠ 8
  · rw [if_pos hentry, if_pos hentry]
    rfl
  rw [if_neg hentry, if_neg hentry]
  by_cases hsegments : h.segmentsOrdered = true
  · rw [if_neg (not_not.mpr hsegments), if_neg (not_not.mpr hsegments), bind_assoc]
    -- the segments are in order, so that the span is no less than zero
    obtain ⟨hcod, hdat, hhea, hstp⟩ := (segmentsOrdered_iff h).mp hsegments
    simp only [Int32.toNatClampNeg] at hcod hdat hhea hstp
    have hspan : (h.stp - h.hea).toInt = h.stp.toInt - h.hea.toInt :=
      Cell.toInt_sub_of_le (by omega) (by omega)
    refine (agrees_cell hspan).andThen ?_
    by_cases hstack : ImageError.stackLimit < h.stp - h.hea
    · rw [if_pos hstack, if_pos hstack]
      rfl
    rw [if_neg hstack, if_neg hstack]
    by_cases htables : h.tablesOrdered = true
    · rw [if_neg (not_not.mpr htables), if_neg (not_not.mpr htables)]
      rfl
    · rw [if_pos htables, if_pos htables]
      rfl
  · rw [if_pos hsegments, if_pos hsegments]
    rfl

theorem agrees_strictParse (bytes : List UInt8) : Agrees (strictParse bytes) (parse bytes) := by
  unfold strictParse parse
  refine (agrees_of _).bind ?_
  rintro ⟨⟨size, signature⟩, cursor⟩ -
  refine agrees_refuse fun _ => (agrees_of _).bind ?_
  rintro ⟨header, last⟩ -
  exact agrees_strictJudge header

end Header

theorem except_mapError_bind {ε ε' α β : Type} (first : Except ε α) (next : α → Except ε β)
    (f : ε → ε') :
    (first >>= next).mapError f = first.mapError f >>= fun value => (next value).mapError f := by
  cases first <;> rfl

namespace Reader

variable {α β : Type} {reader : Reader α} {width : Nat} {written : α → List UInt8}

theorem Field.le_of_valueAt (h : Field reader width written) {file : List UInt8} {offset : Nat}
    {value : α} (hread : reader.valueAt file offset = .ok value) : offset + width ≤ file.length := by
  obtain ⟨hoffset, after, hfield⟩ := valueAt_eq_ok_iff.mp hread
  obtain ⟨hbytes, -⟩ := (h.eq_ok_iff _ _ _).mp hfield
  have hlength := congrArg List.length hbytes
  rw [List.length_append, h.length, List.length_drop] at hlength
  omega

theorem Field.valueAt_bind (h : Field reader width written) (next : α → Reader β)
    (file : List UInt8) (offset : Nat) :
    (reader >>= next).valueAt file offset =
      reader.valueAt file offset >>= fun value => (next value).valueAt file (offset + width) := by
  cases hvalue : reader.valueAt file offset with
  | error short =>
    unfold valueAt at hvalue ⊢
    split at hvalue
    next hoffset =>
      rw [if_pos hoffset]
      cases hread : reader ⟨offset, file.drop offset⟩ with
      | error _ =>
        rw [hread] at hvalue
        cases hvalue
        rw [bind_of_error hread]
        rfl
      | ok _ => rw [hread] at hvalue; cases hvalue
    next hoffset =>
      cases hvalue
      rw [if_neg hoffset]
      rfl
  | ok value =>
    have hend := h.le_of_valueAt hvalue
    obtain ⟨hoffset, ⟨last, rest⟩, hread⟩ := valueAt_eq_ok_iff.mp hvalue
    obtain ⟨hbytes, hlast⟩ := (h.eq_ok_iff _ _ _).mp hread
    dsimp only at hbytes hlast
    have hrest : file.drop (offset + width) = rest := by
      rw [← List.drop_drop, hbytes, ← h.length value, List.drop_left]
    change _ = (next value).valueAt file (offset + width)
    rw [valueAt, if_pos hoffset, bind_of_ok hread, valueAt, if_pos hend, hrest, hlast]

theorem valueAt_bind_pure (reader : Reader α) (f : α → β) (file : List UInt8) (offset : Nat) :
    (reader >>= fun value => pure (f value)).valueAt file offset =
      reader.valueAt file offset >>= fun value => pure (f value) := by
  unfold valueAt
  split
  next =>
    cases hread : reader ⟨offset, file.drop offset⟩ with
    | error short =>
      rw [bind_of_error hread]
      rfl
    | ok read =>
      rw [bind_of_ok hread]
      rfl
  next => rfl

end Reader

namespace Image

/-- Entries of a function table from an offset on, with the two steps that the offset makes for each. -/
def strictEntries (file : List UInt8) : Nat → Nat → Strict ImageError (List (UInt32 × String))
  | 0, _ => pure []
  | count + 1, offset => do
    let middle ← word (offset + 4)
    let address ← of ((Reader.word32.valueAt file offset).mapError .truncated)
    let past ← word (middle + 4)
    let nameOffset ← of ((Reader.word32.valueAt file middle).mapError .truncated)
    let name ← of ((Reader.terminated.valueAt file nameOffset.toNat).mapError .truncated)
    let others ← strictEntries file count past
    pure ((address, Utf8.decodeLossy name) :: others)

/-- Number of entries of a function table between two offsets. -/
def strictCount (h : Header) (start stop : Cell) : Strict ImageError Nat := do
  let span ← cell (stop.toInt - start.toInt)
  let count ← cellDiv span h.entrySize.toInt32
  pure (widened count)

/-- The function table between two offsets. -/
def strictTable (file : List UInt8) (h : Header) (start stop : Cell) :
    Strict ImageError (List (UInt32 × String)) := do
  let count ← strictCount h start stop
  strictEntries file count (widened start)

theorem valueAt_readEntry_bind {α : Type} (file : List UInt8) (offset : Nat)
    (next : UInt32 × String → Reader α) :
    (readEntry file >>= next).valueAt file offset = (do
      let address ← Reader.word32.valueAt file offset
      let nameOffset ← Reader.word32.valueAt file (offset + 4)
      let name ← Reader.terminated.valueAt file nameOffset.toNat
      (next (address, Utf8.decodeLossy name)).valueAt file (offset + 8)) := by
  simp only [readEntry, bind_assoc, Reader.field_word32.valueAt_bind]
  cases haddress : Reader.word32.valueAt file offset with
  | error short => rfl
  | ok address =>
    cases hnameOffset : Reader.word32.valueAt file (offset + 4) with
    | error short => rfl
    | ok nameOffset =>
      have hend := Reader.field_word32.le_of_valueAt hnameOffset
      dsimp only [bind, Except.bind]
      cases hname : Reader.terminated.valueAt file nameOffset.toNat with
      | error short => exact if_pos hend
      | ok name => rfl

theorem agrees_strictEntries {file : List UInt8} {count offset : Nat}
    (hoffset : offset ≤ file.length) (hfits : offset + 8 * count < 2 ^ 64) :
    Agrees (strictEntries file count offset)
      (((Reader.repeated (readEntry file) count).valueAt file offset).mapError .truncated) := by
  induction count generalizing offset with
  | zero =>
    rw [Reader.valueAt, if_pos hoffset]
    rfl
  | succ count ih =>
    simp only [Reader.repeated, valueAt_readEntry_bind, except_mapError_bind,
      Reader.valueAt_bind_pure]
    refine (agrees_word (by omega)).andThen ((agrees_of _).bind fun address haddress => ?_)
    refine (agrees_word (by omega)).andThen ((agrees_of _).bind fun nameOffset hnameOffset => ?_)
    refine (agrees_of _).bind fun name _ => ?_
    have hend := Reader.field_word32.le_of_valueAt (except_mapError_eq_ok_iff.mp hnameOffset)
    exact (ih (by omega) (by omega)).bind fun others _ => agrees_pure _

theorem agrees_strictCount {h : Header} {start stop : Cell} (hentry : h.entrySize.toInt = 8)
    (hzero : 0 ≤ start.toInt) (hle : start.toInt ≤ stop.toInt) :
    Agrees (strictCount h start stop) (pure (Header.entryCount start stop)) := by
  have hspan := Cell.toInt_sub_of_le hzero hle
  have hcount := Header.toInt_span_div hentry hzero hle
  have hsize : h.entrySize.toInt32.toInt = 8 := by rw [Int16.toInt_toInt32, hentry]
  have hdivisor : h.entrySize.toInt32 ≠ 0 := fun hz => by rw [hz] at hsize; cases hsize
  have hquotient : ((stop - start) / h.entrySize.toInt32).toInt =
      (stop - start).toInt.tdiv h.entrySize.toInt32.toInt := by
    rw [Cell.toInt_div_of_nonneg (by omega) (by omega), Int.tdiv_eq_ediv_of_nonneg (by omega)]
  refine (agrees_cell hspan).andThen ((agrees_cellDiv hdivisor hquotient).andThen ?_)
  rw [widened_of_nonneg (by omega), Int32.toNatClampNeg, hcount, Int.toNat_natCast]
  exact agrees_pure _

theorem agrees_strictTable {file : List UInt8} {h : Header} {start stop : Cell}
    (hentry : h.entrySize.toInt = 8) (hzero : 0 ≤ start.toInt) (hle : start.toInt ≤ stop.toInt)
    (hfile : start.toNatClampNeg ≤ file.length) :
    Agrees (strictTable file h start stop)
      (readTable file start (Header.entryCount start stop)) := by
  have hhigh := stop.toInt_lt
  refine (agrees_strictCount hentry hzero hle).andThen ?_
  rw [widened_of_nonneg hzero]
  refine agrees_strictEntries hfile ?_
  rw [Header.entryCount, Int32.toNatClampNeg]
  omega

end Image

namespace Compact

/-- Cells of the bytes behind the cells that are done. A cell that does not fit any more is refused as
soon as it is closed. -/
def strictCellsFrom (size : Nat) :
    Option UInt32 → List UInt8 → List UInt32 → Strict ImageError (List UInt32)
  | none, [], done => pure done
  | some _, [], _ => throw .badCompactEncoding
  | value, b :: rest, done =>
    let value := addGroup (value.getD (signFill b)) b
    if b &&& 0x80 = 0 then do
      let stop ← word (4 * done.length + 4)
      if size < stop then throw .badCompactEncoding
      else strictCellsFrom size none rest (done ++ [value])
    else strictCellsFrom size (some value) rest done

/-- Expand compact-encoded bytes into a segment of a size. -/
def strictExpand (bytes : List UInt8) (size : Nat) : Strict ImageError ByteArray := do
  let words ← strictCellsFrom size none bytes []
  pure (Segment.resize (Segment.ofCells (words.map UInt32.toInt32)) size)

theorem size_expand {bytes : List UInt8} {size : Nat} {segments : ByteArray}
    (h : expand bytes size = some segments) : segments.size = size := by
  obtain ⟨words, -, hfits⟩ := Option.bind_eq_some_iff.mp h
  split at hfits
  next =>
    cases hfits
    exact Segment.size_resize _ size
  next => cases hfits

/-- The cells that are done with those that follow, if all of them fit. -/
def fitted (size : Nat) (done : List UInt32) : Option (List UInt32) → Except ImageError (List UInt32)
  | some words =>
    if 4 * (done.length + words.length) ≤ size then pure (done ++ words)
    else throw .badCompactEncoding
  | none => throw .badCompactEncoding

theorem fitted_cons (size : Nat) (done : List UInt32) (value : UInt32) (words : Option (List UInt32)) :
    fitted size done ((value :: ·) <$> words) =
      if size < 4 * done.length + 4 then throw .badCompactEncoding
      else fitted size (done ++ [value]) words := by
  cases words with
  | none => exact (ite_self _).symm
  | some words =>
    have hcount : (done ++ [value]).length + words.length = done.length + (value :: words).length := by
      simp only [List.length_append, List.length_cons, List.length_nil]
      omega
    have hlist : done ++ [value] ++ words = done ++ value :: words := List.append_assoc _ _ _
    by_cases hroom : size < 4 * done.length + 4
    · rw [if_pos hroom]
      exact if_neg (by rw [List.length_cons]; omega)
    · rw [if_neg hroom]
      simp only [fitted, hcount, hlist, Option.map_eq_map, Option.map_some]

theorem cellsFrom_cons (value : Option UInt32) (b : UInt8) (rest : List UInt8) :
    cellsFrom value (b :: rest) =
      if b &&& 0x80 = 0 then (addGroup (value.getD (signFill b)) b :: ·) <$> cellsFrom none rest
      else cellsFrom (some (addGroup (value.getD (signFill b)) b)) rest := by
  cases value <;> rfl

theorem strictCellsFrom_cons (size : Nat) (value : Option UInt32) (b : UInt8) (rest : List UInt8)
    (done : List UInt32) :
    strictCellsFrom size value (b :: rest) done =
      if b &&& 0x80 = 0 then do
        let stop ← word (4 * done.length + 4)
        if size < stop then throw .badCompactEncoding
        else strictCellsFrom size none rest (done ++ [addGroup (value.getD (signFill b)) b])
      else strictCellsFrom size (some (addGroup (value.getD (signFill b)) b)) rest done := by
  cases value <;> rfl

theorem agrees_strictCellsFrom {size : Nat} (hsize : size + 4 < 2 ^ 64) {value : Option UInt32}
    {bytes : List UInt8} {done : List UInt32} (hdone : 4 * done.length ≤ size) :
    Agrees (strictCellsFrom size value bytes done) (fitted size done (cellsFrom value bytes)) := by
  induction bytes generalizing value done with
  | nil =>
    cases value with
    | none =>
      rw [cellsFrom, fitted, if_pos (by simpa using hdone), List.append_nil]
      exact agrees_pure done
    | some value => exact agrees_throw _
  | cons b rest ih =>
    rw [strictCellsFrom_cons, cellsFrom_cons]
    split
    next =>
      rw [fitted_cons]
      refine (agrees_word (by omega)).andThen (agrees_refuse fun hroom => ih ?_)
      rw [List.length_append, List.length_singleton]
      omega
    next => exact ih hdone

/-- The expanded segment, if the cells fit. -/
def expanded (bytes : List UInt8) (size : Nat) : Except ImageError ByteArray :=
  match expand bytes size with
  | some segments => pure segments
  | none => throw .badCompactEncoding

theorem agrees_strictExpand {bytes : List UInt8} {size : Nat} (hsize : size + 4 < 2 ^ 64) :
    Agrees (strictExpand bytes size) (expanded bytes size) := by
  have hcells : Agrees (strictCellsFrom size none bytes []) (fitted size [] (cells bytes)) :=
    agrees_strictCellsFrom hsize (Nat.zero_le size)
  have hsame : expanded bytes size = fitted size [] (cells bytes) >>= fun words =>
      pure (Segment.resize (Segment.ofCells (words.map UInt32.toInt32)) size) := by
    unfold expanded expand
    cases cells bytes with
    | none => rfl
    | some words =>
      simp only [fitted, List.length_nil, Nat.zero_add, List.nil_append, Option.bind_eq_bind,
        Option.bind_some]
      by_cases hroom : 4 * words.length ≤ size
      · rw [if_pos hroom, if_pos hroom]
        rfl
      · rw [if_neg hroom, if_neg hroom]
        rfl
  rw [hsame]
  exact hcells.bind fun words _ => agrees_pure _

end Compact

namespace Image

/-- Size of the image in a file. A negative size is taken around and is past the end of every file. -/
def strictSize (h : Header) (file : ByteArray) : Strict ImageError Nat :=
  if file.size < widened h.size then throw (.truncated ⟨file.size⟩)
  else if widened h.size < widened h.cod then throw (.codePastEnd h.cod (widened h.size))
  else pure (widened h.size)

def strictSegments (h : Header) (file : ByteArray) (size : Nat) : Strict ImageError ByteArray := do
  let stored ← sub size (widened h.cod)
  if h.isCompact then do
    let span ← cell (h.hea.toInt - h.cod.toInt)
    let room ← word (stored * 4)
    if room < widened span then throw .badCompactEncoding
    else do
      let source ← slice file (widened h.cod) size
      let expanded ← sub (widened h.hea) (widened h.cod)
      Compact.strictExpand (Segment.bytes source) expanded
  else if widened h.cod ≤ widened h.hea ∧ widened h.hea ≤ file.size then
    pure (file.extract (widened h.cod) (widened h.hea))
  else throw (.truncated ⟨file.size⟩)

/-- What follows the image, if it announces a debug section. -/
def strictTail (h : Header) (file : ByteArray) (size : Nat) :
    Strict ImageError (Option ByteArray) :=
  if h.hasDebugInfo && size < file.size then do
    let tail ← slice file size file.size
    pure (some tail)
  else pure none

/-- Read a module file, where every operation may fault. -/
def strictParse (file : ByteArray) : Strict ImageError Image := do
  let header ← Header.strictParse (Segment.bytes file)
  let size ← strictSize header file
  let headerBytes ← slice file 0 Header.byteSize
  let segments ← strictSegments header file size
  let codeSize ← sub (widened header.dat) (widened header.cod)
  let code ← slice segments 0 codeSize
  let stored ← slice segments codeSize segments.size
  let dataSize ← cell (header.stp.toInt - header.dat.toInt)
  let publics ← strictTable (Segment.bytes file) header header.publics header.natives
  let natives ← strictTable (Segment.bytes file) header header.natives header.libraries
  let debugSection ← strictTail header file size
  pure {
    header
    headerBytes := Segment.bytes headerBytes
    code
    data := Segment.resize stored (widened dataSize)
    publics := publics.map fun (address, name) => ⟨name, address.toInt32⟩
    natives := natives.map fun (address, name) => ⟨name, address.toNat⟩
    debugSection }

theorem agrees_strictSize {h : Header} (hv : h.Valid) {file : ByteArray} (hfile : file.size < 2 ^ 63) :
    Agrees (strictSize h file) (imageSize h file) := by
  have hlow := hv.le_cod
  have hcod : widened h.cod = h.cod.toNatClampNeg := widened_of_nonneg (by omega)
  rw [strictSize, imageSize, hcod]
  by_cases hneg : h.size.toInt < 0
  · -- a negative size is more than the file can have
    have hpast := widened_of_neg hneg
    have hnone : h.size.offset? = none := if_pos (Int32.lt_iff_toInt_lt.mpr hneg)
    rw [hnone, if_pos (by omega)]
    exact agrees_throw _
  · have hsize : widened h.size = h.size.toNatClampNeg := widened_of_nonneg (by omega)
    have hsome : h.size.offset? = some h.size.toNatClampNeg :=
      if_neg fun hlt => hneg (Int32.lt_iff_toInt_lt.mp hlt)
    rw [hsize, hsome]
    exact agrees_refuse fun _ => agrees_refuse fun _ => agrees_pure _

theorem agrees_strictSegments {h : Header} (hv : h.Valid) {file : ByteArray} {size : Nat}
    (hcod : h.cod.toNatClampNeg ≤ size) (hsize : size ≤ file.size) (hfits : size < 2 ^ 31) :
    Agrees (strictSegments h file size) (storedSegments h file size) := by
  have hlow := hv.le_cod
  have hdat := hv.cod_le_dat
  have hhea := hv.dat_le_hea
  have hhigh := h.hea.toInt_lt
  have hspan : (h.hea - h.cod).toInt = h.hea.toInt - h.cod.toInt :=
    Cell.toInt_sub_of_le (by omega) (by omega)
  have hroom : widened (h.hea - h.cod) = h.hea.toNatClampNeg - h.cod.toNatClampNeg := by
    rw [widened_of_nonneg (by omega)]
    simp only [Int32.toNatClampNeg]
    omega
  have hordered : h.cod.toNatClampNeg ≤ h.hea.toNatClampNeg := by
    simp only [Int32.toNatClampNeg]
    omega
  have hlast : h.hea.toNatClampNeg < 2 ^ 31 := by
    simp only [Int32.toNatClampNeg]
    omega
  rw [strictSegments, storedSegments, widened_of_nonneg (c := h.cod) (by omega),
    widened_of_nonneg (c := h.hea) (by omega)]
  refine (agrees_sub hcod).andThen ?_
  by_cases hcompact : h.isCompact = true
  · rw [if_pos hcompact, if_pos hcompact]
    refine (agrees_cell hspan).andThen ((agrees_word (by omega)).andThen ?_)
    rw [hroom, Nat.mul_comm]
    refine agrees_refuse fun _ => ?_
    refine (agrees_slice hcod hsize).andThen ((agrees_sub hordered).andThen ?_)
    have hexpand (bytes : List UInt8) : Agrees
        (Compact.strictExpand bytes (h.hea.toNatClampNeg - h.cod.toNatClampNeg))
        (Compact.expanded bytes (h.hea.toNatClampNeg - h.cod.toNatClampNeg)) :=
      Compact.agrees_strictExpand (by omega)
    have hagrees := hexpand (Segment.bytes (file.extract h.cod.toNatClampNeg size))
    unfold Compact.expanded at hagrees
    generalize Compact.expand _ _ = found at hagrees ⊢
    cases found <;> exact hagrees
  · rw [if_neg hcompact, if_neg hcompact]
    simp only [hordered, true_and]
    by_cases hstored : h.hea.toNatClampNeg ≤ file.size
    · rw [if_pos hstored, if_pos hstored]
      exact agrees_pure _
    · rw [if_neg hstored, if_neg hstored]
      exact agrees_throw _

theorem agrees_strictTail (h : Header) {file : ByteArray} {size : Nat} (hsize : size ≤ file.size) :
    Agrees (strictTail h file size)
      (pure (if h.hasDebugInfo && size < file.size then some (file.extract size file.size)
        else none)) := by
  rw [strictTail]
  split
  next => exact (agrees_slice hsize le_rfl).andThen (agrees_pure _)
  next => exact agrees_pure _

theorem size_storedSegments {h : Header} {file segments : ByteArray} {size : Nat}
    (hread : storedSegments h file size = .ok segments) :
    segments.size = h.hea.toNatClampNeg - h.cod.toNatClampNeg := by
  cases hcompact : h.isCompact with
  | true =>
    obtain ⟨-, hexpand⟩ := (storedSegments_compact_eq_ok_iff hcompact).mp hread
    exact Compact.size_expand hexpand
  | false =>
    obtain ⟨hstored, rfl⟩ := (storedSegments_plain_eq_ok_iff hcompact).mp hread
    rw [ByteArray.size_extract, Nat.min_eq_left hstored]

theorem agrees_strictParse {file : ByteArray} (hfile : file.size < 2 ^ 63) :
    Agrees (strictParse file) (parse file) := by
  unfold strictParse parse
  refine (Header.agrees_strictParse _).bind fun header hheader => ?_
  have hv : header.Valid := Header.valid_of_parse hheader
  obtain ⟨-, hw⟩ := (Header.valid_iff header).mp hv
  refine (agrees_strictSize hv hfile).bind fun size hsize => ?_
  obtain ⟨rfl, hcod, hle⟩ := (imageSize_eq_ok_iff hw).mp hsize
  have hlong : 56 ≤ file.size := hw.le_cod.trans (hcod.trans hle)
  refine (agrees_slice (Nat.zero_le _) hlong).andThen ?_
  have hfits : header.size.toNatClampNeg < 2 ^ 31 := by
    have hhigh := header.size.toInt_lt
    rw [Int32.toNatClampNeg]
    omega
  refine (agrees_strictSegments hv hcod hle hfits).bind fun segments hsegments => ?_
  have hspan := size_storedSegments hsegments
  have hhea := hw.dat_le_hea
  have hcodeEnd : header.dat.toNatClampNeg - header.cod.toNatClampNeg ≤ segments.size := by omega
  have hcodLow := hv.le_cod
  have hdat := hv.zero_le_dat
  have hstp := hv.dat_le_stp
  have hpublics := hv.le_publics
  have hnatives := hv.publics_le_natives
  rw [widened_of_nonneg hdat, widened_of_nonneg (c := header.cod) (by omega)]
  refine (agrees_sub hw.cod_le_dat).andThen ?_
  refine (agrees_slice (Nat.zero_le _) hcodeEnd).andThen ((agrees_slice hcodeEnd le_rfl).andThen ?_)
  have hdata : (header.stp - header.dat).toInt = header.stp.toInt - header.dat.toInt :=
    Cell.toInt_sub_of_le hdat hstp
  have hdataSize : widened (header.stp - header.dat) =
      header.stp.toNatClampNeg - header.dat.toNatClampNeg := by
    rw [widened_of_nonneg (by omega)]
    simp only [Int32.toNatClampNeg]
    omega
  refine (agrees_cell hdata).andThen ?_
  have hpublicsEnd := Header.publics_end_le_cod hw
  have hnativesEnd := Header.natives_end_le_cod hw
  refine (agrees_strictTable hv.entrySize_eq (by omega) hnatives ?_).bind fun publics _ => ?_
  · rw [Segment.length_bytes]
    omega
  refine (agrees_strictTable hv.entrySize_eq (by omega) hv.natives_le_libraries ?_).bind
    fun natives _ => ?_
  · rw [Segment.length_bytes]
    omega
  refine (agrees_strictTail header hle).andThen ?_
  rw [hdataSize, Segment.bytes_extract, List.drop_zero, Nat.sub_zero]
  exact agrees_pure _

end Image

end AmxTrace
