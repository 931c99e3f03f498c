import AmxTrace.Proofs.Decimal.Binary32
import AmxTrace.Proofs.Renderer.Strings
import Mathlib.Data.List.Forall2

/-! # The texts of arguments -/

namespace AmxTrace

/-- An address of the data below the top of the stack. -/
def Machine.InData (m : Machine) (address : Cell) : Prop :=
  0 ≤ address.toInt ∧ address.toInt < m.data.size ∧ address.toInt < m.registers.stp.toInt

theorem Machine.isDataAddress_iff_inData {m : Machine} {address : Cell} :
    m.isDataAddress address = true ↔ m.InData address := by
  rw [isDataAddress_iff]
  exact ⟨fun ⟨hstack, hzero, hsize⟩ => ⟨hzero, hsize, hstack⟩,
    fun ⟨hzero, hsize, hstack⟩ => ⟨hstack, hzero, hsize⟩⟩

/-- The longest run of cells from an address on, `bound` at most. -/
structure Machine.ReadsCells (m : Machine) (address : Cell) (bound : Nat) (cells : List Cell) :
    Prop where
  holds : m.HoldsCells address cells
  within : cells.length ≤ bound
  whole : cells.length < bound → ∀ target : Cell,
    target.toInt = address.toInt + 4 * cells.length → m.dataCell? target = none

theorem Machine.readsCells_dataCells (m : Machine) {address : Cell} (hzero : 0 ≤ address.toInt)
    (bound : Nat) : m.ReadsCells address bound (m.dataCells address bound) := by
  induction bound generalizing address with
  | zero =>
    exact ⟨fun _ h => absurd h (Nat.not_lt_zero _), Nat.le_refl 0,
      fun h => absurd h (Nat.lt_irrefl 0)⟩
  | succ bound ih =>
    have hwidth : Cell.width.toInt = 4 := by decide
    rw [dataCells]
    cases hcell : m.dataCell? address with
    | none =>
      refine ⟨fun _ h => absurd h (Nat.not_lt_zero _), Nat.zero_le _, fun _ target htarget => ?_⟩
      obtain rfl : target = address := Int32.toInt_inj.mp (by simpa using htarget)
      exact hcell
    | some value =>
      have hfirst : m.cellPast? address (4 * 0) = some value :=
        cellPast?_iff_toInt.mpr ⟨by omega, address, by simp, hcell⟩
      cases hnext : address.add? Cell.width with
      | none =>
        refine ⟨fun index hindex => ?_, by simp, fun _ target htarget => ?_⟩
        · obtain rfl : index = 0 := by simpa using hindex
          exact hfirst
        · rw [Cell.add?, Cell.ofInt?_eq_some_iff.mpr (by simpa [hwidth] using htarget)] at hnext
          cases hnext
      | some next =>
        have hstep := Cell.toInt_of_add?_eq_some hnext
        have hnonneg : 0 ≤ next.toInt := by omega
        obtain ⟨hholds, hwithin, hwhole⟩ := ih hnonneg
        refine ⟨fun index hindex => ?_, by simpa using hwithin, fun hshort target htarget => ?_⟩
        · cases index with
          | zero => exact hfirst
          | succ index =>
            obtain ⟨-, target, htarget, hvalue⟩ :=
              cellPast?_iff_toInt.mp (hholds index (by simpa using hindex))
            have hhigh := target.toInt_lt
            exact cellPast?_iff_toInt.mpr ⟨by omega, target, by omega, by simpa using hvalue⟩
        · dsimp only [List.length_cons] at hshort htarget
          exact hwhole (by omega) target (by omega)

namespace CellString

/-- The codes of the characters in the cells of a string: one to a cell, or four to a cell with the
first in the high byte if the first cell is above all characters. -/
inductive Codes (cells : List Cell) : Bool → List Nat → Prop where
  | unpacked (h : ∀ first ∈ cells.head?, first.toUInt32.toNat ≤ 0xFFFFFF) :
      Codes cells false (cells.map (·.toUInt32.toNat))
  | packed (h : ∃ first ∈ cells.head?, 0xFFFFFF < first.toUInt32.toNat) :
      Codes cells true (cells.flatMap fun cell =>
        let code := cell.toUInt32.toNat
        [code / 0x1000000, code / 0x10000 % 0x100, code / 0x100 % 0x100, code % 0x100])

/-- The longest front of codes that can be printed, `limit` at most, as characters. -/
structure Starts (limit : Nat) (codes : List Nat) (body : List Char) : Prop where
  front : body.map Char.toNat <+: codes
  printable : ∀ c ∈ body, 32 ≤ c.toNat ∧ c.toNat ≤ 126
  within : body.length ≤ limit
  whole : body.length < limit →
    ∀ code ∈ codes[body.length]?, ¬ (32 ≤ code ∧ code ≤ 126)

theorem starts_printableStart (limit : Nat) (codes : List Nat) :
    Starts limit codes (printableStart limit codes).toList := by
  rw [printableStart, String.toList_ofList]
  induction codes generalizing limit with
  | nil =>
    rw [List.take_nil]
    exact ⟨List.nil_prefix, List.forall_mem_nil _, Nat.zero_le _,
      fun _ _ h => absurd h (Option.not_mem_none _)⟩
  | cons code rest ih =>
    cases limit with
    | zero =>
      exact ⟨List.nil_prefix, List.forall_mem_nil _, Nat.le_refl 0,
        fun h => absurd h (Nat.lt_irrefl 0)⟩
    | succ limit =>
      rw [List.take_succ_cons]
      by_cases hcode : isPrintable code = true
      · obtain ⟨hfront, hprintable, hwithin, hwhole⟩ := ih limit
        have hrange : 32 ≤ code ∧ code ≤ 126 := by simpa [isPrintable] using hcode
        have hvalue : (Char.ofNat code).toNat = code := by
          have hvalid : code.isValidChar := .inl (by omega)
          rw [Char.ofNat, dif_pos hvalid]
          rfl
        rw [List.takeWhile_cons_of_pos hcode, List.map_cons]
        refine ⟨?_, List.forall_mem_cons.mpr ⟨by rwa [hvalue], hprintable⟩, ?_, ?_⟩
        · rw [List.map_cons, hvalue]
          exact List.cons_prefix_cons.mpr ⟨rfl, hfront⟩
        · simpa using hwithin
        · intro hshort
          simpa using hwhole (by simpa using hshort)
      · rw [List.takeWhile_cons_of_neg hcode]
        refine ⟨List.nil_prefix, List.forall_mem_nil _, Nat.zero_le _, fun _ first hfirst => ?_⟩
        obtain rfl : code = first := Option.some.inj hfirst
        simpa [isPrintable] using hcode

theorem bytes_of_cell (cell : Cell) :
    (Word.toBytes32Big cell.toUInt32).map UInt8.toNat =
      let code := cell.toUInt32.toNat
      [code / 0x1000000, code / 0x10000 % 0x100, code / 0x100 % 0x100, code % 0x100] := by
  have hlt := cell.toUInt32.toNat_lt
  simp [Word.toBytes32Big, Nat.shiftRight_eq_div_pow]
  omega

theorem exists_codes_decode (cells : List Cell) (limit : Nat) :
    ∃ codes, Codes cells (decode cells limit).packed codes ∧
      Starts limit codes (decode cells limit).text.toList := by
  have hform : isPacked cells = true ↔ ∃ first ∈ cells.head?, 0xFFFFFF < first.toUInt32.toNat := by
    cases cells with
    | nil => simp [isPacked]
    | cons first rest =>
      simp only [isPacked, List.head?_cons, Option.any_some, Option.mem_some_iff, exists_eq_left']
      exact decide_eq_true_iff
  unfold decode
  by_cases h : isPacked cells = true
  · rw [if_pos h]
    refine ⟨_, .packed (hform.mp h), ?_⟩
    rw [packed, List.map_flatMap]
    simp only [bytes_of_cell]
    exact starts_printableStart _ _
  · rw [if_neg h]
    refine ⟨_, .unpacked fun first hfirst => ?_, starts_printableStart _ _⟩
    exact Nat.not_lt.mp fun hgreat => h (hform.mpr ⟨first, hfirst, hgreat⟩)

end CellString

namespace Hex

/-- The hexadecimal digit of a number at a place. -/
def digitAt (n place : Nat) : Char := Nat.digitChar (n >>> (4 * place) % 16)

theorem zeroFill_toDigits {width n : Nat} (h : n >>> (4 * (width + 1)) = 0) :
    zeroFill (width + 1) (Nat.toDigits 16 n) = (List.range (width + 1)).reverse.map (digitAt n) := by
  induction width generalizing n with
  | zero =>
    have hsmall : n < 16 := by
      rw [Nat.shiftRight_eq_div_pow] at h
      omega
    rw [Nat.toDigits_of_lt_base hsmall]
    simp [zeroFill, digitAt, Nat.mod_eq_of_lt hsmall]
  | succ width ih =>
    have hshift (place : Nat) : n >>> (4 * (place + 1)) = (n / 16) >>> (4 * place) := by
      rw [Nat.mul_succ, Nat.add_comm, Nat.shiftRight_add, Nat.shiftRight_eq_div_pow n 4]
    have hhigh : digitAt n ∘ Nat.succ = digitAt (n / 16) := by
      funext place
      simp only [digitAt, Function.comp_apply, hshift]
    have hdigits : (List.range (width + 1 + 1)).reverse.map (digitAt n) =
        (List.range (width + 1)).reverse.map (digitAt (n / 16)) ++ [Nat.digitChar (n % 16)] := by
      rw [List.range_succ_eq_map, List.reverse_cons, List.map_append, ← List.map_reverse,
        List.map_map, hhigh]
      rfl
    rw [hdigits, ← ih ((hshift _).symm.trans h)]
    by_cases hsmall : n < 16
    · rw [Nat.toDigits_of_lt_base hsmall, Nat.div_eq_of_lt hsmall, Nat.mod_eq_of_lt hsmall]
      simp [zeroFill, List.replicate_succ']
    · rw [Nat.toDigits_of_base_le (by decide) (by omega)]
      simp [zeroFill]

end Hex

namespace Renderer

variable (r : Renderer) (m : Machine)

/-- The name of a tag is that of its first entry in the table. The untagged tag has none. -/
def HasTag (id : Int16) (name : String) : Prop :=
  name ≠ "_" ∧ ∃ before after, r.debug.tags = before ++ ⟨id, name⟩ :: after ∧
    ∀ entry ∈ before, entry.id ≠ id

inductive ShowsTag (id : Int16) : String → Prop where
  | tagged (name : String) (h : r.HasTag id name) : ShowsTag id (name ++ ":")
  | untagged (h : ∀ name, ¬ r.HasTag id name) : ShowsTag id ""

/-- A value as its tag asks for: a truth value, a number of single precision, or a signed number. -/
inductive ShowsScalar (id : Int16) (value : Cell) : String → Prop where
  | falsehood (htag : r.HasTag id "bool") (h : value = 0) : ShowsScalar id value "false"
  | truth (htag : r.HasTag id "bool") (h : value ≠ 0) : ShowsScalar id value "true"
  | float (text : String) (htag : r.HasTag id "Float")
      (htext : Decimal.Binary32.Shows value.toUInt32.toNat text) : ShowsScalar id value text
  | number (hbool : ¬ r.HasTag id "bool") (hfloat : ¬ r.HasTag id "Float") :
      ShowsScalar id value (toString value.toInt)

def addressText (address : Cell) : String :=
  "=@0x" ++ String.ofList ([7, 6, 5, 4, 3, 2, 1, 0].map (Hex.digitAt address.toUInt32.toNat))

/-- The target of a reference, where it can be read. -/
inductive ShowsTarget (id : Int16) (address : Cell) : String → Prop where
  | read (target : Cell) (text : String) (hdata : m.InData address)
      (hcell : m.dataCell? address = some target) (htext : r.ShowsScalar id target text) :
      ShowsTarget id address (" " ++ text)
  | unread (h : m.InData address → m.dataCell? address = none) : ShowsTarget id address ""

/-- A dimension of an array with its size, unless that is not known. -/
inductive ShowsDimension (dimension : Dimension) : String → Prop where
  | unknown (h : dimension.size = 0) : ShowsDimension dimension "[]"
  | known (tag : String) (h : dimension.size ≠ 0) (htag : r.ShowsTag dimension.tag tag) :
      ShowsDimension dimension ("[" ++ tag ++ toString dimension.size.toNat ++ "]")

/-- The string at an address in quotes, marked where it is packed and cut where it is longer than the
limit. It is read up to the declared size, or to the top of the stack where no size is known. -/
inductive Quotes (address : Cell) (size : UInt32) : String → Prop where
  | read (cells : List Cell) (packed : Bool) (codes : List Nat) (body : List Char)
      (hcells : m.ReadsCells address
        (min (if size = 0 then ((m.registers.stp.toInt - address.toInt) / 4).toNat else size.toNat)
          (r.limits.maxStringLength + 1)) cells)
      (hcodes : CellString.Codes cells packed codes)
      (hbody : CellString.Starts (r.limits.maxStringLength + 1) codes body) :
      Quotes address size ((if packed then "!\"" else "\"") ++
        (if body.length ≤ r.limits.maxStringLength then String.ofList body
          else String.ofList (body.take r.limits.maxStringLength) ++ "...") ++ "\"")

/-- An array that may hold a string: it has one dimension, and neither that nor the cells have a
tag. -/
def PlainArray (argument : DebugSymbol) (dimension : Dimension) : Prop :=
  argument.dimensions = [dimension] ∧ (∀ name, ¬ r.HasTag argument.tag name) ∧
    ∀ name, ¬ r.HasTag dimension.tag name

/-- The string that an array holds, if it may hold one and its address is one of the data. -/
inductive ShowsString (argument : DebugSymbol) (address : Cell) : String → Prop where
  | string (dimension : Dimension) (text : String) (hplain : r.PlainArray argument dimension)
      (hdata : m.InData address) (htext : r.Quotes m address dimension.size text) :
      ShowsString argument address (" " ++ text)
  | nothing (h : ∀ dimension, r.PlainArray argument dimension → ¬ m.InData address) :
      ShowsString argument address ""

/-- What stands after the name of an argument with a known value, by the kind of the argument. -/
inductive ShowsValue (argument : DebugSymbol) (value : Cell) : String → Prop where
  | variable (text : String) (hkind : argument.kind = .value)
      (htext : r.ShowsScalar argument.tag value text) : ShowsValue argument value ("=" ++ text)
  | reference (target : String) (hkind : argument.kind = .reference)
      (htarget : r.ShowsTarget m argument.tag value target) :
      ShowsValue argument value (addressText value ++ target)
  | array (dimensions : List String) (text : String)
      (hkind : argument.kind = .array ∨ argument.kind = .arrayRef)
      (hdimensions : List.Forall₂ r.ShowsDimension argument.dimensions dimensions)
      (htext : r.ShowsString m argument value text) :
      ShowsValue argument value (String.join dimensions ++ addressText value ++ text)
  | other (hvalue : argument.kind ≠ .value) (hreference : argument.kind ≠ .reference)
      (harray : argument.kind ≠ .array) (harrayRef : argument.kind ≠ .arrayRef) :
      ShowsValue argument value ("=" ++ toString value.toInt)

/-- An argument: a mark if it is a reference, its tag, its name, and what is known of its value. -/
inductive ShowsArgument (argument : DebugSymbol) : Option Cell → String → Prop where
  | unknown (tag : String) (htag : r.ShowsTag argument.tag tag) :
      ShowsArgument argument none
        ((if argument.kind = .reference then "&" else "") ++ tag ++ argument.name ++ "=?")
  | known (value : Cell) (tag text : String) (htag : r.ShowsTag argument.tag tag)
      (htext : r.ShowsValue m argument value text) :
      ShowsArgument argument (some value)
        ((if argument.kind = .reference then "&" else "") ++ tag ++ argument.name ++ text)

variable {r m} {id : Int16}

theorem tagName?_eq_some_iff {name : String} : r.tagName? id = some name ↔ r.HasTag id name := by
  rw [tagName?, Option.filter_eq_some_iff, DebugStore.tagName?, DebugStore.tag?,
    Option.map_eq_some_iff, and_comm, HasTag, decide_eq_true_eq]
  refine and_congr_right fun _ => ?_
  simp only [List.find?_eq_some_iff_append, beq_iff_eq, Bool.not_eq_true', beq_eq_false_iff_ne]
  constructor
  · rintro ⟨entry, ⟨rfl, before, after, htags, hbefore⟩, rfl⟩
    exact ⟨before, after, htags, hbefore⟩
  · rintro ⟨before, after, htags, hbefore⟩
    exact ⟨⟨id, name⟩, ⟨rfl, before, after, htags, hbefore⟩, rfl⟩

theorem tagName?_eq_none_iff : r.tagName? id = none ↔ ∀ name, ¬ r.HasTag id name := by
  simp only [← tagName?_eq_some_iff, Option.eq_none_iff_forall_ne_some]

theorem showsTag_tagName? : r.ShowsTag id ((r.tagName? id).elim "" (· ++ ":")) := by
  cases htag : r.tagName? id with
  | none => exact .untagged (tagName?_eq_none_iff.mp htag)
  | some name => exact .tagged name (tagName?_eq_some_iff.mp htag)

theorem showsScalar_scalarText (value : Cell) :
    r.ShowsScalar id value (scalarText (r.tagName? id) value) := by
  unfold scalarText
  split
  next htag =>
    have hbool := tagName?_eq_some_iff.mp htag
    split
    next hzero => exact .falsehood hbool hzero
    next hzero => exact .truth hbool hzero
  next hbool =>
    split
    next htag =>
      have hbits := value.toUInt32.toNat_lt
      exact .float _ (tagName?_eq_some_iff.mp htag) (Decimal.Binary32.shows_text hbits)
    next hfloat => exact .number (mt tagName?_eq_some_iff.mpr hbool) (mt tagName?_eq_some_iff.mpr hfloat)

theorem pointerText_eq (address : Cell) : pointerText address = addressText address := by
  have hlt := address.toUInt32.toNat_lt
  have hshift : address.toUInt32.toNat >>> (4 * (7 + 1)) = 0 := by
    rw [Nat.shiftRight_eq_div_pow]
    omega
  rw [pointerText, addressText, Hex.text, Cell.unsigned, Hex.zeroFill_toDigits hshift]
  rfl

theorem showsTarget_targetText (address : Cell) :
    r.ShowsTarget m id address (targetText m (r.tagName? id) address) := by
  unfold targetText
  split
  next hdata =>
    cases hcell : m.dataCell? address with
    | none => exact .unread fun _ => hcell
    | some target =>
      exact .read target _ (Machine.isDataAddress_iff_inData.mp hdata) hcell (showsScalar_scalarText target)
  next hdata => exact .unread fun h => absurd (Machine.isDataAddress_iff_inData.mpr h) hdata

theorem showsDimension_dimensionText (dimension : Dimension) :
    r.ShowsDimension dimension (r.dimensionText dimension) := by
  unfold dimensionText
  split
  next hsize => exact .unknown hsize
  next hsize => exact .known _ hsize showsTag_tagName?

theorem quotes_quotedText {address : Cell} (hdata : m.InData address) (size : UInt32) :
    r.Quotes m address size (r.quotedText (m.dataCells address (r.stringCells m address size))) := by
  obtain ⟨hzero, -, hstack⟩ := hdata
  have hbound : r.stringCells m address size =
      min (if size = 0 then ((m.registers.stp.toInt - address.toInt) / 4).toNat else size.toNat)
        (r.limits.maxStringLength + 1) := by
    rw [stringCells, Int.tdiv_eq_ediv_of_nonneg (by omega)]
  have hcells := m.readsCells_dataCells hzero (r.stringCells m address size)
  generalize m.dataCells address (r.stringCells m address size) = cells at hcells
  obtain ⟨codes, hcodes, hbody⟩ :=
    CellString.exists_codes_decode cells (r.limits.maxStringLength + 1)
  rw [hbound] at hcells
  have hclip (text : String) (limit : Nat) : CellString.clip text limit =
      if text.toList.length ≤ limit then String.ofList text.toList
      else String.ofList (text.toList.take limit) ++ "..." := by
    rw [String.length_toList, String.ofList_toList, CellString.clip]
    by_cases hlong : limit < text.length
    · rw [if_pos hlong, if_neg (by omega)]
    · rw [if_neg hlong, if_pos (by omega)]
  unfold quotedText
  simp only [hclip]
  exact .read cells _ codes _ hcells hcodes hbody

theorem showsString_arrayString? (argument : DebugSymbol) (value : Cell) :
    r.ShowsString m argument value
      (optionalText " " (r.arrayString? m argument (r.tagName? argument.tag) value)) := by
  have hplain (dimension : Dimension) : r.PlainArray argument dimension ↔
      argument.dimensions = [dimension] ∧ r.tagName? argument.tag = none ∧
        r.tagName? dimension.tag = none := by
    rw [PlainArray, tagName?_eq_none_iff, tagName?_eq_none_iff]
  unfold arrayString?
  split
  next dimension hdimensions htag =>
    split
    next hcell =>
      have hhere := (hplain dimension).mpr ⟨hdimensions, htag, hcell⟩
      unfold stringText?
      split
      next hdata =>
        have hin := Machine.isDataAddress_iff_inData.mp hdata
        exact .string dimension _ hhere hin (quotes_quotedText hin dimension.size)
      next hdata => exact .nothing fun _ _ hin => hdata (Machine.isDataAddress_iff_inData.mpr hin)
    next hcell =>
      refine .nothing fun other hother => absurd ?_ hcell
      obtain ⟨hsame, -, hnone⟩ := (hplain other).mp hother
      obtain rfl : dimension = other := by simpa using hdimensions.symm.trans hsame
      exact hnone
  next hnot =>
    refine .nothing fun other hother => ?_
    obtain ⟨hdimensions, htag, -⟩ := (hplain other).mp hother
    exact absurd htag (hnot other hdimensions)

theorem showsValue_valueText (argument : DebugSymbol) (value : Cell) :
    r.ShowsValue m argument value (r.valueText m argument (r.tagName? argument.tag) value) := by
  unfold valueText
  split
  next hkind =>
    exact .variable _ (by simpa [DebugSymbol.isVariable] using hkind) (showsScalar_scalarText value)
  next hvalue =>
    split
    next hkind =>
      rw [pointerText_eq]
      exact .reference _ (by simpa [DebugSymbol.isReference] using hkind)
        (showsTarget_targetText value)
    next hreference =>
      split
      next hkind =>
        rw [pointerText_eq]
        refine .array _ _ (by simpa [DebugSymbol.isArray] using hkind) ?_
          (showsString_arrayString? argument value)
        rw [List.forall₂_map_right_iff]
        exact List.forall₂_same.mpr fun dimension _ => showsDimension_dimensionText dimension
      next harray =>
        have hkinds : argument.kind ≠ .array ∧ argument.kind ≠ .arrayRef := by
          simpa [DebugSymbol.isArray] using harray
        exact .other (by simpa [DebugSymbol.isVariable] using hvalue)
          (by simpa [DebugSymbol.isReference] using hreference) hkinds.1 hkinds.2

theorem showsArgument_argumentText (r : Renderer) (m : Machine) (argument : DebugSymbol)
    (value : Option Cell) : r.ShowsArgument m argument value (r.argumentText m argument value) := by
  have hmark : (if argument.isReference = true then "&" else "") =
      if argument.kind = .reference then "&" else "" := by
    simp [DebugSymbol.isReference]
  unfold argumentText
  rw [hmark]
  cases value with
  | none => exact .unknown _ showsTag_tagName?
  | some value => exact .known value _ _ showsTag_tagName? (showsValue_valueText argument value)

end Renderer

end AmxTrace
