import AmxTrace.Text.CellString

/-! # Strings as they are stored -/

namespace AmxTrace.CellString

/-- Cells with given bytes, four to a cell and the first in the high byte. Zero bytes fill the last cell. -/
def bigCells : List UInt8 → List Cell
  | a :: b :: c :: d :: rest => (Word.ofBytes32 d c b a).toInt32 :: bigCells rest
  | [a, b, c] => [(Word.ofBytes32 0 c b a).toInt32]
  | [a, b] => [(Word.ofBytes32 0 0 b a).toInt32]
  | [a] => [(Word.ofBytes32 0 0 0 a).toInt32]
  | [] => []

/-- How a string is stored: a cell for each character, or four characters to a cell with at least one zero
byte after the last and `spare` more. -/
inductive Form where
  | unpacked
  | packed (spare : Nat)

def Form.isPacked : Form → Bool
  | unpacked => false
  | packed _ => true

def Form.cells : Form → List Char → List Cell
  | unpacked, text => text.map (fun c => c.val.toInt32) ++ [0]
  | packed spare, text => bigCells (text.map Char.toUInt8 ++ List.replicate (spare + 1) 0)

private theorem toBytes32Big_ofBytes32 (a b c d : UInt8) :
    Word.toBytes32Big (Word.ofBytes32 d c b a) = [a, b, c, d] := by
  have hlittle := Word.toBytes32_ofBytes32 d c b a
  exact congrArg List.reverse hlittle

/-- The bytes of a cell, high byte first. -/
def bigBytes (cell : Cell) : List UInt8 := Word.toBytes32Big cell.toUInt32

theorem length_bigBytes (cell : Cell) : (bigBytes cell).length = 4 := rfl

theorem prefix_bytes_bigCells (bytes : List UInt8) : bytes <+: (bigCells bytes).flatMap bigBytes := by
  fun_induction bigCells bytes with
  | case1 a b c d rest ih => simpa [bigBytes, toBytes32Big_ofBytes32, List.cons_prefix_cons] using ih
  | case2 a b c => simp [bigBytes, toBytes32Big_ofBytes32]
  | case3 a b => simp [bigBytes, toBytes32Big_ofBytes32]
  | case4 a => simp [bigBytes, toBytes32Big_ofBytes32]
  | case5 => simp

theorem flatMap_bigBytes_take (cells : List Cell) (count : Nat) :
    (cells.take count).flatMap bigBytes = (cells.flatMap bigBytes).take (4 * count) := by
  induction count generalizing cells with
  | zero => simp
  | succ count ih =>
    cases cells with
    | nil => simp
    | cons cell rest =>
      have hlength := length_bigBytes cell
      have hwhole : (bigBytes cell).take (4 + 4 * count) = bigBytes cell :=
        List.take_of_length_le (by omega)
      rw [List.take_succ_cons, List.flatMap_cons, List.flatMap_cons, ih, Nat.mul_succ, Nat.add_comm,
        List.take_append, hlength, Nat.add_sub_cancel_left, hwhole]

theorem unsigned_charCell (c : Char) : Cell.unsigned c.val.toInt32 = c.toNat := by
  rw [Cell.unsigned, UInt32.toUInt32_toInt32]
  rfl

theorem le_unsigned_bigCell (a b c d : UInt8) :
    16777216 * a.toNat ≤ Cell.unsigned (Word.ofBytes32 d c b a).toInt32 := by
  rw [Cell.unsigned, UInt32.toUInt32_toInt32, Word.toNat_ofBytes32]
  omega

/-- Every character of a text can be printed. -/
def Printable (text : List Char) : Prop := ∀ c ∈ text, isPrintable c.toNat = true

theorem printable_of_front {text : List Char} (hprintable : Printable text) {codes : List Nat}
    {limit : Nat} (hcodes : (text.map Char.toNat ++ [0]).take limit <+: codes) :
    ((codes.take limit).takeWhile isPrintable).map Char.ofNat = text.take limit := by
  induction text generalizing limit codes with
  | nil =>
    cases limit with
    | zero => simp
    | succ limit =>
      obtain ⟨rest, rfl, -⟩ := List.cons_prefix_iff.mp hcodes
      have hzero : isPrintable 0 = false := by decide
      simp [hzero]
  | cons c text ih =>
    cases limit with
    | zero => simp
    | succ limit =>
      obtain ⟨hc, htext⟩ := List.forall_mem_cons.mp hprintable
      obtain ⟨rest, rfl, hrest⟩ := List.cons_prefix_iff.mp hcodes
      simp [hc, ih htext hrest]

theorem printableStart_of_front {text : List Char} (hprintable : Printable text) {codes : List Nat}
    {limit : Nat} (hcodes : (text.map Char.toNat ++ [0]).take limit <+: codes) :
    printableStart limit codes = String.ofList (text.take limit) := by
  rw [printableStart, printable_of_front hprintable hcodes]

theorem isPacked_of_front {stored cells : List Cell} {first : Cell} {others : List Cell} {limit : Nat}
    (hstored : stored = first :: others) (hcells : stored.take (limit + 1) <+: cells) :
    isPacked cells = decide (unpackedGreatest < first.unsigned) := by
  rw [hstored, List.take_succ_cons] at hcells
  obtain ⟨rest, rfl, -⟩ := List.cons_prefix_iff.mp hcells
  rfl

theorem unpacked_of_front {text : List Char} (hprintable : Printable text) {cells : List Cell}
    {limit : Nat} (hcells : (Form.unpacked.cells text).take limit <+: cells) :
    unpacked cells limit = String.ofList (text.take limit) := by
  apply printableStart_of_front hprintable
  have hcodes : (Form.unpacked.cells text).map Cell.unsigned = text.map Char.toNat ++ [0] := by
    have hzero : Cell.unsigned 0 = 0 := rfl
    simp [Form.cells, unsigned_charCell, hzero]
  rw [← hcodes, ← List.map_take]
  exact hcells.map Cell.unsigned

theorem toNat_toUInt8_of_printable {c : Char} (h : isPrintable c.toNat = true) :
    c.toUInt8.toNat = c.toNat := by
  have hle : c.toNat ≤ 126 := by
    simp only [isPrintable, Bool.and_eq_true, decide_eq_true_eq] at h
    exact h.2
  change c.toNat % 256 = c.toNat
  omega

theorem packed_of_front {text : List Char} (hprintable : Printable text) {cells : List Cell}
    {spare limit : Nat} (hcells : ((Form.packed spare).cells text).take limit <+: cells) :
    packed cells limit = String.ofList (text.take limit) := by
  apply printableStart_of_front hprintable
  have hcodes : text.map Char.toNat ++ [0] =
      (text.map Char.toUInt8 ++ [0]).map UInt8.toNat := by
    have hbytes : (text.map Char.toUInt8).map UInt8.toNat = text.map Char.toNat := by
      rw [List.map_map]
      apply List.map_congr_left
      intro c hc
      exact toNat_toUInt8_of_printable (hprintable c hc)
    simp [hbytes]
  -- the text and its first zero byte lie at the front of the bytes of the stored cells
  have hfront : text.map Char.toUInt8 ++ [0] <+: ((Form.packed spare).cells text).flatMap bigBytes := by
    have hzero : text.map Char.toUInt8 ++ [0] <+:
        text.map Char.toUInt8 ++ List.replicate (spare + 1) 0 := by
      rw [List.prefix_append_right_inj, List.replicate_succ]
      exact List.prefix_append [0] _
    exact hzero.trans (prefix_bytes_bigCells _)
  have hread : (((Form.packed spare).cells text).flatMap bigBytes).take (4 * limit) <+:
      cells.flatMap bigBytes := by
    rw [← flatMap_bigBytes_take]
    obtain ⟨more, rfl⟩ := hcells
    rw [List.flatMap_append]
    exact List.prefix_append _ _
  have hlimit : (text.map Char.toUInt8 ++ [0]).take limit <+:
      (((Form.packed spare).cells text).flatMap bigBytes).take (4 * limit) := by
    have hfewer := List.take_prefix limit (text.map Char.toUInt8 ++ [0])
    apply List.prefix_take_iff.mpr
    refine ⟨hfewer.trans hfront, ?_⟩
    rw [List.length_take]
    omega
  rw [hcodes, ← List.map_take]
  exact (hlimit.trans hread).map UInt8.toNat

theorem exists_packed_nil (spare : Nat) : ∃ others, (Form.packed spare).cells [] = 0 :: others := by
  match spare with
  | 0 => exact ⟨_, rfl⟩
  | 1 => exact ⟨_, rfl⟩
  | 2 => exact ⟨_, rfl⟩
  | spare + 3 => exact ⟨_, rfl⟩

/-- The first cell of a stored text is above the greatest unpacked character exactly when a text that is not
empty is packed. -/
theorem exists_first_cell (form : Form) {text : List Char} (hprintable : Printable text) :
    ∃ first others, form.cells text = first :: others ∧
      (unpackedGreatest < first.unsigned ↔ form.isPacked = true ∧ text ≠ []) := by
  have hempty : ¬ unpackedGreatest < Cell.unsigned 0 := by decide
  cases form with
  | unpacked =>
    cases text with
    | nil => exact ⟨0, [], rfl, by simp [hempty, Form.isPacked]⟩
    | cons c rest =>
      refine ⟨c.val.toInt32, _, rfl, ?_⟩
      have hc := hprintable c List.mem_cons_self
      simp only [isPrintable, Bool.and_eq_true, decide_eq_true_eq] at hc
      have hsmall : ¬ unpackedGreatest < Cell.unsigned c.val.toInt32 := by
        rw [unsigned_charCell, unpackedGreatest]
        omega
      simp [hsmall, Form.isPacked]
  | packed spare =>
    cases text with
    | nil =>
      obtain ⟨others, hothers⟩ := exists_packed_nil spare
      exact ⟨0, others, hothers, by simp [hempty]⟩
    | cons c rest =>
      have hc := hprintable c List.mem_cons_self
      have hbyte := toNat_toUInt8_of_printable hc
      simp only [isPrintable, Bool.and_eq_true, decide_eq_true_eq] at hc
      have hfirst : ∃ b1 b2 b3 others, (Form.packed spare).cells (c :: rest) =
          (Word.ofBytes32 b3 b2 b1 c.toUInt8).toInt32 :: others := by
        rw [Form.cells, List.map_cons, List.cons_append]
        generalize rest.map Char.toUInt8 ++ List.replicate (spare + 1) 0 = bytes
        match bytes with
        | [] => exact ⟨0, 0, 0, _, rfl⟩
        | [b1] => exact ⟨b1, 0, 0, _, rfl⟩
        | [b1, b2] => exact ⟨b1, b2, 0, _, rfl⟩
        | b1 :: b2 :: b3 :: others => exact ⟨b1, b2, b3, _, rfl⟩
      obtain ⟨b1, b2, b3, others, hothers⟩ := hfirst
      refine ⟨_, others, hothers, ?_⟩
      have hweight := le_unsigned_bigCell c.toUInt8 b1 b2 b3
      have hgreat : unpackedGreatest < Cell.unsigned (Word.ofBytes32 b3 b2 b1 c.toUInt8).toInt32 := by
        rw [unpackedGreatest]
        omega
      simp [hgreat, Form.isPacked]

theorem decode_of_front (form : Form) {text : List Char} (hprintable : Printable text)
    {cells : List Cell} {limit : Nat} (hcells : (form.cells text).take (limit + 1) <+: cells) :
    decode cells (limit + 1) =
      ⟨String.ofList (text.take (limit + 1)), form.isPacked && !text.isEmpty⟩ := by
  obtain ⟨first, others, hstored, hform⟩ := exists_first_cell form hprintable
  have hpacked : isPacked cells = (form.isPacked && !text.isEmpty) := by
    rw [isPacked_of_front hstored hcells, Bool.eq_iff_iff, decide_eq_true_eq, hform]
    simp
  unfold decode
  rw [hpacked]
  cases form with
  | unpacked =>
    have hread := unpacked_of_front hprintable hcells
    simp [Form.isPacked, hread]
  | packed spare =>
    cases text with
    | nil =>
      -- an empty text is taken for an unpacked one, and ends at once in either form
      obtain ⟨others, hothers⟩ := exists_packed_nil spare
      rw [hothers] at hcells
      obtain ⟨rest, rfl, -⟩ := List.cons_prefix_iff.mp hcells
      have hread : unpacked (0 :: rest) (limit + 1) = String.ofList [] :=
        unpacked_of_front hprintable (List.cons_prefix_cons.mpr ⟨rfl, by simp⟩)
      simp [hread]
    | cons c rest =>
      have hread := packed_of_front hprintable hcells
      simp [Form.isPacked, hread]

end AmxTrace.CellString
