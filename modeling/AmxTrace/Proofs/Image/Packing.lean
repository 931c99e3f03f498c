import AmxTrace.Image
import Mathlib.Data.FinEnum

/-! # Packing cells -/

namespace AmxTrace

namespace Segment

/-- The cells that bytes hold, four bytes each. -/
def bytesCells : List UInt8 → List Cell
  | b0 :: b1 :: b2 :: b3 :: rest => (Word.ofBytes32 b0 b1 b2 b3).toInt32 :: bytesCells rest
  | _ => []

theorem cellBytes_bytesCells {list : List UInt8} (h : 4 ∣ list.length) :
    cellBytes (bytesCells list) = list := by
  induction list using bytesCells.induct with
  | case1 b0 b1 b2 b3 rest ih =>
    simp only [List.length_cons] at h
    have hrest := ih (by omega)
    rw [cellBytes] at hrest ⊢
    rw [bytesCells, List.flatMap_cons, hrest, UInt32.toUInt32_toInt32, Word.toBytes32_ofBytes32]
    rfl
  | case2 list hshort =>
    rcases list with _ | ⟨b0, _ | ⟨b1, _ | ⟨b2, _ | ⟨b3, rest⟩⟩⟩⟩
    · rfl
    · simp at h
    · simp at h
    · simp at h
    · exact absurd rfl (hshort b0 b1 b2 b3 rest)

end Segment

namespace Compact

open Segment

/-- The last 7-bit group of a number. -/
def lastGroup (n : Int) : UInt8 := UInt8.ofNat (n % 128).toNat

/-- The groups of a number, most significant first. They end at the first group whose bit `0x40`
gives the sign of what is left. -/
def groups (n : Int) : List UInt8 :=
  if -64 ≤ n ∧ n < 64 then [lastGroup n] else groups (n / 128) ++ [lastGroup n]
termination_by n.natAbs
decreasing_by omega

/-- The bytes of a number: its groups, all but the last marked. -/
def run (n : Int) : List UInt8 := (groups n).dropLast.map (· ||| 0x80) ++ [lastGroup n]

/-- Compact-encoded bytes of cells. -/
def encode (cells : List Cell) : List UInt8 := cells.flatMap fun c => run c.toInt

theorem groups_of_small {n : Int} (h : -64 ≤ n ∧ n < 64) : groups n = [lastGroup n] := by
  rw [groups, if_pos h]

theorem groups_of_large {n : Int} (h : ¬(-64 ≤ n ∧ n < 64)) :
    groups n = groups (n / 128) ++ [lastGroup n] := by
  rw [groups, if_neg h]

theorem length_groups_pos (n : Int) : 0 < (groups n).length := by
  by_cases h : -64 ≤ n ∧ n < 64
  · simp [groups_of_small h]
  · simp [groups_of_large h]

theorem length_groups_le_iff {k : Nat} {n : Int} :
    (groups n).length ≤ k + 1 ↔ -(64 * 128 ^ k) ≤ n ∧ n < 64 * 128 ^ k := by
  induction k generalizing n with
  | zero =>
    by_cases h : -64 ≤ n ∧ n < 64
    · simpa [groups_of_small h] using h
    · have hpos := length_groups_pos (n / 128)
      simp only [groups_of_large h, List.length_append, List.length_singleton]
      omega
  | succ k ih =>
    have hpow : (128 : Int) ^ (k + 1) = 128 * 128 ^ k := pow_succ' 128 k
    have hpos : (0 : Int) < 128 ^ k := Int.pow_pos (by decide)
    by_cases h : -64 ≤ n ∧ n < 64
    · rw [groups_of_small h, hpow, List.length_singleton]
      omega
    · rw [groups_of_large h, List.length_append, List.length_singleton, Nat.add_le_add_iff_right,
        ih, hpow]
      omega

theorem length_run (n : Int) : (run n).length = (groups n).length := by
  have hpos := length_groups_pos n
  simp only [run, List.length_append, List.length_map, List.length_dropLast, List.length_singleton]
  omega

theorem length_run_le (c : Cell) : (run c.toInt).length ≤ 5 := by
  rw [length_run, length_groups_le_iff]
  have hlow := c.le_toInt
  have hhigh := c.toInt_lt
  simp only [Int.reducePow, Int.reduceMul, Int.reduceNeg]
  omega

example : encode [-1, 200, -2147483648] = [0x7F, 0x81, 0x48, 0xF8, 0x80, 0x80, 0x80, 0x00] := by
  cbv

theorem toNat_lastGroup (n : Int) : (lastGroup n).toNat = (n % 128).toNat := by
  rw [lastGroup, UInt8.toNat_ofNat']
  omega

theorem toNat_ofInt (n : Int) : (UInt32.ofInt n).toNat = (n % 2 ^ 32).toNat := by
  rw [UInt32.ofInt, UInt32.toNat_ofNat']
  omega

theorem toNat_addGroup (value : UInt32) (b : UInt8) :
    (addGroup value b).toNat = (value.toNat * 128 + b.toNat % 128) % 2 ^ 32 := by
  have hgroup : (b &&& 0x7F).toNat = b.toNat % 128 := by
    rw [UInt8.toNat_and]
    exact Nat.and_two_pow_sub_one_eq_mod b.toNat 7
  have hshift : value.toNat <<< 7 % 2 ^ 32 = 2 ^ 7 * (value.toNat % 2 ^ 25) := by
    rw [Nat.shiftLeft_eq]
    omega
  rw [addGroup, UInt32.toNat_or, UInt32.toNat_shiftLeft, UInt8.toNat_toUInt32, hgroup,
    show (7 : UInt32).toNat % 32 = 7 from rfl, hshift, ← Nat.two_pow_add_eq_or_of_lt (by omega)]
  omega

theorem sign_clear_iff : ∀ b : UInt8, b &&& 0x40 = 0 ↔ b.toNat % 128 < 64 := by decide +kernel

theorem mark_set : ∀ b : UInt8, (b ||| 0x80) &&& 0x80 ≠ 0 := by decide +kernel

theorem mark_clear : ∀ b : UInt8, b.toNat < 128 → b &&& 0x80 = 0 := by decide +kernel

theorem toNat_marked : ∀ b : UInt8, (b ||| 0x80).toNat % 128 = b.toNat % 128 := by decide +kernel

/-- One more group takes the number without its last group to the number. -/
theorem addGroup_ofInt {n : Int} {b : UInt8} (hb : b.toNat % 128 = (n % 128).toNat) :
    addGroup (UInt32.ofInt (n / 128)) b = UInt32.ofInt n := by
  apply UInt32.toNat_inj.mp
  rw [toNat_addGroup, toNat_ofInt, toNat_ofInt, hb]
  omega

theorem addGroup_signFill {n : Int} (hn : -64 ≤ n ∧ n < 64) {b : UInt8}
    (hb : b.toNat % 128 = (n % 128).toNat) : addGroup (signFill b) b = UInt32.ofInt n := by
  apply UInt32.toNat_inj.mp
  rw [toNat_addGroup, toNat_ofInt, hb, signFill]
  split
  next hclear =>
    rw [sign_clear_iff, hb] at hclear
    rw [show (0 : UInt32).toNat = 0 from rfl]
    omega
  next hset =>
    rw [sign_clear_iff, hb] at hset
    rw [show (0xFFFFFFFF : UInt32).toNat = 2 ^ 32 - 1 from rfl]
    omega

theorem toNat_marked_lastGroup (n : Int) :
    (lastGroup n ||| 0x80).toNat % 128 = (n % 128).toNat := by
  rw [toNat_marked, toNat_lastGroup]
  omega

theorem cellsFrom_marked (n : Int) (rest : List UInt8) :
    cellsFrom none ((groups n).map (· ||| 0x80) ++ rest) =
      cellsFrom (some (UInt32.ofInt n)) rest := by
  induction n using groups.induct generalizing rest with
  | case1 n hsmall =>
    simp [groups_of_small hsmall, cellsFrom, mark_set,
      addGroup_signFill hsmall (toNat_marked_lastGroup n)]
  | case2 n hlarge ih =>
    rw [groups_of_large hlarge, List.map_append, List.append_assoc, ih]
    simp [cellsFrom, mark_set, addGroup_ofInt (toNat_marked_lastGroup n)]

theorem cellsFrom_run (n : Int) (rest : List UInt8) :
    cellsFrom none (run n ++ rest) = (UInt32.ofInt n :: ·) <$> cellsFrom none rest := by
  have hlast : (lastGroup n).toNat % 128 = (n % 128).toNat := by
    rw [toNat_lastGroup]
    omega
  have hclear : lastGroup n &&& 0x80 = 0 := by
    apply mark_clear
    rw [toNat_lastGroup]
    omega
  -- the last group is the whole run, or it ends the run of the groups before it
  by_cases h : -64 ≤ n ∧ n < 64
  · simp [run, groups_of_small h, cellsFrom, hclear, addGroup_signFill h hlast]
  · rw [run, groups_of_large h, List.dropLast_concat, List.append_assoc, cellsFrom_marked]
    simp [cellsFrom, hclear, addGroup_ofInt hlast]

theorem ofInt_toInt (c : Cell) : UInt32.ofInt c.toInt = c.toUInt32 := by
  apply UInt32.toNat_inj.mp
  have hword : c.toInt = (c.toUInt32.toNat : Int).bmod (2 ^ 32) :=
    BitVec.toInt_eq_toNat_bmod c.toBitVec
  have hlt := c.toUInt32.toNat_lt
  have hmod : c.toInt % 2 ^ 32 = (c.toUInt32.toNat : Int) % 2 ^ 32 := by
    rw [hword]
    exact Int.bmod_emod
  rw [toNat_ofInt, hmod]
  omega

theorem cells_encode (list : List Cell) : cells (encode list) = some (list.map Int32.toUInt32) := by
  induction list with
  | nil => rfl
  | cons c list ih =>
    rw [cells, encode, List.flatMap_cons, cellsFrom_run, ofInt_toInt]
    rw [cells, encode] at ih
    rw [ih]
    rfl

theorem length_encode (list : List Cell) :
    list.length ≤ (encode list).length ∧ (encode list).length ≤ 5 * list.length := by
  induction list with
  | nil => decide
  | cons c list ih =>
    have hpos := length_groups_pos c.toInt
    have hlength := length_run c.toInt
    have hle := length_run_le c
    rw [encode] at ih ⊢
    rw [List.flatMap_cons, List.length_append, List.length_cons]
    omega

theorem expand_encode_bytesCells {list : List UInt8} (h : 4 ∣ list.length) :
    expand (encode (bytesCells list)) list.length = some (ofBytes list) := by
  have hcount : 4 * (bytesCells list).length = list.length := by
    rw [← length_cellBytes, cellBytes_bytesCells h]
  have hback : (bytesCells list).map (UInt32.toInt32 ∘ Int32.toUInt32) = bytesCells list :=
    List.map_id'' Int32.toInt32_toUInt32 _
  simp only [expand, cells_encode, Option.bind_eq_bind, Option.bind_some, List.length_map,
    List.map_map, hback]
  rw [if_pos (by omega)]
  congr 1
  apply bytes_injective
  rw [bytes_resize, ofCells, cellBytes_bytesCells h]
  simp

end Compact

end AmxTrace
