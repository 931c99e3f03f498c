import AmxTrace.Proofs.Image.Packing
import Mathlib.Data.Nat.Digits.Defs
import Mathlib.Tactic.Ring

/-! # Runs of bytes -/

namespace AmxTrace.Compact

open Segment

/-- A byte that is not marked: it ends its run. -/
def closes (b : UInt8) : Bool := b &&& 0x80 == 0

/-- Marked bytes and one that is not. -/
def IsRun (run : List UInt8) : Prop :=
  ∃ front last, run = front ++ [last] ∧ (∀ b ∈ front, closes b = false) ∧ closes last = true

/-- The bytes do not end within a run. -/
def Closed (bytes : List UInt8) : Prop := ∀ last ∈ bytes.getLast?, closes last = true

/-- The lower seven bits of a byte. -/
def group (b : UInt8) : Nat := b.toNat % 128

/-- The lower seven bits of a byte as a signed number, bit `0x40` being the sign. -/
def signedGroup (b : UInt8) : Int := if b &&& 0x40 = 0 then group b else group b - 128

/-- The number that a run stands for: its groups are digits in base 128, most significant first, and
the first one has a sign. -/
def runValue : List UInt8 → Int
  | [] => 0
  | first :: rest =>
    signedGroup first * 128 ^ rest.length + (Nat.ofDigits 128 (rest.map group).reverse : Nat)

theorem closes_iff {b : UInt8} : closes b = true ↔ b &&& 0x80 = 0 := beq_iff_eq

theorem addGroup_ofInt_mul (n : Int) (b : UInt8) :
    addGroup (UInt32.ofInt n) b = UInt32.ofInt (n * 128 + group b) := by
  have hgroup : group b < 128 := Nat.mod_lt _ (by decide)
  have hfront : (n * 128 + group b) / 128 = n := by omega
  rw [← addGroup_ofInt (n := n * 128 + group b) (b := b) (by rw [group] at hgroup ⊢; omega), hfront]

theorem addGroup_signFill_self (b : UInt8) :
    addGroup (signFill b) b = UInt32.ofInt (signedGroup b) := by
  have hgroup : group b < 128 := Nat.mod_lt _ (by decide)
  have hclear : b &&& 0x40 = 0 ↔ group b < 64 := sign_clear_iff b
  have hfits : -64 ≤ signedGroup b ∧ signedGroup b < 64 := by
    rw [signedGroup]
    split
    next h =>
      have hlow := hclear.mp h
      omega
    next h =>
      have hhigh : ¬ group b < 64 := fun hlow => h (hclear.mpr hlow)
      omega
  refine addGroup_signFill hfits ?_
  rw [signedGroup]
  split <;> rw [group] at * <;> omega

theorem foldl_addGroup (n : Int) (bytes : List UInt8) :
    bytes.foldl addGroup (UInt32.ofInt n) =
      UInt32.ofInt (n * 128 ^ bytes.length + (Nat.ofDigits 128 (bytes.map group).reverse : Nat)) := by
  induction bytes generalizing n with
  | nil => simp
  | cons b rest ih =>
    rw [List.foldl_cons, addGroup_ofInt_mul, ih, List.map_cons, List.reverse_cons,
      Nat.ofDigits_append, Nat.ofDigits_singleton, List.length_reverse, List.length_map,
      List.length_cons]
    congr 1
    push_cast
    ring

/-- Groups are added to a run until a byte closes it, and what follows is read afresh. -/
theorem cellsFrom_some_append (value : UInt32) {front : List UInt8} {last : UInt8}
    (hfront : ∀ b ∈ front, closes b = false) (hlast : closes last = true) (rest : List UInt8) :
    cellsFrom (some value) (front ++ [last] ++ rest) =
      ((front ++ [last]).foldl addGroup value :: ·) <$> cellsFrom none rest := by
  induction front generalizing value with
  | nil => simp [cellsFrom, closes_iff.mp hlast]
  | cons b front ih =>
    obtain ⟨hb, hfront⟩ := List.forall_mem_cons.mp hfront
    have hmarked : b &&& 0x80 ≠ 0 := fun h => by simp [closes, h] at hb
    simpa [cellsFrom, hmarked] using ih (addGroup value b) hfront

theorem cellsFrom_append {run : List UInt8} (hrun : IsRun run) (rest : List UInt8) :
    cellsFrom none (run ++ rest) =
      (UInt32.ofInt (runValue run) :: ·) <$> cellsFrom none rest := by
  obtain ⟨front, last, rfl, hfront, hlast⟩ := hrun
  cases front with
  | nil =>
    simp [cellsFrom, closes_iff.mp hlast, runValue, addGroup_signFill_self]
  | cons first front =>
    obtain ⟨hfirst, hfront⟩ := List.forall_mem_cons.mp hfront
    have hmarked : first &&& 0x80 ≠ 0 := fun h => by simp [closes, h] at hfirst
    have htail := cellsFrom_some_append (addGroup (signFill first) first) hfront hlast rest
    rw [addGroup_signFill_self, foldl_addGroup] at htail
    rw [List.cons_append, List.cons_append, cellsFrom]
    simpa [hmarked, addGroup_signFill_self, runValue] using htail

theorem cells_flatten {runs : List (List UInt8)} (hruns : ∀ run ∈ runs, IsRun run) :
    cells runs.flatten = some (runs.map fun run => UInt32.ofInt (runValue run)) := by
  induction runs with
  | nil => rfl
  | cons run runs ih =>
    obtain ⟨hrun, hruns⟩ := List.forall_mem_cons.mp hruns
    have hrest := ih hruns
    rw [cells] at hrest
    rw [cells, List.flatten_cons, cellsFrom_append hrun, hrest]
    rfl

theorem countP_closes_flatten {runs : List (List UInt8)} (hruns : ∀ run ∈ runs, IsRun run) :
    runs.flatten.countP closes = runs.length := by
  induction runs with
  | nil => rfl
  | cons run runs ih =>
    obtain ⟨hrun, hothers⟩ := List.forall_mem_cons.mp hruns
    obtain ⟨front, last, rfl, hfront, hlast⟩ := hrun
    have hmarked : front.countP closes = 0 := List.countP_eq_zero.mpr (by simpa using hfront)
    rw [List.flatten_cons, List.countP_append, List.countP_append, hmarked, ih hothers,
      List.countP_singleton, if_pos hlast, List.length_cons]
    omega

theorem exists_runs {bytes : List UInt8} (h : Closed bytes) :
    ∃ runs : List (List UInt8), runs.flatten = bytes ∧ ∀ run ∈ runs, IsRun run := by
  induction bytes with
  | nil => exact ⟨[], rfl, nofun⟩
  | cons b rest ih =>
    have hrest : rest ≠ [] → Closed rest := by
      intro hne last hlast
      rw [Closed, List.getLast?_cons_of_ne_nil hne] at h
      exact h last hlast
    by_cases hb : closes b = true
    · have hclosed : Closed rest := by
        by_cases hne : rest = []
        · subst hne
          exact nofun
        · exact hrest hne
      obtain ⟨runs, rfl, hruns⟩ := ih hclosed
      exact ⟨[b] :: runs, rfl, List.forall_mem_cons.mpr ⟨⟨[], b, rfl, nofun, hb⟩, hruns⟩⟩
    · -- a marked byte belongs to the first run behind it, and there is one
      have hne : rest ≠ [] := by
        rintro rfl
        exact hb (h b rfl)
      obtain ⟨runs, rfl, hruns⟩ := ih (hrest hne)
      cases runs with
      | nil => exact absurd rfl hne
      | cons run runs =>
        obtain ⟨hrun, hothers⟩ := List.forall_mem_cons.mp hruns
        obtain ⟨front, last, rfl, hfront, hlast⟩ := hrun
        have hmarked : ∀ other ∈ b :: front, closes other = false :=
          List.forall_mem_cons.mpr ⟨by simpa using hb, hfront⟩
        refine ⟨(b :: (front ++ [last])) :: runs, rfl, List.forall_mem_cons.mpr ⟨?_, hothers⟩⟩
        exact ⟨b :: front, last, rfl, hmarked, hlast⟩

theorem closed_of_cellsFrom {value : Option UInt32} {bytes : List UInt8} {words : List UInt32}
    (h : cellsFrom value bytes = some words) : Closed bytes := by
  induction bytes generalizing value words with
  | nil => exact nofun
  | cons b rest ih =>
    intro last hlast
    cases rest with
    | nil =>
      obtain rfl : b = last := by simpa using hlast
      rw [closes_iff]
      by_contra hmarked
      simp [cellsFrom, hmarked] at h
    | cons next rest =>
      rw [List.getLast?_cons_cons] at hlast
      rw [cellsFrom] at h
      split at h
      next =>
        obtain ⟨others, hothers, -⟩ := Option.map_eq_some_iff.mp h
        exact ih hothers last hlast
      next => exact ih h last hlast

/-- A segment of a size holds the numbers of runs, each as a cell, and zero bytes behind them. -/
structure HoldsRuns (segment : ByteArray) (size : Nat) (runs : List (List UInt8)) : Prop where
  size : segment.size = size
  cells : ∀ index run, runs[index]? = some run →
    cellFrom? segment (4 * index) = some (Int32.ofInt (runValue run))
  zeros : ∀ place byte, 4 * runs.length ≤ place → (bytes segment)[place]? = some byte → byte = 0

theorem expand_eq_some_iff {bytes : List UInt8} {size : Nat} {segment : ByteArray} :
    expand bytes size = some segment ↔
      ∃ words, cells bytes = some words ∧ 4 * words.length ≤ size ∧
        segment = resize (ofCells (words.map UInt32.toInt32)) size := by
  simp only [expand, Option.bind_eq_bind, Option.bind_eq_some_iff]
  refine exists_congr fun words => and_congr_right fun _ => ?_
  split <;> simp_all [eq_comm]

theorem toInt32_ofInt (n : Int) : (UInt32.ofInt n).toInt32 = Int32.ofInt n := by
  have hmod : (Int32.ofInt n).toInt % 2 ^ 32 = n % 2 ^ 32 := by
    rw [Int32.toInt_ofInt]
    exact Int.bmod_emod
  have hword : UInt32.ofInt n = UInt32.ofInt (Int32.ofInt n).toInt := by
    apply UInt32.toNat_inj.mp
    rw [toNat_ofInt, toNat_ofInt, hmod]
  rw [hword, ofInt_toInt, Int32.toInt32_toUInt32]

/-- Cells stay in their places where a segment is filled up with zero bytes behind them. -/
theorem holdsRuns_resize {runs : List (List UInt8)} {size : Nat} (hfits : 4 * runs.length ≤ size) :
    HoldsRuns (resize (ofCells (runs.map fun run => Int32.ofInt (runValue run))) size) size runs where
  size := size_resize _ size
  cells index run hrun := by
    have hstands : cellBytes (runs.map fun run => Int32.ofInt (runValue run)) <+:
        (bytes (resize (ofCells (runs.map fun run => Int32.ofInt (runValue run))) size)).drop 0 := by
      rw [List.drop_zero, bytes_resize, ofCells, bytes_ofBytes, List.take_of_length_le]
      · exact List.prefix_append _ _
      · rwa [length_cellBytes, List.length_map]
    rw [← Nat.zero_add (4 * index)]
    exact cellFrom?_of_cellBytes hstands (by rw [List.getElem?_map, hrun]; rfl)
  zeros place byte hplace hbyte := by
    obtain ⟨hlt, rfl⟩ := List.getElem?_eq_some_iff.mp hbyte
    exact getElem_resize_of_le (by rwa [size_ofCells, List.length_map]) hlt

/-- Bytes expand if they are closed and the cells of their runs fit, and then to those cells. -/
theorem expand_decodes_runs (bytes : List UInt8) (size : Nat) :
    ((∃ segment, expand bytes size = some segment) ↔
      Closed bytes ∧ 4 * bytes.countP closes ≤ size) ∧
    ∀ segment, expand bytes size = some segment →
      ∃ runs, runs.flatten = bytes ∧ (∀ run ∈ runs, IsRun run) ∧ HoldsRuns segment size runs := by
  have hclosed : ∀ segment, expand bytes size = some segment → Closed bytes := by
    intro segment h
    obtain ⟨words, hwords, -⟩ := expand_eq_some_iff.mp h
    exact closed_of_cellsFrom hwords
  have hexpand : ∀ runs : List (List UInt8), (∀ run ∈ runs, IsRun run) → ∀ segment,
      expand runs.flatten size = some segment ↔ 4 * runs.length ≤ size ∧
        segment = resize (ofCells (runs.map fun run => Int32.ofInt (runValue run))) size := by
    intro runs hruns segment
    rw [expand_eq_some_iff, cells_flatten hruns]
    simp [Function.comp_def, toInt32_ofInt]
  refine ⟨⟨?_, ?_⟩, ?_⟩
  · rintro ⟨segment, h⟩
    have hends := hclosed segment h
    obtain ⟨runs, rfl, hruns⟩ := exists_runs hends
    rw [countP_closes_flatten hruns]
    exact ⟨hends, ((hexpand runs hruns segment).mp h).1⟩
  · rintro ⟨hends, hfits⟩
    obtain ⟨runs, rfl, hruns⟩ := exists_runs hends
    rw [countP_closes_flatten hruns] at hfits
    exact ⟨_, (hexpand runs hruns _).mpr ⟨hfits, rfl⟩⟩
  · intro segment h
    obtain ⟨runs, rfl, hruns⟩ := exists_runs (hclosed segment h)
    obtain ⟨hfits, rfl⟩ := (hexpand runs hruns segment).mp h
    exact ⟨runs, rfl, hruns, holdsRuns_resize hfits⟩

/-- A run of six bytes, of whose number a cell does not keep the first group, and a short one. -/
def overlong : List UInt8 := [0x84, 0x80, 0x80, 0x80, 0x80, 0x05, 0x7F]

theorem expand_decodes_runs_overlong :
    ∃ segment, expand overlong 10 = some segment ∧
      ∃ runs, runs.flatten = overlong ∧ (∀ run ∈ runs, IsRun run) ∧ HoldsRuns segment 10 runs := by
  obtain ⟨hexpands, hholds⟩ := expand_decodes_runs overlong 10
  have hclosed : Closed overlong := by
    rintro _ ⟨⟩
    rfl
  have hcount : overlong.countP closes = 2 := rfl
  obtain ⟨segment, h⟩ := hexpands.mpr ⟨hclosed, by rw [hcount]; decide⟩
  exact ⟨segment, h, hholds segment h⟩

end AmxTrace.Compact
