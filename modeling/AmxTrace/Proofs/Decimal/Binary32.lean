import AmxTrace.Proofs.Decimal.Shortest

/-! # Decimals of single-precision numbers -/

namespace AmxTrace.Decimal

namespace Binary32

/-- The number of a pattern without a sign. The pattern after the greatest number stands for the
power of two that would come next. -/
def value (pattern : Nat) : ℚ :=
  if pattern < 0x800000 then pattern * 2 ^ (-149 : Int)
  else (0x800000 + pattern % 0x800000 : ℕ) * 2 ^ ((pattern / 0x800000 : ℕ) - 150 : Int)

/-- A real number is read as the nearest one that has a pattern, and as the one with the even pattern
if it lies halfway between two. -/
def ReadsAs (pattern : Nat) (x : ℚ) : Prop :=
  if pattern % 2 = 0 then
    (value (pattern - 1) + value pattern) / 2 ≤ x ∧ x ≤ (value pattern + value (pattern + 1)) / 2
  else (value (pattern - 1) + value pattern) / 2 < x ∧ x < (value pattern + value (pattern + 1)) / 2

def sign (bits : Nat) : String := if bits < 0x80000000 then "" else "-"

/-- The text of a bit pattern: no number, an infinite one, or one with its sign and the shortest
decimal that is read as it. -/
inductive Shows (bits : Nat) : String → Prop where
  | notNumber (h : 0x7F800000 < bits % 0x80000000) : Shows bits "NaN"
  | infinite (h : bits % 0x80000000 = 0x7F800000) : Shows bits (sign bits ++ "inf")
  | zero (h : bits % 0x80000000 = 0) : Shows bits (sign bits ++ "0")
  | number (s : Scaled) (text : String) (hzero : bits % 0x80000000 ≠ 0)
      (hfinite : bits % 0x80000000 < 0x7F800000)
      (hshortest : Shortest (ReadsAs (bits % 0x80000000)) (value (bits % 0x80000000)) s)
      (htext : Writes s.number text) : Shows bits (sign bits ++ text)

/-- The whole number that a pattern counts in units of its exponent. -/
def significand (biased fraction : Nat) : Nat :=
  if biased = 0 then fraction else 0x800000 + fraction

def unit (biased : Nat) : ℚ := 2 ^ ((max biased 1 : ℕ) - 150 : Int)

theorem unit_succ {biased : Nat} (h : 0 < biased) : unit (biased + 1) = 2 * unit biased := by
  have hexponent : ((max (biased + 1) 1 : ℕ) : Int) - 150 = ((max biased 1 : ℕ) : Int) - 150 + 1 := by
    omega
  rw [unit, unit, hexponent, zpow_add_one₀ two_ne_zero, mul_comm]

section Ends

variable (biased fraction : Nat)

theorem lower_eq : (rounding biased fraction).lower =
    4 * significand biased fraction - if fraction = 0 ∧ 1 < biased then 1 else 2 := rfl

theorem value_eq : (rounding biased fraction).value = 4 * significand biased fraction := rfl

theorem upper_eq : (rounding biased fraction).upper = 4 * significand biased fraction + 2 := rfl

theorem unit_eq : (2 : ℚ) ^ (rounding biased fraction).exponent = unit biased / 4 := by
  unfold rounding unit
  dsimp only
  rw [sub_eq_add_neg _ (2 : Int), zpow_add₀ two_ne_zero]
  norm_num
  ring

variable {biased fraction}

theorem significand_pos (hpos : 0 < 0x800000 * biased + fraction) :
    0 < significand biased fraction := by
  unfold significand
  split <;> omega

theorem proper_rounding (hpos : 0 < 0x800000 * biased + fraction) :
    (rounding biased fraction).Proper := by
  have hsignificand := significand_pos hpos
  constructor
  · rw [lower_eq]
    split <;> omega
  · rw [lower_eq, value_eq]
    split <;> omega
  · rw [value_eq, upper_eq]
    omega

end Ends

section Rounding

variable {biased fraction : Nat} (hfraction : fraction < 0x800000)
include hfraction

theorem value_pattern :
    value (0x800000 * biased + fraction) = significand biased fraction * unit biased := by
  unfold value significand unit
  rcases Nat.eq_zero_or_pos biased with rfl | hpos
  · rw [if_pos (by omega), if_pos rfl, Nat.mul_zero, Nat.zero_add]
    rfl
  · rw [if_neg (by omega), if_neg hpos.ne', Nat.mul_add_mod, Nat.mod_eq_of_lt hfraction,
      Nat.mul_add_div (by decide), Nat.div_eq_of_lt hfraction, Nat.add_zero, Nat.max_eq_left hpos]

theorem value_next :
    value (0x800000 * biased + fraction + 1) = (significand biased fraction + 1) * unit biased := by
  rcases Nat.lt_or_ge (fraction + 1) 0x800000 with hsmall | hlarge
  · rw [Nat.add_assoc, value_pattern hsmall]
    unfold significand
    split <;> push_cast <;> ring
  · obtain rfl : fraction = 0x7FFFFF := by omega
    have hnext : 0x800000 * biased + 0x7FFFFF + 1 = 0x800000 * (biased + 1) + 0 := by omega
    rw [hnext, value_pattern (by decide)]
    unfold significand
    rcases Nat.eq_zero_or_pos biased with rfl | hpos
    · rw [if_neg (by decide), if_pos rfl]
      norm_num [unit]
    · rw [if_neg (by omega), if_neg hpos.ne', unit_succ hpos]
      push_cast
      ring

/-- Below a power of two the numbers stand half as far apart. -/
theorem value_previous (hpos : 0 < 0x800000 * biased + fraction) :
    value (0x800000 * biased + fraction - 1) =
      (significand biased fraction - if fraction = 0 ∧ 1 < biased then 1 / 2 else 1) *
        unit biased := by
  rcases Nat.eq_zero_or_pos fraction with rfl | hfront
  · obtain ⟨outer, rfl⟩ : ∃ outer, biased = outer + 1 := Nat.exists_eq_succ_of_ne_zero (by omega)
    have hprevious : 0x800000 * (outer + 1) + 0 - 1 = 0x800000 * outer + 0x7FFFFF := by omega
    rw [hprevious, value_pattern (by decide)]
    unfold significand
    rcases Nat.eq_zero_or_pos outer with rfl | houter
    · norm_num [unit]
    · rw [if_neg houter.ne', if_neg (by omega), if_pos ⟨rfl, by omega⟩, unit_succ houter]
      push_cast
      ring
  · have hprevious : 0x800000 * biased + fraction - 1 = 0x800000 * biased + (fraction - 1) := by
      omega
    rw [hprevious, value_pattern (by omega), if_neg (by omega)]
    unfold significand
    split <;> push_cast [Nat.cast_pred hfront] <;> ring

theorem number_rounding :
    (rounding biased fraction).number = value (0x800000 * biased + fraction) := by
  rw [value_pattern hfraction, Rounding.number, unit_eq, value_eq]
  push_cast
  ring

theorem upper_rounding :
    (rounding biased fraction).upper * (2 : ℚ) ^ (rounding biased fraction).exponent =
      (value (0x800000 * biased + fraction) + value (0x800000 * biased + fraction + 1)) / 2 := by
  rw [value_pattern hfraction, value_next hfraction, unit_eq, upper_eq]
  push_cast
  ring

theorem lower_rounding (hpos : 0 < 0x800000 * biased + fraction) :
    (rounding biased fraction).lower * (2 : ℚ) ^ (rounding biased fraction).exponent =
      (value (0x800000 * biased + fraction - 1) + value (0x800000 * biased + fraction)) / 2 := by
  have hsignificand := significand_pos hpos
  rw [value_pattern hfraction, value_previous hfraction hpos, unit_eq, lower_eq]
  split
  · rw [Nat.cast_sub (by omega)]
    push_cast
    ring
  · rw [Nat.cast_sub (by omega)]
    push_cast
    ring

theorem holds_rounding_iff (hpos : 0 < 0x800000 * biased + fraction) {x : ℚ} :
    (rounding biased fraction).Holds x ↔ ReadsAs (0x800000 * biased + fraction) x := by
  have hclosed : (rounding biased fraction).closed = true ↔
      (0x800000 * biased + fraction) % 2 = 0 := by
    have heven : (0x800000 * biased + fraction) % 2 = significand biased fraction % 2 := by
      unfold significand
      split <;> omega
    rw [heven]
    exact decide_eq_true_iff
  unfold Rounding.Holds ReadsAs
  rw [lower_rounding hfraction hpos, upper_rounding hfraction]
  by_cases heven : (0x800000 * biased + fraction) % 2 = 0
  · rw [if_pos (hclosed.mpr heven), if_pos heven]
  · rw [if_neg (mt hclosed.mp heven), if_neg heven]

theorem upper_rounding_le (hfinite : biased < 255) :
    (rounding biased fraction).upper * (2 : ℚ) ^ (rounding biased fraction).exponent ≤ 10 ^ 39 := by
  have hsignificand : significand biased fraction < 2 ^ 24 := by
    unfold significand
    split <;> omega
  have hnumber : ((4 * significand biased fraction + 2 : ℕ) : ℚ) ≤ 2 ^ 26 := by
    exact_mod_cast (show 4 * significand biased fraction + 2 ≤ 2 ^ 26 by omega)
  have hunit : unit biased ≤ 2 ^ (104 : Int) :=
    zpow_le_zpow_right₀ (by norm_num) (by omega)
  have hpositive : (0 : ℚ) ≤ unit biased / 4 := div_nonneg (zpow_nonneg (by norm_num) _) (by norm_num)
  calc (rounding biased fraction).upper * (2 : ℚ) ^ (rounding biased fraction).exponent
      = (4 * significand biased fraction + 2 : ℕ) * (unit biased / 4) := by rw [unit_eq, upper_eq]
    _ ≤ 2 ^ 26 * (unit biased / 4) := mul_le_mul_of_nonneg_right hnumber hpositive
    _ ≤ 2 ^ 26 * (2 ^ (104 : Int) / 4) :=
      mul_le_mul_of_nonneg_left (div_le_div_of_nonneg_right hunit (by norm_num)) (by norm_num)
    _ ≤ 10 ^ 39 := by norm_num

omit hfraction in
/-- The grid of `10 ^ (-60)` is fine enough: its next multiple above a number is read as that. -/
theorem holds_above (hpos : 0 < 0x800000 * biased + fraction) :
    (rounding biased fraction).Holds
      (((rounding biased fraction).below (-60) + 1 : ℕ) * 10 ^ (-60 : Int)) := by
  have hbelow := below_le (rounding biased fraction) (-60)
  have hunit : (2 : ℚ) ^ (-149 : Int) ≤ unit biased :=
    zpow_le_zpow_right₀ (by norm_num) (by omega)
  have hgrid : (10 : ℚ) ^ (-60 : Int) < unit biased / 2 :=
    calc (10 : ℚ) ^ (-60 : Int) < 2 ^ (-149 : Int) / 2 := by norm_num
      _ ≤ unit biased / 2 := div_le_div_of_nonneg_right hunit (by norm_num)
  have hupper : (rounding biased fraction).upper * (2 : ℚ) ^ (rounding biased fraction).exponent =
      (rounding biased fraction).number + unit biased / 2 := by
    rw [Rounding.number, upper_eq, value_eq, unit_eq]
    push_cast
    ring
  refine (proper_rounding hpos).holds_of_lt (lt_above _ _).le ?_
  rw [hupper, Nat.cast_succ, add_one_mul]
  exact add_lt_add_of_le_of_lt hbelow hgrid

theorem exists_shortest_number (hpos : 0 < 0x800000 * biased + fraction) (hfinite : biased < 255) :
    ∃ s, firstHit (rounding biased fraction) 39 100 = some s ∧
      Shortest (ReadsAs (0x800000 * biased + fraction)) (value (0x800000 * biased + fraction)) s ∧
      0 < s.number := by
  have hproper : (rounding biased fraction).Proper := proper_rounding hpos
  have hreads : (rounding biased fraction).Holds = ReadsAs (0x800000 * biased + fraction) :=
    funext fun x => propext (holds_rounding_iff hfraction hpos)
  have hcoarser : ∀ t : Scaled, 39 < t.exponent → ¬ (rounding biased fraction).Holds t.number := by
    intro t ht hholds
    have hdigits : 1 ≤ t.digits := by
      refine Nat.one_le_iff_ne_zero.mpr fun hzero => (hholds.pos hproper).ne' ?_
      rw [Scaled.number, hzero, Nat.cast_zero, zero_mul]
    have hlarge : (10 : ℚ) ^ (40 : Int) ≤ t.number :=
      calc (10 : ℚ) ^ (40 : Int) ≤ 10 ^ t.exponent := zpow_le_zpow_right₀ (by norm_num) ht
        _ ≤ t.digits * 10 ^ t.exponent :=
          le_mul_of_one_le_left (zpow_nonneg (by norm_num) _) (Nat.one_le_cast.mpr hdigits)
    have hsmall : t.number ≤ 10 ^ 39 := hholds.le_upper.trans (upper_rounding_le hfraction hfinite)
    exact absurd (hlarge.trans hsmall) (by norm_num)
  have hreach : ∃ t : Scaled, 39 < t.exponent + (100 : ℕ) ∧ t.exponent ≤ 39 ∧
      (rounding biased fraction).Holds t.number :=
    ⟨⟨(rounding biased fraction).below (-60) + 1, -60⟩, by norm_num, by norm_num, holds_above hpos⟩
  obtain ⟨s, hhit, hshortest⟩ := exists_shortest_firstHit hproper hcoarser hreach
  rw [hreads, number_rounding hfraction] at hshortest
  refine ⟨s, hhit, hshortest, ?_⟩
  exact ((holds_rounding_iff hfraction hpos).mpr hshortest.read).pos hproper

end Rounding

theorem shows_text {bits : Nat} (hbits : bits < 2 ^ 32) : Shows bits (text bits) := by
  by_cases hnumber : bits % 0x80000000 ≤ 0x7F800000
  · have hsigned : text bits =
        sign bits ++ magnitudeText (bits / 0x800000 % 0x100) (bits % 0x800000) := by
      unfold sign
      by_cases hpositive : bits < 0x80000000
      · rw [text, if_neg (by omega), if_pos hpositive, String.empty_append]
      · rw [text, if_pos (by omega), if_neg hpositive]
    rw [hsigned, magnitudeText]
    by_cases hinfinite : bits % 0x80000000 = 0x7F800000
    · rw [if_pos (by omega), if_pos (by omega)]
      exact .infinite hinfinite
    rw [if_neg (by omega)]
    by_cases hzero : bits % 0x80000000 = 0
    · rw [if_pos (by omega)]
      exact .zero hzero
    · have hpattern : 0x800000 * (bits / 0x800000 % 0x100) + bits % 0x800000 =
          bits % 0x80000000 := by omega
      have hnonzero : 0 < 0x800000 * (bits / 0x800000 % 0x100) + bits % 0x800000 := by omega
      obtain ⟨s, hhit, hshortest, hpos⟩ :=
        exists_shortest_number (Nat.mod_lt bits (by decide)) hnonzero (by omega)
      rw [hpattern] at hshortest
      rw [if_neg (by omega), hhit]
      exact .number s _ hzero (by omega) hshortest (hshortest.writes hpos)
  · rw [text, if_neg (by omega), magnitudeText, if_pos (by omega), if_neg (by omega)]
    exact .notNumber (by omega)

/-- Of two decimals equally near the greater one is taken. -/
example : text 0x4A000001 = "2097152.3" := by decide +kernel

end Binary32

end AmxTrace.Decimal
