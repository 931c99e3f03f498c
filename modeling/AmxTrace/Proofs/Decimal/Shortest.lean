import AmxTrace.Decimal
import Mathlib.Algebra.Order.Field.Power
import Mathlib.Data.List.Basic
import Mathlib.Tactic.Linarith
import Mathlib.Tactic.NormNum
import Mathlib.Tactic.Ring

/-! # Shortest decimals of a number -/

namespace AmxTrace.Decimal

def Scaled.number (s : Scaled) : ℚ := s.digits * 10 ^ s.exponent

/-- The shortest decimal that is read as a number, given what is read as it: it has the coarsest
grid and is the nearest one there, the greater of two that are equally near. -/
structure Shortest (reads : ℚ → Prop) (x : ℚ) (s : Scaled) : Prop where
  read : reads s.number
  coarsest : ∀ t : Scaled, s.exponent < t.exponent → ¬ reads t.number
  nearest : ∀ t : Scaled, t.exponent = s.exponent → reads t.number →
    |s.number - x| < |t.number - x| ∨ |s.number - x| = |t.number - x| ∧ t.digits ≤ s.digits

/-- The plain decimals of a number: digits, with a point among them unless the number is whole, and
no zero that can be left out. -/
inductive Writes (x : ℚ) : String → Prop where
  | whole (digits : List Char) (hdigits : ∀ c ∈ digits, c.isDigit = true) (hsome : digits ≠ [])
      (hfront : digits.head? = some '0' → digits = ['0'])
      (hvalue : x = Nat.ofDigitChars 10 digits 0) : Writes x (String.ofList digits)
  | point (whole fraction : List Char) (hdigits : ∀ c ∈ whole ++ fraction, c.isDigit = true)
      (hwhole : whole ≠ []) (hfraction : fraction ≠ [])
      (hfront : whole.head? = some '0' → whole = ['0']) (hback : fraction.getLast? ≠ some '0')
      (hvalue : x * 10 ^ fraction.length = Nat.ofDigitChars 10 (whole ++ fraction) 0) :
      Writes x (String.ofList (whole ++ '.' :: fraction))

namespace Rounding

variable {r : Rounding}

def number (r : Rounding) : ℚ := r.value * 2 ^ r.exponent

def Holds (r : Rounding) (x : ℚ) : Prop :=
  if r.closed then r.lower * 2 ^ r.exponent ≤ x ∧ x ≤ r.upper * 2 ^ r.exponent
  else r.lower * 2 ^ r.exponent < x ∧ x < r.upper * 2 ^ r.exponent

/-- The number lies strictly between the ends, and these are positive. -/
structure Proper (r : Rounding) : Prop where
  positive : 0 < r.lower
  above : r.lower < r.value
  below : r.value < r.upper

theorem Holds.between {x y z : ℚ} (hx : r.Holds x) (hz : r.Holds z) (hxy : x ≤ y) (hyz : y ≤ z) :
    r.Holds y := by
  unfold Holds at hx hz ⊢
  split
  next hclosed =>
    rw [if_pos hclosed] at hx hz
    exact ⟨hx.1.trans hxy, hyz.trans hz.2⟩
  next hclosed =>
    rw [if_neg hclosed] at hx hz
    exact ⟨hx.1.trans_le hxy, hyz.trans_lt hz.2⟩

theorem Holds.pos {x : ℚ} (h : r.Holds x) (hr : r.Proper) : 0 < x := by
  have hlower : (0 : ℚ) < r.lower * 2 ^ r.exponent :=
    mul_pos (Nat.cast_pos.mpr hr.positive) (zpow_pos two_pos _)
  unfold Holds at h
  split at h
  · exact hlower.trans_le h.1
  · exact hlower.trans h.1

theorem Holds.le_upper {x : ℚ} (h : r.Holds x) : x ≤ r.upper * 2 ^ r.exponent := by
  unfold Holds at h
  split at h
  · exact h.2
  · exact h.2.le

theorem Proper.holds_of_lt (hr : r.Proper) {x : ℚ} (hx : r.number ≤ x)
    (hupper : x < r.upper * 2 ^ r.exponent) : r.Holds x := by
  have hlower : (r.lower : ℚ) * 2 ^ r.exponent < r.number :=
    mul_lt_mul_of_pos_right (Nat.cast_lt.mpr hr.above) (zpow_pos two_pos _)
  unfold Holds
  split
  · exact ⟨hlower.le.trans hx, hupper.le⟩
  · exact ⟨hlower.trans_le hx, hupper⟩

theorem Proper.number_lt_upper (hr : r.Proper) : r.number < r.upper * 2 ^ r.exponent :=
  mul_lt_mul_of_pos_right (Nat.cast_lt.mpr hr.below) (zpow_pos two_pos _)

theorem Proper.holds_number (hr : r.Proper) : r.Holds r.number :=
  hr.holds_of_lt le_rfl hr.number_lt_upper

end Rounding

theorem gridRatio_spec (e k : Int) :
    0 < (gridRatio e k).2 ∧ (2 : ℚ) ^ e * (gridRatio e k).2 = (gridRatio e k).1 * 10 ^ k := by
  refine ⟨Nat.mul_pos (Nat.pow_pos two_pos) (Nat.pow_pos (by decide)), ?_⟩
  have hsplit (b : ℚ) (hb : b ≠ 0) (n : Int) : b ^ n * b ^ (-n).toNat = b ^ n.toNat := by
    rw [← zpow_natCast, ← zpow_natCast, ← zpow_add₀ hb]
    congr 1
    omega
  have htwo := hsplit 2 two_ne_zero e
  have hten := hsplit 10 (by norm_num) k
  simp only [gridRatio, Nat.pow_eq, Nat.cast_mul, Nat.cast_pow, Nat.cast_ofNat]
  rw [← htwo, ← hten]
  ring

section Grid

variable {e k : Int} {a n : Nat}

theorem binary_mul_den :
    (a : ℚ) * 2 ^ e * (gridRatio e k).2 = (a * (gridRatio e k).1 : ℕ) * 10 ^ k := by
  rw [mul_assoc, (gridRatio_spec e k).2]
  push_cast
  ring

theorem decimal_mul_den :
    (n : ℚ) * 10 ^ k * (gridRatio e k).2 = (n * (gridRatio e k).2 : ℕ) * 10 ^ k := by
  push_cast
  ring

theorem le_iff_of_mul_den {x y : ℚ} {m n : Nat} (hx : x * (gridRatio e k).2 = m * 10 ^ k)
    (hy : y * (gridRatio e k).2 = n * 10 ^ k) : x ≤ y ↔ m ≤ n := by
  have hden : (0 : ℚ) < (gridRatio e k).2 := Nat.cast_pos.mpr (gridRatio_spec e k).1
  have hgrid : (0 : ℚ) < 10 ^ k := zpow_pos (by norm_num) k
  rw [← mul_le_mul_iff_left₀ hden, hx, hy, mul_le_mul_iff_left₀ hgrid, Nat.cast_le]

theorem le_grid_iff :
    (a : ℚ) * 2 ^ e ≤ n * 10 ^ k ↔ a * (gridRatio e k).1 ≤ n * (gridRatio e k).2 :=
  le_iff_of_mul_den binary_mul_den decimal_mul_den

theorem grid_le_iff :
    (n : ℚ) * 10 ^ k ≤ a * 2 ^ e ↔ n * (gridRatio e k).2 ≤ a * (gridRatio e k).1 :=
  le_iff_of_mul_den decimal_mul_den binary_mul_den

theorem grid_lt_iff :
    (n : ℚ) * 10 ^ k < a * 2 ^ e ↔ n * (gridRatio e k).2 < a * (gridRatio e k).1 := by
  rw [← not_le, le_grid_iff, not_le]

theorem lt_grid_iff :
    (a : ℚ) * 2 ^ e < n * 10 ^ k ↔ a * (gridRatio e k).1 < n * (gridRatio e k).2 := by
  rw [← not_le, grid_le_iff, not_le]

end Grid

section Neighbours

variable (r : Rounding) (k : Int)

/-- The last multiple of a power of ten up to the number. -/
def Rounding.below : Nat :=
  r.value * (gridRatio r.exponent k).1 / (gridRatio r.exponent k).2

def Rounding.meets (n : Nat) : Bool :=
  let low := r.lower * (gridRatio r.exponent k).1
  let here := n * (gridRatio r.exponent k).2
  let high := r.upper * (gridRatio r.exponent k).1
  if r.closed then decide (low ≤ here ∧ here ≤ high) else decide (low < here ∧ here < high)

theorem onGrid_eq :
    onGrid r k =
      let exact := r.value * (gridRatio r.exponent k).1
      let den := (gridRatio r.exponent k).2
      match r.meets k (r.below k), r.meets k (r.below k + 1) with
      | true, true =>
        if (r.below k + 1) * den - exact ≤ exact - r.below k * den then some ⟨r.below k + 1, k⟩
        else some ⟨r.below k, k⟩
      | true, false => some ⟨r.below k, k⟩
      | false, true => some ⟨r.below k + 1, k⟩
      | false, false => none := rfl

theorem below_le : (r.below k : ℚ) * 10 ^ k ≤ r.number :=
  grid_le_iff.mpr (Nat.div_mul_le_self _ _)

theorem lt_above : r.number < (r.below k + 1 : ℕ) * 10 ^ k := by
  apply lt_grid_iff.mpr
  rw [Rounding.below, Nat.add_mul, Nat.one_mul, Nat.mul_comm _ (gridRatio r.exponent k).2]
  exact Nat.lt_mul_div_succ _ (gridRatio_spec r.exponent k).1

variable {r k}

theorem meets_iff {n : Nat} : r.meets k n = true ↔ r.Holds (n * 10 ^ k) := by
  unfold Rounding.meets Rounding.Holds
  split
  · rw [decide_eq_true_iff, le_grid_iff, grid_le_iff]
  · rw [decide_eq_true_iff, lt_grid_iff, grid_lt_iff]

theorem above_closer_iff :
    (r.below k + 1) * (gridRatio r.exponent k).2 - r.value * (gridRatio r.exponent k).1 ≤
        r.value * (gridRatio r.exponent k).1 - r.below k * (gridRatio r.exponent k).2 ↔
      (r.below k + 1 : ℕ) * 10 ^ k - r.number ≤ r.number - r.below k * 10 ^ k := by
  have hbelow := grid_le_iff.mp (below_le r k)
  have habove := lt_grid_iff.mp (lt_above r k)
  have hsum : ((r.below k + 1 : ℕ) : ℚ) * 10 ^ k + r.below k * 10 ^ k =
      (r.below k + 1 + r.below k : ℕ) * 10 ^ k := by
    push_cast
    ring
  have htwice : r.number + r.number = (2 * r.value : ℕ) * 2 ^ r.exponent := by
    unfold Rounding.number
    push_cast
    ring
  rw [sub_le_sub_iff, hsum, htwice, grid_le_iff, Nat.add_mul _ (r.below k), Nat.mul_assoc 2]
  omega

theorem number_grid_mono {m n : Nat} (h : m ≤ n) : (m : ℚ) * 10 ^ k ≤ n * 10 ^ k :=
  mul_le_mul_of_nonneg_right (Nat.cast_le.mpr h) (zpow_nonneg (by norm_num) k)

theorem meets_below_of_le (hr : r.Proper) {n : Nat} (hn : n ≤ r.below k)
    (h : r.Holds (n * 10 ^ k)) : r.Holds (r.below k * 10 ^ k) :=
  h.between hr.holds_number (number_grid_mono hn) (below_le r k)

theorem meets_above_of_lt (hr : r.Proper) {n : Nat} (hn : r.below k < n)
    (h : r.Holds (n * 10 ^ k)) : r.Holds ((r.below k + 1 : ℕ) * 10 ^ k) :=
  hr.holds_number.between h (lt_above r k).le (number_grid_mono hn)

theorem not_holds_of_onGrid_eq_none (hr : r.Proper) (h : onGrid r k = none) (n : Nat) :
    ¬ r.Holds (n * 10 ^ k) := by
  intro hn
  rw [onGrid_eq] at h
  dsimp only at h
  split at h
  · split at h <;> cases h
  · cases h
  · cases h
  next hbelow habove =>
    rcases Nat.lt_or_ge (r.below k) n with hlt | hge
    · rw [meets_iff.mpr (meets_above_of_lt hr hlt hn)] at habove
      cases habove
    · rw [meets_iff.mpr (meets_below_of_le hr hge hn)] at hbelow
      cases hbelow

/-- A multiple of a power of ten that is held, and is the nearest of those that are, the greater of
two equally near. -/
structure NearestOnGrid (r : Rounding) (k : Int) (n : Nat) : Prop where
  holds : r.Holds (n * 10 ^ k)
  nearest : ∀ m : Nat, r.Holds (m * 10 ^ k) →
    |(n : ℚ) * 10 ^ k - r.number| < |(m : ℚ) * 10 ^ k - r.number| ∨
      |(n : ℚ) * 10 ^ k - r.number| = |(m : ℚ) * 10 ^ k - r.number| ∧ m ≤ n

theorem distance_of_le {n : Nat} (hn : n ≤ r.below k) :
    |(n : ℚ) * 10 ^ k - r.number| = r.number - n * 10 ^ k := by
  rw [abs_sub_comm, abs_of_nonneg (sub_nonneg.mpr ((number_grid_mono hn).trans (below_le r k)))]

theorem distance_of_lt {n : Nat} (hn : r.below k < n) :
    |(n : ℚ) * 10 ^ k - r.number| = n * 10 ^ k - r.number :=
  abs_of_nonneg (sub_nonneg.mpr ((lt_above r k).le.trans (number_grid_mono hn)))

theorem nearestOnGrid_below (hr : r.Proper) (hbelow : r.Holds (r.below k * 10 ^ k))
    (habove : r.Holds ((r.below k + 1 : ℕ) * 10 ^ k) →
      r.number - r.below k * 10 ^ k < (r.below k + 1 : ℕ) * 10 ^ k - r.number) :
    NearestOnGrid r k (r.below k) where
  holds := hbelow
  nearest m hm := by
    rw [distance_of_le le_rfl]
    rcases Nat.lt_or_ge (r.below k) m with hlt | hge
    · have hstep := number_grid_mono (k := k) hlt
      have hcloser := habove (meets_above_of_lt hr hlt hm)
      rw [distance_of_lt hlt]
      exact .inl (by linarith)
    · have hstep := number_grid_mono (k := k) hge
      rw [distance_of_le hge]
      exact (sub_le_sub_left hstep r.number).lt_or_eq.imp_right fun heq => ⟨heq, hge⟩

theorem nearestOnGrid_above (hr : r.Proper) (habove : r.Holds ((r.below k + 1 : ℕ) * 10 ^ k))
    (hbelow : r.Holds (r.below k * 10 ^ k) →
      (r.below k + 1 : ℕ) * 10 ^ k - r.number ≤ r.number - r.below k * 10 ^ k) :
    NearestOnGrid r k (r.below k + 1) where
  holds := habove
  nearest m hm := by
    rw [distance_of_lt (Nat.lt_succ_self _)]
    rcases Nat.lt_or_ge (r.below k) m with hlt | hge
    · rw [distance_of_lt hlt]
      rcases Nat.eq_or_lt_of_le (Nat.succ_le_of_lt hlt) with rfl | hfarther
      · exact .inr ⟨rfl, le_rfl⟩
      · refine .inl (sub_lt_sub_right ?_ r.number)
        exact mul_lt_mul_of_pos_right (Nat.cast_lt.mpr hfarther) (zpow_pos (by norm_num) k)
    · have hstep := number_grid_mono (k := k) hge
      have hcloser := hbelow (meets_below_of_le hr hge hm)
      rw [distance_of_le hge]
      have hle : ((r.below k + 1 : ℕ) : ℚ) * 10 ^ k - r.number ≤ r.number - m * 10 ^ k := by linarith
      exact hle.lt_or_eq.imp_right fun heq => ⟨heq, Nat.le_succ_of_le hge⟩

theorem nearestOnGrid_of_onGrid_eq_some (hr : r.Proper) {s : Scaled} (h : onGrid r k = some s) :
    s.exponent = k ∧ NearestOnGrid r k s.digits := by
  rw [onGrid_eq] at h
  dsimp only at h
  split at h
  next hbelow habove =>
    split at h
    next hcloser =>
      obtain rfl := Option.some.inj h
      exact ⟨rfl, nearestOnGrid_above hr (meets_iff.mp habove) fun _ => above_closer_iff.mp hcloser⟩
    next hfarther =>
      obtain rfl := Option.some.inj h
      exact ⟨rfl, nearestOnGrid_below hr (meets_iff.mp hbelow) fun _ =>
        not_le.mp (mt above_closer_iff.mpr hfarther)⟩
  next hbelow habove =>
    obtain rfl := Option.some.inj h
    exact ⟨rfl, nearestOnGrid_below hr (meets_iff.mp hbelow) fun hmeets =>
      absurd (meets_iff.mpr hmeets) (by rw [habove]; exact Bool.false_ne_true)⟩
  next hbelow habove =>
    obtain rfl := Option.some.inj h
    exact ⟨rfl, nearestOnGrid_above hr (meets_iff.mp habove) fun hmeets =>
      absurd (meets_iff.mpr hmeets) (by rw [hbelow]; exact Bool.false_ne_true)⟩
  next => cases h

end Neighbours

/-- If a grid within reach has a number that the interval holds, and no coarser grid than the first
has one, then the search finds the shortest decimal. -/
theorem exists_shortest_firstHit {r : Rounding} (hr : r.Proper) {k : Int} {count : Nat}
    (hcoarser : ∀ t : Scaled, k < t.exponent → ¬ r.Holds t.number)
    (hreach : ∃ t : Scaled, k < t.exponent + count ∧ t.exponent ≤ k ∧ r.Holds t.number) :
    ∃ s, firstHit r k count = some s ∧ Shortest r.Holds r.number s := by
  induction count generalizing k with
  | zero =>
    obtain ⟨t, hfine, hcoarse, -⟩ := hreach
    omega
  | succ count ih =>
    rw [firstHit]
    cases hhere : onGrid r k with
    | some s =>
      obtain ⟨rfl, hholds, hnearest⟩ := nearestOnGrid_of_onGrid_eq_some hr hhere
      refine ⟨s, rfl, hholds, hcoarser, fun t hexponent ht => ?_⟩
      unfold Scaled.number at ht ⊢
      rw [hexponent] at ht ⊢
      exact hnearest t.digits ht
    | none =>
      have hnone := not_holds_of_onGrid_eq_none hr hhere
      have hnot : ∀ t : Scaled, t.exponent = k → ¬ r.Holds t.number := by
        rintro t rfl
        exact hnone t.digits
      apply ih
      · intro t ht
        rcases Int.lt_or_eq_of_le (Int.le_of_sub_one_lt ht) with hlt | heq
        · exact hcoarser t hlt
        · exact hnot t heq.symm
      · obtain ⟨t, hfine, hcoarse, hholds⟩ := hreach
        have hne : t.exponent ≠ k := fun heq => hnot t heq hholds
        exact ⟨t, by omega, by omega, hholds⟩

section Digits

variable {n : Nat}

theorem head?_toDigits_ne_zero (hn : 0 < n) : (Nat.toDigits 10 n).head? ≠ some '0' := by
  induction n using Nat.strongRecOn with
  | _ n ih =>
    rcases Nat.lt_or_ge n 10 with hsmall | hlarge
    · rw [Nat.toDigits_of_lt_base hsmall, List.head?_cons, ne_eq, Option.some.injEq,
        Nat.digitChar_eq_zero]
      exact hn.ne'
    · rw [Nat.toDigits_of_base_le (by decide) hlarge,
        List.head?_append_of_ne_nil _ Nat.toDigits_ne_nil]
      exact ih (n / 10) (by omega) (by omega)

theorem getLast?_toDigits : (Nat.toDigits 10 n).getLast? = some (n % 10).digitChar := by
  rcases Nat.lt_or_ge n 10 with hsmall | hlarge
  · rw [Nat.toDigits_of_lt_base hsmall, Nat.mod_eq_of_lt hsmall]
    rfl
  · rw [Nat.toDigits_of_base_le (by decide) hlarge, List.getLast?_concat]

end Digits

theorem Writes.of_whole {digits : Nat} (hpos : 0 < digits) (zeros : Nat) :
    Writes ((digits : ℚ) * 10 ^ zeros)
      (String.ofList (Nat.toDigits 10 digits ++ List.replicate zeros '0')) := by
  refine .whole _ ?_ (List.append_ne_nil_of_left_ne_nil Nat.toDigits_ne_nil _) ?_ ?_
  · intro c hc
    rcases List.mem_append.mp hc with hc | hc
    · exact Nat.isDigit_of_mem_toDigits (by decide) (by decide) hc
    · rw [List.eq_of_mem_replicate hc]
      rfl
  · intro hzero
    rw [List.head?_append_of_ne_nil _ Nat.toDigits_ne_nil] at hzero
    exact absurd hzero (head?_toDigits_ne_zero hpos)
  · rw [Nat.ofDigitChars_append, Nat.ofDigitChars_ten_toDigits, Nat.ofDigitChars_replicate_zero]
    push_cast
    ring

/-- Digits with zeros in front, so that at least one stands before the last `places`. -/
def padded (places digits : Nat) : List Char :=
  List.replicate (places + 1 - (Nat.toDigits 10 digits).length) '0' ++ Nat.toDigits 10 digits

theorem Writes.of_fraction {digits places : Nat} (hpos : 0 < digits) (hplaces : 0 < places)
    (hback : digits % 10 ≠ 0) {x : ℚ} (hx : x * 10 ^ places = digits) :
    Writes x (String.ofList ((padded places digits).take ((padded places digits).length - places) ++
      '.' :: (padded places digits).drop ((padded places digits).length - places))) := by
  have hlength : places < (padded places digits).length := by
    rw [padded, List.length_append, List.length_replicate]
    omega
  have hdrop : ((padded places digits).drop ((padded places digits).length - places)).length =
      places := by
    rw [List.length_drop]
    omega
  refine .point _ _ ?_ ?_ ?_ ?_ ?_ ?_
  · intro c hc
    rw [List.take_append_drop] at hc
    rcases List.mem_append.mp hc with hc | hc
    · rw [List.eq_of_mem_replicate hc]
      rfl
    · exact Nat.isDigit_of_mem_toDigits (by decide) (by decide) hc
  · rw [← List.length_pos_iff, List.length_take]
    omega
  · rw [← List.length_pos_iff, hdrop]
    exact hplaces
  · intro hzero
    rcases Nat.eq_zero_or_pos (places + 1 - (Nat.toDigits 10 digits).length) with hnone | hsome
    · have hpadded : padded places digits = Nat.toDigits 10 digits := by
        rw [padded, hnone]
        rfl
      rw [List.head?_take, if_neg (by omega), hpadded] at hzero
      exact absurd hzero (head?_toDigits_ne_zero hpos)
    · have hone : (padded places digits).length - places = 1 := by
        rw [padded, List.length_append, List.length_replicate]
        omega
      obtain ⟨zeros, hzeros⟩ := Nat.exists_eq_succ_of_ne_zero hsome.ne'
      rw [hone, padded, hzeros, List.replicate_succ]
      rfl
  · rw [List.getLast?_drop, if_neg (by omega), padded,
      List.getLast?_append_of_ne_nil _ Nat.toDigits_ne_nil, getLast?_toDigits, ne_eq,
      Option.some.injEq, Nat.digitChar_eq_zero]
    exact hback
  · rw [hdrop, List.take_append_drop, hx, padded, Nat.ofDigitChars_append,
      Nat.ofDigitChars_replicate_zero, Nat.mul_zero, Nat.ofDigitChars_ten_toDigits]

theorem writes_positional {s : Scaled} (hpos : 0 < s.digits)
    (hback : s.exponent < 0 → s.digits % 10 ≠ 0) : Writes s.number (positional s) := by
  have hdigits : (toString s.digits).toList = Nat.toDigits 10 s.digits := Nat.toList_repr
  unfold positional Scaled.number
  rw [hdigits]
  dsimp only
  split
  next hwhole =>
    obtain ⟨zeros, hzeros⟩ := Int.eq_ofNat_of_zero_le hwhole
    rw [hzeros, zpow_natCast]
    exact Writes.of_whole hpos zeros
  next hfraction =>
    have hnegative := Int.not_le.mp hfraction
    obtain ⟨places, hplaces⟩ := Int.eq_ofNat_of_zero_le (Int.neg_nonneg_of_nonpos hnegative.le)
    have hexponent : s.exponent = -(places : Int) := by omega
    rw [hplaces, hexponent, Int.toNat_natCast]
    refine Writes.of_fraction hpos (by omega) (hback hnegative) ?_
    rw [zpow_neg, zpow_natCast, mul_assoc, inv_mul_cancel₀ (pow_ne_zero _ (by norm_num)), mul_one]

theorem Shortest.writes {reads : ℚ → Prop} {x : ℚ} {s : Scaled} (h : Shortest reads x s)
    (hpos : 0 < s.number) : Writes s.number (positional s) := by
  apply writes_positional
  · refine Nat.pos_of_ne_zero fun hzero => hpos.ne' ?_
    rw [Scaled.number, hzero, Nat.cast_zero, zero_mul]
  · intro _ hzero
    have hsame : (⟨s.digits / 10, s.exponent + 1⟩ : Scaled).number = s.number := by
      have hdigits : s.digits = s.digits / 10 * 10 := by omega
      unfold Scaled.number
      rw [zpow_add_one₀ (by norm_num), hdigits]
      push_cast
      rw [Nat.mul_div_cancel _ (by decide)]
      ring
    have hread := h.read
    rw [← hsame] at hread
    exact h.coarsest _ (Int.lt_succ s.exponent) hread

end AmxTrace.Decimal
