/-! # Shortest decimals

A binary floating-point number stands for all reals that round to it. -/

namespace AmxTrace.Decimal

/-- The positive number `value * 2 ^ exponent` with the ends of the interval of reals that
round to it, on the same scale. The ends belong to the interval when `closed`. -/
structure Rounding where
  lower : Nat
  value : Nat
  upper : Nat
  exponent : Int
  closed : Bool
deriving Repr

/-- Digits times a power of ten. -/
structure Scaled where
  digits : Nat
  exponent : Int
deriving DecidableEq, Repr

def gridRatio (e k : Int) : Nat × Nat :=
  (Nat.pow 2 e.toNat * Nat.pow 10 (-k).toNat, Nat.pow 2 (-e).toNat * Nat.pow 10 k.toNat)

/-- The multiple of `10 ^ k` in the interval nearest to the number, if one of its two
neighbours on that grid lies there. -/
def onGrid (r : Rounding) (k : Int) : Option Scaled :=
  let (num, den) := gridRatio r.exponent k
  let meets (n : Nat) : Bool :=
    let low := r.lower * num
    let high := r.upper * num
    if r.closed then decide (low ≤ n * den ∧ n * den ≤ high)
    else decide (low < n * den ∧ n * den < high)
  let exact := r.value * num
  let below := exact / den
  let above := below + 1
  match meets below, meets above with
  | true, true =>
    if above * den - exact ≤ exact - below * den then some ⟨above, k⟩ else some ⟨below, k⟩
  | true, false => some ⟨below, k⟩
  | false, true => some ⟨above, k⟩
  | false, false => none

/-- First hit on the grids `10 ^ k`, `10 ^ (k - 1)`, and so on, `count` of them. -/
def firstHit (r : Rounding) (k : Int) : Nat → Option Scaled
  | 0 => none
  | count + 1 => (onGrid r k).orElse fun _ => firstHit r (k - 1) count

/-- Digits with the point put in place: no exponent, and no point after a whole number. -/
def positional (s : Scaled) : String :=
  let digits := (toString s.digits).toList
  if 0 ≤ s.exponent then
    String.ofList (digits ++ List.replicate s.exponent.toNat '0')
  else
    let places := (-s.exponent).toNat
    let padded := List.replicate (places + 1 - digits.length) '0' ++ digits
    let whole := padded.take (padded.length - places)
    String.ofList (whole ++ '.' :: padded.drop (padded.length - places))

namespace Binary32

/-- Interval of reals that round to the finite non-zero number with a biased exponent and
a fraction. -/
def rounding (biased fraction : Nat) : Rounding :=
  let significand := if biased = 0 then fraction else 0x800000 + fraction
  let exponent : Int := (max biased 1 : Nat) - 150
  let narrowBelow := fraction = 0 ∧ 1 < biased
  { lower := 4 * significand - (if narrowBelow then 1 else 2)
    value := 4 * significand
    upper := 4 * significand + 2
    exponent := exponent - 2
    closed := significand % 2 = 0 }

def magnitudeText (biased fraction : Nat) : String :=
  if biased = 255 then (if fraction = 0 then "inf" else "NaN")
  else if biased = 0 ∧ fraction = 0 then "0"
  else
    match firstHit (rounding biased fraction) 39 100 with
    | some s => positional s
    | none => "0"

/-- Text of a 32-bit pattern; a number that is not one carries no sign. -/
def text (bits : Nat) : String :=
  let biased := bits / 0x800000 % 0x100
  let fraction := bits % 0x800000
  let magnitude := magnitudeText biased fraction
  if bits / 0x80000000 % 2 = 1 ∧ ¬(biased = 255 ∧ fraction ≠ 0) then "-" ++ magnitude
  else magnitude

end Binary32

end AmxTrace.Decimal
