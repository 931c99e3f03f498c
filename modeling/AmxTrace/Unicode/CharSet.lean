import AmxTrace.Text.Parts

/-! # Character sets -/

namespace AmxTrace.Unicode

/-- Ranges of code points, both ends included. -/
abbrev CharSet := List (Nat × Nat)

namespace CharSet

def greatest : Nat := 0x10FFFF

/-- Put a range in front of ascending ranges that do not start before it, joining those it
touches. -/
def attach (range : Nat × Nat) : CharSet → CharSet
  | [] => [range]
  | (low, high) :: rest =>
    if low ≤ range.2 + 1 then attach (range.1, max range.2 high) rest
    else range :: (low, high) :: rest

def ofRanges (ranges : List (Nat × Nat)) : CharSet :=
  ((ranges.filter fun r => r.1 ≤ r.2).mergeSort fun a b => a.1 ≤ b.1).foldr attach []

def single (c : Nat) : CharSet := [(c, c)]

def everything : CharSet := [(0, greatest)]

def mem (s : CharSet) (c : Nat) : Bool := s.any fun r => r.1 ≤ c && c ≤ r.2

def union (a b : CharSet) : CharSet := ofRanges (a ++ b)

def gapsFrom (start : Nat) : CharSet → CharSet
  | [] => if start ≤ greatest then [(start, greatest)] else []
  | (low, high) :: rest =>
    if start < low then (start, low - 1) :: gapsFrom (high + 1) rest else gapsFrom (high + 1) rest

def complement (s : CharSet) : CharSet := gapsFrom 0 s

def inter (a b : CharSet) : CharSet := complement (union (complement a) (complement b))

def diff (a b : CharSet) : CharSet := inter a (complement b)

def symmDiff (a b : CharSet) : CharSet := union (diff a b) (diff b a)

/-- Hexadecimal number written in lower case. -/
def hexValue (digits : List Char) : Nat :=
  digits.foldl (fun n c =>
    16 * n + (if c.isDigit then c.toNat - '0'.toNat else c.toNat - 'a'.toNat + 10)) 0

/-- Numbers of a table written in hexadecimal: words parted by blanks, numbers by hyphens. -/
def tableWords (table : String) : List (List Nat) :=
  ((Text.parts Char.isWhitespace table.toList).filter (· ≠ [])).map fun word =>
    (Text.parts (· == '-') word).map hexValue

def ofTable (table : String) : CharSet :=
  ofRanges ((tableWords table).filterMap fun word => match word with
    | [c] => some (c, c)
    | [low, high] => some (low, high)
    | _ => none)

end CharSet

end AmxTrace.Unicode
