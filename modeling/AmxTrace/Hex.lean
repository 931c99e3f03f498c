/-! # Hexadecimal text -/

namespace AmxTrace.Hex

/-- Fill a text with zeros on the left up to a least width. -/
def zeroFill (width : Nat) (digits : List Char) : List Char :=
  List.replicate (width - digits.length) '0' ++ digits

/-- A number in lower-case hexadecimal with at least `width` digits. -/
def text (width n : Nat) : String :=
  String.ofList (zeroFill width (Nat.toDigits 16 n))

/-- Value of a hexadecimal digit in either case. -/
def digit? (c : Char) : Option Nat :=
  if '0' ≤ c ∧ c ≤ '9' then some (c.toNat - '0'.toNat)
  else if 'a' ≤ c ∧ c ≤ 'f' then some (c.toNat - 'a'.toNat + 10)
  else if 'A' ≤ c ∧ c ≤ 'F' then some (c.toNat - 'A'.toNat + 10)
  else none

/-- Two hexadecimal digits of a byte. -/
def byteText (b : UInt8) : String := text 2 b.toNat

/-- Bytes written as pairs of hexadecimal digits. -/
def ofBytes (bytes : List UInt8) : String :=
  String.join (bytes.map byteText)

/-- Bytes read from pairs of hexadecimal digits. -/
def toBytes? : List Char → Option (List UInt8)
  | [] => some []
  | high :: low :: rest => do
    let h ← digit? high
    let l ← digit? low
    let bytes ← toBytes? rest
    pure (UInt8.ofNat (16 * h + l) :: bytes)
  | [_] => none

end AmxTrace.Hex
