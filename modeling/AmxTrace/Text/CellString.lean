import AmxTrace.Cell
import AmxTrace.Word

/-! # Strings in cells

Scripts store a string either unpacked, one character per cell, or packed, four characters per cell
with the first in the high byte. A first cell above the greatest unpacked character marks a packed
string. -/

namespace AmxTrace.CellString

/-- Greatest first cell, read unsigned, of an unpacked string. -/
def unpackedGreatest : Nat := 0x00FFFFFF

/-- Whether a code is a printable ASCII character. -/
def isPrintable (code : Nat) : Bool := 32 ≤ code && code ≤ 126

/-- Characters of the printable codes a list starts with, `limit` at most. -/
def printableStart (limit : Nat) (codes : List Nat) : String :=
  String.ofList (((codes.take limit).takeWhile isPrintable).map Char.ofNat)

/-- Text of a packed string, at most `limit` characters. -/
def packed (cells : List Cell) (limit : Nat) : String :=
  printableStart limit ((cells.flatMap fun c => Word.toBytes32Big c.toUInt32).map UInt8.toNat)

/-- Text of an unpacked string, at most `limit` characters. -/
def unpacked (cells : List Cell) (limit : Nat) : String :=
  printableStart limit (cells.map Cell.unsigned)

/-- Text of a string with the form it was stored in. -/
structure Decoded where
  text : String
  packed : Bool
deriving DecidableEq, Repr

def isPacked (cells : List Cell) : Bool :=
  cells.head?.any fun c => decide (unpackedGreatest < c.unsigned)

/-- Read a string in whichever form its first cell announces. -/
def decode (cells : List Cell) (limit : Nat) : Decoded :=
  if isPacked cells then ⟨packed cells limit, true⟩ else ⟨unpacked cells limit, false⟩

/-- A text cut to `limit` characters, with three dots after it if anything was cut. -/
def clip (text : String) (limit : Nat) : String :=
  if limit < text.length then String.ofList (text.toList.take limit) ++ "..." else text

end AmxTrace.CellString
