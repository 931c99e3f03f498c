import AmxTrace.Pattern.Expression

/-! # Byte ranges of characters -/

namespace AmxTrace.Pattern

/-- Bytes from one to another, both included. -/
abbrev ByteRange := Nat × Nat

def encode (code : Nat) : List Nat :=
  if code < 0x80 then [code]
  else if code < 0x800 then [0xC0 + code / 64, 0x80 + code % 64]
  else if code < 0x10000 then
    [0xE0 + code / 4096, 0x80 + code / 64 % 64, 0x80 + code % 64]
  else
    [0xF0 + code / 262144, 0x80 + code / 4096 % 64, 0x80 + code / 64 % 64, 0x80 + code % 64]

/-- Where to cut a range whose ends lie in different blocks, so that whole blocks come apart. -/
def blockCut? (block low high : Nat) : Option Nat :=
  if low / block = high / block then none
  else if low % block ≠ 0 then some ((low / block + 1) * block)
  else if high % block ≠ block - 1 then some (high / block * block)
  else none

/-- Where to cut a range whose encodings are not one sequence of byte ranges: at a change of
length, or at the end of a block of characters that share all bytes but the last ones. -/
def cut? (low high : Nat) : Option Nat :=
  if low < 0x80 ∧ 0x80 ≤ high then some 0x80
  else if low < 0x800 ∧ 0x800 ≤ high then some 0x800
  else if low < 0x10000 ∧ 0x10000 ≤ high then some 0x10000
  else if high < 0x80 then none
  else (blockCut? 64 low high).orElse fun _ =>
    (blockCut? 4096 low high).orElse fun _ => blockCut? 262144 low high

def rangeSequences (low high : Nat) : List (List ByteRange) :=
  match cut? low high with
  | some middle =>
    if _ : low < middle ∧ middle ≤ high then
      rangeSequences low (middle - 1) ++ rangeSequences middle high
    else []
  | none => [(encode low).zip (encode high)]
termination_by high - low

def byteSequences (characters : Unicode.CharSet) : List (List ByteRange) :=
  characters.flatMap fun range => rangeSequences range.1 range.2

end AmxTrace.Pattern
