import AmxTrace.Cell
import AmxTrace.Word

/-! # Field reader -/

namespace AmxTrace

/-- Why a file could not be read. -/
inductive ReadFault where
  | missing
  | notDirectory
  | isDirectory
  | nameTooLong
  | notText
  | system (text : String)
deriving DecidableEq, Repr

def ReadFault.message : ReadFault → String
  | .missing => "No such file or directory (os error 2)"
  | .notDirectory => "Not a directory (os error 20)"
  | .isDirectory => "Is a directory (os error 21)"
  | .nameTooLong => "File name too long (os error 36)"
  | .notText => "stream did not contain valid UTF-8"
  | .system text => text

/-- A read past the end of the bytes, with the offset it is reported at. -/
structure ShortRead where
  offset : Nat
deriving DecidableEq, Repr

def ShortRead.message (e : ShortRead) : String :=
  "buffer too short at offset " ++ toString e.offset

/-- A position in a byte sequence. -/
structure Cursor where
  offset : Nat
  rest : List UInt8
deriving Repr

/-- A step that takes bytes from the cursor. -/
abbrev Reader := StateT Cursor (Except ShortRead)

namespace Reader

def byte : Reader UInt8 := fun cursor =>
  match cursor.rest with
  | b :: rest => .ok (b, ⟨cursor.offset + 1, rest⟩)
  | _ => .error ⟨cursor.offset⟩

/-- An unsigned 16-bit field. -/
def word16 : Reader UInt16 := fun cursor =>
  match cursor.rest with
  | b0 :: b1 :: rest => .ok (Word.ofBytes16 b0 b1, ⟨cursor.offset + 2, rest⟩)
  | _ => .error ⟨cursor.offset⟩

/-- An unsigned 32-bit field. -/
def word32 : Reader UInt32 := fun cursor =>
  match cursor.rest with
  | b0 :: b1 :: b2 :: b3 :: rest => .ok (Word.ofBytes32 b0 b1 b2 b3, ⟨cursor.offset + 4, rest⟩)
  | _ => .error ⟨cursor.offset⟩

/-- A signed 16-bit field. -/
def short : Reader Int16 := UInt16.toInt16 <$> word16

/-- A signed 32-bit field. -/
def cell : Reader Cell := UInt32.toInt32 <$> word32

/-- Bytes up to a zero byte, which is taken too. -/
def terminated : Reader (List UInt8) := fun cursor =>
  match cursor.rest.dropWhile (· != 0) with
  | _ :: rest =>
    let name := cursor.rest.takeWhile (· != 0)
    .ok (name, ⟨cursor.offset + name.length + 1, rest⟩)
  | [] => .error ⟨cursor.offset + cursor.rest.length⟩

/-- The same field a number of times. -/
def repeated {α : Type} (field : Reader α) : Nat → Reader (List α)
  | 0 => pure []
  | count + 1 => do
    let first ← field
    let others ← repeated field count
    pure (first :: others)

/-- Run a reader on the bytes from `offset` on and keep only its value. -/
def valueAt {α : Type} (reader : Reader α) (bytes : List UInt8) (offset : Nat) :
    Except ShortRead α :=
  if offset ≤ bytes.length then (·.1) <$> reader ⟨offset, bytes.drop offset⟩
  else .error ⟨offset⟩

end Reader

end AmxTrace
