import AmxTrace.Cell
import AmxTrace.Hex
import AmxTrace.Reader

/-! # Module file faults -/

namespace AmxTrace

/-- Why a module file is refused. -/
inductive ImageError where
  | unreadable (fault : ReadFault)
  | truncated (short : ShortRead)
  | badSignature (found : UInt16)
  | unsupportedVersion (version : UInt8)
  | badEntrySize (size : Int16)
  | segmentOrder (cod dat hea stp : Cell)
  | stackTooLarge (bytes : Cell)
  | tableOrder (publics natives libraries : Cell)
  | codePastEnd (cod : Cell) (size : Nat)
  | badCompactEncoding
deriving DecidableEq, Repr

namespace ImageError

/-- Greatest stack plus heap, in bytes, that a module may ask for. -/
def stackLimit : Cell := 67108864

def message : ImageError → String
  | unreadable fault => "Failed to read module: " ++ fault.message
  | truncated short => "Module truncated: " ++ short.message
  | badSignature found => "Bad magic 0x" ++ Hex.text 4 found.toNat ++ " (not a 32-bit AMX module)"
  | unsupportedVersion version => "Unsupported file version " ++ toString version.toNat
  | badEntrySize size => "Unsupported function table entry size " ++ toString size.toInt
  | segmentOrder cod dat hea stp =>
    "Invalid segment layout: expected header <= cod <= dat <= hea <= stp, got cod=" ++
      cod.decimal ++ " dat=" ++ dat.decimal ++ " hea=" ++ hea.decimal ++ " stp=" ++ stp.decimal
  | stackTooLarge bytes =>
    "Invalid segment layout: stack and heap of " ++ bytes.decimal ++ " bytes exceed " ++
      stackLimit.decimal
  | tableOrder publics natives libraries =>
    "Invalid segment layout: function tables out of order: publics=" ++ publics.decimal ++
      " natives=" ++ natives.decimal ++ " libraries=" ++ libraries.decimal
  | codePastEnd cod size =>
    "Invalid segment layout: code segment at " ++ cod.decimal ++ " starts past the image end " ++
      toString size
  | badCompactEncoding => "Compact encoding does not fit the code and data segments"

end ImageError

end AmxTrace
