import AmxTrace.Hex

/-! # Reading integers -/

namespace AmxTrace.Text

/-- Why a text is no integer of a range. -/
inductive IntegerFault where
  | empty
  | badDigit
  | tooLarge
  | tooSmall
deriving DecidableEq, Repr

def IntegerFault.message : IntegerFault → String
  | empty => "cannot parse integer from empty string"
  | badDigit => "invalid digit found in string"
  | tooLarge => "number too large to fit in target type"
  | tooSmall => "number too small to fit in target type"

def digit? (base : Nat) (c : Char) : Option Nat := (Hex.digit? c).filter (· < base)

/-- A number continued by digits; `fault` is reported above the limit. -/
def magnitudeFrom (base limit : Nat) (fault : IntegerFault) :
    Nat → List Char → Except IntegerFault Nat
  | n, [] => .ok n
  | n, c :: rest =>
    match digit? base c with
    | none => .error .badDigit
    | some digit =>
      let n := base * n + digit
      if limit < n then .error fault else magnitudeFrom base limit fault n rest

/-- A number written with at least one digit. -/
def magnitude (base limit : Nat) (fault : IntegerFault) (digits : List Char) :
    Except IntegerFault Nat :=
  if digits = [] then .error .badDigit else magnitudeFrom base limit fault 0 digits

/-- An unsigned number up to a limit; a plus sign may stand in front. -/
def unsigned (base limit : Nat) : List Char → Except IntegerFault Nat
  | [] => .error .empty
  | '+' :: rest => magnitude base limit .tooLarge rest
  | digits => magnitude base limit .tooLarge digits

/-- A signed decimal number of 32 bits. -/
def signed32 : List Char → Except IntegerFault Int
  | [] => .error .empty
  | '-' :: rest => (magnitude 10 0x80000000 .tooSmall rest).map fun n => -(n : Int)
  | '+' :: rest => (magnitude 10 0x7FFFFFFF .tooLarge rest).map Int.ofNat
  | digits => (magnitude 10 0x7FFFFFFF .tooLarge digits).map Int.ofNat

end AmxTrace.Text
