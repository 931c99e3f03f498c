import AmxTrace.Hex
import AmxTrace.Json.Value

/-! # Reading JSON -/

namespace AmxTrace.Json

def isBlank (c : Char) : Bool := c == ' ' || c == '\t' || c == '\n' || c == '\r'

def skipBlanks (text : List Char) : List Char := text.dropWhile isBlank

/-- The rest of a text after a word that it must start with. -/
def expect? : List Char → List Char → Option (List Char)
  | [], text => some text
  | _ :: _, [] => none
  | w :: word, c :: text => if w = c then expect? word text else none

/-- Value of four hexadecimal digits. -/
def unit? : List Char → Option (Nat × List Char)
  | a :: b :: c :: d :: rest => do
    let digits ← [a, b, c, d].mapM Hex.digit?
    pure (digits.foldl (fun n digit => 16 * n + digit) 0, rest)
  | _ => none

/-- The character of a `\u` escape: one unit, or two for a character past the first plane.
A half of a pair on its own is refused. -/
def unicodeEscape? (text : List Char) : Option (Char × List Char) := do
  let (unit, rest) ← unit? text
  if 0xDC00 ≤ unit ∧ unit < 0xE000 then none
  else if 0xD800 ≤ unit ∧ unit < 0xDC00 then
    let (low, rest) ← unit? (← expect? ['\\', 'u'] rest)
    if 0xDC00 ≤ low ∧ low < 0xE000 then
      pure (Char.ofNat (0x10000 + (unit - 0xD800) * 0x400 + (low - 0xDC00)), rest)
    else none
  else pure (Char.ofNat unit, rest)

def escape? : List Char → Option (Char × List Char)
  | '"' :: rest => some ('"', rest)
  | '\\' :: rest => some ('\\', rest)
  | '/' :: rest => some ('/', rest)
  | 'b' :: rest => some ('\x08', rest)
  | 'f' :: rest => some ('\x0c', rest)
  | 'n' :: rest => some ('\n', rest)
  | 'r' :: rest => some ('\r', rest)
  | 't' :: rest => some ('\t', rest)
  | 'u' :: rest => unicodeEscape? rest
  | _ => none

/-- Characters of a string after its opening quote, up to the closing one. -/
def stringBody? : Nat → List Char → Option (List Char × List Char)
  | 0, _ => none
  | fuel + 1, text =>
    match text with
    | '"' :: rest => some ([], rest)
    | '\\' :: rest => do
      let (c, rest) ← escape? rest
      let (body, rest) ← stringBody? fuel rest
      pure (c :: body, rest)
    | c :: rest =>
      if c.toNat < 0x20 then none
      else do
        let (body, rest) ← stringBody? fuel rest
        pure (c :: body, rest)
    | [] => none

def string? (text : List Char) : Option (String × List Char) := do
  let (body, rest) ← stringBody? (text.length + 1) text
  pure (String.ofList body, rest)

def digits? (text : List Char) : Option (List Char × List Char) :=
  let digits := text.takeWhile Char.isDigit
  if digits = [] then none else some (digits, text.dropWhile Char.isDigit)

/-- Digits of a whole part: a zero stands alone. -/
def wholePart? (text : List Char) : Option (List Char × List Char) :=
  match text with
  | '0' :: rest => if (rest.head?.map Char.isDigit).getD false then none else some (['0'], rest)
  | _ => digits? text

def fraction? (text : List Char) : Option (List Char × List Char) :=
  match text with
  | '.' :: rest => do
    let (digits, rest) ← digits? rest
    pure ('.' :: digits, rest)
  | _ => some ([], text)

def exponent? (text : List Char) : Option (List Char × List Char) :=
  match text with
  | e :: rest =>
    if e = 'e' ∨ e = 'E' then
      match rest with
      | sign :: more =>
        if sign = '+' ∨ sign = '-' then do
          let (digits, rest) ← digits? more
          pure (e :: sign :: digits, rest)
        else do
          let (digits, rest) ← digits? rest
          pure (e :: digits, rest)
      | [] => none
    else some ([], text)
  | [] => some ([], text)

def naturalOf (digits : List Char) : Nat :=
  digits.foldl (fun n c => 10 * n + (c.toNat - '0'.toNat)) 0

def numberOf (negative : Bool) (whole rest : List Char) : Json :=
  let literal := String.ofList ((if negative then ['-'] else []) ++ whole ++ rest)
  let n := naturalOf whole
  if rest ≠ [] then real literal
  else if negative then
    if 0 < n ∧ n ≤ 0x8000000000000000 then integer (-n) else real literal
  else if n < 0x10000000000000000 then integer n else real literal

def number? (text : List Char) : Option (Json × List Char) := do
  let (negative, text) := match text with
    | '-' :: rest => (true, rest)
    | _ => (false, text)
  let (whole, text) ← wholePart? text
  let (fraction, text) ← fraction? text
  let (exponent, text) ← exponent? text
  pure (numberOf negative whole (fraction ++ exponent), text)

mutual

def value? : Nat → List Char → Option (Json × List Char)
  | 0, _ => none
  | fuel + 1, text =>
    match text with
    | 'n' :: rest => (expect? ['u', 'l', 'l'] rest).map fun rest => (null, rest)
    | 't' :: rest => (expect? ['r', 'u', 'e'] rest).map fun rest => (bool true, rest)
    | 'f' :: rest => (expect? ['a', 'l', 's', 'e'] rest).map fun rest => (bool false, rest)
    | '"' :: rest => (string? rest).map fun (s, rest) => (string s, rest)
    | '[' :: rest =>
      match skipBlanks rest with
      | ']' :: rest => some (array [], rest)
      | rest => (items? fuel rest).map fun (items, rest) => (array items, rest)
    | '\x7b' :: rest =>
      match skipBlanks rest with
      | '\x7d' :: rest => some (object [], rest)
      | rest => (members? fuel rest).map fun (members, rest) => (object members, rest)
    | _ => number? text

/-- The items of an array that is not empty, and its closing bracket. -/
def items? : Nat → List Char → Option (List Json × List Char)
  | 0, _ => none
  | fuel + 1, text => do
    let (item, rest) ← value? fuel (skipBlanks text)
    match skipBlanks rest with
    | ',' :: rest =>
      let (items, rest) ← items? fuel rest
      pure (item :: items, rest)
    | ']' :: rest => pure ([item], rest)
    | _ => none

/-- The members of an object that is not empty, and its closing brace. -/
def members? : Nat → List Char → Option (List (String × Json) × List Char)
  | 0, _ => none
  | fuel + 1, text => do
    let (name, rest) ← string? (← expect? ['"'] (skipBlanks text))
    let rest ← expect? [':'] (skipBlanks rest)
    let (value, rest) ← value? fuel (skipBlanks rest)
    match skipBlanks rest with
    | ',' :: rest =>
      let (members, rest) ← members? fuel rest
      pure ((name, value) :: members, rest)
    | '\x7d' :: rest => pure ([(name, value)], rest)
    | _ => none

end

/-- Read one value with nothing but blanks around it. -/
def parse? (text : String) : Option Json := do
  let characters := text.toList
  let (value, rest) ← value? (characters.length + 1) (skipBlanks characters)
  if skipBlanks rest = [] then some value else none

end AmxTrace.Json
