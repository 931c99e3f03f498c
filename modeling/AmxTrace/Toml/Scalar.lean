import AmxTrace.Hex
import AmxTrace.Toml.Table

/-! # Reading TOML scalars -/

namespace AmxTrace.Toml

abbrev Read (α : Type) := List Char → Option (α × List Char)

def isBlank (c : Char) : Bool := c == ' ' || c == '\t'

def skipBlanks (text : List Char) : List Char := text.dropWhile isBlank

/-- Whether a character may stand in comments and, but for quotes and backslashes, strings. -/
def isPlain (c : Char) : Bool := c == '\t' || (' ' ≤ c && c != '\x7f')

def newline? : List Char → Option (List Char)
  | '\n' :: rest => some rest
  | '\r' :: '\n' :: rest => some rest
  | _ => none

/-- The text without leading blanks and line breaks. -/
def skipLines : List Char → List Char
  | '\n' :: rest => skipLines rest
  | '\r' :: '\n' :: rest => skipLines rest
  | c :: rest => if isBlank c then skipLines rest else c :: rest
  | [] => []

/-- The character with a code written with a number of hexadecimal digits. -/
def codeEscape? (count : Nat) : Read Char := fun text => do
  let digits ← (text.take count).mapM Hex.digit?
  if digits.length ≠ count then none
  let code := digits.foldl (fun n digit => 16 * n + digit) 0
  if code < 0xD800 ∨ (0xDFFF < code ∧ code < 0x110000) then some (Char.ofNat code, text.drop count)
  else none

def escape? : Read Char
  | 'b' :: rest => some ('\x08', rest)
  | 't' :: rest => some ('\t', rest)
  | 'n' :: rest => some ('\n', rest)
  | 'f' :: rest => some ('\x0c', rest)
  | 'r' :: rest => some ('\r', rest)
  | '"' :: rest => some ('"', rest)
  | '\\' :: rest => some ('\\', rest)
  | 'u' :: rest => codeEscape? 4 rest
  | 'U' :: rest => codeEscape? 8 rest
  | _ => none

/-- A string on one line after its opening quote. -/
def basicBody? : Nat → Read (List Char)
  | 0, _ => none
  | fuel + 1, text =>
    match text with
    | '"' :: rest => some ([], rest)
    | '\\' :: rest => do
      let (c, rest) ← escape? rest
      let (body, rest) ← basicBody? fuel rest
      some (c :: body, rest)
    | c :: rest =>
      if isPlain c then (basicBody? fuel rest).map fun (body, rest) => (c :: body, rest) else none
    | [] => none

/-- A string without escapes on one line after its opening quote. -/
def literalBody? : Read (List Char)
  | '\'' :: rest => some ([], rest)
  | c :: rest =>
    if isPlain c then (literalBody? rest).map fun (body, rest) => (c :: body, rest) else none
  | [] => none

/-- Up to two quotes may stand right before the three that close a string. -/
def closing (quote : Char) : List Char → List Char × List Char
  | a :: b :: rest =>
    if a = quote ∧ b = quote then ([quote, quote], rest)
    else if a = quote then ([quote], b :: rest)
    else ([], a :: b :: rest)
  | [a] => if a = quote then ([quote], []) else ([], [a])
  | [] => ([], [])

/-- The rest after a backslash at the end of a line: the next lines up to something on them. -/
def continued? (text : List Char) : Option (List Char) :=
  (newline? (skipBlanks text)).map skipLines

def linesBody? (quote : Char) (escapes : Bool) : Nat → Read (List Char)
  | 0, _ => none
  | fuel + 1, text =>
    match newline? text with
    | some rest => (linesBody? quote escapes fuel rest).map fun (body, rest) => ('\n' :: body, rest)
    | none =>
      if [quote, quote, quote].isPrefixOf text then some (closing quote (text.drop 3))
      else match text with
        | c :: rest =>
          if c = '\\' ∧ escapes then
            match continued? rest with
            | some rest => linesBody? quote escapes fuel rest
            | none => do
              let (c, rest) ← escape? rest
              let (body, rest) ← linesBody? quote escapes fuel rest
              some (c :: body, rest)
          else if isPlain c then
            (linesBody? quote escapes fuel rest).map fun (body, rest) => (c :: body, rest)
          else none
        | [] => none

/-- A string over lines; a line break right after the opening quotes does not count. -/
def lines? (quote : Char) (escapes : Bool) : Read (List Char) := fun text =>
  let text := (newline? text).getD text
  linesBody? quote escapes (text.length + 1) text

def lineString? : Read String
  | '"' :: rest => (basicBody? (rest.length + 1) rest).map fun (b, rest) => (String.ofList b, rest)
  | '\'' :: rest => (literalBody? rest).map fun (b, rest) => (String.ofList b, rest)
  | _ => none

def string? : Read String
  | '"' :: '"' :: '"' :: rest => (lines? '"' true rest).map fun (b, rest) => (String.ofList b, rest)
  | '\'' :: '\'' :: '\'' :: rest =>
    (lines? '\'' false rest).map fun (b, rest) => (String.ofList b, rest)
  | text => lineString? text

def digits (isDigit : Char → Bool) : List Char → List Char × List Char
  | c :: '_' :: d :: rest =>
    if isDigit c ∧ isDigit d then
      let (more, rest) := digits isDigit (d :: rest)
      (c :: more, rest)
    else if isDigit c then ([c], '_' :: d :: rest)
    else ([], c :: '_' :: d :: rest)
  | c :: rest =>
    if isDigit c then
      let (more, rest) := digits isDigit rest
      (c :: more, rest)
    else ([], c :: rest)
  | [] => ([], [])

def someDigits? (isDigit : Char → Bool) : Read (List Char) := fun text =>
  match digits isDigit text with
  | ([], _) => none
  | found => some found

def valueOf (base : Nat) (digits : List Char) : Nat :=
  digits.foldl (fun n c => base * n + (Hex.digit? c).getD 0) 0

def sign : List Char → List Char × List Char
  | '+' :: rest => (['+'], rest)
  | '-' :: rest => (['-'], rest)
  | text => ([], text)

/-- Sign and digits of a decimal whole number; a zero in front stands alone. -/
def decimal? : Read (List Char × List Char) := fun text => do
  let (sign, text) := sign text
  match text with
  | '0' :: rest => some ((sign, ['0']), rest)
  | _ => do
    let (digits, rest) ← someDigits? Char.isDigit text
    some ((sign, digits), rest)

def integerOf? (n : Int) : Option Value :=
  if -0x8000000000000000 ≤ n ∧ n < 0x8000000000000000 then some (.integer n) else none

def based? (base : Nat) (isDigit : Char → Bool) : Read Value := fun text => do
  let (digits, rest) ← someDigits? isDigit text
  some (← integerOf? (valueOf base digits), rest)

def integer? : Read Value
  | '0' :: 'x' :: rest => based? 16 (fun c => (Hex.digit? c).isSome) rest
  | '0' :: 'o' :: rest => based? 8 (fun c => '0' ≤ c && c ≤ '7') rest
  | '0' :: 'b' :: rest => based? 2 (fun c => c == '0' || c == '1') rest
  | text => do
    let ((sign, digits), rest) ← decimal? text
    let n := valueOf 10 digits
    some (← integerOf? (if sign = ['-'] then -n else n), rest)

def exponent? : Read (List Char)
  | e :: rest =>
    if e = 'e' ∨ e = 'E' then do
      let (sign, rest) := sign rest
      let (digits, rest) ← someDigits? Char.isDigit rest
      some (e :: sign ++ digits, rest)
    else none
  | [] => none

def fraction? : Read (List Char)
  | '.' :: rest => do
    let (digits, rest) ← someDigits? Char.isDigit rest
    let (exponent, rest) := (exponent? rest).getD ([], rest)
    some ('.' :: digits ++ exponent, rest)
  | _ => none

def special? : Read Value := fun text =>
  let (sign, text) := sign text
  match text with
  | 'i' :: 'n' :: 'f' :: rest => some (.float (String.ofList (sign ++ ['i', 'n', 'f'])), rest)
  | 'n' :: 'a' :: 'n' :: rest => some (.float (String.ofList (sign ++ ['n', 'a', 'n'])), rest)
  | _ => none

/-- A float: a whole number with a fraction, an exponent or both. -/
def float? : Read Value := fun text => do
  let ((sign, whole), rest) ← decimal? text
  let (part, rest) ← (exponent? rest).orElse fun _ => fraction? rest
  some (.float (String.ofList (sign ++ whole ++ part)), rest)

def field? (count low high : Nat) : Read Nat := fun text =>
  let digits := text.take count
  let n := valueOf 10 digits
  if digits.length = count ∧ digits.all Char.isDigit ∧ low ≤ n ∧ n ≤ high then
    some (n, text.drop count)
  else none

/-- The text after a character that it must start with. -/
def after? (c : Char) : List Char → Option (List Char)
  | d :: rest => if c = d then some rest else none
  | [] => none

def daysOf (year month : Nat) : Nat :=
  if month = 2 then
    if year % 4 = 0 ∧ (year % 100 ≠ 0 ∨ year % 400 = 0) then 29 else 28
  else if month = 4 ∨ month = 6 ∨ month = 9 ∨ month = 11 then 30
  else 31

def date? (text : List Char) : Option (List Char) := do
  let (year, rest) ← field? 4 0 9999 text
  let (month, rest) ← field? 2 1 12 (← after? '-' rest)
  let (_, rest) ← field? 2 1 (daysOf year month) (← after? '-' rest)
  some rest

def afterSecondPart (text : List Char) : List Char :=
  match text with
  | '.' :: c :: rest => if c.isDigit then rest.dropWhile Char.isDigit else text
  | _ => text

def timeOfDay? (text : List Char) : Option (List Char) := do
  let (_, rest) ← field? 2 0 23 text
  let (_, rest) ← field? 2 0 59 (← after? ':' rest)
  let (_, rest) ← field? 2 0 60 (← after? ':' rest)
  some (afterSecondPart rest)

def afterOffset (text : List Char) : List Char :=
  let offset? : Option (List Char) := match text with
    | 'Z' :: rest => some rest
    | 'z' :: rest => some rest
    | c :: rest =>
      if c = '+' ∨ c = '-' then do
        let (_, rest) ← field? 2 0 23 rest
        let (_, rest) ← field? 2 0 59 (← after? ':' rest)
        some rest
      else none
    | [] => none
  offset?.getD text

def afterTime (text : List Char) : List Char :=
  match text with
  | c :: rest =>
    if c = 'T' ∨ c = 't' ∨ c = ' ' then ((timeOfDay? rest).map afterOffset).getD text else text
  | [] => text

def time? : Read Value := fun text => do
  let rest ← ((date? text).map afterTime).orElse fun _ => timeOfDay? text
  some (.time (String.ofList (text.take (text.length - rest.length))), rest)

/-- A scalar that starts with a digit or a sign. -/
def number? : Read Value := fun text =>
  (time? text).orElse fun _ => (float? text).orElse fun _ =>
    (special? text).orElse fun _ => integer? text

end AmxTrace.Toml
