import AmxTrace.Toml.Scalar
import AmxTrace.Toml.Table

/-! # Reading TOML -/

namespace AmxTrace.Toml

/-- Whether a character may stand in a key without quotes. -/
def isKeyChar (c : Char) : Bool := c.isAlphanum || c == '_' || c == '-'

def simpleKey? : Read String := fun text =>
  match text with
  | '"' :: _ => lineString? text
  | '\'' :: _ => lineString? text
  | _ =>
    match text.takeWhile isKeyChar with
    | [] => none
    | name => some (String.ofList name, text.dropWhile isKeyChar)

def keySteps? : Nat → Read (List String)
  | 0, _ => none
  | fuel + 1, text => do
    let (step, rest) ← simpleKey? (skipBlanks text)
    match skipBlanks rest with
    | '.' :: rest => (keySteps? fuel rest).map fun (steps, rest) => (step :: steps, rest)
    | rest => some ([step], rest)

def key? : Read Key := fun text => do
  let (steps, rest) ← keySteps? (text.length + 1) text
  some (⟨steps.dropLast, ← steps.getLast?⟩, rest)

def skipComment : List Char → List Char
  | '#' :: rest => rest.dropWhile isPlain
  | text => text

def lineEnd? (text : List Char) : Option (List Char) :=
  match skipComment (skipBlanks text) with
  | [] => some []
  | rest => newline? rest

/-- The text after blanks, line breaks and comments; a comment must end with its line. -/
def skipSpace? : Nat → List Char → Option (List Char)
  | 0, _ => none
  | fuel + 1, text =>
    match skipLines text with
    | '#' :: rest => do
      let rest ← newline? (rest.dropWhile isPlain)
      skipSpace? fuel rest
    | rest => some rest

/-- The text after anything that may stand between the items of an array. -/
def skipAll? (text : List Char) : Option (List Char) := skipSpace? (text.length + 1) text

mutual

def value? : Nat → Read Value
  | 0, _ => none
  | fuel + 1, text =>
    match text with
    | '"' :: _ => (string? text).map fun (s, rest) => (.string s, rest)
    | '\'' :: _ => (string? text).map fun (s, rest) => (.string s, rest)
    | '[' :: rest => (items? fuel rest).map fun (items, rest) => (.array items, rest)
    | '\x7b' :: rest => do
      let (assignments, rest) ← match skipBlanks rest with
        | '\x7d' :: rest => some ([], rest)
        | rest => assignments? fuel rest
      some (.table .inline (← tableOf? assignments), rest)
    | 't' :: 'r' :: 'u' :: 'e' :: rest => some (.boolean true, rest)
    | 'f' :: 'a' :: 'l' :: 's' :: 'e' :: rest => some (.boolean false, rest)
    | _ => number? text

def items? : Nat → Read (List Value)
  | 0, _ => none
  | fuel + 1, text => do
    match ← skipAll? text with
    | ']' :: rest => some ([], rest)
    | text => do
      let (item, rest) ← value? fuel text
      match ← skipAll? rest with
      | ',' :: rest => (items? fuel rest).map fun (items, rest) => (item :: items, rest)
      | ']' :: rest => some ([item], rest)
      | _ => none

/-- Assignments between braces, at least one, and the closing brace. -/
def assignments? : Nat → Read (List (Key × Value))
  | 0, _ => none
  | fuel + 1, text => do
    let (key, rest) ← key? text
    let (value, rest) ← value? fuel (skipBlanks (← after? '=' rest))
    match skipBlanks rest with
    | ',' :: rest => do
      let (others, rest) ← assignments? fuel rest
      some ((key, value) :: others, rest)
    | '\x7d' :: rest => some ([(key, value)], rest)
    | _ => none

end

/-- A header or an assignment, without the end of its line. -/
def statement? : Read Statement
  | '[' :: '[' :: rest => do
    let (key, rest) ← key? rest
    some (.listHeader key, ← after? ']' (← after? ']' rest))
  | '[' :: rest => do
    let (key, rest) ← key? rest
    some (.header key, ← after? ']' rest)
  | text => do
    let (key, rest) ← key? text
    let (value, rest) ← value? (text.length + 1) (skipBlanks (← after? '=' rest))
    some (.assignment key value, rest)

/-- Statements of a document, a line each, with lines that say nothing between them. -/
def statements? : Nat → List Char → Option (List Statement)
  | 0, _ => none
  | fuel + 1, text =>
    match skipBlanks text with
    | [] => some []
    | rest =>
      match lineEnd? rest with
      | some rest => statements? fuel rest
      | none => do
        let (statement, rest) ← statement? rest
        let statements ← statements? fuel (← lineEnd? rest)
        some (statement :: statements)

/-- The text without a byte order mark in front. -/
def withoutMark : List Char → List Char
  | c :: rest => if c.toNat = 0xFEFF then rest else c :: rest
  | [] => []

def parse? (text : String) : Option Members := do
  let characters := withoutMark text.toList
  let statements ← statements? (characters.length + 1) characters
  ofStatements? statements

end AmxTrace.Toml
