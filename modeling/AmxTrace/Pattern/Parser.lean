import AmxTrace.Hex
import AmxTrace.Pattern.Tree
import AmxTrace.Text.Parts
import AmxTrace.Unicode.Classes

/-! # Reading patterns -/

namespace AmxTrace.Pattern

/-- What is left of a pattern, and what was met before. -/
structure Reading where
  rest : List Char
  ignoreSpace : Bool := false
  names : List String := []

abbrev Step := StateT Reading Option

namespace Step

def refuse {α : Type} : Step α := fun _ => none

def peek : Step (Option Char) := do return (← get).rest.head?

def next : Step Char := fun s =>
  match s.rest with
  | c :: rest => some (c, { s with rest })
  | [] => none

def advance : Step Unit := modify fun s => { s with rest := s.rest.drop 1 }

/-- Text without leading blanks and comments. -/
def dropSpace : Bool → List Char → List Char
  | _, [] => []
  | true, c :: rest => dropSpace (c != '\n') rest
  | false, c :: rest =>
    if c = '#' then dropSpace true rest
    else if Text.isBlank c then dropSpace false rest
    else c :: rest

def skipSpace : Step Unit :=
  modify fun s => if s.ignoreSpace then { s with rest := dropSpace false s.rest } else s

/-- Take one character away and what may be skipped after it. -/
def advanceSpace : Step Unit := do
  advance
  skipSpace

/-- The first character that is no blank, where the first `#` counts as a blank. -/
def firstVisible? : Bool → List Char → Option Char
  | _, [] => none
  | pastHash, c :: rest =>
    if Text.isBlank c then firstVisible? pastHash rest
    else if c = '#' ∧ !pastHash then firstVisible? true rest
    else some c

/-- The character behind the next one that decides whether a hyphen makes a range. Where
blanks are skipped it is the first visible one, or the very next if none is visible. -/
def peekSecond : Step (Option Char) := do
  let s ← get
  let rest := s.rest.drop 1
  return if s.ignoreSpace then (firstVisible? false rest).orElse fun _ => rest.head?
    else rest.head?

def takeWord (word : List Char) : Step Bool := fun s =>
  if word.isPrefixOf s.rest then some (true, { s with rest := s.rest.drop word.length })
  else some (false, s)

def require (condition : Bool) : Step Unit := if condition then pure () else refuse

end Step

open Step

def metaCharacters : List Char := "\\.+*?()|[]\x7b\x7d^$#&-~".toList

/-- Whether a backslash before an ASCII character may stand for nothing. -/
def isEscapable (c : Char) : Bool :=
  metaCharacters.contains c || (c.toNat < 0x80 && !c.isAlphanum && c != '<' && c != '>')

def charOfCode (code : Nat) : Step Char :=
  if h : code.isValidChar then pure ⟨code.toUInt32, by
    have hs : code < UInt32.size := Nat.lt_of_lt_of_le
      (by rcases h with h | h <;> omega : code < 0x110000) (by decide)
    simpa [UInt32.isValidChar, Nat.mod_eq_of_lt hs] using h⟩
  else refuse

def bracedDigits : Nat → Step (List Nat)
  | 0 => refuse
  | fuel + 1 => do
    let c ← next
    if c = '\x7d' then return []
    match Hex.digit? c with
    | some digit =>
      skipSpace
      return digit :: (← bracedDigits fuel)
    | none => refuse

def fixedDigits : Nat → Step (List Nat)
  | 0 => pure []
  | count + 1 => do
    match Hex.digit? (← next) with
    | some digit =>
      skipSpace
      return digit :: (← fixedDigits count)
    | none => refuse

def digitsValue (digits : List Nat) : Nat := digits.foldl (fun n digit => 16 * n + digit) 0

def hexLiteral (letter : Char) : Step Literal := do
  skipSpace
  match ← peek with
  | some '\x7b' =>
    advanceSpace
    let digits ← bracedDigits ((← get).rest.length + 1)
    require (digits != [])
    skipSpace
    return ⟨← charOfCode (digitsValue digits), false⟩
  | _ =>
    let count := if letter = 'x' then 2 else if letter = 'u' then 4 else 8
    let digits ← fixedDigits count
    return ⟨← charOfCode (digitsValue digits), letter = 'x'⟩

def splitAtWord? (word : List Char) : List Char → Option (List Char × List Char)
  | [] => none
  | c :: rest =>
    if word.isPrefixOf (c :: rest) then some ([], (c :: rest).drop word.length)
    else (splitAtWord? word rest).map fun (before, after) => (c :: before, after)

/-- What is asked for between the braces of a class name. A name with `!=` turns the class
around. -/
def classNameOf (text : List Char) : Option (ClassName × Bool) :=
  match splitAtWord? ['!', '='] text with
  | some (property, value) =>
    some (.valued (String.ofList property) (String.ofList value), true)
  | none =>
    match (splitAtWord? [':'] text).orElse fun _ => splitAtWord? ['='] text with
    | some (property, value) =>
      some (.valued (String.ofList property) (String.ofList value), false)
    | none => if text = [] then none else some (.named (String.ofList text), false)

def bracedText : Nat → Step (List Char)
  | 0 => refuse
  | fuel + 1 => do
    let c ← next
    if c = '\x7d' then return []
    skipSpace
    return c :: (← bracedText fuel)

def unicodeClass : Step (ClassName × Bool) := do
  skipSpace
  match ← peek with
  | some '\x7b' =>
    advanceSpace
    let text ← bracedText ((← get).rest.length + 1)
    skipSpace
    match classNameOf text with
    | some name => return name
    | none => refuse
  | some c =>
    require (c != '\\')
    advanceSpace
    return (.named (String.singleton c), false)
  | none => refuse

/-- Part of a pattern that stands for itself. -/
inductive Atom where
  | literal (c : Literal)
  | assertion (kind : Assertion)
  | shorthand (kind : Shorthand) (negated : Bool)
  | unicode (name : ClassName) (negated : Bool)

def isBoundaryLetter (c : Char) : Bool := c.isAlpha || c == '-'

/-- Letters of the name of a word boundary; what may be skipped may stand between them. -/
def boundaryLetters : Nat → Step (List Char)
  | 0 => refuse
  | fuel + 1 => do
    match ← peek with
    | some c =>
      if isBoundaryLetter c then
        advanceSpace
        return c :: (← boundaryLetters fuel)
      else return []
    | none => return []

/-- The kind of a word boundary with a name in braces, if one follows. Braces that start
otherwise are left for a repetition. -/
def boundaryKind : Step Assertion := do
  if (← peek) != some '\x7b' then return .wordBoundary
  let before ← get
  advanceSpace
  match ← peek with
  | none => refuse
  | some c =>
    if !isBoundaryLetter c then
      set before
      return .wordBoundary
    let name ← boundaryLetters ((← get).rest.length + 1)
    require ((← peek) == some '\x7d')
    advance
    if name = "start".toList then return .wordStart
    else if name = "end".toList then return .wordEnd
    else if name = "start-half".toList then return .wordStartHalf
    else if name = "end-half".toList then return .wordEndHalf
    else refuse

def escape : Step Atom := do
  let c ← next
  let plain (code : Nat) : Step Atom := pure (.literal ⟨Char.ofNat code, false⟩)
  if c.isDigit then refuse
  else if c = 'x' ∨ c = 'u' ∨ c = 'U' then return .literal (← hexLiteral c)
  else if c = 'p' ∨ c = 'P' then
    let (name, turned) ← unicodeClass
    return .unicode name ((c = 'P') != turned)
  else if c = 'd' ∨ c = 'D' then return .shorthand .digit (c = 'D')
  else if c = 's' ∨ c = 'S' then return .shorthand .space (c = 'S')
  else if c = 'w' ∨ c = 'W' then return .shorthand .word (c = 'W')
  else if isEscapable c then return .literal ⟨c, false⟩
  else if c = 'a' then plain 0x07
  else if c = 'f' then plain 0x0C
  else if c = 't' then plain 0x09
  else if c = 'n' then plain 0x0A
  else if c = 'r' then plain 0x0D
  else if c = 'v' then plain 0x0B
  else if c = 'A' then return .assertion .textStart
  else if c = 'z' then return .assertion .textEnd
  else if c = 'b' then return .assertion (← boundaryKind)
  else if c = 'B' then return .assertion .notWordBoundary
  else if c = '<' then return .assertion .wordStart
  else if c = '>' then return .assertion .wordEnd
  else refuse

def asciiNames : List String :=
  ["alnum", "alpha", "ascii", "blank", "cntrl", "digit", "graph", "lower", "print", "punct",
   "space", "upper", "word", "xdigit"]

/-- An ASCII class such as `[:alpha:]`, if one stands here. -/
def asciiClass : Step (Option ClassTree) := do
  let before ← get
  if ← takeWord ['[', ':'] then
    let negated ← takeWord ['^']
    let name := String.ofList ((← get).rest.takeWhile (· != ':'))
    modify fun s => { s with rest := s.rest.drop name.length }
    if (← takeWord [':', ']']) && asciiNames.contains name then
      return some (.ascii name negated)
  set before
  return none

/-- One part of a bracketed class: a character, possibly escaped, or a class. -/
def classAtom : Step Atom := do
  match ← next with
  | '\\' => escape
  | c => return .literal ⟨c, false⟩

def classOfAtom : Atom → Step ClassTree
  | .literal c => pure (.literal c)
  | .shorthand kind negated => pure (.shorthand kind negated)
  | .unicode name negated => pure (.unicode name negated)
  | .assertion _ => refuse

def rangeEnd : Atom → Step Literal
  | .literal c => pure c
  | _ => refuse

def classRange : Step ClassTree := do
  let first ← classAtom
  skipSpace
  match ← peek with
  | none => refuse
  | some c =>
    let second ← peekSecond
    if c ≠ '-' ∨ second = some ']' ∨ second = some '-' then classOfAtom first
    else
      advanceSpace
      let last ← classAtom
      let low ← rangeEnd first
      let high ← rangeEnd last
      require (low.char ≤ high.char)
      return .range low high

def leadingHyphens : Nat → Step ClassTree
  | 0 => pure .nothing
  | fuel + 1 => do
    if (← peek) == some '-' then
      advanceSpace
      return .together (.literal ⟨'-', false⟩) (← leadingHyphens fuel)
    else return .nothing

/-- The start of a bracketed class, after its bracket: whether it is negated, and characters
that only stand for themselves here. -/
def classStart : Step (Bool × ClassTree) := do
  skipSpace
  let negated := (← peek) == some '^'
  if negated then advanceSpace
  let hyphens ← leadingHyphens ((← get).rest.length + 1)
  match hyphens, ← peek with
  | .nothing, some ']' =>
    advanceSpace
    return (negated, .literal ⟨']', false⟩)
  | _, _ => return (negated, hyphens)

def finishOperand (pending : Option (SetOperator × ClassTree)) (operand : ClassTree) : ClassTree :=
  match pending with
  | none => operand
  | some (operator, first) => .operation operator first operand

/-- The inside of a bracketed class up to its closing bracket. Operators have one rank and
bind from the left. -/
def classBody : Nat → Option (SetOperator × ClassTree) → ClassTree → Step ClassTree
  | 0, _, _ => refuse
  | fuel + 1, pending, sofar => do
    skipSpace
    match ← peek with
    | none => refuse
    | some '[' =>
      match ← asciiClass with
      | some found => classBody fuel pending (.together sofar found)
      | none =>
        advance
        let (negated, start) ← classStart
        let inner ← classBody fuel none start
        classBody fuel pending (.together sofar (.nested inner negated))
    | some ']' =>
      advance
      return finishOperand pending sofar
    | some _ =>
      if ← takeWord ['&', '&'] then
        classBody fuel (some (.intersection, finishOperand pending sofar)) .nothing
      else if ← takeWord ['-', '-'] then
        classBody fuel (some (.difference, finishOperand pending sofar)) .nothing
      else if ← takeWord ['~', '~'] then
        classBody fuel (some (.symmetricDifference, finishOperand pending sofar)) .nothing
      else
        let item ← classRange
        classBody fuel pending (.together sofar item)

def bracketedClass : Step Tree := do
  let (negated, start) ← classStart
  let inner ← classBody (2 * (← get).rest.length + 2) none start
  return .bracketed inner negated

def digitRun : Nat → Step (List Char)
  | 0 => refuse
  | fuel + 1 => do
    match ← peek with
    | some c =>
      if c.isDigit then
        advanceSpace
        return c :: (← digitRun fuel)
      else return []
    | none => return []

/-- Skip blanks, and where blanks are skipped also what may be skipped after each. -/
def blanks : Nat → Step Unit
  | 0 => refuse
  | fuel + 1 => do
    match ← peek with
    | some c =>
      if Text.isBlank c then
        advanceSpace
        blanks fuel
    | none => return

def decimal? : Step (Option Nat) := do
  modify fun s => { s with rest := s.rest.dropWhile Text.isBlank }
  let fuel := (← get).rest.length + 1
  let digits ← digitRun fuel
  blanks fuel
  if digits = [] then return none
  let value := digits.foldl (fun n c => 10 * n + (c.toNat - '0'.toNat)) 0
  require (value < 0x100000000)
  return some value

def decimal : Step Nat := do
  match ← decimal? with
  | some value => return value
  | none => refuse

def counts : Step (Nat × Option Nat) := do
  skipSpace
  let least ← decimal
  let most ← do
    if (← peek) == some ',' then
      advanceSpace
      if (← peek) == some '\x7d' then pure none
      else
        let most ← decimal
        pure (some most)
    else pure (some least)
  require ((← next) == '\x7d')
  skipSpace
  require (most.all (least ≤ ·))
  return (least, most)

def flagOf? (c : Char) : Option Flag :=
  if c = 'i' then some .ignoreCase
  else if c = 'm' then some .multiLine
  else if c = 's' then some .dotAll
  else if c = 'U' then some .swapGreed
  else if c = 'u' then some .unicode
  else if c = 'R' then some .crlf
  else if c = 'x' then some .ignoreSpace
  else none

/-- Flags up to the colon or the parenthesis after them; each may stand once, and something
must follow a minus sign. -/
def flagLetters : Nat → Bool → Bool → FlagChange → Step FlagChange
  | 0, _, _, _ => refuse
  | fuel + 1, minus, dangling, change => do
    match ← peek with
    | none => refuse
    | some c =>
      if c = ':' ∨ c = ')' then
        require (!dangling)
        return change
      advance
      if c = '-' then
        require (!minus)
        flagLetters fuel true true change
      else
        match flagOf? c with
        | some flag =>
          require (change.all fun f => f.1 != flag)
          flagLetters fuel minus false (change ++ [(flag, !minus)])
        | none => refuse

def isNameChar (first : Bool) (c : Char) : Bool :=
  if first then c == '_' || Unicode.alphabetic.mem c.toNat
  else c == '_' || c == '.' || c == '[' || c == ']' || Unicode.alphanumeric.mem c.toNat

/-- The name of a group up to its closing bracket; no two groups may share one. -/
def groupName : Step Unit := do
  let name := (← get).rest.takeWhile (· != '>')
  modify fun s => { s with rest := s.rest.drop name.length }
  require ((← peek) == some '>')
  advance
  match name with
  | [] => refuse
  | c :: rest =>
    require (isNameChar true c && rest.all (isNameChar false))
    let s ← get
    let text := String.ofList name
    require (!s.names.contains text)
    set { s with names := text :: s.names }

/-- What opens after a parenthesis: a change of flags, or a group with one. -/
inductive Opening where
  | flags (change : FlagChange)
  | group (captures : Bool) (change : FlagChange)

def opening : Step Opening := do
  skipSpace
  let rest := (← get).rest
  if ["?=", "?!", "?<=", "?<!"].any fun word => word.toList.isPrefixOf rest then refuse
  else if (← takeWord ['?', 'P', '<']) then
    groupName
    return .group true []
  else if (← takeWord ['?', '<']) then
    groupName
    return .group true []
  else if ← takeWord ['?'] then
    let change ← flagLetters ((← get).rest.length + 1) false false []
    if (← next) = ')' then
      require (change != [])
      return .flags change
    else return .group false change
  else return .group true []

def spaceAfter (change : FlagChange) (before : Bool) : Bool :=
  ((change.find? fun f => f.1 == .ignoreSpace).map (·.2)).getD before

def isRepeatable : Tree → Bool
  | .flags _ => false
  | _ => true

/-- The last part of a sequence under construction, repeated. A question mark after the
counts asks for few rounds rather than many. -/
def repeatLast (parts : List Tree) (least : Nat) (most : Option Nat) : Step (List Tree) := do
  match parts with
  | last :: before =>
    require (isRepeatable last)
    let lazy ← takeWord ['?']
    return .repetition least most (!lazy) last :: before
  | [] => refuse

def sequenceOf (parts : List Tree) : Tree :=
  match parts with
  | [] => .empty
  | last :: before => before.foldl (fun tree part => .sequence part tree) last

mutual

def alternatives : Nat → Step Tree
  | 0 => refuse
  | fuel + 1 => do
    let first ← parts fuel []
    if (← peek) == some '|' then
      advance
      return .alternatives (sequenceOf first) (← alternatives fuel)
    else return sequenceOf first

def parts : Nat → List Tree → Step (List Tree)
  | 0, _ => refuse
  | fuel + 1, sofar => do
    skipSpace
    match ← peek with
    | none => return sofar
    | some ')' => return sofar
    | some '|' => return sofar
    | some '(' =>
      advance
      let before := (← get).ignoreSpace
      match ← opening with
      | .flags change =>
        modify fun s => { s with ignoreSpace := spaceAfter change before }
        parts fuel (.flags change :: sofar)
      | .group captures change =>
        modify fun s => { s with ignoreSpace := spaceAfter change before }
        let inner ← alternatives fuel
        require ((← next) == ')')
        modify fun s => { s with ignoreSpace := before }
        parts fuel (.group captures change inner :: sofar)
    | some '[' =>
      advance
      let tree ← bracketedClass
      parts fuel (tree :: sofar)
    | some '?' =>
      advance
      parts fuel (← repeatLast sofar 0 (some 1))
    | some '*' =>
      advance
      parts fuel (← repeatLast sofar 0 none)
    | some '+' =>
      advance
      parts fuel (← repeatLast sofar 1 none)
    | some '\x7b' =>
      advance
      let (least, most) ← counts
      parts fuel (← repeatLast sofar least most)
    | some '\\' =>
      advance
      let tree ← match ← escape with
        | .literal c => pure (Tree.literal c)
        | .assertion kind => pure (Tree.assertion kind)
        | .shorthand kind negated => pure (Tree.shorthand kind negated)
        | .unicode name negated => pure (Tree.unicode name negated)
      parts fuel (tree :: sofar)
    | some '.' =>
      advance
      parts fuel (.dot :: sofar)
    | some '^' =>
      advance
      parts fuel (.assertion .lineStart :: sofar)
    | some '$' =>
      advance
      parts fuel (.assertion .lineEnd :: sofar)
    | some c =>
      advance
      parts fuel (.literal ⟨c, false⟩ :: sofar)

end

def depthLimit : Nat := 250

/-- Number of things that stand together between brackets. -/
def ClassTree.itemCount : ClassTree → Nat
  | nothing => 0
  | together first second => first.itemCount + second.itemCount
  | _ => 1

/-- Greatest depth of the things between brackets. Several together make a level of their
own inside brackets and on either side of an operator. -/
def ClassTree.depth : ClassTree → Nat
  | nested inner _ => inner.depth + (if inner.itemCount ≤ 1 then 0 else 1) + 1
  | together first second => max first.depth second.depth
  | operation _ first second =>
    max (first.depth + (if first.itemCount ≤ 1 then 0 else 1))
      (second.depth + (if second.itemCount ≤ 1 then 0 else 1)) + 1
  | _ => 0

/-- Depth of nesting of a pattern. The parts of one sequence and the branches of one choice
make one level. -/
def Tree.depthWithin (inSequence inChoice : Bool) : Tree → Nat
  | bracketed inner negated => (ClassTree.nested inner negated).depth
  | repetition _ _ _ inner => inner.depthWithin false false + 1
  | group _ _ inner => inner.depthWithin false false + 1
  | sequence first second =>
    max (first.depthWithin false false) (second.depthWithin true false) +
      (if inSequence then 0 else 1)
  | alternatives first second =>
    max (first.depthWithin false false) (second.depthWithin false true) +
      (if inChoice then 0 else 1)
  | _ => 0

def parse? (text : String) : Option Tree := do
  let characters := text.toList
  let (tree, reading) ← (alternatives (3 * characters.length + 3)).run { rest := characters }
  if reading.rest = [] ∧ tree.depthWithin false false ≤ depthLimit then some tree else none

end AmxTrace.Pattern
