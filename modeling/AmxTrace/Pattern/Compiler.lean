import AmxTrace.Pattern.Matcher
import AmxTrace.Pattern.Parser
import AmxTrace.Pattern.Size

/-! # Applying flags -/

namespace AmxTrace.Pattern

open Unicode

/-- The flags that matter after reading. -/
structure Flags where
  ignoreCase : Bool := false
  multiLine : Bool := false
  dotAll : Bool := false
  swapGreed : Bool := false
  unicode : Bool := true
  crlf : Bool := false

def Flags.set (flags : Flags) (flag : Flag) (value : Bool) : Flags :=
  match flag with
  | .ignoreCase => { flags with ignoreCase := value }
  | .multiLine => { flags with multiLine := value }
  | .dotAll => { flags with dotAll := value }
  | .swapGreed => { flags with swapGreed := value }
  | .unicode => { flags with unicode := value }
  | .crlf => { flags with crlf := value }
  | .ignoreSpace => flags

def Flags.apply (flags : Flags) (change : FlagChange) : Flags :=
  change.foldl (fun flags f => flags.set f.1 f.2) flags

def asciiDigits : CharSet := [(0x30, 0x39)]

def asciiSpaces : CharSet := [(0x09, 0x0D), (0x20, 0x20)]

def asciiSet (name : String) : CharSet :=
  if name = "alnum" then [(0x30, 0x39), (0x41, 0x5A), (0x61, 0x7A)]
  else if name = "alpha" then [(0x41, 0x5A), (0x61, 0x7A)]
  else if name = "ascii" then [(0x00, 0x7F)]
  else if name = "blank" then [(0x09, 0x09), (0x20, 0x20)]
  else if name = "cntrl" then [(0x00, 0x1F), (0x7F, 0x7F)]
  else if name = "digit" then asciiDigits
  else if name = "graph" then [(0x21, 0x7E)]
  else if name = "lower" then [(0x61, 0x7A)]
  else if name = "print" then [(0x20, 0x7E)]
  else if name = "punct" then [(0x21, 0x2F), (0x3A, 0x40), (0x5B, 0x60), (0x7B, 0x7E)]
  else if name = "space" then asciiSpaces
  else if name = "upper" then [(0x41, 0x5A)]
  else if name = "word" then asciiWords
  else [(0x30, 0x39), (0x41, 0x46), (0x61, 0x66)]

def closeUnderAsciiCase (s : CharSet) : CharSet :=
  let lower := (CharSet.inter s [(0x41, 0x5A)]).map fun r => (r.1 + 0x20, r.2 + 0x20)
  let upper := (CharSet.inter s [(0x61, 0x7A)]).map fun r => (r.1 - 0x20, r.2 - 0x20)
  CharSet.ofRanges (s ++ lower ++ upper)

def foldCase (flags : Flags) (s : CharSet) : CharSet :=
  if !flags.ignoreCase then s
  else if flags.unicode then closeUnderCase s
  else closeUnderAsciiCase s

/-- A set turned around if asked for. With characters off the rest of a set holds bytes past
ASCII, which are no characters. -/
def negateIf? (flags : Flags) (negated : Bool) (s : CharSet) : Option CharSet :=
  if !negated then some s
  else if flags.unicode then some s.complement
  else none

def shorthandSet? (flags : Flags) (kind : Shorthand) (negated : Bool) : Option CharSet :=
  negateIf? flags negated <| match kind, flags.unicode with
    | .digit, true => decimalDigits
    | .digit, false => asciiDigits
    | .space, true => whiteSpace
    | .space, false => asciiSpaces
    | .word, true => wordCharacters
    | .word, false => asciiWords

def namedSet? (flags : Flags) (name : ClassName) (negated : Bool) : Option CharSet := do
  if !flags.unicode then none
  let plain ← match name with
    | .named name => namedClass? name
    | .valued property value => valuedClass? property value
  negateIf? flags negated (foldCase flags plain)

def classCode? (flags : Flags) (c : Literal) : Option Nat :=
  if flags.unicode ∨ c.char.toNat < 0x80 then some c.char.toNat else none

/-- Characters of what stands between brackets, before case is ignored for plain ones. -/
def classSet? (flags : Flags) : ClassTree → Option CharSet
  | .nothing => some []
  | .literal c => (classCode? flags c).map CharSet.single
  | .range low high => do
    let low ← classCode? flags low
    let high ← classCode? flags high
    some [(low, high)]
  | .ascii name negated => negateIf? flags negated (foldCase flags (asciiSet name))
  | .shorthand kind negated => shorthandSet? flags kind negated
  | .unicode name negated => namedSet? flags name negated
  | .nested inner negated => do
    negateIf? flags negated (foldCase flags (← classSet? flags inner))
  | .together first second => do
    return CharSet.union (← classSet? flags first) (← classSet? flags second)
  | .operation operator first second => do
    let first := foldCase flags (← classSet? flags first)
    let second := foldCase flags (← classSet? flags second)
    some (match operator with
      | .intersection => CharSet.inter first second
      | .difference => CharSet.diff first second
      | .symmetricDifference => CharSet.symmDiff first second)

def conditionOf (flags : Flags) : Assertion → Condition
  | .lineStart =>
    if !flags.multiLine then .textStart else if flags.crlf then .lineStartCrlf else .lineStart
  | .lineEnd =>
    if !flags.multiLine then .textEnd else if flags.crlf then .lineEndCrlf else .lineEnd
  | .textStart => .textStart
  | .textEnd => .textEnd
  | .wordBoundary => .boundary flags.unicode
  | .notWordBoundary => .notBoundary flags.unicode
  | .wordStart => .wordStart flags.unicode
  | .wordEnd => .wordEnd flags.unicode
  | .wordStartHalf => .wordStartHalf flags.unicode
  | .wordEndHalf => .wordEndHalf flags.unicode

def dotSet? (flags : Flags) : Option CharSet :=
  if !flags.unicode then none
  else if flags.dotAll then some CharSet.everything
  else if flags.crlf then some (CharSet.complement [(0x0A, 0x0A), (0x0D, 0x0D)])
  else some (CharSet.complement [(0x0A, 0x0A)])

/-- A character on its own. A byte past ASCII is no character when characters are off, and
other characters past ASCII then have no case. -/
def literal? (flags : Flags) (c : Literal) : Option Expression :=
  let single := CharSet.single c.char.toNat
  if flags.unicode ∨ c.char.toNat < 0x80 then
    some (.ofSet (!flags.unicode) (foldCase flags single))
  else if c.byteForm then none
  else some (.ofSet false single)

/-- What is known between two parts of a pattern: the flags, and the number of groups that
capture so far. -/
structure Progress where
  flags : Flags := {}
  groups : Nat := 0

/-- A step of applying flags; it fails where the pattern is refused. -/
abbrev Applied := StateT Progress Option

def oneOf (characters : Flags → Option CharSet) : Applied (List Expression) := do
  let flags := (← get).flags
  match characters flags with
  | some s => return [.ofSet (!flags.unicode) s]
  | none => failure

def branchesOf : Tree → Applied (List Expression)
  | .empty => return [.empty]
  | .flags change => do
    modify fun p => { p with flags := p.flags.apply change }
    return [.empty]
  | .literal c => do
    match literal? (← get).flags c with
    | some expression => return [expression]
    | none => failure
  | .dot => oneOf dotSet?
  | .assertion kind => return [.condition (conditionOf (← get).flags kind)]
  | .shorthand kind negated => oneOf fun flags => shorthandSet? flags kind negated
  | .unicode name negated => oneOf fun flags => namedSet? flags name negated
  | .bracketed inner negated => oneOf fun flags => classSet? flags (.nested inner negated)
  | .repetition least most greedy inner => do
    let inner ← branchesOf inner
    return [.repeated least most (greedy != (← get).flags.swapGreed) (.ofBranches inner)]
  | .group captures change inner => do
    let before ← get
    let index := before.groups + 1
    set { flags := before.flags.apply change,
          groups := if captures then index else before.groups : Progress }
    let inner := Expression.ofBranches (← branchesOf inner)
    modify fun p => { p with flags := before.flags }
    return [if captures then .capture index inner else inner]
  | .sequence first second => do
    let first ← branchesOf first
    let second ← branchesOf second
    return [.ofParts [.ofBranches first, .ofBranches second]]
  | .alternatives first second => do
    let first ← branchesOf first
    let second ← branchesOf second
    return .ofBranches first :: second

/-- Why a pattern is refused. -/
inductive Refusal where
  | unreadable
  | tooLarge
deriving DecidableEq, Repr

def Refusal.message : Refusal → String
  | unreadable => "regex parse error: the pattern cannot be read"
  | tooLarge => "Compiled regex exceeds size limit of " ++ toString byteLimit ++ " bytes."

def compile (text : String) : Except Refusal Expression :=
  match (parse? text).bind fun tree => (branchesOf tree).run' {} with
  | none => throw .unreadable
  | some branches =>
    let expression := Expression.ofBranches branches
    if expression.fits then pure expression else throw .tooLarge

end AmxTrace.Pattern
