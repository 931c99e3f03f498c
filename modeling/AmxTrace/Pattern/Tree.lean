/-! # Pattern trees -/

namespace AmxTrace.Pattern

/-- Flags that a pattern can switch on and off. -/
inductive Flag where
  | ignoreCase
  | multiLine
  | dotAll
  | swapGreed
  | unicode
  | crlf
  | ignoreSpace
deriving DecidableEq, Repr

abbrev FlagChange := List (Flag × Bool)

/-- Kinds of character classes with a letter. -/
inductive Shorthand where
  | digit
  | space
  | word
deriving DecidableEq, Repr

/-- How a character is written: as itself or by its code, which may be that of a byte. -/
structure Literal where
  char : Char
  /-- Whether it was written with two hexadecimal digits. -/
  byteForm : Bool
deriving DecidableEq, Repr

inductive ClassName where
  | named (name : String)
  | valued (property value : String)
deriving DecidableEq, Repr

/-- Operators between bracketed classes. -/
inductive SetOperator where
  | intersection
  | difference
  | symmetricDifference
deriving DecidableEq, Repr

/-- What stands between brackets. -/
inductive ClassTree where
  | nothing
  | literal (c : Literal)
  | range (low high : Literal)
  | ascii (name : String) (negated : Bool)
  | shorthand (kind : Shorthand) (negated : Bool)
  | unicode (name : ClassName) (negated : Bool)
  | nested (inner : ClassTree) (negated : Bool)
  | together (first second : ClassTree)
  | operation (operator : SetOperator) (first second : ClassTree)
deriving Repr

/-- Assertions about a position. -/
inductive Assertion where
  | lineStart
  | lineEnd
  | textStart
  | textEnd
  | wordBoundary
  | notWordBoundary
  | wordStart
  | wordEnd
  | wordStartHalf
  | wordEndHalf
deriving DecidableEq, Repr

/-- A regular expression. A sequence and a choice of more than two are nested to the right. -/
inductive Tree where
  | empty
  | flags (change : FlagChange)
  | literal (c : Literal)
  | dot
  | assertion (kind : Assertion)
  | shorthand (kind : Shorthand) (negated : Bool)
  | unicode (name : ClassName) (negated : Bool)
  | bracketed (inner : ClassTree) (negated : Bool)
  | repetition (least : Nat) (most : Option Nat) (greedy : Bool) (inner : Tree)
  | group (captures : Bool) (change : FlagChange) (inner : Tree)
  | sequence (first second : Tree)
  | alternatives (first second : Tree)
deriving Repr

end AmxTrace.Pattern
