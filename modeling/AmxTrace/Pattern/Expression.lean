import AmxTrace.Pattern.Tree
import AmxTrace.Unicode.Classes

/-! # Expressions -/

namespace AmxTrace.Pattern

open Unicode

/-- Conditions on a position. The ones on words say whether these are of all characters or of
ASCII characters only. -/
inductive Condition where
  | textStart
  | textEnd
  | lineStart
  | lineEnd
  | lineStartCrlf
  | lineEndCrlf
  | boundary (unicode : Bool)
  | notBoundary (unicode : Bool)
  | wordStart (unicode : Bool)
  | wordEnd (unicode : Bool)
  | wordStartHalf (unicode : Bool)
  | wordEndHalf (unicode : Bool)
deriving DecidableEq, Repr

/-- A pattern with its flags applied. -/
inductive Expression where
  | empty
  | text (characters : List Char)
  /-- One character of a set, which may have been given as a set of bytes. -/
  | set (ofBytes : Bool) (characters : CharSet)
  | condition (required : Condition)
  | repetition (least : Nat) (most : Option Nat) (greedy : Bool) (inner : Expression)
  | capture (index : Nat) (inner : Expression)
  | sequence (first rest : Expression)
  | alternatives (first rest : Expression)
deriving DecidableEq, Repr

namespace Expression

def encodedLength (code : Nat) : Nat :=
  if code < 0x80 then 1 else if code < 0x800 then 2 else if code < 0x10000 then 3 else 4

/-- Fewest bytes that are matched; none if nothing is. -/
def minLength : Expression → Option Nat
  | empty => some 0
  | text characters => some (characters.map fun c => encodedLength c.toNat).sum
  | set _ characters => characters.head?.map fun range => encodedLength range.1
  | condition _ => some 0
  | repetition least _ _ inner => inner.minLength.map (· * least)
  | capture _ inner => inner.minLength
  | sequence first rest => do return (← first.minLength) + (← rest.minLength)
  | alternatives first rest => do return min (← first.minLength) (← rest.minLength)

/-- Most bytes that are matched; none if nothing is, or any number. -/
def maxLength : Expression → Option Nat
  | empty => some 0
  | text characters => some (characters.map fun c => encodedLength c.toNat).sum
  | set _ characters => characters.getLast?.map fun range => encodedLength range.2
  | condition _ => some 0
  | repetition _ most _ inner => do return (← most) * (← inner.maxLength)
  | capture _ inner => inner.maxLength
  | sequence first rest => do return (← first.maxLength) + (← rest.maxLength)
  | alternatives first rest => do return max (← first.maxLength) (← rest.maxLength)

/-- Whether every match starts at the start of the text, as far as the outermost parts say. -/
def startsText : Expression → Bool
  | condition required => required = .textStart
  | repetition least _ _ inner => least != 0 && inner.startsText
  | capture _ inner => inner.startsText
  | sequence first rest => first.startsText || (first.maxLength == some 0 && rest.startsText)
  | alternatives first rest => first.startsText && rest.startsText
  | _ => false

/-- Whether every match ends at the end of the text, as far as the outermost parts say. -/
def endsText : Expression → Bool
  | condition required => required = .textEnd
  | repetition least _ _ inner => least != 0 && inner.endsText
  | capture _ inner => inner.endsText
  | sequence first rest => rest.endsText || (rest.maxLength == some 0 && first.endsText)
  | alternatives first rest => first.endsText && rest.endsText
  | _ => false

def fail : Expression := set true []

def ofSet (ofBytes : Bool) (characters : CharSet) : Expression :=
  match CharSet.diff characters surrogates with
  | [] => fail
  | [(low, high)] =>
    if low = high then text [Char.ofNat low] else set ofBytes [(low, high)]
  | ranges => set ofBytes ranges

/-- Repetition with counts. What matches only the empty text does so once or many times over. -/
def repeated (least : Nat) (most : Option Nat) (greedy : Bool) (inner : Expression) :
    Expression :=
  let (least, most) :=
    if inner.maxLength = some 0 then (min least 1, some (min (most.getD 1) 1))
    else (least, most)
  if least = 0 ∧ most = some 0 then empty
  else if least = 1 ∧ most = some 1 then inner
  else repetition least most greedy inner

def parts : Expression → List Expression
  | empty => []
  | sequence first rest => first :: rest.parts
  | other => [other]

def branches : Expression → List Expression
  | alternatives first rest => first :: rest.branches
  | other => [other]

def joinTexts : List Expression → List Expression
  | [] => []
  | first :: rest =>
    match first, joinTexts rest with
    | text a, text b :: others => text (a ++ b) :: others
    | first, rest => first :: rest

def nestParts : List Expression → Expression
  | [] => empty
  | [only] => only
  | first :: rest => sequence first (nestParts rest)

def ofParts (expressions : List Expression) : Expression :=
  nestParts (joinTexts (expressions.flatMap parts))

def nestBranches : List Expression → Expression
  | [] => fail
  | [only] => only
  | first :: rest => alternatives first (nestBranches rest)

def character? : Expression → Option Char
  | text [c] => some c
  | _ => none

def set? : Expression → Option CharSet
  | set _ characters => some characters
  | _ => none

def isSequence : Expression → Bool
  | sequence _ _ => true
  | _ => false

def commonStart : List Expression → List Expression → Nat
  | a :: as, b :: bs => if a = b then commonStart as bs + 1 else 0
  | _, _ => 0

/-- Number of parts that all branches start with; none if one of them is no sequence. -/
def commonParts : List Expression → Nat
  | [] => 0
  | first :: rest =>
    if first.isSequence ∧ rest.all isSequence then
      (rest.map fun other => commonStart first.parts other.parts).foldl min first.parts.length
    else 0

def nodes : Expression → Nat
  | repetition _ _ _ inner => inner.nodes + 1
  | capture _ inner => inner.nodes + 1
  | sequence first rest => first.nodes + rest.nodes + 1
  | alternatives first rest => first.nodes + rest.nodes + 1
  | _ => 1

/-- A choice; `fuel` bounds how often a common start can be taken out. -/
def choose : Nat → List Expression → Expression
  | 0, expressions => nestBranches expressions
  | fuel + 1, expressions =>
    let all := expressions.flatMap branches
    if all.length ≤ 1 then nestBranches all
    else match all.mapM character? with
      | some characters =>
        ofSet false (CharSet.ofRanges (characters.map fun c => (c.toNat, c.toNat)))
      | none =>
        match all.mapM set? with
        | some sets => ofSet false (CharSet.ofRanges sets.flatten)
        | none =>
          let common := commonParts all
          if common = 0 then nestBranches all
          else
            let start := (all.head?.map fun first => first.parts.take common).getD []
            let ends := all.map fun branch => ofParts (branch.parts.drop common)
            ofParts (start ++ [choose fuel ends])

def ofBranches (expressions : List Expression) : Expression :=
  choose ((expressions.map nodes).foldr Nat.add 0 + 1) expressions

end Expression

end AmxTrace.Pattern
