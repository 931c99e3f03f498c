import AmxTrace.Pattern.Expression

/-! # Matching expressions

An expression sends a set of positions in a text to the positions where a match that starts at one
of them can end. -/

namespace AmxTrace.Pattern

open Unicode

/-- A position in a text as an assertion sees it. -/
structure Context where
  before : Option Char
  after : Option Char

def asciiWords : CharSet := [(0x30, 0x39), (0x41, 0x5A), (0x5F, 0x5F), (0x61, 0x7A)]

def words (unicode : Bool) : CharSet := if unicode then wordCharacters else asciiWords

def isIn (s : CharSet) (c : Option Char) : Bool := c.any fun c => s.mem c.toNat

def Condition.holds (condition : Condition) (place : Context) : Bool :=
  match condition with
  | textStart => place.before.isNone
  | textEnd => place.after.isNone
  | lineStart => place.before.isNone || place.before == some '\n'
  | lineEnd => place.after.isNone || place.after == some '\n'
  | lineStartCrlf =>
    place.before.isNone || place.before == some '\n' ||
      (place.before == some '\r' && place.after != some '\n')
  | lineEndCrlf =>
    place.after.isNone || place.after == some '\r' ||
      (place.after == some '\n' && place.before != some '\r')
  | boundary unicode => isIn (words unicode) place.before != isIn (words unicode) place.after
  | notBoundary unicode => isIn (words unicode) place.before == isIn (words unicode) place.after
  | wordStart unicode => !isIn (words unicode) place.before && isIn (words unicode) place.after
  | wordEnd unicode => isIn (words unicode) place.before && !isIn (words unicode) place.after
  | wordStartHalf unicode => !isIn (words unicode) place.before
  | wordEndHalf unicode => !isIn (words unicode) place.after

def mergePositions (a b : List Nat) : List Nat :=
  (List.merge a b fun x y => x ≤ y).eraseReps

def rounds (step : List Nat → List Nat) : Nat → List Nat → List Nat
  | 0, positions => positions
  | count + 1, positions => rounds step count (step positions)

def roundsUpTo (step : List Nat → List Nat) : Nat → List Nat → List Nat
  | 0, positions => positions
  | count + 1, positions =>
    let reached := mergePositions positions (step positions)
    if reached = positions then positions else roundsUpTo step count reached

def contextAt (text : Array Char) (position : Nat) : Context :=
  { before := if position = 0 then none else text[position - 1]?
    after := text[position]? }

def stepOver (text : Array Char) (positions : List Nat) (c : Char) : List Nat :=
  (positions.filter fun p => text[p]? == some c).map (· + 1)

def Expression.ends (text : Array Char) : Expression → List Nat → List Nat
  | empty, positions => positions
  | .text characters, positions => characters.foldl (stepOver text) positions
  | set _ characters, positions =>
    (positions.filter fun p => isIn characters text[p]?).map (· + 1)
  | condition required, positions =>
    positions.filter fun p => required.holds (contextAt text p)
  | capture _ inner, positions => inner.ends text positions
  | sequence first rest, positions => rest.ends text (first.ends text positions)
  | alternatives first rest, positions =>
    mergePositions (first.ends text positions) (rest.ends text positions)
  | repetition least most _ inner, positions =>
    let enough := text.size + 1
    let further := match most with
      | none => enough
      | some most => min (most - least) enough
    roundsUpTo (inner.ends text) further (rounds (inner.ends text) (min least enough) positions)

def Expression.occursIn (expression : Expression) (text : String) : Bool :=
  let characters := text.toList.toArray
  !(expression.ends characters (List.range (characters.size + 1))).isEmpty

end AmxTrace.Pattern
