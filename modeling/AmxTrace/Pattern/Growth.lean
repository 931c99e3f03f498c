import Std.Data.HashMap
import AmxTrace.Pattern.ByteRanges

/-! # Growth of automata

An automaton is built state by state, and its memory is counted as it grows: a fixed number of bytes
for each state and more for tables of transitions and of choices. -/

namespace AmxTrace.Pattern

/-- Greatest number of bytes of an automaton. -/
def byteLimit : Nat := 10485760

def stateBytes : Nat := 32

def transitionBytes : Nat := 8

def choiceBytes : Nat := 4

/-- How much has been built. -/
structure Extent where
  states : Nat := 0
  tableBytes : Nat := 0

def Extent.bytes (extent : Extent) : Nat := extent.states * stateBytes + extent.tableBytes

/-- A step of building; it fails past the limit. -/
abbrev Growth := StateT Extent Option

namespace Growth

def grow (extent : Extent) : Growth Unit := fun _ =>
  if extent.bytes ≤ byteLimit then some ((), extent) else none

def addMany (states tableBytes : Nat) : Growth Unit := do
  let extent ← get
  grow ⟨extent.states + states, extent.tableBytes + tableBytes⟩

def add (tableBytes : Nat) : Growth Nat := do
  let number := (← get).states
  addMany 1 tableBytes
  return number

def addChoices (count : Nat) : Growth Unit := addMany 0 (count * choiceBytes)

/-- Go on from the end of a piece. A piece that ends in a choice gets one more. -/
def leave (endsInChoice : Bool) : Growth Unit :=
  if endsInChoice then addChoices 1 else pure ()

def moreCopies (piece : Growth Bool) : Nat → Bool → Growth Bool
  | 0, endsInChoice => pure endsInChoice
  | count + 1, endsInChoice => do
    let next ← piece
    leave endsInChoice
    moreCopies piece count next

def copies (piece : Growth Bool) : Nat → Growth Bool
  | 0 => do
    let _ ← add 0
    return false
  | count + 1 => do
    let first ← piece
    moreCopies piece count first

def optionalCopies (piece : Growth Bool) : Nat → Bool → Growth Bool
  | 0, endsInChoice => do
    leave endsInChoice
    return false
  | count + 1, endsInChoice => do
    let _ ← add 0
    let next ← piece
    leave endsInChoice
    addChoices 2
    optionalCopies piece count next

/-- A piece a number of times and then any number of times. A piece that may match the empty
text is not entered again from its own choice. -/
def atLeast (piece : Growth Bool) (matchesEmpty : Bool) : Nat → Growth Bool
  | 0 => do
    if matchesEmpty then
      let endsInChoice ← piece
      addMany 3 0
      leave endsInChoice
      addChoices 4
      return false
    else
      let _ ← add 0
      let endsInChoice ← piece
      addChoices 1
      leave endsInChoice
      return true
  | 1 => do
    let endsInChoice ← piece
    let _ ← add 0
    leave endsInChoice
    addChoices 1
    return true
  | count + 2 => do
    let before ← copies piece (count + 1)
    let last ← piece
    let _ ← add 0
    leave before
    leave last
    addChoices 1
    return true

def between (piece : Growth Bool) (least most : Nat) : Growth Bool := do
  let before ← copies piece least
  let _ ← add 0
  optionalCopies piece (most - least) before

def hash (numbers : List Nat) (slots : Nat) : Nat :=
  let step (h : UInt64) (n : Nat) : UInt64 := (h ^^^ n.toUInt64) * 1099511628211
  (numbers.foldl step 14695981039346656037).toNat % slots

/-- A cache of states by numbers that say what is in their tables. -/
abbrev Cache := Std.HashMap Nat (List Nat × Nat)

def cached (slots tableBytes : Nat) (key : List Nat) : StateT Cache Growth Nat := do
  let slot := hash key slots
  let fresh : StateT Cache Growth Nat := do
    let number ← (add tableBytes : Growth Nat)
    modify fun cache => cache.insert slot (key, number)
    return number
  match (← get)[slot]? with
  | some (other, number) => if other = key then return number else fresh
  | none => fresh

def groupByFirst (sequences : List (List ByteRange)) :
    List (ByteRange × List (List ByteRange)) :=
  sequences.foldr (fun sequence groups =>
    match sequence, groups with
    | [], groups => groups
    | first :: rest, (other, tails) :: groups =>
      if first = other then (other, rest :: tails) :: groups
      else (first, [rest]) :: (other, tails) :: groups
    | first :: rest, [] => [(first, [rest])]) []

/-- The state from which sequences of bytes lead to a target; states of equal tables are
shared. The sequences have at most `depth` bytes. -/
def forwardState (target : Nat) : Nat → List (List ByteRange) → StateT Cache Growth Nat
  | 0, _ => return target
  | depth + 1, sequences => do
    let table ← (groupByFirst sequences).mapM fun (first, tails) => do
      let next ← if tails.all List.isEmpty then pure target
        else forwardState target depth tails
      return [first.1, first.2, next]
    cached 10000 (table.length * transitionBytes) table.flatten

def forwardClass (sequences : List (List ByteRange)) : Growth Bool := do
  let target ← add 0
  let _ ← (forwardState target 4 sequences).run ∅
  return false

/-- States that read a sequence backwards, from the target of its first byte on. -/
def backwardStates : List ByteRange → Nat → StateT Cache Growth Unit
  | [], _ => addChoices 1
  | first :: rest, target => do
    let state ← cached 1000 0 [target, first.1, first.2]
    backwardStates rest state

def backwardClass (sequences : List (List ByteRange)) : Growth Bool := do
  let _ ← add 0
  let target ← add 0
  let _ ← (sequences.forM fun sequence => backwardStates sequence target).run ∅
  return false

/-- The class of a set of characters. ASCII characters take one table. -/
def ofSet (backward : Bool) (characters : Unicode.CharSet) : Growth Bool :=
  if characters.all fun range => range.2 < 0x80 then do
    let _ ← add 0
    let _ ← add (characters.length * transitionBytes)
    return false
  else if backward then backwardClass (byteSequences characters)
  else forwardClass (byteSequences characters)

def partAtEnds : List (List Nat) → List (List (List Nat))
  | [] => [[]]
  | [] :: words => [] :: partAtEnds words
  | word :: words =>
    match partAtEnds words with
    | first :: others => (word :: first) :: others
    | [] => [[word]]

/-- Words without the ends that come again before any word has gone on. -/
def dropRepeatedEnds : List (List Nat) → List (List Nat)
  | [] :: words => [] :: words.dropWhile List.isEmpty
  | words => words

def wordsAfter (byte : Nat) (words : List (List Nat)) : List (List Nat) :=
  words.filterMap fun word => match word with
    | first :: rest => if first = byte then some rest else none
    | [] => none

def addExtents (a b : Extent) : Extent := ⟨a.states + b.states, a.tableBytes + b.tableBytes⟩

/-- The tree of words of at most `depth` bytes, without the end that all words share. -/
def wordTree : Nat → List (List Nat) → Extent
  | 0, _ => {}
  | depth + 1, words =>
    if words.all List.isEmpty then {}
    else
      let chunks := partAtEnds (dropRepeatedEnds words)
      let ofChunk (chunk : List (List Nat)) : Extent :=
        let bytes := (chunk.filterMap List.head?).eraseDups
        let table := if bytes.length = 1 then 0 else bytes.length * transitionBytes
        (bytes.map fun byte => wordTree depth (wordsAfter byte chunk)).foldl addExtents
          ⟨1, table⟩
      let full := chunks.filter fun chunk => !chunk.isEmpty
      (full.map ofChunk).foldl addExtents
        ⟨1, (full.length + chunks.length - 1) * choiceBytes⟩

def choiceOfWords (words : List (List Nat)) : Growth Bool := do
  let extent := wordTree ((words.map List.length).foldl max 0 + 1) words
  addMany (extent.states + 1) extent.tableBytes
  return false

end Growth

end AmxTrace.Pattern
