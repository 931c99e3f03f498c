import AmxTrace.Pattern.Growth

/-! # Size of patterns

A pattern is refused when its automaton would take too much memory. -/

namespace AmxTrace.Pattern

open Growth

/-- Where a piece stands in a choice: in none, behind the first branch, which may end in a
choice of its own, or behind more branches. -/
inductive Place where
  | alone
  | second (firstEndsInChoice : Bool)
  | later

/-- Put a piece into the choice it stands in. The second branch makes the choice, with its
common end. -/
def Place.settle (place : Place) (endsInChoice : Bool) : Growth Bool := do
  match place with
  | alone => return endsInChoice
  | second firstEndsInChoice => do
    addMany 2 0
    addChoices 2
    leave firstEndsInChoice
    leave endsInChoice
    return false
  | later => do
    addChoices 1
    leave endsInChoice
    return false

def encodeText (characters : List Char) : List Nat :=
  characters.flatMap fun c => encode c.toNat

def Expression.words? : Expression → Option (List (List Nat))
  | text characters => some [encodeText characters]
  | alternatives first rest => do return (← first.words?) ++ (← rest.words?)
  | _ => none

/-- Build an expression, which tells whether it ends in a choice that can still grow. -/
def Expression.build (backward : Bool) : Expression → Place → Growth Bool
  | empty, place => do
    let _ ← add 0
    place.settle false
  | text characters, place => do
    addMany (encodeText characters).length 0
    place.settle false
  | set _ characters, place => do
    place.settle (← Growth.ofSet backward characters)
  | condition _, place => do
    let _ ← add 0
    place.settle false
  | repetition least most _ inner, place => do
    let piece := inner.build backward .alone
    let matchesEmpty := !(inner.minLength.any fun length => 0 < length)
    let endsInChoice ← match most with
      | none => atLeast piece matchesEmpty least
      | some most =>
        if least = most then copies piece least
        else if least = 0 ∧ most = 1 then do
          let _ ← add 0
          let endsInChoice ← piece
          let _ ← add 0
          addChoices 2
          leave endsInChoice
          pure false
        else between piece least most
    place.settle endsInChoice
  | capture _ inner, place => do
    if backward then place.settle (← inner.build backward .alone)
    else
      let _ ← add 0
      let endsInChoice ← inner.build backward .alone
      let _ ← add 0
      leave endsInChoice
      place.settle false
  | sequence first rest, place => do
    if backward then
      let endsInChoice ← rest.build backward .alone
      let firstEndsInChoice ← first.build backward .alone
      leave endsInChoice
      place.settle firstEndsInChoice
    else
      let endsInChoice ← first.build backward .alone
      let restEndsInChoice ← rest.build backward .alone
      leave endsInChoice
      place.settle restEndsInChoice
  | alternatives first rest, place => do
    match place with
    | .alone =>
      match (alternatives first rest).words? with
      | some words => choiceOfWords (if backward then words.map List.reverse else words)
      | none =>
        let endsInChoice ← first.build backward .alone
        rest.build backward (.second endsInChoice)
    | place =>
      let _ ← place.settle (← first.build backward .alone)
      rest.build backward .later

/-- The automaton of a whole pattern. Unless the pattern is tied to the side where reading
starts, it begins with a loop over all bytes. The forward automaton marks the whole match. -/
def Expression.automaton (backward : Bool) (expression : Expression) : Growth Unit := do
  if if backward then expression.endsText else expression.startsText then
    let _ ← add 0
  else
    addMany 3 transitionBytes
    addChoices 2
  let endsInChoice ← (if backward then expression else .capture 0 expression).build
    backward .alone
  let _ ← add 0
  leave endsInChoice

def Expression.fits (expression : Expression) : Bool :=
  ((expression.automaton false).run {}).isSome && ((expression.automaton true).run {}).isSome

end AmxTrace.Pattern
