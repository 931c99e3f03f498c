import AmxTrace.Cell
import AmxTrace.Json.Value

/-! # Records in JSON

A record is given as an object, or as the list of its fields in order. -/

namespace AmxTrace.Json

def intBetween? (low high : Int) : Json → Option Int
  | integer n => if low ≤ n ∧ n ≤ high then some n else none
  | _ => none

def cell? (value : Json) : Option Cell :=
  (intBetween? (-0x80000000) 0x7FFFFFFF value).map Int32.ofInt

def size? (value : Json) : Option Nat :=
  (intBetween? 0 0xFFFFFFFFFFFFFFFF value).map Int.toNat

def bool? : Json → Option Bool
  | bool value => some value
  | _ => none

def text? : Json → Option String
  | string text => some text
  | _ => none

def listOf? {α : Type} (decode : Json → Option α) : Json → Option (List α)
  | array items => items.mapM decode
  | _ => none

def nullable? {α : Type} (decode : Json → Option α) : Json → Option (Option α)
  | null => some none
  | value => (decode value).map some

structure Fields where
  named : Bool
  /-- Each field of the record in order, if it was given. -/
  given : List (Option Json)

def valuesOf (name : String) (members : List (String × Json)) : List Json :=
  (members.filter fun m => m.1 == name).map (·.2)

def givenOnce? (members : List (String × Json)) (name : String) : Option (Option Json) :=
  match valuesOf name members with
  | [] => some none
  | [value] => some (some value)
  | _ => none

def fields? (names : List String) : Json → Option Fields
  | object members => (names.mapM (givenOnce? members)).map fun given => ⟨true, given⟩
  | array items =>
    if items.length ≤ names.length then
      some ⟨false, items.map some ++ List.replicate (names.length - items.length) none⟩
    else none
  | _ => none

namespace Fields

def at? (f : Fields) (index : Nat) : Option Json := (f.given[index]?).join

def required? {α : Type} (f : Fields) (index : Nat) (decode : Json → Option α) : Option α :=
  (f.at? index).bind decode

def defaulted? {α : Type} (f : Fields) (index : Nat) (default : α) (decode : Json → Option α) :
    Option α :=
  match f.at? index with
  | none => some default
  | some value => decode value

def optional? {α : Type} (f : Fields) (index : Nat) (decode : Json → Option α) :
    Option (Option α) :=
  match f.at? index with
  | none => if f.named then some none else none
  | some value => nullable? decode value

end Fields

/-- A constant named by a string, or by an object with that name and null. -/
def constant? (value : Json) : Option String :=
  match value with
  | string name => some name
  | object [(name, null)] => some name
  | _ => none

end AmxTrace.Json
