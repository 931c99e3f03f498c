import AmxTrace.Addr

/-! # Resolved frames -/

namespace AmxTrace

/-- Limits on what a backtrace shows. -/
structure Limits where
  maxDepth : Nat := 100
  maxArguments : Nat := 10
  maxStringLength : Nat := 80
deriving DecidableEq, Repr

structure ScriptFrame where
  returnAddress : Addr := .absent
  function : Option String := none
  isPublic : Bool := false
  /-- Tag of the returned value; none for an untagged one. -/
  tag : Option String := none
  arguments : List String := []
  omittedArguments : Nat := 0
  automaton : Option String := none
  states : List String := []
  file : Option String := none
  line : Option Cell := none
  module : Option String := none
deriving DecidableEq, Repr

/-- A call of a native function. -/
structure NativeFrame where
  index : Cell := 0
  name : Option String := none
  address : Option Nat := none
  module : Option String := none
deriving DecidableEq, Repr

/-- One level of a backtrace. -/
inductive ResolvedFrame where
  | script (frame : ScriptFrame)
  | native (frame : NativeFrame)
deriving DecidableEq, Repr

def optionalText (lead : String) (text : Option String) : String :=
  text.elim "" (lead ++ ·)

namespace ScriptFrame

/-- What is said about arguments that are not shown. -/
def omittedText (count : Nat) : String :=
  "... <" ++ toString count ++ " more argument" ++ (if count = 1 then "" else "s") ++ ">"

/-- The arguments with the note on those not shown, as items of one list. -/
def argumentItems (f : ScriptFrame) : List String :=
  if f.omittedArguments = 0 then f.arguments
  else if f.arguments = [] then [omittedText f.omittedArguments]
  else f.arguments ++ [omittedText f.omittedArguments]

def signature (f : ScriptFrame) : String :=
  (if f.isPublic then "public " else "") ++ f.tag.elim "" (· ++ ":") ++
    f.function.getD "??" ++ " (" ++ ", ".intercalate f.argumentItems ++ ")"

/-- The states in angle brackets, after the automaton's name if it has one. -/
def stateText (f : ScriptFrame) : String :=
  if f.states = [] then ""
  else
    let names := ", ".intercalate f.states
    match f.automaton with
    | some automaton =>
      if automaton = "" then " <" ++ names ++ ">" else " <" ++ automaton ++ ":" ++ names ++ ">"
    | none => " <" ++ names ++ ">"

def locationText (f : ScriptFrame) : String :=
  match f.file with
  | none => ""
  | some file => " at " ++ file ++ optionalText ":" (f.line.map Cell.decimal)

def text (f : ScriptFrame) : String :=
  f.returnAddress.text ++ " in " ++ f.signature ++ f.stateText ++ f.locationText ++
    optionalText " from " f.module

end ScriptFrame

namespace NativeFrame

/-- The host address in brackets; address zero is not shown. -/
def addressText (f : NativeFrame) : String :=
  match f.address with
  | none => ""
  | some address => if address = 0 then "" else " [" ++ Hex.text 8 address ++ "]"

def text (f : NativeFrame) : String :=
  "native " ++ f.name.getD "unknown" ++ " ()" ++ f.addressText ++ optionalText " from " f.module

end NativeFrame

def ResolvedFrame.text : ResolvedFrame → String
  | .script frame => frame.text
  | .native frame => frame.text

end AmxTrace
