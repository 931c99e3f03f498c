import AmxTrace.Text.Parts

/-! # Call traces -/

namespace AmxTrace

/-- Events of a running script that can be traced. -/
inductive TraceEvent where
  | nativeCall
  | publicCall
  | functionEntry
deriving DecidableEq, Repr

inductive LogEntry where
  | traced (event : TraceEvent) (line : String)
  | reported (line : String)
  | noted (line : String)
deriving DecidableEq, Repr

namespace LogEntry

def text : LogEntry → String
  | traced _ line => "INFO [trace] " ++ line
  | reported line => "ERROR " ++ line
  | noted line => "DEBUG " ++ line

end LogEntry

structure TraceFlags where
  natives : Bool := false
  publics : Bool := false
  functions : Bool := false
deriving DecidableEq, Repr

namespace TraceFlags

/-- The flags with one letter added. Blanks add nothing. -/
def addLetter? (flags : TraceFlags) (letter : Char) : Option TraceFlags :=
  if letter = 'n' then some { flags with natives := true }
  else if letter = 'p' then some { flags with publics := true }
  else if letter = 'f' then some { flags with functions := true }
  else if Text.isBlank letter then some flags
  else none

def addLetters (flags : TraceFlags) : List Char → Except Char TraceFlags
  | [] => .ok flags
  | letter :: letters =>
    match flags.addLetter? letter with
    | some flags => addLetters flags letters
    | none => .error letter

/-- Flags written as letters, or the first letter that is none. -/
def parse (text : String) : Except Char TraceFlags := addLetters {} text.toList

def letters (flags : TraceFlags) : List Char :=
  (if flags.natives then ['n'] else []) ++ (if flags.publics then ['p'] else []) ++
    (if flags.functions then ['f'] else [])

def text (flags : TraceFlags) : String := String.ofList flags.letters

def any (flags : TraceFlags) : Bool := flags.natives || flags.publics || flags.functions

def has (flags : TraceFlags) : TraceEvent → Bool
  | .nativeCall => flags.natives
  | .publicCall => flags.publics
  | .functionEntry => flags.functions

def all : TraceFlags := ⟨true, true, true⟩

end TraceFlags

/-- A choice of lines, with the text it is shown as. -/
structure LineFilter where
  text : String
  accepts : String → Bool

namespace LineFilter

/-- The filter that accepts the lines in which a pattern occurs, or why the pattern is refused. -/
def ofPattern (compile : String → Except String (String → Bool)) (pattern : String) :
    Except String LineFilter :=
  (compile pattern).map fun accepts => { text := pattern, accepts }

def same (a b : LineFilter) : Bool := a.text == b.text

end LineFilter

end AmxTrace
