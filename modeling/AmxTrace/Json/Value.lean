import AmxTrace.Hex

/-! # JSON values -/

namespace AmxTrace

inductive Json where
  | null
  | bool (value : Bool)
  | integer (value : Int)
  | real (literal : String)
  | string (text : String)
  | array (items : List Json)
  | object (members : List (String × Json))
deriving Inhabited, Repr

namespace Json

/-- Value of a member of an object; of repeated members the last counts. -/
def member? (name : String) : Json → Option Json
  | object members => (members.reverse.find? fun m => m.1 == name).map (·.2)
  | _ => none

def ofOption {α : Type} (encode : α → Json) : Option α → Json
  | none => null
  | some value => encode value

def ofStrings (texts : List String) : Json := array (texts.map string)

def ofOptionString (text : Option String) : Json := ofOption string text

def escapeChar (c : Char) : List Char :=
  if c = '"' then ['\\', '"']
  else if c = '\\' then ['\\', '\\']
  else if c = '\x08' then ['\\', 'b']
  else if c = '\x0c' then ['\\', 'f']
  else if c = '\n' then ['\\', 'n']
  else if c = '\r' then ['\\', 'r']
  else if c = '\t' then ['\\', 't']
  else if c.toNat < 0x20 then ['\\', 'u'] ++ Hex.zeroFill 4 (Nat.toDigits 16 c.toNat)
  else [c]

def quote (text : String) : String :=
  String.ofList ('"' :: text.toList.flatMap escapeChar ++ ['"'])

mutual

def compact : Json → String
  | null => "null"
  | bool value => if value then "true" else "false"
  | integer value => toString value
  | real literal => literal
  | string text => quote text
  | array items => "[" ++ ",".intercalate (compactItems items) ++ "]"
  | object members => "\x7b" ++ ",".intercalate (compactMembers members) ++ "\x7d"

def compactItems : List Json → List String
  | [] => []
  | item :: items => compact item :: compactItems items

def compactMembers : List (String × Json) → List String
  | [] => []
  | (name, value) :: members => (quote name ++ ":" ++ compact value) :: compactMembers members

end

def lineBreak (level : Nat) : String := "\n" ++ String.ofList (List.replicate (2 * level) ' ')

/-- Parts between brackets, each on a line of its own one level further in. -/
def laidOut (level : Nat) (opening closing : String) (parts : List String) : String :=
  if parts = [] then opening ++ closing
  else
    opening ++ lineBreak (level + 1) ++ ("," ++ lineBreak (level + 1)).intercalate parts ++
      lineBreak level ++ closing

mutual

def prettyFrom (level : Nat) : Json → String
  | array items => laidOut level "[" "]" (prettyItems (level + 1) items)
  | object members => laidOut level "\x7b" "\x7d" (prettyMembers (level + 1) members)
  | value => compact value

def prettyItems (level : Nat) : List Json → List String
  | [] => []
  | item :: items => prettyFrom level item :: prettyItems level items

def prettyMembers (level : Nat) : List (String × Json) → List String
  | [] => []
  | (name, value) :: members =>
    (quote name ++ ": " ++ prettyFrom level value) :: prettyMembers level members

end

def pretty (value : Json) : String := prettyFrom 0 value

end Json

end AmxTrace
