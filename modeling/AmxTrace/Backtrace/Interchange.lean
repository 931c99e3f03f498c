import AmxTrace.Backtrace.Resolved
import AmxTrace.Json.Decode

/-! # Resolved frames in JSON -/

namespace AmxTrace

namespace Addr

def toJson (a : Addr) : Json := Json.ofOption (fun c => .integer c.toInt) a.get?

/-- An address read from JSON; zero and null are absent. -/
def ofJson? (value : Json) : Option Addr := (Json.nullable? Json.cell? value).map Addr.ofOption

end Addr

namespace ScriptFrame

def fieldNames : List String :=
  ["return_address", "function", "public", "tag", "arguments", "omitted_arguments", "automaton",
   "states", "file", "line", "module"]

def fieldValues (f : ScriptFrame) : List Json :=
  [f.returnAddress.toJson, Json.ofOptionString f.function, .bool f.isPublic,
   Json.ofOptionString f.tag, Json.ofStrings f.arguments, .integer f.omittedArguments,
   Json.ofOptionString f.automaton, Json.ofStrings f.states, Json.ofOptionString f.file,
   Json.ofOption (fun c => .integer c.toInt) f.line, Json.ofOptionString f.module]

def members (f : ScriptFrame) : List (String × Json) := fieldNames.zip f.fieldValues

/-- An address field, which an object may leave out. -/
def addressField? (f : Json.Fields) (index : Nat) : Option Addr :=
  (f.optional? index Json.cell?).map Addr.ofOption

def ofJson? (value : Json) : Option ScriptFrame := do
  let f ← Json.fields? fieldNames value
  let returnAddress ← addressField? f 0
  let function ← f.optional? 1 Json.text?
  let isPublic ← f.required? 2 Json.bool?
  let tag ← f.optional? 3 Json.text?
  let arguments ← f.required? 4 (Json.listOf? Json.text?)
  let omittedArguments ← f.required? 5 Json.size?
  let automaton ← f.optional? 6 Json.text?
  let states ← f.required? 7 (Json.listOf? Json.text?)
  let file ← f.optional? 8 Json.text?
  let line ← f.optional? 9 Json.cell?
  let module ← f.optional? 10 Json.text?
  pure { returnAddress, function, isPublic, tag, arguments, omittedArguments, automaton,
         states, file, line, module }

end ScriptFrame

namespace NativeFrame

def fieldNames : List String := ["index", "name", "address", "module"]

def fieldValues (f : NativeFrame) : List Json :=
  [.integer f.index.toInt, Json.ofOptionString f.name,
   Json.ofOption (fun n : Nat => .integer n) f.address, Json.ofOptionString f.module]

def members (f : NativeFrame) : List (String × Json) := fieldNames.zip f.fieldValues

def ofJson? (value : Json) : Option NativeFrame := do
  let f ← Json.fields? fieldNames value
  let index ← f.required? 0 Json.cell?
  let name ← f.optional? 1 Json.text?
  let address ← f.optional? 2 Json.size?
  let module ← f.optional? 3 Json.text?
  pure { index, name, address, module }

end NativeFrame

namespace ResolvedFrame

def toJson : ResolvedFrame → Json
  | .script frame => .object (("kind", .string "script") :: frame.members)
  | .native frame => .object (("kind", .string "native") :: frame.members)

def ofKind? (kind : String) (fields : Json) : Option ResolvedFrame :=
  if kind = "script" then (ScriptFrame.ofJson? fields).map .script
  else if kind = "native" then (NativeFrame.ofJson? fields).map .native
  else none

def ofJson? : Json → Option ResolvedFrame
  | .object members => do
    let kind ← Json.givenOnce? members "kind"
    let kind ← kind.bind Json.text?
    ofKind? kind (.object (members.filter fun m => m.1 != "kind"))
  | .array (.string kind :: fields) => ofKind? kind (.array fields)
  | _ => none

def listToJson (frames : List ResolvedFrame) : Json := .array (frames.map toJson)

def listOfJson? : Json → Option (List ResolvedFrame) := Json.listOf? ofJson?

end ResolvedFrame

end AmxTrace
