import AmxTrace.Pattern.Compiler
import AmxTrace.Settings
import AmxTrace.Toml.Parser

/-! # The languages of settings files -/

namespace AmxTrace

namespace Toml.Value

def text? : Value → Option String
  | string text => some text
  | _ => none

def natural? : Value → Option Nat
  | integer n => if 0 ≤ n then some n.toNat else none
  | _ => none

def texts? : Value → Option (List String)
  | array items => items.mapM text?
  | _ => none

def section? (names : List String) : Value → Option (List (Option Value))
  | table _ members =>
    if members.all fun m => names.contains m.1 then some (names.map (Members.find? members))
    else none
  | array items =>
    if names.length ≤ items.length then some ((items.take names.length).map some) else none
  | _ => none

end Toml.Value

def optionalField? {α : Type} (decode : Toml.Value → Option α) :
    Option Toml.Value → Option (Option α)
  | none => some none
  | some value => (decode value).map some

def LimitSettings.ofToml? (value : Toml.Value) : Option LimitSettings := do
  match ← value.section? ["max_depth", "max_arguments", "max_string_length"] with
  | [depth, arguments, length] =>
    some {
      maxDepth := ← optionalField? Toml.Value.natural? depth
      maxArguments := ← optionalField? Toml.Value.natural? arguments
      maxStringLength := ← optionalField? Toml.Value.natural? length }
  | _ => none

def SearchSettings.ofToml? (value : Toml.Value) : Option SearchSettings := do
  match ← value.section? ["paths"] with
  | [paths] => some { paths := ← optionalField? Toml.Value.texts? paths }
  | _ => none

namespace Settings

def ofToml? (document : Toml.Members) : Option Settings := do
  match ← (Toml.Value.table .header document).section?
      ["trace", "trace_filter", "backtrace", "search"] with
  | [trace, traceFilter, backtrace, search] =>
    some {
      trace := ← optionalField? Toml.Value.text? trace
      traceFilter := ← optionalField? Toml.Value.text? traceFilter
      backtrace := ← optionalField? LimitSettings.ofToml? backtrace
      search := ← optionalField? SearchSettings.ofToml? search }
  | _ => none

end Settings

/-- Settings written in TOML, and regular expressions that are searched for in lines. -/
def Languages.standard : Languages where
  settings text :=
    match (Toml.parse? text).bind Settings.ofToml? with
    | some settings => .ok settings
    | none => .error "the text is no settings file"
  pattern text :=
    match Pattern.compile text with
    | .ok expression => .ok expression.occursIn
    | .error refusal => .error refusal.message

end AmxTrace
