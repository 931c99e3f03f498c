import AmxTrace.Unicode.Age
import AmxTrace.Unicode.CaseFolding
import AmxTrace.Unicode.ScriptExtension
import AmxTrace.Unicode.Segmentation

/-! # Character classes -/

namespace AmxTrace.Unicode

def normalizeName (name : String) : String :=
  let isSeparator (c : Char) : Bool := c == ' ' || c == '_' || c == '-'
  let plain (cs : List Char) : List Char :=
    ((cs.filter fun c => !isSeparator c && c.toNat < 0x80).map Char.toLower)
  match name.toList with
  | a :: b :: rest =>
    if (a = 'i' ∨ a = 'I') ∧ (b = 's' ∨ b = 'S') then
      let rest := plain rest
      if rest = ['c'] then "isc" else String.ofList rest
    else String.ofList (plain (a :: b :: rest))
  | short => String.ofList (plain short)

def alphabetic : CharSet := Formula.alphabetic.characters

def whiteSpace : CharSet := property "whitespace"

def decimalDigits : CharSet := category "nd"

def alphanumeric : CharSet := CharSet.union alphabetic (categories ["nd", "nl", "no"])

/-- Characters of words: letters, marks, digits, connecting punctuation and joiners. -/
def wordCharacters : CharSet :=
  CharSet.ofRanges (alphabetic ++ categories ["mn", "mc", "me", "nd", "pc"] ++
    property "joincontrol")

/-- Characters of a general category or group of categories by its plain name. -/
def generalCategory? (name : String) : Option CharSet :=
  if name = "any" then some CharSet.everything
  else if name = "ascii" then some [(0, 0x7F)]
  else if name = "assigned" then some (assignedIn generalCategories)
  else if name = "cn" ∨ name = "unassigned" then some (unassignedIn generalCategories)
  else if name = "c" ∨ name = "other" then
    some (CharSet.union (categories ["cc", "cf", "co"]) (unassignedIn generalCategories))
  else match categoryGroups.find? fun group => group.1.contains name with
    | some group => some (categories group.2)
    | none => lookup? generalCategories name

def property? (name : String) : Option CharSet :=
  (evaluate? derivedProperties name).orElse fun _ => lookup? properties name

/-- Characters of a class given by one name: a property, a general category or a script.
-/
def namedClass? (name : String) : Option CharSet :=
  let plain := normalizeName name
  (property? plain).orElse fun _ =>
    (generalCategory? plain).orElse fun _ => lookup? scripts plain

def assignedBy? (version : String) : List (List String × String) → Option CharSet
  | [] => none
  | (names, ranges) :: later =>
    if names.contains version then some (CharSet.ofTable ranges)
    else (assignedBy? version later).map (CharSet.union (CharSet.ofTable ranges))

def usedBy? (scriptName : String) : Option CharSet :=
  (lookup? extendedScripts scriptName).orElse fun _ => lookup? scripts scriptName

/-- Characters with a value of a property. The properties with values are the general
category, the script, the scripts that use a character, its age and its parts in text. -/
def valuedClass? (propertyName value : String) : Option CharSet :=
  let propertyName := normalizeName propertyName
  let value := normalizeName value
  if propertyName = "gc" ∨ propertyName = "generalcategory" then generalCategory? value
  else if propertyName = "sc" ∨ propertyName = "script" then lookup? scripts value
  else if propertyName = "scx" ∨ propertyName = "scriptextensions" then usedBy? value
  else if propertyName = "age" then assignedBy? value ages
  else if propertyName = "gcb" ∨ propertyName = "graphemeclusterbreak" then
    evaluate? graphemeBreaks value
  else if propertyName = "wb" ∨ propertyName = "wordbreak" then evaluate? wordBreaks value
  else if propertyName = "sb" ∨ propertyName = "sentencebreak" then
    evaluate? sentenceBreaks value
  else none

def caseGroups : List (List Nat) := CharSet.tableWords foldingGroups

/-- A set with every character that differs in case only from one of its own. -/
def closeUnderCase (s : CharSet) : CharSet :=
  let added := (caseGroups.filter fun group => group.any s.mem).flatten
  CharSet.ofRanges (s ++ added.map fun c => (c, c))

end AmxTrace.Unicode
