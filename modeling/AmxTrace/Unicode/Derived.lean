import AmxTrace.Unicode.CharSet
import AmxTrace.Unicode.GeneralCategory
import AmxTrace.Unicode.Property
import AmxTrace.Unicode.Script

/-! # Derived properties -/

namespace AmxTrace.Unicode

def lookup? (table : List (List String × String)) (name : String) : Option CharSet :=
  (table.find? fun entry => entry.1.contains name).map fun entry => CharSet.ofTable entry.2

/-- Characters of a listed property, which must be in the table. -/
def property (name : String) : CharSet := (lookup? properties name).getD []

def category (name : String) : CharSet := (lookup? generalCategories name).getD []

def script (name : String) : CharSet := (lookup? scripts name).getD []

def categories (names : List String) : CharSet := CharSet.ofRanges (names.flatMap category)

/-- A set of characters said through the tables. -/
inductive Formula where
  | set (characters : CharSet)
  | table (ranges : String)
  | categories (names : List String)
  | property (name : String)
  | script (name : String)
  | unassigned
  | either (first second : Formula)
  | without (first second : Formula)

/-- Code points that are never characters. -/
def surrogates : CharSet := [(0xD800, 0xDFFF)]

/-- Characters that have been assigned, given the table of general categories. -/
def assignedIn (table : List (List String × String)) : CharSet :=
  CharSet.ofRanges (table.flatMap fun entry => CharSet.ofTable entry.2)

/-- Characters that have not been assigned, given the table of general categories. -/
def unassignedIn (table : List (List String × String)) : CharSet :=
  (CharSet.union (assignedIn table) surrogates).complement

def Formula.characters : Formula → CharSet
  | set characters => characters
  | table ranges => CharSet.ofTable ranges
  | categories names => Unicode.categories names
  | property name => Unicode.property name
  | script name => Unicode.script name
  | unassigned => unassignedIn generalCategories
  | either first second => CharSet.union first.characters second.characters
  | without first second => CharSet.diff first.characters second.characters

namespace Formula

/-- Letters in lower case and characters like them. -/
def lowercase : Formula := .either (.categories ["ll"]) (.property "olower")

/-- Letters in upper case and characters like them. -/
def uppercase : Formula := .either (.categories ["lu"]) (.property "oupper")

def alphabetic : Formula :=
  .either (.either lowercase uppercase)
    (.either (.categories ["lt", "lm", "lo", "nl"]) (.property "oalpha"))

def cased : Formula := .either (.either lowercase uppercase) (.categories ["lt"])

def midLetter : Formula := .table "3a b7 387 55f 5f4 2027 fe13 fe55 ff1a"

def midLetterOrNumber : Formula := .table "2e 2018-2019 2024 fe52 ff07 ff0e"

def singleQuote : Formula := .set [(0x27, 0x27)]

/-- Characters between others that change their case together. -/
def caseIgnorable : Formula :=
  .either (.categories ["mn", "me", "cf", "lm", "sk"])
    (.either midLetter (.either midLetterOrNumber singleQuote))

def math : Formula := .either (.categories ["sm"]) (.property "omath")

def graphemeExtend : Formula := .either (.categories ["me", "mn"]) (.property "ogrext")

def graphemeBase : Formula :=
  .without (.set CharSet.everything)
    (.either (.either (.categories ["cc", "cf", "co", "zl", "zp"]) (.set surrogates))
      (.either .unassigned graphemeExtend))

def patternCharacters : Formula := .either (.property "patsyn") (.property "patws")

def idStart : Formula :=
  .without (.either (.categories ["lu", "ll", "lt", "lm", "lo", "nl"]) (.property "oids"))
    patternCharacters

def idContinue : Formula :=
  .without
    (.either idStart (.either (.categories ["mn", "mc", "nd", "pc"]) (.property "oidc")))
    patternCharacters

/-- Characters of names whose compatible form is not of a name. -/
def incompatible : Formula :=
  .table "37a 309b-309c fc5e-fc63 fdfa-fdfb fe70 fe72 fe74 fe76 fe78 fe7a fe7c fe7e"

/-- Characters that may start a name in every compatible form. -/
def xidStart : Formula :=
  .without idStart (.either incompatible (.table "e33 eb3 ff9e-ff9f"))

/-- Characters that may stand in a name in every compatible form. -/
def xidContinue : Formula := .without idContinue incompatible

def defaultIgnorable : Formula :=
  .without
    (.either (.property "odi") (.either (.categories ["cf"]) (.property "vs")))
    (.either (.either (.property "wspace") (.property "pcm"))
      (.set [(0xFFF9, 0xFFFB), (0x13430, 0x13440)]))

/-- Characters with another titlecase form: those with another uppercase form, save the ones
that are their own titlecase form, and the ones that are their uppercase form only. -/
def changesWhenTitlecased : Formula :=
  .without (.either (.property "cwu") (.table "1c4 1c7 1ca 1f1"))
    (.table "1c5 1c8 1cb 1f2 10d0-10fa 10fd-10ff 1f88-1f8f 1f98-1f9f 1fa8-1faf 1fbc 1fcc 1ffc")

/-- Characters with another form in one of the three cases. -/
def changesWhenCasemapped : Formula :=
  .either (.property "cwl") (.either (.property "cwu") changesWhenTitlecased)

/-- Characters that fold to others: those with another lowercase form, save the letters that
fold to uppercase, and lowercase characters that fold to others. -/
def changesWhenCasefolded : Formula :=
  .without
    (.either (.property "cwl")
      (.table "b5 df 149 17f 345 3c2 3d0-3d1 3d5-3d6 3f0-3f1 3f5 587 13f8-13fd 1c80-1c88
        1e9a-1e9b 1f80-1f87 1f90-1f97 1fa0-1fa7 1fb2-1fb4 1fb7 1fc2-1fc4 1fc7 1ff2-1ff4 1ff7
        ab70-abbf fb00-fb06 fb13-fb17"))
    (.set [(0x13A0, 0x13F5)])

end Formula

/-- Names and formulas of yes-or-no properties that follow from the tables. -/
def derivedProperties : List (List String × Formula) :=
  [(["alpha", "alphabetic"], .alphabetic),
   (["lower", "lowercase"], .lowercase),
   (["upper", "uppercase"], .uppercase),
   (["cased"], .cased),
   (["ci", "caseignorable"], .caseIgnorable),
   (["math"], .math),
   (["grext", "graphemeextend"], .graphemeExtend),
   (["grbase", "graphemebase"], .graphemeBase),
   (["ids", "idstart"], .idStart),
   (["idc", "idcontinue"], .idContinue),
   (["xids", "xidstart"], .xidStart),
   (["xidc", "xidcontinue"], .xidContinue),
   (["di", "defaultignorablecodepoint"], .defaultIgnorable),
   (["cwt", "changeswhentitlecased"], .changesWhenTitlecased),
   (["cwcm", "changeswhencasemapped"], .changesWhenCasemapped),
   (["cwcf", "changeswhencasefolded"], .changesWhenCasefolded)]

def evaluate? (table : List (List String × Formula)) (name : String) : Option CharSet :=
  (table.find? fun entry => entry.1.contains name).map fun entry => entry.2.characters

end AmxTrace.Unicode
