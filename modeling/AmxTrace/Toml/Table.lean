/-! # TOML values and tables

A table is opened by at most one header, a value is given once, and a dotted key may only add to
tables that dotted keys made. -/

namespace AmxTrace.Toml

/-- How a table came to be. -/
inductive TableForm where
  | inline
  | header
  /-- On the way to a table opened by a header. -/
  | implicit
  /-- On the way to a value with a dotted key. -/
  | dotted
deriving DecidableEq, Repr

inductive Value where
  | string (text : String)
  | integer (value : Int)
  | float (literal : String)
  | boolean (value : Bool)
  | time (literal : String)
  | array (items : List Value)
  | table (form : TableForm) (members : List (String × Value))
  /-- A list of tables, each opened by a header of its own. -/
  | tables (items : List (List (String × Value)))
deriving Repr

/-- Named values of a table, in the order they were given. -/
abbrev Members := List (String × Value)

namespace Members

def find? (members : Members) (name : String) : Option Value :=
  (List.find? (fun m => m.1 == name) members).map (·.2)

def replace (members : Members) (name : String) (value : Value) : Members :=
  members.map fun m => if m.1 = name then (name, value) else m

def add (members : Members) (name : String) (value : Value) : Members :=
  members ++ [(name, value)]

end Members

/-- Whether a dotted key may go through a table of a form; to add a value to it, the table
must have been made by a dotted key itself. -/
def TableForm.openToDotted (form : TableForm) (isLast : Bool) : Bool :=
  match form with
  | dotted => true
  | implicit => !isLast
  | header => false
  | inline => false

namespace Members

def give? (key : String) (value : Value) (members : Members) : Option Members :=
  match members.find? key with
  | none => some (members.add key value)
  | some _ => none

def giveDotted? (key : String) (value : Value) : List String → Members → Option Members
  | [], members => members.give? key value
  | step :: path, members =>
    match members.find? step with
    | none =>
      (giveDotted? key value path []).map fun inner => members.add step (.table .dotted inner)
    | some (.table form inner) =>
      if form.openToDotted path.isEmpty then
        (giveDotted? key value path inner).map fun inner => members.replace step (.table form inner)
      else none
    | some (.tables items) =>
      if path.isEmpty then none
      else do
        let last ← items.getLast?
        let last ← giveDotted? key value path last
        some (members.replace step (.tables (items.dropLast ++ [last])))
    | some _ => none

/-- Change the table at the end of a header's path; of a list of tables the last counts. -/
def changeAt? (change : Members → Option Members) : List String → Members → Option Members
  | [], members => change members
  | step :: path, members =>
    match members.find? step with
    | none => (changeAt? change path []).map fun inner => members.add step (.table .implicit inner)
    | some (.table form inner) =>
      if form = .inline then none
      else (changeAt? change path inner).map fun inner => members.replace step (.table form inner)
    | some (.tables items) => do
      let last ← items.getLast?
      let last ← changeAt? change path last
      some (members.replace step (.tables (items.dropLast ++ [last])))
    | some _ => none

def openTable? (key : String) (members : Members) : Option Members :=
  match members.find? key with
  | none => some (members.add key (.table .header []))
  | some (.table .implicit inner) => some (members.replace key (.table .header inner))
  | some _ => none

/-- Open one more table of a list of tables by a header. -/
def openListed? (key : String) (members : Members) : Option Members :=
  match members.find? key with
  | none => some (members.add key (.tables [[]]))
  | some (.tables items) => some (members.replace key (.tables (items ++ [[]])))
  | some _ => none

end Members

/-- A key: the steps to a table and a name in it. -/
structure Key where
  path : List String
  name : String
deriving DecidableEq, Repr

def Key.full (key : Key) : List String := key.path ++ [key.name]

/-- One expression of a document. -/
inductive Statement where
  | assignment (key : Key) (value : Value)
  | header (key : Key)
  | listHeader (key : Key)

def tableOf? (assignments : List (Key × Value)) : Option Members :=
  assignments.foldlM (fun members a => members.giveDotted? a.1.name a.2 a.1.path) []

/-- A document under construction: its table and the way to the table that was opened last. -/
structure Draft where
  root : Members := []
  current : List String := []

def Draft.add? (draft : Draft) : Statement → Option Draft
  | .assignment key value => do
    let root ← draft.root.changeAt? (Members.giveDotted? key.name value key.path) draft.current
    some { draft with root }
  | .header key => do
    let root ← draft.root.changeAt? (Members.openTable? key.name) key.path
    some { root, current := key.full }
  | .listHeader key => do
    let root ← draft.root.changeAt? (Members.openListed? key.name) key.path
    some { root, current := key.full }

def ofStatements? (statements : List Statement) : Option Members :=
  (statements.foldlM Draft.add? {}).map (·.root)

end AmxTrace.Toml
