import AmxTrace.Command.Grammar
import AmxTrace.Text.Integer

/-! # Arguments -/

namespace AmxTrace.Command

/-- What an address is looked up for. -/
inductive Target where
  | function (name : String)
  | line (number : Int)
deriving DecidableEq, Repr

inductive Task where
  | info (file : String)
  | lookup (file address : String)
  | resolve (file source : String) (target : Target)
  | backtrace (file snapshot : String)
  | error (file snapshot : String) (code : Int)
  | locate (file : String) (directories : List String)
deriving DecidableEq, Repr

structure Invocation where
  settings : Option String := none
  task : Task
  json : Bool := false
deriving DecidableEq, Repr

/-- Names of the commands. -/
inductive TaskName where
  | info
  | lookup
  | resolve
  | backtrace
  | error
  | locate
deriving DecidableEq, Repr

namespace TaskName

def all : List TaskName := [info, lookup, resolve, backtrace, error, locate]

def text : TaskName → String
  | info => "info"
  | lookup => "lookup"
  | resolve => "resolve"
  | backtrace => "backtrace"
  | error => "error"
  | locate => "locate"

def alias? : TaskName → Option String
  | info => some "i"
  | lookup => some "l"
  | resolve => none
  | backtrace => some "bt"
  | error => some "e"
  | locate => none

def ofText? (name : String) : Option TaskName :=
  all.find? fun task => task.text == name || task.alias? == some name

end TaskName

def isPath (value : String) : Bool := value != ""

def number? (value : String) : Option Int := (Text.signed32 value.toList).toOption

def isNumber (value : String) : Bool := (number? value).isSome

def commonOptions : List OptionSpec :=
  [{ long := "config", role := .single, accepts := isPath },
    { long := "help", short := some 'h', role := .halt .help },
    { long := "version", short := some 'V', role := .halt .version }]

def jsonOption : OptionSpec := { long := "json", role := .flag }

def jsonVariable : String := "PAWNTRACE_JSON"

def filePosition : PositionSpec := { name := "file", accepts := isPath }

def snapshotPosition : PositionSpec := { name := "snapshot", accepts := isPath }

def mainGrammar : Grammar := { options := commonOptions }

def TaskName.grammar : TaskName → Grammar
  | info => ⟨commonOptions ++ [jsonOption], [filePosition]⟩
  | lookup => ⟨commonOptions ++ [jsonOption], [filePosition, { name := "address" }]⟩
  | resolve =>
    ⟨commonOptions ++
      [{ long := "file", short := some 'f', role := .single },
        { long := "function", short := some 'n', role := .single },
        { long := "line", short := some 'l', role := .single, accepts := isNumber }, jsonOption],
      [{ filePosition with name := "module" }]⟩
  | backtrace => ⟨commonOptions ++ [jsonOption], [filePosition, snapshotPosition]⟩
  | error =>
    ⟨commonOptions ++ [jsonOption],
      [filePosition, snapshotPosition,
        { name := "code", accepts := isNumber, allowsHyphen := true }]⟩
  | locate =>
    ⟨commonOptions ++
      [{ long := "path", short := some 'p', role := .repeated, accepts := isPath }, jsonOption],
      [filePosition]⟩

def target? (r : Reading) : Option Target :=
  match r.value? "function", (r.value? "line").bind number? with
  | some name, none => some (.function name)
  | none, some number => some (.line number)
  | _, _ => none

def TaskName.task? (r : Reading) : TaskName → Option Task
  | info => do some (.info (← r.value? "file"))
  | lookup => do some (.lookup (← r.value? "file") (← r.value? "address"))
  | resolve => do some (.resolve (← r.value? "module") (← r.value? "file") (← target? r))
  | backtrace => do some (.backtrace (← r.value? "file") (← r.value? "snapshot"))
  | error => do
    some (.error (← r.value? "file") (← r.value? "snapshot") (← (r.value? "code").bind number?))
  | locate => do some (.locate (← r.value? "file") (r.valuesOf "path"))

def jsonAsked (r : Reading) (variableValue : Option String) : Except Halt Bool :=
  if r.has "json" then .ok true
  else match variableValue with
    | none => .ok false
    | some "true" => .ok true
    | some "false" => .ok false
    | some _ => .error .usage

/-- What is asked for instead of a run, and of which command. -/
structure Stop where
  halt : Halt
  task : Option TaskName := none
deriving DecidableEq, Repr

def TaskName.invocation (task : TaskName) (arguments : List String) (json : Option String) :
    Except Stop Invocation := do
  let failed (halt : Halt) : Stop := { halt, task := some task }
  let r ← (task.grammar.read arguments).mapError failed
  let json ← (jsonAsked r json).mapError failed
  match task.task? r with
  | some task => pure { settings := r.value? "config", task, json }
  | none => throw (failed .usage)

def helpWord : String := "help"

def isHelpTopic (words : List String) : Bool :=
  match words with
  | [] => true
  | [word] => word == helpWord || (TaskName.ofText? word).isSome
  | _ => false

/-- Read arguments up to the name of a command, and the rest as the command asks. -/
def readFrom (json : Option String) (r : Reading) : List String → Except Stop Invocation
  | [] => throw { halt := .usage }
  | argument :: arguments =>
    let taskName? := if r.ended ∨ r.awaiting then none else TaskName.ofText? argument
    match taskName? with
    | some task => do
      let invocation ← task.invocation arguments json
      let r ← r.settle.mapError fun halt => { halt }
      pure { invocation with settings := invocation.settings.or (r.value? "config") }
    | none =>
      if argument = helpWord ∧ ¬ r.ended ∧ ¬ r.awaiting then
        throw { halt := if isHelpTopic arguments then .help else .usage }
      else do
        let r ← (r.take mainGrammar argument).mapError fun halt => { halt }
        readFrom json r arguments

/-- The invocation that arguments ask for, given the value of the variable for JSON output. -/
def invocation (arguments : List String) (json : Option String) : Except Stop Invocation :=
  readFrom json {} arguments

end AmxTrace.Command
