/-! # Command grammar -/

namespace AmxTrace.Command

/-- What is asked for instead of a run. -/
inductive Halt where
  | usage
  | help
  | version
deriving DecidableEq, Repr

inductive OptionRole where
  | single
  | repeated
  | flag
  | halt (halt : Halt)
deriving DecidableEq, Repr

/-- An option with its names and the values it accepts. -/
structure OptionSpec where
  long : String
  short : Option Char := none
  role : OptionRole
  accepts : String → Bool := fun _ => true

def OptionSpec.takesValue (o : OptionSpec) : Bool := o.role == .single || o.role == .repeated

/-- A position with the values it accepts. -/
structure PositionSpec where
  name : String
  accepts : String → Bool := fun _ => true
  /-- Whether a value may start with a hyphen. -/
  allowsHyphen : Bool := false

/-- Options and positions of a command. -/
structure Grammar where
  options : List OptionSpec
  positions : List PositionSpec := []

/-- A value on its way to a name. -/
structure Pending where
  name : String
  value : Option String
  accepts : String → Bool
  repeated : Bool

/-- Arguments read so far. -/
structure Reading where
  /-- Values by name, in the order they were given. -/
  given : List (String × String) := []
  pending : Option Pending := none
  /-- Whether the next argument is the value of the option before it. -/
  awaiting : Bool := false
  position : Nat := 0
  ended : Bool := false

namespace Grammar

def long? (g : Grammar) (name : String) : Option OptionSpec :=
  g.options.find? fun o => o.long == name

def short? (g : Grammar) (letter : Char) : Option OptionSpec :=
  g.options.find? fun o => o.short == some letter

def allowsHyphen (g : Grammar) (r : Reading) : Bool :=
  (g.positions[r.position]?).any (·.allowsHyphen)

end Grammar

namespace Reading

def valuesOf (r : Reading) (name : String) : List String :=
  (r.given.filter fun entry => entry.1 == name).map (·.2)

def value? (r : Reading) (name : String) : Option String := (r.valuesOf name).head?

def has (r : Reading) (name : String) : Bool := (r.value? name).isSome

/-- Let a pending value count, if it is there, accepted, and not the second of its name. -/
def settle (r : Reading) : Except Halt Reading :=
  match r.pending with
  | none => .ok r
  | some p =>
    match p.value with
    | none => .error .usage
    | some value =>
      if p.accepts value ∧ (p.repeated ∨ ¬ r.has p.name) then
        .ok { r with given := r.given ++ [(p.name, value)], pending := none }
      else .error .usage

def begin (r : Reading) (p : Pending) : Except Halt Reading := do
  let r ← r.settle
  pure { r with pending := some p, awaiting := false }

def takeOption (r : Reading) (o : OptionSpec) (attached : Option String) : Except Halt Reading := do
  let r ← r.begin ⟨o.long, attached, o.accepts, o.role == .repeated⟩
  match attached with
  | some _ => r.settle
  | none => pure { r with awaiting := true }

def takeFlag (r : Reading) (o : OptionSpec) : Except Halt Reading := do
  let r ← r.settle
  match o.role with
  | .halt halt => throw halt
  | _ => do
    let r ← r.begin ⟨o.long, some "true", o.accepts, false⟩
    r.settle

/-- An argument that is no option: the value of the option before it, or of a position. -/
def takeValue (g : Grammar) (r : Reading) (value : String) : Except Halt Reading :=
  match r.awaiting, r.pending with
  | true, some p => .ok { r with pending := some { p with value := some value }, awaiting := false }
  | _, _ =>
    match g.positions[r.position]? with
    | none => .error .usage
    | some position => do
      let r ← r.begin ⟨position.name, some value, position.accepts, false⟩
      pure { r with position := r.position + 1 }

/-- Short options in one argument, after the hyphen. -/
def takeLetters (g : Grammar) (r : Reading) : List Char → Except Halt Reading
  | [] => .ok r
  | letter :: rest =>
    match g.short? letter with
    | none => .error .usage
    | some o =>
      if o.takesValue then
        r.takeOption o (match rest with
          | [] => none
          | '=' :: value => some (String.ofList value)
          | value => some (String.ofList value))
      else do
        let r ← r.takeFlag o
        takeLetters g r rest

/-- A long option, after the hyphens, with a value attached by an equals sign if there is one. -/
def takeLong (g : Grammar) (r : Reading) (argument : String) (text : List Char) :
    Except Halt Reading :=
  let name := String.ofList (text.takeWhile (· != '='))
  let attached := match text.dropWhile (· != '=') with
    | _ :: value => some (String.ofList value)
    | [] => none
  if name = "" then .error .usage
  else match g.long? name with
    | none => if g.allowsHyphen r then takeValue g r argument else .error .usage
    | some o =>
      if o.takesValue then r.takeOption o attached
      else if attached.isSome then .error .usage
      else r.takeFlag o

def take (g : Grammar) (r : Reading) (argument : String) : Except Halt Reading :=
  if r.ended then takeValue g { r with awaiting := false } argument
  else match argument.toList with
    | ['-', '-'] => .ok { r with ended := true }
    | '-' :: '-' :: text => takeLong g r argument text
    | '-' :: letter :: letters =>
      if g.allowsHyphen r ∧ (letter :: letters).any (fun c => (g.short? c).isNone) then
        takeValue g r argument
      else takeLetters g r (letter :: letters)
    | _ => takeValue g r argument

end Reading

def Grammar.read (g : Grammar) (arguments : List String) : Except Halt Reading := do
  (← arguments.foldlM (Reading.take g) {}).settle

end AmxTrace.Command
