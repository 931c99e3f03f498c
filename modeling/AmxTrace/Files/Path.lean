import AmxTrace.Text.Parts

/-! # Paths

A path is kept as it was written. -/

namespace AmxTrace

inductive PathComponent where
  | root
  | here
  | up
  | name (text : String)
deriving DecidableEq, Repr

namespace PathComponent

def rank : PathComponent → Nat
  | root => 0
  | here => 1
  | up => 2
  | name _ => 3

/-- Order of components: by kind, and names by their characters. -/
def before : PathComponent → PathComponent → Bool
  | name a, name b => a < b
  | a, b => a.rank < b.rank

end PathComponent

namespace Path

def piecesOf (path : List Char) : List (List Char) := Text.parts (· == '/') path

/-- Whether a part means nothing where it is not in front. -/
def isIdle (piece : List Char) : Bool := piece == [] || piece == ['.']

/-- What a path starts with, and its parts after that. -/
def split (path : String) : Option PathComponent × List (List Char) :=
  match path.toList with
  | '/' :: rest => (some .root, piecesOf rest)
  | ['.'] => (some .here, [])
  | '.' :: '/' :: rest => (some .here, [] :: piecesOf rest)
  | text => (none, piecesOf text)

def leadText : Option PathComponent → List Char
  | some .root => ['/']
  | some .here => ['.']
  | _ => []

def componentOf (piece : List Char) : PathComponent :=
  if piece = ['.', '.'] then .up else .name (String.ofList piece)

def components (path : String) : List PathComponent :=
  let (lead, pieces) := split path
  lead.toList ++ (pieces.filter fun piece => !isIdle piece).map componentOf

/-- Whether two paths are alike. -/
def same (a b : String) : Bool := components a == components b

/-- Order of lists of components, a list before its continuations. -/
def componentsBefore : List PathComponent → List PathComponent → Bool
  | [], [] => false
  | [], _ :: _ => true
  | _ :: _, [] => false
  | a :: as, b :: bs => a.before b || (a == b && componentsBefore as bs)

def before (a b : String) : Bool := componentsBefore (components a) (components b)

def isAbsolute (path : String) : Bool := path.toList.head? == some '/'

def join (base path : String) : String :=
  if isAbsolute path ∨ base = "" then path
  else if base.toList.getLast? = some '/' then base ++ path
  else base ++ "/" ++ path

/-- Text of a path with a start and parts, the last part first; idle parts at the end do not
count. -/
def textOf (lead : Option PathComponent) (reversed : List (List Char)) : String :=
  String.ofList (leadText lead ++ Text.joined '/' (reversed.dropWhile isIdle).reverse)

/-- Paths around a path with a start and parts, the last part first. -/
def ancestorsOf (lead : Option PathComponent) : List (List Char) → List String
  | [] => if lead = some .here then [""] else []
  | piece :: rest =>
    if isIdle piece then ancestorsOf lead rest else textOf lead rest :: ancestorsOf lead rest

/-- Directories around a path, the nearest first, down to the root or the empty path. -/
def ancestors (path : String) : List String :=
  let (lead, pieces) := split path
  ancestorsOf lead pieces.reverse

/-- The path without its last component; the root and the empty path have no parent. -/
def parent? (path : String) : Option String := (ancestors path).head?

def fileName? (path : String) : Option String :=
  match (split path).2.reverse.dropWhile isIdle with
  | piece :: _ => if piece = ['.', '.'] then none else some (String.ofList piece)
  | [] => none

/-- What comes after the last dot of a name, unless the name starts with that dot. -/
def extension? (name : String) : Option String :=
  let characters := name.toList.reverse
  match characters.dropWhile (· != '.') with
  | _ :: before =>
    if before = [] ∨ name = ".." then none
    else some (String.ofList (characters.takeWhile (· != '.')).reverse)
  | [] => none

def shownName (path : String) : String := (fileName? path).getD path

end Path

end AmxTrace
