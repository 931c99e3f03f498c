import AmxTrace.Files.Path
import AmxTrace.Reader
import AmxTrace.Segment
import AmxTrace.Text.Utf8

/-! # File trees -/

namespace AmxTrace

/-- What stands at a place. -/
inductive FileNode where
  | directory
  | file (content : ByteArray) (modified : Int)

/-- Names from the root to an entry. -/
abbrev Place := List String

/-- Directories and files with the places they stand at. -/
structure FileTree where
  /-- Where paths that do not start at the root start. -/
  workingDirectory : Place := []
  entries : List (Place × FileNode) := []

namespace FileTree

/-- Greatest number of bytes of a name. -/
def nameLimit : Nat := 255

/-- What stands at a place; the root is always there. -/
def nodeAt? (tree : FileTree) (place : Place) : Option FileNode :=
  if place = [] then some .directory
  else (tree.entries.find? fun entry => entry.1 == place).map (·.2)

/-- Follow the parts of a path from a place. -/
def follow (tree : FileTree) : Place → List (List Char) → Except ReadFault Place
  | place, [] => .ok place
  | place, piece :: pieces =>
    match tree.nodeAt? place with
    | none => .error .missing
    | some (.file _ _) => .error .notDirectory
    | some .directory =>
      let name := String.ofList piece
      if Path.isIdle piece then follow tree place pieces
      else if name = ".." then follow tree place.dropLast pieces
      else if nameLimit < name.utf8ByteSize then .error .nameTooLong
      else follow tree (place ++ [name]) pieces

/-- Place that a path leads to, whether or not anything stands there. -/
def place (tree : FileTree) (path : String) : Except ReadFault Place :=
  if path = "" then .error .missing
  else
    follow tree (if Path.isAbsolute path then [] else tree.workingDirectory)
      (Path.piecesOf path.toList)

def node (tree : FileTree) (path : String) : Except ReadFault FileNode := do
  match tree.nodeAt? (← tree.place path) with
  | some node => pure node
  | none => throw .missing

def exists? (tree : FileTree) (path : String) : Bool := (tree.node path).toOption.isSome

def isDirectory (tree : FileTree) (path : String) : Bool :=
  match tree.node path with
  | .ok .directory => true
  | _ => false

def read (tree : FileTree) (path : String) : Except ReadFault ByteArray := do
  match ← tree.node path with
  | .directory => throw .isDirectory
  | .file content _ => pure content

def readText (tree : FileTree) (path : String) : Except ReadFault String := do
  match Utf8.decode? (Segment.bytes (← tree.read path)) with
  | some text => pure text
  | none => throw .notText

/-- Name of an entry that stands directly in a directory. -/
def childName? (directory place : Place) : Option String :=
  match place.getLast? with
  | some name => if place.dropLast = directory then some name else none
  | none => none

/-- Names and nodes of the entries of a directory. -/
def children (tree : FileTree) (path : String) : List (String × FileNode) :=
  match tree.place path with
  | .error _ => []
  | .ok directory =>
    tree.entries.filterMap fun entry => (childName? directory entry.1).map (·, entry.2)

def put (tree : FileTree) (place : Place) (node : FileNode) : FileTree :=
  { tree with entries := tree.entries.filter (fun entry => entry.1 != place) ++ [(place, node)] }

/-- The tree with a directory at a place, if nothing stands there. -/
def putDirectory (tree : FileTree) (place : Place) : FileTree :=
  match tree.nodeAt? place with
  | some _ => tree
  | none => tree.put place .directory

/-- Places of the directories above a place, the outermost first. -/
def above (place : Place) : List Place := (List.range place.length).map place.take

def makeDirectory (tree : FileTree) (place : Place) : FileTree :=
  (above place ++ [place]).foldl putDirectory tree

def write (tree : FileTree) (place : Place) (content : ByteArray) (modified : Int) : FileTree :=
  ((above place).foldl putDirectory tree).put place (.file content modified)

/-- The tree without what stands at a place and below it. -/
def remove (tree : FileTree) (place : Place) : FileTree :=
  { tree with entries := tree.entries.filter fun entry => !place.isPrefixOf entry.1 }

/-- The tree with what stands at a place and below it moved to another place. -/
def rename (tree : FileTree) (source target : Place) : FileTree :=
  let kept := tree.entries.filter fun entry =>
    !source.isPrefixOf entry.1 && !target.isPrefixOf entry.1
  let moved := (tree.entries.filter fun entry => source.isPrefixOf entry.1).map fun entry =>
    (target ++ entry.1.drop source.length, entry.2)
  { tree with entries := kept ++ moved }

end FileTree

end AmxTrace
