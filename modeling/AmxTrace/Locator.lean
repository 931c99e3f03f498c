import AmxTrace.Files.Tree
import AmxTrace.Image.Header
import AmxTrace.Trace

/-! # Locator

A running instance knows its header but not the file it came from. -/

namespace AmxTrace

/-- A module file with its header as it was when it was read. -/
structure ScannedFile where
  path : String
  modified : Int
  header : List UInt8
deriving DecidableEq, Repr

/-- Search directories, and what is known about the modules in them. -/
structure Locator where
  searchPaths : List String := []
  /-- Modules seen in the search directories, in the order of their paths. -/
  scanned : List ScannedFile := []
  found : List (List UInt8 × String) := []
deriving Repr

namespace Locator

def moduleExtension : String := "amx"

/-- Header bytes of a file, if it is a module. -/
def readHeader (tree : FileTree) (path : String) : Option (List UInt8) × List LogEntry :=
  match tree.read path with
  | .error _ => (none, [])
  | .ok content =>
    if content.size < Header.byteSize then (none, [])
    else
      let header := Segment.bytes (content.extract 0 Header.byteSize)
      match Header.parse header with
      | .ok _ => (some header, [])
      | .error fault => (none, [.noted ("skipping " ++ path ++ ": " ++ fault.message)])

/-- Paths and times of the module files that stand directly in a directory. -/
def modulesIn (tree : FileTree) (directory : String) : List (String × Int) :=
  (tree.children directory).filterMap fun (name, node) => match node with
    | .directory => none
    | .file _ modified =>
      if Path.extension? name = some moduleExtension then some (Path.join directory name, modified)
      else none

/-- Paths and times of the module files in the search directories. -/
def candidates (tree : FileTree) (searchPaths : List String) : List (String × Int) :=
  searchPaths.flatMap (modulesIn tree)

/-- Put a file in its place among files in path order. -/
def insertFile (file : ScannedFile) : List ScannedFile → List ScannedFile
  | [] => [file]
  | first :: rest =>
    if Path.same first.path file.path then { file with path := first.path } :: rest
    else if Path.before file.path first.path then file :: first :: rest
    else first :: insertFile file rest

def removeFile (path : String) (files : List ScannedFile) : List ScannedFile :=
  files.filter fun file => !Path.same file.path path

/-- Whether what is known about a path is not older than a time of change. -/
def isFresh (files : List ScannedFile) (path : String) (modified : Int) : Bool :=
  files.any fun file => Path.same file.path path && modified ≤ file.modified

def refresh (tree : FileTree) (files : List ScannedFile) (candidate : String × Int) :
    List ScannedFile × List LogEntry :=
  let (path, modified) := candidate
  if isFresh files path modified then (files, [])
  else match readHeader tree path with
    | (some header, notes) => (insertFile { path, modified, header } files, notes)
    | (none, notes) => (removeFile path files, notes)

/-- Files after a look at candidates in turn. -/
def refreshAll (tree : FileTree) :
    List (String × Int) → List ScannedFile → List ScannedFile × List LogEntry
  | [], files => (files, [])
  | candidate :: others, files =>
    let (files, notes) := refresh tree files candidate
    let (files, more) := refreshAll tree others files
    (files, notes ++ more)

/-- Files after a look at the search directories; those that are gone are forgotten. -/
def rescan (l : Locator) (tree : FileTree) : List ScannedFile × List LogEntry :=
  let candidates := candidates tree l.searchPaths
  let (files, notes) := refreshAll tree candidates l.scanned
  (files.filter fun file => candidates.any fun candidate => Path.same candidate.1 file.path, notes)

def firstWith? (header : List UInt8) (files : List ScannedFile) : Option String :=
  (files.find? fun file => file.header == header).map (·.path)

/-- Look for a header in the search directories. -/
def search (l : Locator) (tree : FileTree) (header : List UInt8) :
    Option String × Locator × List LogEntry :=
  let (scanned, notes) := l.rescan tree
  match firstWith? header scanned with
  | some path => (some path, { l with scanned, found := (header, path) :: l.found }, notes)
  | none =>
    (none, { l with scanned },
      notes ++ [.noted ("no module matching header in " ++ toString l.searchPaths.length ++
        " search path(s)")])

def earlier? (l : Locator) (header : List UInt8) : Option String :=
  (l.found.find? fun answer => answer.1 == header).map (·.2)

/-- The locator without an answer that is no longer right. -/
def forget (l : Locator) (header : List UInt8) (path : String) : Locator :=
  { l with
    scanned := removeFile path l.scanned
    found := l.found.filter fun answer => answer.1 != header }

def find (l : Locator) (tree : FileTree) (header : List UInt8) :
    Option String × Locator × List LogEntry :=
  match l.earlier? header with
  | none => l.search tree header
  | some path =>
    let (current, notes) := readHeader tree path
    if current = some header then (some path, l, notes)
    else
      let (answer, l, more) := (l.forget header path).search tree header
      (answer, l, notes ++ more)

/-- The locator with one more search directory, the last to be searched. -/
def addSearchPath (l : Locator) (path : String) : Locator :=
  { l with searchPaths := l.searchPaths ++ [path] }

end Locator

end AmxTrace
