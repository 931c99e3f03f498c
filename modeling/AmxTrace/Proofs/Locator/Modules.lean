import AmxTrace.Proofs.Files.Tree
import AmxTrace.Proofs.Image.Header
import AmxTrace.Proofs.Locator.Known

/-! # Modules in search directories -/

namespace AmxTrace.Locator

open FileTree

/-- A file begins with the header of a module. -/
def BeginsWith (content : ByteArray) (header : List UInt8) : Prop :=
  (Segment.bytes content).take Header.byteSize = header ∧ ∃ h, Header.parse header = .ok h

/-- A module file with a header stands directly in a directory. -/
structure ModuleIn (tree : FileTree) (directory path : String) (header : List UInt8) : Prop where
  isDirectory : tree.isDirectory directory = true
  named : ∃ name, IsName name ∧ Path.extension? name = some moduleExtension ∧
    Path.same path (Path.join directory name) = true
  begins : ∃ content modified, tree.node path = .ok (.file content modified) ∧
    BeginsWith content header

/-- A path joined from one of some directories and the name of a module file. -/
def NamesModule (directories : List String) (path : String) : Prop :=
  ∃ directory ∈ directories, directory ≠ "" ∧ ∃ name, IsName name ∧
    Path.extension? name = some moduleExtension ∧ path = Path.join directory name

variable {tree : FileTree} {directories : List String} {path other : String} {modified : Int}
  {header : List UInt8}

theorem readHeader_eq_some_iff :
    (readHeader tree path).1 = some header ↔
      ∃ content modified, tree.node path = .ok (.file content modified) ∧
        BeginsWith content header := by
  rw [readHeader]
  cases hread : tree.read path with
  | error fault =>
    refine ⟨nofun, fun ⟨content, modified, hnode, _⟩ => ?_⟩
    rw [read_eq_ok_iff.mpr ⟨modified, hnode⟩] at hread
    exact nomatch hread
  | ok content =>
    obtain ⟨modified, hnode⟩ := read_eq_ok_iff.mp hread
    have hbytes : Segment.bytes (content.extract 0 Header.byteSize) =
        (Segment.bytes content).take Header.byteSize := by
      rw [Segment.bytes_extract, List.drop_zero, Nat.sub_zero]
    have hexists : (∃ content modified, tree.node path = .ok (.file content modified) ∧
        BeginsWith content header) ↔ BeginsWith content header := by
      constructor
      · rintro ⟨_, _, hnode', hbegins⟩
        rw [hnode] at hnode'
        cases hnode'
        exact hbegins
      · exact fun hbegins => ⟨content, modified, hnode, hbegins⟩
    rw [hexists, BeginsWith]
    dsimp only
    split
    next hshort =>
      refine ⟨nofun, fun ⟨htake, h, hparse⟩ => ?_⟩
      -- an accepted header has all its bytes
      have hlength := (Header.parse_eq_ok_iff.mp hparse).1.length_le
      rw [Header.length_toBytes, ← htake, List.length_take, Segment.length_bytes] at hlength
      omega
    next hlong =>
      rw [hbytes]
      split
      next h hparse =>
        rw [Option.some.injEq]
        exact ⟨fun htake => ⟨htake, h, htake ▸ hparse⟩, And.left⟩
      next fault hparse =>
        refine ⟨nofun, fun ⟨htake, h, hparse'⟩ => ?_⟩
        rw [htake, hparse'] at hparse
        exact nomatch hparse

theorem mem_modulesIn_iff (hw : tree.WellFormed) {directory : String} :
    (path, modified) ∈ modulesIn tree directory ↔
      ∃ name content, directory ≠ "" ∧ IsName name ∧
        Path.extension? name = some moduleExtension ∧ path = Path.join directory name ∧
          tree.node path = .ok (.file content modified) := by
  simp only [modulesIn, List.mem_filterMap, Prod.exists]
  constructor
  · rintro ⟨name, node, hchild, hmodule⟩
    obtain ⟨hdirectory, hname, hnode⟩ := (mem_children_iff hw).mp hchild
    cases node with
    | directory => exact absurd hmodule nofun
    | file content time =>
      dsimp only at hmodule
      split at hmodule
      next hextension =>
        cases hmodule
        exact ⟨name, content, hdirectory, hname, hextension, rfl, hnode⟩
      next => exact absurd hmodule nofun
  · rintro ⟨name, content, hdirectory, hname, hextension, rfl, hnode⟩
    refine ⟨name, .file content modified, (mem_children_iff hw).mpr ⟨hdirectory, hname, hnode⟩, ?_⟩
    exact if_pos hextension

theorem mem_candidates_iff (hw : tree.WellFormed) :
    (path, modified) ∈ candidates tree directories ↔
      NamesModule directories path ∧ ∃ content, tree.node path = .ok (.file content modified) := by
  rw [candidates, List.mem_flatMap]
  constructor
  · rintro ⟨directory, hdirectory, hmem⟩
    obtain ⟨name, content, hne, hname, hextension, hpath, hnode⟩ := (mem_modulesIn_iff hw).mp hmem
    exact ⟨⟨directory, hdirectory, hne, name, hname, hextension, hpath⟩, content, hnode⟩
  · rintro ⟨⟨directory, hdirectory, hne, name, hname, hextension, hpath⟩, content, hnode⟩
    exact ⟨directory, hdirectory,
      (mem_modulesIn_iff hw).mpr ⟨name, content, hne, hname, hextension, hpath, hnode⟩⟩

theorem NamesModule.node_of_same (h : NamesModule directories path)
    (hsame : Path.same other path = true) {node : FileNode} (hnode : tree.node other = .ok node) :
    tree.node path = .ok node := by
  obtain ⟨directory, -, hne, name, hname, -, rfl⟩ := h
  exact node_join_of_same hne hname hsame hnode

theorem NamesModule.readHeader_eq (h : NamesModule directories path)
    (h' : NamesModule directories other) (hsame : Path.same path other = true) :
    (readHeader tree path).1 = (readHeader tree other).1 := by
  apply Option.ext
  intro header
  rw [readHeader_eq_some_iff, readHeader_eq_some_iff]
  constructor
  · rintro ⟨content, modified, hnode, hbegins⟩
    exact ⟨content, modified, h'.node_of_same hsame hnode, hbegins⟩
  · rintro ⟨content, modified, hnode, hbegins⟩
    rw [Path.same_comm] at hsame
    exact ⟨content, modified, h.node_of_same hsame hnode, hbegins⟩

theorem NamesModule.mono (h : NamesModule directories path) {more : List String}
    (hsub : ∀ directory ∈ directories, directory ∈ more) : NamesModule more path := by
  obtain ⟨directory, hdirectory, hrest⟩ := h
  exact ⟨directory, hsub directory hdirectory, hrest⟩

theorem NamesModule.exists_moduleIn (h : NamesModule directories path)
    (hread : (readHeader tree path).1 = some header) :
    ∃ directory ∈ directories, ModuleIn tree directory path header := by
  obtain ⟨directory, hdirectory, hne, name, hname, hextension, rfl⟩ := h
  have hbegins := readHeader_eq_some_iff.mp hread
  obtain ⟨content, modified, hnode, -⟩ := hbegins
  obtain ⟨place, hplace, hdir, -⟩ := (node_join_eq_ok_iff hne hname).mp hnode
  exact ⟨directory, hdirectory, isDirectory_of_place hplace hdir,
    ⟨name, hname, hextension, Path.same_refl _⟩, readHeader_eq_some_iff.mp hread⟩

theorem moduleIn_of_mem_candidates (hw : tree.WellFormed) {directory : String} (modified : Int)
    (hcandidate : (path, modified) ∈ candidates tree [directory])
    (hread : (readHeader tree path).1 = some header) : ModuleIn tree directory path header := by
  obtain ⟨found, hfound, hmodule⟩ := ((mem_candidates_iff hw).mp hcandidate).1.exists_moduleIn hread
  exact List.mem_singleton.mp hfound ▸ hmodule

theorem ModuleIn.exists_candidate (hw : tree.WellFormed) {directory : String}
    (hdirectory : directory ∈ directories) (h : ModuleIn tree directory path header) :
    ∃ candidate ∈ candidates tree directories, Path.same candidate.1 path = true ∧
      (readHeader tree candidate.1).1 = some header := by
  obtain ⟨name, hname, hextension, hsame⟩ := h.named
  obtain ⟨content, modified, hnode, hbegins⟩ := h.begins
  have hne := ne_empty_of_isDirectory h.isDirectory
  have hnode := node_join_of_same hne hname hsame hnode
  refine ⟨(Path.join directory name, modified), (mem_candidates_iff hw).mpr
    ⟨⟨directory, hdirectory, hne, name, hname, hextension, rfl⟩, content, hnode⟩, ?_,
    readHeader_eq_some_iff.mpr ⟨content, modified, hnode, hbegins⟩⟩
  rw [Path.same_comm]
  exact hsame

theorem ModuleIn.of_same {directory : String} (h : ModuleIn tree directory path header)
    (hsame : Path.same other path = true) (hread : (readHeader tree other).1 = some header) :
    ModuleIn tree directory other header := by
  obtain ⟨name, hname, hextension, hjoin⟩ := h.named
  refine ⟨h.isDirectory, ⟨name, hname, hextension, ?_⟩, readHeader_eq_some_iff.mp hread⟩
  rw [Path.same_congr_left hsame]
  exact hjoin

end AmxTrace.Locator
