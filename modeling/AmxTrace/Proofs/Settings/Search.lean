import AmxTrace.Proofs.Files.Apart
import AmxTrace.Proofs.Settings.Layers
import Mathlib.Data.List.Find

/-! # The nearest settings file -/

namespace AmxTrace.Configuration

variable {languages : Languages} {files others : TextFiles} {environment : Environment}
  {global start : String}

theorem isName_fileName : FileTree.IsName fileName := by decide

theorem outward_eq (start : String) :
    outward start = start :: ((Path.parent? start).map outward).getD [] := by
  cases hparent : Path.parent? start with
  | none => rw [outward, (Path.parent?_eq_none hparent).1]; rfl
  | some parent => rw [outward, (Path.parent?_eq_some hparent).1]; rfl

/-- One round of the search: the directory has a settings file, or the search goes on at its
parent. -/
theorem localRoot?_eq (start : String) :
    localRoot? files start =
      if files.exists? (Path.join start fileName) then some start
      else (Path.parent? start).bind (localRoot? files) := by
  rw [localRoot?, outward_eq, List.find?_cons]
  cases files.exists? (Path.join start fileName) with
  | true => rfl
  | false => cases Path.parent? start <;> rfl

/-- Two collections of files have the same at a path. -/
def SameAt (files others : TextFiles) (path : String) : Prop :=
  others.exists? path = files.exists? path ∧ others.readText path = files.readText path

theorem SameAt.load_eq {path : String} (h : SameAt files others path) :
    Settings.load languages others path = Settings.load languages files path := by
  rw [Settings.load, Settings.load, h.2]

theorem SameAt.globalSettings_eq (h : SameAt files others global) :
    globalSettings languages others global = globalSettings languages files global := by
  rw [globalSettings, globalSettings, h.1, h.load_eq]

section Front

variable {front farther : List String} {directory : String}
  (hsplit : outward start = front ++ farther) (hmem : directory ∈ front)
  (hexists : files.exists? (Path.join directory fileName) = true)
include hsplit hmem hexists

theorem localRoot?_eq_find? :
    localRoot? files start =
      front.find? fun directory => files.exists? (Path.join directory fileName) := by
  have hfound : (front.find? fun directory => files.exists? (Path.join directory fileName)).isSome :=
    List.find?_isSome.mpr ⟨directory, hmem, hexists⟩
  rw [localRoot?, hsplit, List.find?_append, Option.or_of_isSome hfound]

theorem loadFrom_congr (hsame : ∀ closer ∈ front, SameAt files others (Path.join closer fileName))
    (hglobal : globalSettings languages others global = globalSettings languages files global) :
    loadFrom languages others environment global start =
      loadFrom languages files environment global start := by
  have hexists' := ((hsame directory hmem).1).trans hexists
  have hroot : localRoot? others start = localRoot? files start := by
    rw [localRoot?_eq_find? hsplit hmem hexists, localRoot?_eq_find? hsplit hmem hexists']
    exact List.find?_congr fun closer hcloser => (hsame closer hcloser).1
  rw [loadFrom, loadFrom, hroot, hglobal]
  cases hfound : localRoot? files start with
  | none => rfl
  | some root =>
    rw [localRoot?_eq_find? hsplit hmem hexists] at hfound
    have hload : Settings.load languages others (Path.join root fileName) =
        Settings.load languages files (Path.join root fileName) :=
      (hsame root (List.mem_of_find?_eq_some hfound)).load_eq
    simp only [hload]

end Front

/-- A file that cannot be used is what the load says, whatever the environment says. -/
theorem loadFrom_of_load_eq_error {root : String} (hroot : localRoot? files start = some root)
    {fault : SettingsError}
    (hload : Settings.load languages files (Path.join root fileName) = .error fault) :
    loadFrom languages files environment global start = .error fault := by
  rw [loadFrom, hroot]
  simp only [hload]
  rfl

/-- Two trees differ in the settings file of a directory further out than another, or below it where
it is a directory. The start is a directory in both and does not lie in there. -/
structure OuterChange (tree other : FileTree) (start directory : String) (outer : Place) : Prop where
  agree : FileTree.AgreeApart (outer ++ [fileName]) tree other
  here : ∃ place, tree.DirectoryAt start place ∧ ¬ outer ++ [fileName] <+: place
  here_other : ∃ place, other.DirectoryAt start place
  further : ∃ place, tree.DirectoryAt directory place ∧ outer <+: place ∧ outer ≠ place

theorem OuterChange.sameAt {tree other : FileTree} {start directory closer : String} {outer : Place}
    (h : OuterChange tree other start directory outer) (hstart : Path.Below start closer)
    (hdirectory : Path.Below closer directory) :
    SameAt tree.textFiles other.textFiles (Path.join closer fileName) := by
  obtain ⟨here, hhere, hout⟩ := h.here
  obtain ⟨here', hhere'⟩ := h.here_other
  obtain ⟨place, hplace, hfurther, hne⟩ := h.further
  obtain ⟨inward, hinward⟩ := hstart
  obtain ⟨between, hbetween⟩ := hdirectory
  obtain ⟨own, hown, rfl⟩ := hhere.outer hinward
  obtain ⟨own', hown', -⟩ := hhere'.outer hinward
  obtain ⟨place', hplace', rfl⟩ := hown.outer hbetween
  obtain rfl : place = place' := Except.ok.inj (hplace.1.symm.trans hplace'.1)
  have hshorter : outer.length < place.length :=
    Nat.lt_of_le_of_ne hfurther.length_le fun hlength => hne (hfurther.eq_of_length hlength)
  have hpast : ¬ outer ++ [fileName] <+: (place ++ between) ++ [fileName] := by
    rw [List.prefix_concat_iff]
    rintro (heq | hbelow)
    · have hlength := congrArg List.length (List.append_inj_left' heq rfl)
      rw [List.length_append] at hlength
      omega
    · exact hout (hbelow.trans (List.prefix_append _ _))
  have hnode := h.agree.node_eq (hown.place_join isName_fileName) (hown'.place_join isName_fileName)
    hpast
  exact ⟨by simp only [FileTree.textFiles, FileTree.exists?, hnode], FileTree.readText_congr hnode⟩

theorem sameAt_of_not_meets {tree other : FileTree} {entry : Place}
    (h : FileTree.AgreeApart entry tree other) (hpast : ¬ tree.Meets entry global) :
    SameAt tree.textFiles other.textFiles global := by
  have hnode := h.node_eq_of_not_meets hpast
  exact ⟨by simp only [FileTree.textFiles, FileTree.exists?, hnode], FileTree.readText_congr hnode⟩

def traceLanguages : Languages where
  settings text :=
    if text = "" then .ok {}
    else if text = "trace = \"p\"" then .ok { trace := some "p" }
    else if text = "trace = \"n\"" then .ok { trace := some "n" }
    else .error "expected a trace"
  pattern _ := .ok fun _ => true

/-- A project with a settings file, and in it a directory with an entry of that name. -/
def nestedProject (inner : FileNode) : FileTree where
  entries := [(["p"], .directory), (["p", "pawntrace.toml"], .file "trace = \"p\"".toUTF8 0),
    (["p", "q"], .directory), (["p", "q", "pawntrace.toml"], inner)]

/-- The place of the project's own settings file. -/
def outerEntry : Place := ["p", "pawntrace.toml"]

theorem outerChange_nestedProject {inner : FileNode} {other : FileTree}
    (hagree : FileTree.AgreeApart outerEntry (nestedProject inner) other)
    (hhere : other.DirectoryAt "/p/q" ["p", "q"]) :
    OuterChange (nestedProject inner) other "/p/q" "/p/q" ["p"] where
  agree := hagree
  here := ⟨["p", "q"], ⟨rfl, rfl⟩, by decide⟩
  here_other := ⟨["p", "q"], hhere⟩
  further := ⟨["p", "q"], ⟨rfl, rfl⟩, by decide⟩

def traceAndRoot (c : Configuration) : TraceFlags × Option String := (c.trace, c.root)

end AmxTrace.Configuration
