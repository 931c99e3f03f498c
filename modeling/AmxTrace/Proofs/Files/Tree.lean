import AmxTrace.Files.Tree
import AmxTrace.Proofs.Files.Path
import AmxTrace.Proofs.Reader.Written
import Mathlib.Data.List.Nodup

/-! # Following paths -/

namespace AmxTrace.FileTree

/-- A text that can name an entry of a directory. -/
structure IsName (name : String) : Prop where
  no_slash : '/' ∉ name.toList
  not_idle : Path.isIdle name.toList = false
  not_up : name ≠ ".."
  short : name.utf8ByteSize ≤ nameLimit

instance (name : String) : Decidable (IsName name) :=
  decidable_of_iff ('/' ∉ name.toList ∧ Path.isIdle name.toList = false ∧ name ≠ ".." ∧
      name.utf8ByteSize ≤ nameLimit)
    ⟨fun ⟨hslash, hidle, hup, hshort⟩ => ⟨hslash, hidle, hup, hshort⟩,
      fun h => ⟨h.no_slash, h.not_idle, h.not_up, h.short⟩⟩

/-- Each place has one entry, each entry has a name and stands in a directory. -/
structure WellFormed (tree : FileTree) : Prop where
  distinct : (tree.entries.map Prod.fst).Nodup
  named : ∀ entry ∈ tree.entries, ∀ name ∈ entry.1, IsName name
  housed : ∀ entry ∈ tree.entries, tree.nodeAt? entry.1.dropLast = some .directory

instance (tree : FileTree) (place : Place) : Decidable (tree.nodeAt? place = some .directory) :=
  match tree.nodeAt? place with
  | some .directory => isTrue rfl
  | some (.file _ _) => isFalse nofun
  | none => isFalse nofun

instance (tree : FileTree) : Decidable tree.WellFormed :=
  decidable_of_iff ((tree.entries.map Prod.fst).Nodup ∧
      (∀ entry ∈ tree.entries, ∀ name ∈ entry.1, IsName name) ∧
      ∀ entry ∈ tree.entries, tree.nodeAt? entry.1.dropLast = some .directory)
    ⟨fun ⟨hdistinct, hnamed, hhoused⟩ => ⟨hdistinct, hnamed, hhoused⟩,
      fun h => ⟨h.distinct, h.named, h.housed⟩⟩

variable {tree : FileTree}

theorem nodeAt?_eq_some {place : Place} {node : FileNode} (hplace : place ≠ [])
    (h : tree.nodeAt? place = some node) : (place, node) ∈ tree.entries := by
  rw [nodeAt?, if_neg hplace, Option.map_eq_some_iff] at h
  obtain ⟨entry, hfind, rfl⟩ := h
  have hkey := List.find?_some hfind
  rw [beq_iff_eq] at hkey
  exact hkey ▸ List.mem_of_find?_eq_some hfind

theorem nodeAt?_of_mem (hdistinct : (tree.entries.map Prod.fst).Nodup) {place : Place}
    {node : FileNode} (hplace : place ≠ []) (h : (place, node) ∈ tree.entries) :
    tree.nodeAt? place = some node := by
  have hfound : (tree.entries.find? fun entry => entry.1 == place).isSome := by
    rw [List.find?_isSome]
    exact ⟨_, h, beq_self_eq_true place⟩
  obtain ⟨entry, hentry⟩ := Option.isSome_iff_exists.mp hfound
  have hkey := List.find?_some hentry
  rw [beq_iff_eq] at hkey
  have hsame : entry = (place, node) :=
    List.inj_on_of_nodup_map hdistinct (List.mem_of_find?_eq_some hentry) h hkey
  rw [nodeAt?, if_neg hplace, hentry, hsame]
  rfl

theorem nodeAt?_eq_directory_iff (hdistinct : (tree.entries.map Prod.fst).Nodup) {place : Place} :
    tree.nodeAt? place = some .directory ↔ place = [] ∨ (place, .directory) ∈ tree.entries := by
  constructor
  · intro h
    by_cases hplace : place = []
    · exact .inl hplace
    · exact .inr (nodeAt?_eq_some hplace h)
  · rintro (rfl | h)
    · rfl
    · by_cases hplace : place = []
      · rw [hplace]
        rfl
      · exact nodeAt?_of_mem hdistinct hplace h

theorem node_eq_ok_iff {path : String} {node : FileNode} :
    tree.node path = .ok node ↔
      ∃ place, tree.place path = .ok place ∧ tree.nodeAt? place = some node := by
  rw [FileTree.node, except_bind_eq_ok_iff]
  refine exists_congr fun place => and_congr_right fun _ => ?_
  split
  next found hfound => rw [except_pure_eq_ok_iff, hfound, Option.some.injEq]
  next hnone =>
    rw [hnone]
    exact iff_of_false nofun nofun

theorem isDirectory_iff {path : String} :
    tree.isDirectory path = true ↔ tree.node path = .ok .directory := by
  unfold isDirectory
  split
  next h => simp [h]
  next h => simpa using h

theorem read_eq_ok_iff {path : String} {content : ByteArray} :
    tree.read path = .ok content ↔ ∃ modified, tree.node path = .ok (.file content modified) := by
  rw [FileTree.read, except_bind_eq_ok_iff]
  constructor
  · rintro ⟨node, hnode, hread⟩
    split at hread
    next => exact absurd hread nofun
    next found modified =>
      rw [except_pure_eq_ok_iff] at hread
      exact ⟨modified, hread ▸ hnode⟩
  · rintro ⟨modified, hnode⟩
    exact ⟨.file content modified, hnode, rfl⟩

theorem follow_append (place : Place) (front back : List (List Char)) :
    follow tree place (front ++ back) =
      follow tree place front >>= fun place => follow tree place back := by
  induction front generalizing place with
  | nil => rfl
  | cons piece rest ih =>
    rw [List.cons_append, follow, follow]
    split
    · rfl
    · rfl
    · dsimp only
      split
      · exact ih place
      · split
        · exact ih place.dropLast
        · split
          · rfl
          · exact ih (place ++ [String.ofList piece])

theorem follow_append_eq_ok_iff {place target : Place} {front back : List (List Char)} :
    follow tree place (front ++ back) = .ok target ↔
      ∃ between, follow tree place front = .ok between ∧ follow tree between back = .ok target := by
  rw [follow_append, except_bind_eq_ok_iff]

theorem directory_of_follow_eq_ok {place target : Place} {pieces : List (List Char)}
    (hpieces : pieces ≠ []) (h : follow tree place pieces = .ok target) :
    tree.nodeAt? place = some .directory := by
  cases pieces with
  | nil => exact absurd rfl hpieces
  | cons piece rest =>
    rw [follow] at h
    split at h
    · exact nomatch h
    · exact nomatch h
    · assumption

theorem follow_cons_of_idle {place : Place} {piece : List Char} (hidle : Path.isIdle piece = true)
    (hplace : tree.nodeAt? place = some .directory) (rest : List (List Char)) :
    follow tree place (piece :: rest) = follow tree place rest := by
  rw [follow, hplace]
  simp [hidle]

theorem follow_filter_of_eq_ok {place target : Place} {pieces : List (List Char)}
    (h : follow tree place pieces = .ok target) :
    follow tree place (pieces.filter fun piece => !Path.isIdle piece) = .ok target := by
  induction pieces generalizing place with
  | nil => exact h
  | cons piece rest ih =>
    have hplace := directory_of_follow_eq_ok (List.cons_ne_nil _ _) h
    cases hidle : Path.isIdle piece with
    | true =>
      rw [List.filter_cons_of_neg (by simp [hidle])]
      rw [follow_cons_of_idle hidle hplace] at h
      exact ih h
    | false =>
      rw [List.filter_cons_of_pos (by simp [hidle]), ← List.singleton_append]
      rw [← List.singleton_append] at h
      obtain ⟨between, hstep, hrest⟩ := follow_append_eq_ok_iff.mp h
      exact follow_append_eq_ok_iff.mpr ⟨between, hstep, ih hrest⟩

theorem follow_eq_ok_of_filter {place target : Place} {pieces : List (List Char)}
    (htarget : tree.nodeAt? target = some .directory)
    (h : follow tree place (pieces.filter fun piece => !Path.isIdle piece) = .ok target) :
    follow tree place pieces = .ok target := by
  induction pieces generalizing place with
  | nil => exact h
  | cons piece rest ih =>
    cases hidle : Path.isIdle piece with
    | true =>
      rw [List.filter_cons_of_neg (by simp [hidle])] at h
      have hrest := ih h
      -- an idle part asks for a directory, as the next part does, or else the target is one
      have hplace : tree.nodeAt? place = some .directory := by
        cases rest with
        | nil =>
          cases h
          exact htarget
        | cons next others => exact directory_of_follow_eq_ok (List.cons_ne_nil _ _) hrest
      rw [follow_cons_of_idle hidle hplace]
      exact hrest
    | false =>
      rw [List.filter_cons_of_pos (by simp [hidle]), ← List.singleton_append] at h
      rw [← List.singleton_append]
      obtain ⟨between, hstep, hrest⟩ := follow_append_eq_ok_iff.mp h
      exact follow_append_eq_ok_iff.mpr ⟨between, hstep, ih hrest⟩

theorem follow_name_eq_ok_iff {place target : Place} {name : String} (hname : IsName name) :
    follow tree place [name.toList] = .ok target ↔
      tree.nodeAt? place = some .directory ∧ target = place ++ [name] := by
  constructor
  · intro h
    have hplace := directory_of_follow_eq_ok (List.cons_ne_nil _ _) h
    refine ⟨hplace, ?_⟩
    simp only [follow, hplace, hname.not_idle, Bool.false_eq_true, if_false, String.ofList_toList,
      hname.not_up, Nat.not_lt.mpr hname.short] at h
    exact (Except.ok.inj h).symm
  · rintro ⟨hplace, rfl⟩
    simp only [follow, hplace, hname.not_idle, Bool.false_eq_true, if_false, String.ofList_toList,
      hname.not_up, Nat.not_lt.mpr hname.short]

theorem follow_names {place target : Place} {names : List String}
    (hnames : ∀ name ∈ names, Path.isIdle name.toList = false ∧ name ≠ "..")
    (h : follow tree place (names.map String.toList) = .ok target) : target = place ++ names := by
  induction names generalizing place with
  | nil => exact (Except.ok.inj h).symm.trans (List.append_nil place).symm
  | cons name rest ih =>
    obtain ⟨⟨hidle, hup⟩, hrest⟩ := List.forall_mem_cons.mp hnames
    rw [List.map_cons, follow, directory_of_follow_eq_ok (List.cons_ne_nil _ _) h] at h
    simp only [hidle, Bool.false_eq_true, if_false, String.ofList_toList, hup] at h
    split at h
    · cases h
    · rw [ih hrest h, List.append_assoc, List.singleton_append]

def start (tree : FileTree) (path : String) : Place :=
  if Path.isAbsolute path then [] else tree.workingDirectory

theorem place_eq_ok_iff {path : String} {target : Place} :
    tree.place path = .ok target ↔
      path ≠ "" ∧ follow tree (tree.start path) (Path.piecesOf path.toList) = .ok target := by
  unfold place
  split
  next h => simp [h]
  next h => simp [h, start]

theorem place_directory_iff {path : String} {target : Place}
    (htarget : tree.nodeAt? target = some .directory) :
    tree.place path = .ok target ↔
      path ≠ "" ∧ follow tree (tree.start path) (Path.steps path) = .ok target := by
  rw [place_eq_ok_iff]
  exact and_congr_right fun _ => ⟨follow_filter_of_eq_ok, follow_eq_ok_of_filter htarget⟩

theorem steps_of_place {path : String} {target : Place} (h : tree.place path = .ok target) :
    follow tree (tree.start path) (Path.steps path) = .ok target :=
  follow_filter_of_eq_ok (place_eq_ok_iff.mp h).2

theorem start_eq_of_same {p q : String} (h : Path.same p q = true) :
    tree.start p = tree.start q := by
  rw [start, start, Path.isAbsolute_eq_of_same h]

section Join

variable {directory name : String} (hdirectory : directory ≠ "") (hname : IsName name)
include hdirectory hname

theorem join_ne_empty : Path.join directory name ≠ "" := by
  intro h
  have hsteps := Path.steps_join hdirectory hname.no_slash hname.not_idle
  rw [h] at hsteps
  exact List.append_ne_nil_of_right_ne_nil _ (List.cons_ne_nil _ _) hsteps.symm

theorem start_join : tree.start (Path.join directory name) = tree.start directory := by
  rw [start, start, Path.isAbsolute_join hdirectory hname.no_slash]

theorem follow_steps_join_iff {target : Place} :
    follow tree (tree.start directory) (Path.steps (Path.join directory name)) = .ok target ↔
      ∃ place, tree.place directory = .ok place ∧ tree.nodeAt? place = some .directory ∧
        target = place ++ [name] := by
  rw [Path.steps_join hdirectory hname.no_slash hname.not_idle, follow_append_eq_ok_iff]
  refine exists_congr fun place => ?_
  rw [follow_name_eq_ok_iff hname]
  constructor
  · rintro ⟨hsteps, hplace, htarget⟩
    exact ⟨(place_directory_iff hplace).mpr ⟨hdirectory, hsteps⟩, hplace, htarget⟩
  · rintro ⟨hdir, hplace, htarget⟩
    exact ⟨((place_directory_iff hplace).mp hdir).2, hplace, htarget⟩

theorem exists_place_of_same {path : String}
    (hsame : Path.same path (Path.join directory name) = true) {node : FileNode}
    (h : tree.node path = .ok node) :
    ∃ place, tree.place directory = .ok place ∧ tree.nodeAt? place = some .directory ∧
      tree.nodeAt? (place ++ [name]) = some node := by
  obtain ⟨target, htarget, hnode⟩ := node_eq_ok_iff.mp h
  have hsteps := steps_of_place htarget
  rw [Path.steps_eq_of_same hsame, start_eq_of_same hsame, start_join hdirectory hname,
    follow_steps_join_iff hdirectory hname] at hsteps
  obtain ⟨place, hplace, hdir, rfl⟩ := hsteps
  exact ⟨place, hplace, hdir, hnode⟩

omit hdirectory in
theorem place_join_eq_ok_iff {target : Place} :
    tree.place (Path.join directory name) = .ok target ↔
      ∃ place, follow tree (tree.start directory) (Path.steps directory) = .ok place ∧
        tree.nodeAt? place = some .directory ∧ target = place ++ [name] := by
  by_cases hdirectory : directory = ""
  · subst hdirectory
    have hne : name ≠ "" := fun h => absurd hname.not_idle (by rw [h]; decide)
    have hjoin : Path.join "" name = name := if_pos (.inr rfl)
    rw [hjoin, place_eq_ok_iff, start, Path.isAbsolute_of_not_mem hname.no_slash,
      Path.piecesOf_of_not_mem hname.no_slash]
    constructor
    · rintro ⟨-, hfollow⟩
      exact ⟨tree.workingDirectory, rfl, (follow_name_eq_ok_iff hname).mp hfollow⟩
    · rintro ⟨place, hfollow, hplace⟩
      obtain rfl : tree.workingDirectory = place := Except.ok.inj hfollow
      exact ⟨hne, (follow_name_eq_ok_iff hname).mpr hplace⟩
  · constructor
    · intro h
      have hsteps := steps_of_place h
      rw [start_join hdirectory hname, Path.steps_join hdirectory hname.no_slash hname.not_idle,
        follow_append_eq_ok_iff] at hsteps
      obtain ⟨place, hfollow, hlast⟩ := hsteps
      exact ⟨place, hfollow, (follow_name_eq_ok_iff hname).mp hlast⟩
    · rintro ⟨place, hfollow, hplace⟩
      refine place_eq_ok_iff.mpr ⟨join_ne_empty hdirectory hname, ?_⟩
      -- the joined path may have idle parts in front of the name
      obtain ⟨pieces, hpieces, hfilter⟩ := Path.exists_piecesOf_join hdirectory hname.no_slash
      rw [← hfilter] at hfollow
      rw [hpieces, start_join hdirectory hname, follow_append_eq_ok_iff]
      exact ⟨place, follow_eq_ok_of_filter hplace.1 hfollow,
        (follow_name_eq_ok_iff hname).mpr hplace⟩

theorem node_join_eq_ok_iff {node : FileNode} :
    tree.node (Path.join directory name) = .ok node ↔
      ∃ place, tree.place directory = .ok place ∧ tree.nodeAt? place = some .directory ∧
        tree.nodeAt? (place ++ [name]) = some node := by
  refine ⟨exists_place_of_same hdirectory hname (Path.same_refl _), ?_⟩
  rintro ⟨place, hplace, hdir, hnode⟩
  have hfollow := ((place_directory_iff hdir).mp hplace).2
  exact node_eq_ok_iff.mpr
    ⟨place ++ [name], (place_join_eq_ok_iff hname).mpr ⟨place, hfollow, hdir, rfl⟩, hnode⟩

theorem node_join_of_same {path : String} (hsame : Path.same path (Path.join directory name) = true)
    {node : FileNode} (h : tree.node path = .ok node) :
    tree.node (Path.join directory name) = .ok node :=
  (node_join_eq_ok_iff hdirectory hname).mpr (exists_place_of_same hdirectory hname hsame h)

end Join

theorem childName?_eq_some_iff {directory place : Place} {name : String} :
    childName? directory place = some name ↔ place = directory ++ [name] := by
  unfold childName?
  split
  next last h =>
    obtain ⟨front, rfl⟩ := List.getLast?_eq_some_iff.mp h
    rw [List.dropLast_concat]
    split
    next hfront => rw [hfront, List.append_cancel_left_eq, List.singleton_inj, Option.some.injEq]
    next hfront =>
      exact ⟨nofun, fun heq => absurd (List.append_inj_left' heq rfl) hfront⟩
  next h =>
    rw [List.getLast?_eq_none_iff.mp h]
    exact ⟨nofun, fun heq => absurd heq.symm (by simp)⟩

theorem isDirectory_of_place {path : String} {target : Place} (h : tree.place path = .ok target)
    (htarget : tree.nodeAt? target = some .directory) : tree.isDirectory path = true :=
  isDirectory_iff.mpr (node_eq_ok_iff.mpr ⟨target, h, htarget⟩)

theorem ne_empty_of_place {path : String} {target : Place} (h : tree.place path = .ok target) :
    path ≠ "" :=
  (place_eq_ok_iff.mp h).1

theorem ne_empty_of_isDirectory {path : String} (h : tree.isDirectory path = true) : path ≠ "" := by
  obtain ⟨target, hplace, -⟩ := node_eq_ok_iff.mp (isDirectory_iff.mp h)
  exact ne_empty_of_place hplace

theorem mem_children_iff (hw : tree.WellFormed) {directory name : String} {node : FileNode} :
    (name, node) ∈ tree.children directory ↔
      directory ≠ "" ∧ IsName name ∧ tree.node (Path.join directory name) = .ok node := by
  unfold children
  constructor
  · cases hplace : tree.place directory with
    | error fault => exact nofun
    | ok place =>
      intro h
      obtain ⟨⟨found, node⟩, hentry, hchild⟩ := List.mem_filterMap.mp h
      obtain ⟨name, hname, ⟨⟩⟩ := Option.map_eq_some_iff.mp hchild
      obtain rfl : found = place ++ [name] := childName?_eq_some_iff.mp hname
      have hnode := nodeAt?_of_mem hw.distinct (by simp) hentry
      have hdir := hw.housed _ hentry
      rw [List.dropLast_concat] at hdir
      have hvalid : IsName name := hw.named _ hentry name (by simp)
      have hdirectory := ne_empty_of_place hplace
      exact ⟨hdirectory, hvalid,
        (node_join_eq_ok_iff hdirectory hvalid).mpr ⟨place, hplace, hdir, hnode⟩⟩
  · rintro ⟨hdirectory, hname, hnode⟩
    obtain ⟨place, hplace, hdir, hnode⟩ := (node_join_eq_ok_iff hdirectory hname).mp hnode
    rw [hplace]
    have hentry := nodeAt?_eq_some (by simp) hnode
    exact List.mem_filterMap.mpr ⟨_, hentry, by rw [childName?_eq_some_iff.mpr rfl]; rfl⟩

end AmxTrace.FileTree
