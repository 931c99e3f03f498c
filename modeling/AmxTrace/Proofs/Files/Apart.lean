import AmxTrace.Proofs.Files.Parents
import AmxTrace.Proofs.Files.Tree

/-! # Trees that differ at one entry -/

namespace AmxTrace.FileTree

/-- Two trees agree but for what stands at a place and below it. -/
structure AgreeApart (entry : Place) (tree other : FileTree) : Prop where
  workingDirectory : other.workingDirectory = tree.workingDirectory
  nodes : ∀ place, ¬ entry <+: place → other.nodeAt? place = tree.nodeAt? place

variable {tree other : FileTree} {entry : Place}

theorem find?_filter_of_kept {entries : List (Place × FileNode)} {kept : Place × FileNode → Bool}
    {place : Place} (hkept : ∀ found, found.1 = place → kept found = true) :
    (entries.filter kept).find? (fun found => found.1 == place) =
      entries.find? fun found => found.1 == place := by
  rw [List.find?_filter]
  congr 1
  funext found
  by_cases hfound : found.1 = place
  · simp [hfound, hkept found hfound]
  · simp [hfound]

theorem agreeApart_put (tree : FileTree) (entry : Place) (node : FileNode) :
    AgreeApart entry tree (tree.put entry node) where
  workingDirectory := rfl
  nodes place hplace := by
    have hne : entry ≠ place := fun h => hplace (h ▸ List.prefix_rfl)
    unfold nodeAt?
    split
    · rfl
    · rw [put, List.find?_append, find?_filter_of_kept (by simp [hne.symm])]
      simp [hne]

theorem agreeApart_remove (tree : FileTree) (entry : Place) :
    AgreeApart entry tree (tree.remove entry) where
  workingDirectory := rfl
  nodes place hplace := by
    unfold nodeAt?
    split
    · rfl
    · have hnot : entry.isPrefixOf place = false := by
        rw [Bool.eq_false_iff, ne_eq, List.isPrefixOf_iff_prefix]
        exact hplace
      rw [remove, find?_filter_of_kept (by simp [hnot])]

theorem start_eq_of_workingDirectory (h : other.workingDirectory = tree.workingDirectory)
    (path : String) : other.start path = tree.start path := by
  rw [start, start, h]

theorem follow_unique {place target target' : Place} {pieces : List (List Char)}
    (h : follow tree place pieces = .ok target) (h' : follow other place pieces = .ok target') :
    target' = target := by
  induction pieces generalizing place with
  | nil => exact (Except.ok.inj h').symm.trans (Except.ok.inj h)
  | cons piece rest ih =>
    rw [follow, directory_of_follow_eq_ok (List.cons_ne_nil _ _) h] at h
    rw [follow, directory_of_follow_eq_ok (List.cons_ne_nil _ _) h'] at h'
    dsimp only at h h'
    by_cases hidle : Path.isIdle piece
    · rw [if_pos hidle] at h h'
      exact ih h h'
    · rw [if_neg hidle] at h h'
      by_cases hup : String.ofList piece = ".."
      · rw [if_pos hup] at h h'
        exact ih h h'
      · rw [if_neg hup] at h h'
        by_cases hlong : nameLimit < (String.ofList piece).utf8ByteSize
        · rw [if_pos hlong] at h
          cases h
        · rw [if_neg hlong] at h h'
          exact ih h h'

theorem place_unique {path : String} {target target' : Place}
    (hworking : other.workingDirectory = tree.workingDirectory)
    (h : tree.place path = .ok target) (h' : other.place path = .ok target') : target' = target := by
  have hfollow' := (place_eq_ok_iff.mp h').2
  rw [start_eq_of_workingDirectory hworking] at hfollow'
  exact follow_unique (place_eq_ok_iff.mp h).2 hfollow'

/-- A path is that of the directory at a place. The empty one is that of the working directory. -/
def DirectoryAt (tree : FileTree) (path : String) (place : Place) : Prop :=
  follow tree (tree.start path) (Path.steps path) = .ok place ∧ tree.nodeAt? place = some .directory

theorem DirectoryAt.place_join {directory name : String} {place : Place}
    (h : DirectoryAt tree directory place) (hname : IsName name) :
    tree.place (Path.join directory name) = .ok (place ++ [name]) :=
  (place_join_eq_ok_iff hname).mpr ⟨place, h.1, h.2, rfl⟩

theorem DirectoryAt.outer {inner outer : String} {names : List String} {place : Place}
    (h : DirectoryAt tree inner place)
    (hnames : Path.components inner = Path.components outer ++ names.map .name) :
    ∃ front, DirectoryAt tree outer front ∧ place = front ++ names := by
  obtain ⟨hfollow, hplace⟩ := h
  obtain ⟨habsolute, hsteps⟩ := Path.steps_of_components_append hnames
  rw [start, habsolute, hsteps, follow_append_eq_ok_iff] at hfollow
  obtain ⟨front, hfront, hback⟩ := hfollow
  have hnamed : ∀ name ∈ names, Path.isIdle name.toList = false ∧ name ≠ ".." := by
    intro name hname
    apply Path.name_of_mem_components
    rw [hnames]
    exact List.mem_append_right _ (List.mem_map_of_mem hname)
  obtain rfl := follow_names hnamed hback
  refine ⟨front, ⟨hfront, ?_⟩, rfl⟩
  cases names with
  | nil => simpa using hplace
  | cons name rest => exact directory_of_follow_eq_ok (List.cons_ne_nil _ _) hback

theorem readText_congr {path : String} (h : other.node path = tree.node path) :
    other.readText path = tree.readText path := by
  rw [readText, readText, FileTree.read, FileTree.read, h]

/-- A path leads to an entry or below it, or passes through there. -/
def Meets (tree : FileTree) (entry : Place) (path : String) : Prop :=
  ∃ front target, front <+: Path.piecesOf path.toList ∧
    follow tree (tree.start path) front = .ok target ∧ entry <+: target

theorem meets_iff {path : String} :
    tree.Meets entry path ↔ ∃ front ∈ (Path.piecesOf path.toList).inits,
      ∃ target ∈ (follow tree (tree.start path) front).toOption, entry <+: target := by
  refine exists_congr fun front => ?_
  rw [List.mem_inits]
  cases follow tree (tree.start path) front <;> simp [Except.toOption]

instance (tree : FileTree) (entry : Place) (path : String) : Decidable (tree.Meets entry path) :=
  decidable_of_iff _ meets_iff.symm

namespace AgreeApart

variable (h : AgreeApart entry tree other)
include h

theorem node_eq {path : String} {target target' : Place} (htree : tree.place path = .ok target)
    (hother : other.place path = .ok target') (hpast : ¬ entry <+: target) :
    other.node path = tree.node path := by
  have htarget := place_unique h.workingDirectory htree hother
  simp only [FileTree.node, htree, hother, htarget, bind, Except.bind, h.nodes target hpast]

theorem follow_eq {place : Place} {pieces : List (List Char)}
    (hpast : ∀ front target, front <+: pieces → follow tree place front = .ok target →
      ¬ entry <+: target) : follow other place pieces = follow tree place pieces := by
  induction pieces generalizing place with
  | nil => rfl
  | cons piece rest ih =>
    have hnode := h.nodes place (hpast [] place List.nil_prefix rfl)
    have hnext : ∀ next, follow tree place [piece] = .ok next →
        follow other next rest = follow tree next rest := by
      intro next hstep
      apply ih
      intro front target hfront hfollow
      refine hpast (piece :: front) target (List.cons_prefix_cons.mpr ⟨rfl, hfront⟩) ?_
      rw [← List.singleton_append, follow_append_eq_ok_iff]
      exact ⟨next, hstep, hfollow⟩
    have hfirst : follow other place [piece] = follow tree place [piece] := by
      simp only [follow, hnode]
    calc follow other place (piece :: rest)
        = follow other place [piece] >>= fun next => follow other next rest :=
          follow_append place [piece] rest
      _ = follow tree place [piece] >>= fun next => follow tree next rest := by
          rw [hfirst]
          cases hstep : follow tree place [piece] with
          | error fault => rfl
          | ok next => exact hnext next hstep
      _ = follow tree place (piece :: rest) := (follow_append place [piece] rest).symm

theorem node_eq_of_not_meets {path : String} (hpast : ¬ tree.Meets entry path) :
    other.node path = tree.node path := by
  have hfollow : follow other (tree.start path) (Path.piecesOf path.toList) =
      follow tree (tree.start path) (Path.piecesOf path.toList) :=
    h.follow_eq fun front target hfront hfollow hbelow =>
      hpast ⟨front, target, hfront, hfollow, hbelow⟩
  have hplace : other.place path = tree.place path := by
    have hstart := start_eq_of_workingDirectory h.workingDirectory path
    rw [start] at hstart
    rw [FileTree.place, FileTree.place, hstart, hfollow]
    rfl
  cases htarget : tree.place path with
  | error fault => simp only [FileTree.node, hplace, htarget, bind, Except.bind]
  | ok target =>
    refine h.node_eq htarget (hplace.trans htarget) fun hbelow => hpast ?_
    exact ⟨_, target, List.prefix_rfl, (place_eq_ok_iff.mp htarget).2, hbelow⟩

end AgreeApart

end AmxTrace.FileTree
