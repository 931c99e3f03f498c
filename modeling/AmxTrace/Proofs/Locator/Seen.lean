import AmxTrace.Proofs.Locator.Modules

/-! # Where known headers come from -/

namespace AmxTrace.Locator

open FileTree

/-- At one of some moments the file at the path of a module began with the header that is kept for
it, and had the time of change that is kept. -/
def SeenAt (moments : List FileTree) (directories : List String) (f : ScannedFile) : Prop :=
  NamesModule directories f.path ∧ ∃ moment ∈ moments, ∃ content,
    moment.node f.path = .ok (.file content f.modified) ∧ BeginsWith content f.header

variable {tree : FileTree} {moments : List FileTree} {directories : List String}
  {files : List ScannedFile} {candidate : String × Int} {f : ScannedFile}

theorem SeenAt.mono (h : SeenAt moments directories f) {later : List FileTree}
    {more : List String} (hmoments : ∀ moment ∈ moments, moment ∈ later)
    (hdirectories : ∀ directory ∈ directories, directory ∈ more) : SeenAt later more f := by
  obtain ⟨hnamed, moment, hmoment, hcontent⟩ := h
  exact ⟨hnamed.mono hdirectories, moment, hmoments moment hmoment, hcontent⟩

/-- A candidate that is read is seen now, also under the spelling that was known before. -/
theorem seenAt_respelled (hw : tree.WellFormed) (hnow : tree ∈ moments)
    (hfiles : ∀ f ∈ files, SeenAt moments directories f)
    (hcandidate : candidate ∈ candidates tree directories) {header : List UInt8}
    (hread : (readHeader tree candidate.1).1 = some header) :
    SeenAt moments directories (respelled ⟨candidate.1, candidate.2, header⟩ files) := by
  obtain ⟨hnamed, content, hnode⟩ := (mem_candidates_iff hw).mp hcandidate
  have hbegins : BeginsWith content header := by
    obtain ⟨found, modified, hfound, hbegins⟩ := readHeader_eq_some_iff.mp hread
    rw [hnode] at hfound
    cases hfound
    exact hbegins
  rcases respelled_path ⟨candidate.1, candidate.2, header⟩ files with h | ⟨f, hf, h, hsame⟩
  · exact ⟨h ▸ hnamed, tree, hnow, content, h ▸ hnode, hbegins⟩
  · have hold := (hfiles f hf).1
    rw [Path.same_comm] at hsame
    exact ⟨h ▸ hold, tree, hnow, content, h ▸ hold.node_of_same hsame hnode, hbegins⟩

theorem seenAt_refresh (hw : tree.WellFormed) (hnow : tree ∈ moments) (horder : InPathOrder files)
    (hfiles : ∀ f ∈ files, SeenAt moments directories f)
    (hcandidate : candidate ∈ candidates tree directories) :
    ∀ f ∈ (refresh tree files candidate).1, SeenAt moments directories f := by
  rw [refresh_eq]
  split
  · exact hfiles
  · split
    next header hread =>
      intro f hf
      rcases (mem_insertFile_iff horder).mp hf with rfl | ⟨hf, -⟩
      · exact seenAt_respelled hw hnow hfiles hcandidate hread
      · exact hfiles f hf
    next => exact fun f hf => hfiles f (mem_removeFile_iff.mp hf).1

theorem seenAt_refreshAll (hw : tree.WellFormed) (hnow : tree ∈ moments)
    {chosen : List (String × Int)} (horder : InPathOrder files)
    (hfiles : ∀ f ∈ files, SeenAt moments directories f)
    (hchosen : ∀ candidate ∈ chosen, candidate ∈ candidates tree directories) :
    ∀ f ∈ (refreshAll tree chosen files).1, SeenAt moments directories f := by
  induction chosen generalizing files with
  | nil => exact hfiles
  | cons candidate others ih =>
    obtain ⟨hcandidate, hothers⟩ := List.forall_mem_cons.mp hchosen
    exact ih (inPathOrder_refresh horder) (seenAt_refresh hw hnow horder hfiles hcandidate) hothers

variable {l : Locator}

theorem rescan_eq (l : Locator) (tree : FileTree) :
    (l.rescan tree).1 =
      (refreshAll tree (Locator.candidates tree l.searchPaths) l.scanned).1.filter fun file =>
        (Locator.candidates tree l.searchPaths).any fun candidate =>
          Path.same candidate.1 file.path := rfl

theorem mem_rescan_iff :
    f ∈ (l.rescan tree).1 ↔
      f ∈ (refreshAll tree (Locator.candidates tree l.searchPaths) l.scanned).1 ∧
        ∃ candidate ∈ Locator.candidates tree l.searchPaths,
          Path.same candidate.1 f.path = true := by
  rw [rescan_eq, List.mem_filter, List.any_eq_true]

theorem inPathOrder_rescan (horder : InPathOrder l.scanned) : InPathOrder (l.rescan tree).1 := by
  rw [rescan_eq]
  exact (inPathOrder_refreshAll horder).sublist List.filter_sublist

/-- What a locator keeps was seen, and the answers it keeps are paths of modules. -/
structure Remembers (moments : List FileTree) (l : Locator) : Prop where
  order : InPathOrder l.scanned
  seen : ∀ f ∈ l.scanned, SeenAt moments l.searchPaths f
  found : ∀ answer ∈ l.found, NamesModule l.searchPaths answer.2

theorem remembers_start (searchPaths : List String) : Remembers [] { searchPaths } :=
  ⟨List.Pairwise.nil, nofun, nofun⟩

theorem Remembers.addSearchPath (h : Remembers moments l) (path : String) :
    Remembers moments (l.addSearchPath path) := by
  have hmore : ∀ directory ∈ l.searchPaths, directory ∈ (l.addSearchPath path).searchPaths :=
    fun _ => List.mem_append_left _
  exact ⟨h.order, fun f hf => (h.seen f hf).mono (fun _ => id) hmore,
    fun answer hanswer => (h.found answer hanswer).mono hmore⟩

theorem Remembers.forget (h : Remembers moments l) (header : List UInt8) (path : String) :
    Remembers moments (l.forget header path) where
  order := inPathOrder_removeFile h.order
  seen f hf := h.seen f (mem_removeFile_iff.mp hf).1
  found answer hanswer := h.found answer (List.mem_filter.mp hanswer).1

theorem Remembers.seenAt_rescan (h : Remembers moments l) (hw : tree.WellFormed) :
    ∀ f ∈ (l.rescan tree).1, SeenAt (tree :: moments) l.searchPaths f := by
  intro f hf
  have hbefore : ∀ f ∈ l.scanned, SeenAt (tree :: moments) l.searchPaths f := fun f hf =>
    (h.seen f hf).mono (fun _ => List.mem_cons_of_mem _) fun _ => id
  exact seenAt_refreshAll hw List.mem_cons_self h.order hbefore (fun _ => id) f
    (mem_rescan_iff.mp hf).1

end AmxTrace.Locator
