import AmxTrace.Locator
import AmxTrace.Proofs.Files.Path

/-! # What a locator knows -/

namespace AmxTrace.Locator

def InPathOrder (files : List ScannedFile) : Prop :=
  files.Pairwise fun f g => Path.before f.path g.path = true

/-- A header is known for a path, read when the file had a time of change. -/
def Knows (files : List ScannedFile) (path : String) (modified : Int) (header : List UInt8) :
    Prop :=
  ∃ f ∈ files, Path.same f.path path = true ∧ f.modified = modified ∧ f.header = header

/-- The known header of a path is the one that is read there, if there is one. -/
def KnowsRight (tree : FileTree) (files : List ScannedFile) (path : String) : Prop :=
  ∀ header, (∃ modified, Knows files path modified header) ↔
    (readHeader tree path).1 = some header

variable {files : List ScannedFile} {path other : String} {modified : Int} {header : List UInt8}

theorem InPathOrder.eq_of_same (h : InPathOrder files) {f g : ScannedFile} (hf : f ∈ files)
    (hg : g ∈ files) (hsame : Path.same f.path g.path = true) : f = g := by
  induction files with
  | nil => exact absurd hf List.not_mem_nil
  | cons first rest ih =>
    obtain ⟨hfirst, hrest⟩ := List.pairwise_cons.mp h
    rcases List.mem_cons.mp hf with rfl | hf'
    · rcases List.mem_cons.mp hg with rfl | hg'
      · rfl
      · rw [Path.not_same_of_before (hfirst g hg')] at hsame
        exact absurd hsame nofun
    · rcases List.mem_cons.mp hg with rfl | hg'
      · rw [Path.same_comm, Path.not_same_of_before (hfirst f hf')] at hsame
        exact absurd hsame nofun
      · exact ih hrest hf' hg'

theorem knows_congr (h : Path.same path other = true) :
    Knows files path modified header ↔ Knows files other modified header := by
  rw [Path.same_iff] at h
  simp only [Knows, Path.same_iff, h]

theorem Knows.unique (h : InPathOrder files) {modified' : Int} {header' : List UInt8}
    (hknown : Knows files path modified header) (hknown' : Knows files path modified' header') :
    modified = modified' ∧ header = header' := by
  obtain ⟨f, hf, hsame, rfl, rfl⟩ := hknown
  obtain ⟨g, hg, hsame', rfl, rfl⟩ := hknown'
  rw [Path.same_iff] at hsame hsame'
  obtain rfl := h.eq_of_same hf hg (Path.same_iff.mpr (hsame.trans hsame'.symm))
  exact ⟨rfl, rfl⟩

theorem inPathOrder_removeFile (h : InPathOrder files) : InPathOrder (removeFile path files) :=
  h.sublist List.filter_sublist

theorem mem_removeFile_iff {f : ScannedFile} :
    f ∈ removeFile path files ↔ f ∈ files ∧ Path.same f.path path = false := by
  rw [removeFile, List.mem_filter, Bool.not_eq_true']

theorem knows_removeFile_iff :
    Knows (removeFile path files) other modified header ↔
      Knows files other modified header ∧ Path.same other path = false := by
  constructor
  · rintro ⟨f, hf, hsame, hread⟩
    obtain ⟨hf, hne⟩ := mem_removeFile_iff.mp hf
    exact ⟨⟨f, hf, hsame, hread⟩, by rwa [Path.same_congr_left hsame] at hne⟩
  · rintro ⟨⟨f, hf, hsame, hread⟩, hne⟩
    exact ⟨f, mem_removeFile_iff.mpr ⟨hf, by rwa [Path.same_congr_left hsame]⟩, hsame, hread⟩

/-- A file as it is inserted: a path that is known already keeps its spelling. -/
def respelled (file : ScannedFile) (files : List ScannedFile) : ScannedFile :=
  { file with
    path := ((files.find? fun f => Path.same f.path file.path).map (·.path)).getD file.path }

variable {file : ScannedFile}

theorem respelled_path (file : ScannedFile) (files : List ScannedFile) :
    (respelled file files).path = file.path ∨
      ∃ f ∈ files, f.path = (respelled file files).path ∧ Path.same f.path file.path = true := by
  unfold respelled
  cases hfind : files.find? fun f => Path.same f.path file.path with
  | none => exact .inl rfl
  | some f =>
    have hsame := List.find?_some hfind
    exact .inr ⟨f, List.mem_of_find?_eq_some hfind, rfl, hsame⟩

theorem same_respelled_path (file : ScannedFile) (files : List ScannedFile) :
    Path.same (respelled file files).path file.path = true := by
  rcases respelled_path file files with h | ⟨f, -, h, hsame⟩
  · rw [h]
    exact Path.same_refl _
  · rw [← h]
    exact hsame

theorem respelled_cons_of_not_same {first : ScannedFile} {rest : List ScannedFile}
    (h : Path.same first.path file.path = false) :
    respelled file (first :: rest) = respelled file rest := by
  rw [respelled, respelled, List.find?_cons_of_neg (by simp [h])]

theorem respelled_of_forall_not_same (h : ∀ f ∈ files, Path.same f.path file.path = false) :
    respelled file files = file := by
  have hfind : files.find? (fun f => Path.same f.path file.path) = none :=
    List.find?_eq_none.mpr fun f hf => by simp [h f hf]
  rw [respelled, hfind]
  rfl

theorem mem_insertFile_iff (h : InPathOrder files) {f : ScannedFile} :
    f ∈ insertFile file files ↔
      f = respelled file files ∨ (f ∈ files ∧ Path.same f.path file.path = false) := by
  induction files with
  | nil => simp [insertFile, respelled]
  | cons first rest ih =>
    obtain ⟨hfirst, hrest⟩ := List.pairwise_cons.mp h
    rw [insertFile]
    split
    next hsame =>
      -- the files after the one that is replaced have other paths
      have hothers : ∀ g ∈ rest, Path.same g.path file.path = false := by
        intro g hg
        rw [Path.same_comm, ← Path.same_congr_left hsame]
        exact Path.not_same_of_before (hfirst g hg)
      have hkept : respelled file (first :: rest) = { file with path := first.path } := by
        rw [respelled, List.find?_cons_of_pos (by simp [hsame])]
        rfl
      rw [hkept, List.mem_cons, List.mem_cons]
      constructor
      · rintro (rfl | hf)
        · exact .inl rfl
        · exact .inr ⟨.inr hf, hothers f hf⟩
      · rintro (rfl | ⟨rfl | hf, hne⟩)
        · exact .inl rfl
        · rw [hsame] at hne
          exact absurd hne nofun
        · exact .inr hf
    next hne =>
      rw [Bool.not_eq_true] at hne
      split
      next hbefore =>
        have hothers : ∀ g ∈ first :: rest, Path.same g.path file.path = false := by
          intro g hg
          rw [Path.same_comm]
          rcases List.mem_cons.mp hg with rfl | hg
          · exact Path.not_same_of_before hbefore
          · exact Path.not_same_of_before (Path.before_trans hbefore (hfirst g hg))
        rw [respelled_of_forall_not_same hothers, List.mem_cons]
        exact or_congr_right ⟨fun hf => ⟨hf, hothers f hf⟩, And.left⟩
      next =>
        rw [List.mem_cons, ih hrest, respelled_cons_of_not_same hne, List.mem_cons]
        constructor
        · rintro (rfl | hf | ⟨hf, hne⟩)
          · exact .inr ⟨.inl rfl, hne⟩
          · exact .inl hf
          · exact .inr ⟨.inr hf, hne⟩
        · rintro (hf | ⟨rfl | hf, hne⟩)
          · exact .inr (.inl hf)
          · exact .inl rfl
          · exact .inr (.inr ⟨hf, hne⟩)

theorem inPathOrder_insertFile (h : InPathOrder files) : InPathOrder (insertFile file files) := by
  induction files with
  | nil => exact List.pairwise_singleton _ _
  | cons first rest ih =>
    obtain ⟨hfirst, hrest⟩ := List.pairwise_cons.mp h
    rw [insertFile]
    split
    next hsame => exact List.pairwise_cons.mpr ⟨hfirst, hrest⟩
    next hne =>
      split
      next hbefore =>
        refine List.pairwise_cons.mpr ⟨fun g hg => ?_, h⟩
        rcases List.mem_cons.mp hg with rfl | hg
        · exact hbefore
        · exact Path.before_trans hbefore (hfirst g hg)
      next hnot =>
        refine List.pairwise_cons.mpr ⟨fun g hg => ?_, ih hrest⟩
        rcases (mem_insertFile_iff hrest).mp hg with rfl | ⟨hg, -⟩
        · rw [Path.before_congr_right (same_respelled_path file rest)]
          rw [Bool.not_eq_true] at hne hnot
          exact Path.before_of_not_same_of_not_before hne hnot
        · exact hfirst g hg

theorem knows_insertFile_iff (h : InPathOrder files) :
    Knows (insertFile file files) path modified header ↔
      (Path.same path file.path = true ∧ modified = file.modified ∧ header = file.header) ∨
        (Path.same path file.path = false ∧ Knows files path modified header) := by
  constructor
  · rintro ⟨f, hf, hsame, rfl, rfl⟩
    rcases (mem_insertFile_iff h).mp hf with rfl | ⟨hf, hne⟩
    · rw [← Path.same_congr_left hsame]
      exact .inl ⟨same_respelled_path file files, rfl, rfl⟩
    · rw [Path.same_congr_left hsame] at hne
      exact .inr ⟨hne, f, hf, hsame, rfl, rfl⟩
  · rintro (⟨hsame, rfl, rfl⟩ | ⟨hne, f, hf, hsame, hread⟩)
    · refine ⟨respelled file files, (mem_insertFile_iff h).mpr (.inl rfl), ?_, rfl, rfl⟩
      rw [Path.same_congr_left (same_respelled_path file files), Path.same_comm]
      exact hsame
    · exact ⟨f, (mem_insertFile_iff h).mpr (.inr ⟨hf, by rwa [Path.same_congr_left hsame]⟩), hsame,
        hread⟩

variable {tree : FileTree} {candidate : String × Int} {candidates : List (String × Int)}

theorem refresh_eq (tree : FileTree) (files : List ScannedFile) (candidate : String × Int) :
    (refresh tree files candidate).1 =
      if isFresh files candidate.1 candidate.2 then files
      else match (readHeader tree candidate.1).1 with
        | some header => insertFile ⟨candidate.1, candidate.2, header⟩ files
        | none => removeFile candidate.1 files := by
  obtain ⟨path, modified⟩ := candidate
  rw [refresh]
  split
  · rfl
  · split
    next h => simp only [h]
    next h => simp only [h]

theorem isFresh_iff :
    isFresh files path modified = true ↔
      ∃ modified' header, Knows files path modified' header ∧ modified ≤ modified' := by
  simp only [isFresh, List.any_eq_true, Bool.and_eq_true, decide_eq_true_eq]
  constructor
  · rintro ⟨f, hf, hsame, hle⟩
    exact ⟨f.modified, f.header, ⟨f, hf, hsame, rfl, rfl⟩, hle⟩
  · rintro ⟨_, _, ⟨f, hf, hsame, rfl, rfl⟩, hle⟩
    exact ⟨f, hf, hsame, hle⟩

theorem inPathOrder_refresh (h : InPathOrder files) :
    InPathOrder (refresh tree files candidate).1 := by
  rw [refresh_eq]
  split
  · exact h
  · split
    · exact inPathOrder_insertFile h
    · exact inPathOrder_removeFile h

theorem knows_refresh_of_not_same (h : InPathOrder files)
    (hne : Path.same path candidate.1 = false) :
    Knows (refresh tree files candidate).1 path modified header ↔
      Knows files path modified header := by
  rw [refresh_eq]
  split
  · rfl
  · split
    · rw [knows_insertFile_iff h]
      simp [hne]
    · rw [knows_removeFile_iff]
      simp [hne]

theorem knowsRight_refresh (h : InPathOrder files)
    (hfresh : ∀ modified header, Knows files candidate.1 modified header → candidate.2 ≤ modified →
      (readHeader tree candidate.1).1 = some header) :
    KnowsRight tree (refresh tree files candidate).1 candidate.1 := by
  intro header
  rw [refresh_eq]
  split
  next hkept =>
    obtain ⟨modified', header', hknown, hle⟩ := isFresh_iff.mp hkept
    have hread := hfresh modified' header' hknown hle
    constructor
    · rintro ⟨modified, hknown'⟩
      rw [(hknown'.unique h hknown).2]
      exact hread
    · intro hread'
      rw [hread] at hread'
      exact ⟨modified', Option.some.inj hread' ▸ hknown⟩
  next =>
    split
    next found hread =>
      simp only [knows_insertFile_iff h, Path.same_refl, hread, Option.some.injEq]
      simp [eq_comm]
    next hread =>
      simp only [knows_removeFile_iff, Path.same_refl, hread]
      simp

theorem inPathOrder_refreshAll (h : InPathOrder files) :
    InPathOrder (refreshAll tree candidates files).1 := by
  induction candidates generalizing files with
  | nil => exact h
  | cons candidate others ih => exact ih (inPathOrder_refresh h)

theorem knows_refreshAll_of_not_same (h : InPathOrder files)
    (hne : ∀ candidate ∈ candidates, Path.same path candidate.1 = false) :
    Knows (refreshAll tree candidates files).1 path modified header ↔
      Knows files path modified header := by
  induction candidates generalizing files with
  | nil => rfl
  | cons candidate others ih =>
    obtain ⟨hfirst, hothers⟩ := List.forall_mem_cons.mp hne
    exact (ih (inPathOrder_refresh h) hothers).trans (knows_refresh_of_not_same h hfirst)

end AmxTrace.Locator
