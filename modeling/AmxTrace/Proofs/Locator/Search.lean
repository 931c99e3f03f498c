import AmxTrace.Proofs.Locator.Seen

/-! # Searching directories -/

namespace AmxTrace.Locator

variable {tree : FileTree} {directories : List String} {files : List ScannedFile}
  {candidates : List (String × Int)} {path : String} {header : List UInt8}
  {moments : List FileTree}

/-- What is known about the candidates is right where it is not older than they are. -/
def FreshIsRight (tree : FileTree) (files : List ScannedFile) (candidates : List (String × Int)) :
    Prop :=
  ∀ candidate ∈ candidates, ∀ modified header, Knows files candidate.1 modified header →
    candidate.2 ≤ modified → (readHeader tree candidate.1).1 = some header

def ReadAlike (tree : FileTree) (candidates : List (String × Int)) : Prop :=
  ∀ first ∈ candidates, ∀ second ∈ candidates, Path.same first.1 second.1 = true →
    (readHeader tree first.1).1 = (readHeader tree second.1).1

theorem readAlike_candidates (hw : tree.WellFormed) :
    ReadAlike tree (Locator.candidates tree directories) := by
  intro first hfirst second hsecond hsame
  exact ((mem_candidates_iff hw).mp hfirst).1.readHeader_eq ((mem_candidates_iff hw).mp hsecond).1
    hsame

theorem KnowsRight.of_same {other : String} (h : KnowsRight tree files path)
    (hsame : Path.same path other = true)
    (hread : (readHeader tree path).1 = (readHeader tree other).1) :
    KnowsRight tree files other := by
  intro header
  rw [← hread, ← h header]
  exact exists_congr fun modified => (knows_congr hsame).symm

/-- A look at one candidate leaves nothing wrong that the next looks would take for fresh. -/
theorem FreshIsRight.refresh {candidate : String × Int} (horder : InPathOrder files)
    (halike : ReadAlike tree (candidate :: candidates))
    (hfresh : FreshIsRight tree files (candidate :: candidates)) :
    FreshIsRight tree (Locator.refresh tree files candidate).1 candidates := by
  obtain ⟨hfirst, hothers⟩ := List.forall_mem_cons.mp hfresh
  intro other hother modified header hknown hle
  cases hsame : Path.same other.1 candidate.1 with
  | true =>
    rw [halike other (List.mem_cons_of_mem _ hother) candidate List.mem_cons_self hsame]
    exact (knowsRight_refresh horder hfirst header).mp ⟨modified, (knows_congr hsame).mp hknown⟩
  | false =>
    exact hothers other hother modified header
      ((knows_refresh_of_not_same horder hsame).mp hknown) hle

theorem knowsRight_refreshAll (horder : InPathOrder files) (halike : ReadAlike tree candidates)
    (hfresh : FreshIsRight tree files candidates) :
    ∀ candidate ∈ candidates,
      KnowsRight tree (refreshAll tree candidates files).1 candidate.1 := by
  induction candidates generalizing files with
  | nil => exact fun _ h => absurd h List.not_mem_nil
  | cons first others ih =>
    have hothers := ih (inPathOrder_refresh horder)
      (fun a ha b hb => halike a (List.mem_cons_of_mem _ ha) b (List.mem_cons_of_mem _ hb))
      (hfresh.refresh horder halike)
    refine List.forall_mem_cons.mpr ⟨?_, hothers⟩
    by_cases hlater : ∃ other ∈ others, Path.same other.1 first.1 = true
    · obtain ⟨other, hother, hsame⟩ := hlater
      exact (hothers other hother).of_same hsame
        (halike other (List.mem_cons_of_mem _ hother) first List.mem_cons_self hsame)
    · -- no later candidate has this path, so what the first look left stays
      have hne : ∀ other ∈ others, Path.same first.1 other.1 = false := by
        intro other hother
        rw [Path.same_comm, Bool.eq_false_iff]
        exact fun hsame => hlater ⟨other, hother, hsame⟩
      have hright := knowsRight_refresh horder (List.forall_mem_cons.mp hfresh).1
      intro header
      rw [← hright header]
      exact exists_congr fun modified =>
        knows_refreshAll_of_not_same (inPathOrder_refresh horder) hne

/-- The files are the modules in some directories, with their headers. -/
structure Shows (tree : FileTree) (directories : List String) (files : List ScannedFile) :
    Prop where
  order : InPathOrder files
  sound : ∀ f ∈ files, ∃ candidate ∈ Locator.candidates tree directories,
    Path.same candidate.1 f.path = true ∧ (readHeader tree candidate.1).1 = some f.header
  complete : ∀ candidate ∈ Locator.candidates tree directories, ∀ header,
    (readHeader tree candidate.1).1 = some header →
      ∃ f ∈ files, Path.same f.path candidate.1 = true ∧ f.header = header

variable {l : Locator}

theorem shows_rescan (hw : tree.WellFormed) (horder : InPathOrder l.scanned)
    (hfresh : FreshIsRight tree l.scanned (Locator.candidates tree l.searchPaths)) :
    Shows tree l.searchPaths (l.rescan tree).1 := by
  have hright := knowsRight_refreshAll horder (readAlike_candidates hw) hfresh
  refine ⟨inPathOrder_rescan horder, ?_, ?_⟩
  · intro f hf
    obtain ⟨hf, candidate, hcandidate, hsame⟩ := mem_rescan_iff.mp hf
    refine ⟨candidate, hcandidate, hsame, (hright candidate hcandidate f.header).mp ?_⟩
    exact ⟨f.modified, f, hf, by rw [Path.same_comm]; exact hsame, rfl, rfl⟩
  · intro candidate hcandidate header hread
    obtain ⟨modified, f, hf, hsame, -, hheader⟩ := (hright candidate hcandidate header).mpr hread
    refine ⟨f, mem_rescan_iff.mpr ⟨hf, candidate, hcandidate, ?_⟩, hsame, hheader⟩
    rw [Path.same_comm]
    exact hsame

theorem firstWith?_eq_some (horder : InPathOrder files)
    (h : firstWith? header files = some path) :
    ∃ f ∈ files, f.path = path ∧ f.header = header ∧
      ∀ g ∈ files, g.header = header → Path.before g.path path = false := by
  obtain ⟨f, hfind, rfl⟩ := Option.map_eq_some_iff.mp h
  obtain ⟨hheader, earlier, later, rfl, hearlier⟩ := List.find?_eq_some_iff_append.mp hfind
  obtain ⟨-, hf, hacross⟩ := List.pairwise_append.mp horder
  rw [beq_iff_eq] at hheader
  refine ⟨f, by simp, rfl, hheader, fun g hg hsame => ?_⟩
  rw [List.mem_append, List.mem_cons] at hg
  rcases hg with hg | rfl | hg
  · simpa [hsame] using hearlier g hg
  · exact Path.before_irrefl g.path
  · exact Path.before_asymm ((List.pairwise_cons.mp hf).1 g hg)

theorem firstWith?_eq_none_iff :
    firstWith? header files = none ↔ ∀ f ∈ files, f.header ≠ header := by
  rw [firstWith?, Option.map_eq_none_iff, List.find?_eq_none]
  exact forall₂_congr fun f _ => not_congr beq_iff_eq

theorem search_fst (l : Locator) (tree : FileTree) (header : List UInt8) :
    (l.search tree header).1 = firstWith? header (l.rescan tree).1 := by
  dsimp only [search]
  split
  next h => exact h.symm
  next h => exact h.symm

theorem search_locator (l : Locator) (tree : FileTree) (header : List UInt8) :
    (l.search tree header).2.1 =
      { l with
        scanned := (l.rescan tree).1
        found := ((l.search tree header).1.map (header, ·)).toList ++ l.found } := by
  rw [search_fst]
  dsimp only [search]
  split
  next h => rw [h]; rfl
  next h => rw [h]; rfl

theorem Remembers.search (h : Remembers moments l) (hw : tree.WellFormed) (header : List UInt8) :
    Remembers (tree :: moments) (l.search tree header).2.1 := by
  have hseen := h.seenAt_rescan hw
  rw [search_locator, search_fst]
  refine ⟨inPathOrder_rescan h.order, hseen, fun answer hanswer => ?_⟩
  rcases List.mem_append.mp hanswer with hnew | hold
  · obtain ⟨path, hpath, rfl⟩ := Option.map_eq_some_iff.mp (Option.mem_toList.mp hnew)
    obtain ⟨f, hf, rfl, -⟩ := firstWith?_eq_some (inPathOrder_rescan h.order) hpath
    exact (hseen f hf).1
  · exact h.found answer hold

/-- An answer is right at a moment: it is the path of a module with the header that stands directly
in a search directory, and there is an answer if there is such a module. -/
structure RightAnswer (tree : FileTree) (directories : List String) (header : List UInt8)
    (answer : Option String) : Prop where
  sound : ∀ path, answer = some path →
    ∃ directory ∈ directories, ModuleIn tree directory path header
  complete : answer = none →
    ∀ directory ∈ directories, ∀ path, ¬ ModuleIn tree directory path header

section Fresh

variable (h : Remembers moments l) (hw : tree.WellFormed)
  (hfresh : FreshIsRight tree l.scanned (Locator.candidates tree l.searchPaths))
include h hw hfresh

theorem Remembers.rightAnswer_search (header : List UInt8) :
    RightAnswer tree l.searchPaths header (l.search tree header).1 := by
  have hshows := shows_rescan hw h.order hfresh
  rw [search_fst]
  constructor
  · intro path hpath
    obtain ⟨f, hf, rfl, rfl, -⟩ := firstWith?_eq_some hshows.order hpath
    obtain ⟨candidate, hcandidate, hsame, hread⟩ := hshows.sound f hf
    have hnamed := (h.seenAt_rescan hw f hf).1
    rw [((mem_candidates_iff hw).mp hcandidate).1.readHeader_eq hnamed hsame] at hread
    exact hnamed.exists_moduleIn hread
  · intro hnone directory hdirectory path hmodule
    obtain ⟨candidate, hcandidate, -, hread⟩ := hmodule.exists_candidate hw hdirectory
    obtain ⟨f, hf, -, hheader⟩ := hshows.complete candidate hcandidate header hread
    exact firstWith?_eq_none_iff.mp hnone f hf hheader

theorem Remembers.search_least (hpath : (l.search tree header).1 = some path)
    {directory other : String} (hdirectory : directory ∈ l.searchPaths)
    (hmodule : ModuleIn tree directory other header) : Path.before other path = false := by
  have hshows := shows_rescan hw h.order hfresh
  rw [search_fst] at hpath
  obtain ⟨f, -, -, -, hleast⟩ := firstWith?_eq_some hshows.order hpath
  obtain ⟨candidate, hcandidate, hsame, hread⟩ := hmodule.exists_candidate hw hdirectory
  obtain ⟨g, hg, hsame', hheader⟩ := hshows.complete candidate hcandidate header hread
  have hother : Path.same g.path other = true := by
    rw [Path.same_congr_left hsame']
    exact hsame
  rw [← Path.before_congr_left hother]
  exact hleast g hg hheader

end Fresh

end AmxTrace.Locator
