import AmxTrace.Proofs.Locator.Search

/-! # Order of search

Modules are listed directory by directory, but the list is kept in the order of paths, and the
answer is the first of it. -/

namespace AmxTrace.Locator

open FileTree

def firstAnswer (tree : FileTree) (directories : List String) (header : List UInt8) :
    Option String :=
  (({ searchPaths := directories } : Locator).find tree header).1

variable {tree : FileTree} {directories : List String} {header : List UInt8} {path : String}

theorem freshIsRight_nil (candidates : List (String × Int)) : FreshIsRight tree [] candidates :=
  fun _ _ _ _ ⟨_, h, _⟩ => absurd h List.not_mem_nil

theorem rightAnswer_firstAnswer (hw : tree.WellFormed) :
    RightAnswer tree directories header (firstAnswer tree directories header) :=
  (remembers_start directories).rightAnswer_search hw (freshIsRight_nil _) header

theorem firstAnswer_least (hw : tree.WellFormed)
    (hpath : firstAnswer tree directories header = some path) {directory other : String}
    (hdirectory : directory ∈ directories) (hmodule : ModuleIn tree directory other header) :
    Path.before other path = false :=
  (remembers_start directories).search_least hw (freshIsRight_nil _) hpath
    hdirectory hmodule

/-- The first answer stands in the first directory that has a module with the header exactly when
one of the modules there comes no later, in the order of paths, than all those of the directories
that follow. -/
theorem firstAnswer_in_first_directory_iff (hw : tree.WellFormed) {front back : List String}
    {directory : String}
    (hfront : ∀ earlier ∈ front, ∀ path, ¬ ModuleIn tree earlier path header)
    (hdirectory : ∃ path, ModuleIn tree directory path header) :
    (∃ path, firstAnswer tree (front ++ directory :: back) header = some path ∧
        ModuleIn tree directory path header) ↔
      ∃ path, ModuleIn tree directory path header ∧
        ∀ later ∈ back, ∀ other, ModuleIn tree later other header →
          Path.before other path = false := by
  have hmem : directory ∈ front ++ directory :: back := by simp
  have hright : RightAnswer tree (front ++ directory :: back) header _ := rightAnswer_firstAnswer hw
  constructor
  · rintro ⟨path, hpath, hmodule⟩
    refine ⟨path, hmodule, fun later hlater other hother => ?_⟩
    exact firstAnswer_least hw hpath (by simp [hlater]) hother
  · rintro ⟨first, hfirst, hleast⟩
    cases hanswer : firstAnswer tree (front ++ directory :: back) header with
    | none => exact absurd hfirst (hright.complete hanswer directory hmem first)
    | some path =>
      refine ⟨path, rfl, ?_⟩
      obtain ⟨found, hfound, hmodule⟩ := hright.sound path hanswer
      rw [List.mem_append, List.mem_cons] at hfound
      rcases hfound with hfound | rfl | hfound
      · exact absurd hmodule (hfront found hfound path)
      · exact hmodule
      · -- neither path comes before the other, so they lead to one module
        have hsame := Path.same_of_not_before (hleast found hfound path hmodule)
          (firstAnswer_least hw hanswer hmem hfirst)
        exact hfirst.of_same hsame (readHeader_eq_some_iff.mpr hmodule.begins)

/-- Directories with a module each, which is the same in two of them. -/
def threeDirectories : FileTree where
  entries :=
    [(["a"], .directory), (["b"], .directory), (["c"], .directory),
      (["a", "gm.amx"], .file (Header.bareFile 56) 0),
      (["b", "gm.amx"], .file (Header.bareFile 56) 0),
      (["c", "gm.amx"], .file (Header.bareFile 60) 0)]

theorem firstAnswer_threeDirectories :
    threeDirectories.WellFormed ∧
      (∀ path, ¬ ModuleIn threeDirectories "c" path (Header.bare 56).toBytes) ∧
      (∃ path, ModuleIn threeDirectories "a" path (Header.bare 56).toBytes) ∧
      ∃ path, firstAnswer threeDirectories ["c", "a", "b"] (Header.bare 56).toBytes = some path ∧
        ModuleIn threeDirectories "a" path (Header.bare 56).toBytes := by
  have hw : threeDirectories.WellFormed := by decide
  have hfront : ∀ earlier ∈ ["c"], ∀ path,
      ¬ ModuleIn threeDirectories earlier path (Header.bare 56).toBytes := by
    refine List.forall_mem_singleton.mpr fun path hmodule => ?_
    obtain ⟨candidate, hcandidate, -, hread⟩ :=
      hmodule.exists_candidate hw (List.mem_singleton_self _)
    have hnone : ∀ candidate ∈ candidates threeDirectories ["c"],
        (readHeader threeDirectories candidate.1).1 ≠ some (Header.bare 56).toBytes := by decide
    exact hnone candidate hcandidate hread
  have hmodule : ModuleIn threeDirectories "a" "a/gm.amx" (Header.bare 56).toBytes :=
    moduleIn_of_mem_candidates hw 0 (by decide) (by decide)
  refine ⟨hw, List.forall_mem_singleton.mp hfront, ⟨_, hmodule⟩, ?_⟩
  refine (firstAnswer_in_first_directory_iff hw hfront ⟨_, hmodule⟩).mpr ⟨_, hmodule, ?_⟩
  refine List.forall_mem_singleton.mpr fun other hlater => ?_
  obtain ⟨candidate, hcandidate, hsame, -⟩ :=
    hlater.exists_candidate hw (List.mem_singleton_self _)
  have hafter : ∀ candidate ∈ candidates threeDirectories ["b"],
      Path.before candidate.1 "a/gm.amx" = false := by decide
  rw [← Path.before_congr_left hsame]
  exact hafter candidate hcandidate

/-- The directory that is to be searched first has the module, and yet the answer is elsewhere. -/
theorem firstAnswer_in_second_directory :
    threeDirectories.WellFormed ∧
      ModuleIn threeDirectories "b" "b/gm.amx" (Header.bare 56).toBytes ∧
      firstAnswer threeDirectories ["b", "a"] (Header.bare 56).toBytes = some "a/gm.amx" ∧
      ¬ ModuleIn threeDirectories "b" "a/gm.amx" (Header.bare 56).toBytes := by
  have hw : threeDirectories.WellFormed := by decide
  refine ⟨hw, moduleIn_of_mem_candidates hw 0 (by decide) (by decide), by decide,
    fun hmodule => ?_⟩
  obtain ⟨candidate, hcandidate, hsame, -⟩ :=
    hmodule.exists_candidate hw (List.mem_singleton_self _)
  have hapart : ∀ candidate ∈ candidates threeDirectories ["b"],
      Path.same candidate.1 "a/gm.amx" = false := by decide
  rw [hapart candidate hcandidate] at hsame
  exact absurd hsame nofun

end AmxTrace.Locator
