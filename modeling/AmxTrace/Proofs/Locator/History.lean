import AmxTrace.Proofs.Files.Change
import AmxTrace.Proofs.Locator.Search

/-! # Answers over a history -/

namespace AmxTrace.Locator

open FileTree

variable {tree : FileTree} {moments : List FileTree} {l : Locator} {files : List ScannedFile}
  {directories : List String} {header : List UInt8}

/-- Wherever a path led to other first bytes before than it does now, the times of change are in
a relation. -/
def Redated (relation : Int → Int → Prop) (before now : FileTree) : Prop :=
  ∀ path first firstTime second secondTime,
    before.node path = .ok (.file first firstTime) → now.node path = .ok (.file second secondTime) →
      (Segment.bytes first).take Header.byteSize ≠ (Segment.bytes second).take Header.byteSize →
        relation firstTime secondTime

theorem freshIsRight_of_seenAt (hw : tree.WellFormed)
    (hseen : ∀ f ∈ files, SeenAt moments directories f)
    (hdated : ∀ moment ∈ moments, Redated (· < ·) moment tree) :
    FreshIsRight tree files (candidates tree directories) := by
  intro candidate hcandidate modified header hknown hle
  obtain ⟨f, hf, hsame, rfl, rfl⟩ := hknown
  obtain ⟨hnamed, content, hnode⟩ := (mem_candidates_iff hw).mp hcandidate
  obtain ⟨-, moment, hmoment, first, hfirst, hheader, hparse⟩ := hseen f hf
  have hunchanged : (Segment.bytes first).take Header.byteSize =
      (Segment.bytes content).take Header.byteSize := by
    by_contra hchanged
    have hlt : f.modified < candidate.2 :=
      hdated moment hmoment _ _ _ _ _ (hnamed.node_of_same hsame hfirst) hnode hchanged
    exact absurd hlt (Int.not_lt.mpr hle)
  exact readHeader_eq_some_iff.mpr
    ⟨content, candidate.2, hnode, hunchanged.symm.trans hheader, hparse⟩

theorem Remembers.mono (h : Remembers moments l) {later : List FileTree}
    (hlater : ∀ moment ∈ moments, moment ∈ later) : Remembers later l :=
  ⟨h.order, fun f hf => (h.seen f hf).mono hlater fun _ => id, h.found⟩

/-- An answer from before that still holds is given again; else the directories are searched, and
what led to a wrong answer is forgotten first. -/
theorem find_cases (l : Locator) (tree : FileTree) (header : List UInt8) :
    (∃ path, l.earlier? header = some path ∧ (readHeader tree path).1 = some header ∧
        (l.find tree header).1 = some path ∧ (l.find tree header).2.1 = l) ∨
      ∃ searched, (searched = l ∨ ∃ path, searched = l.forget header path) ∧
        (l.find tree header).1 = (searched.search tree header).1 ∧
        (l.find tree header).2.1 = (searched.search tree header).2.1 := by
  cases hearlier : l.earlier? header with
  | none => exact .inr ⟨l, .inl rfl, by rw [find, hearlier], by rw [find, hearlier]⟩
  | some path =>
    by_cases hcurrent : (readHeader tree path).1 = some header
    · refine .inl ⟨path, rfl, hcurrent, ?_, ?_⟩ <;> rw [find, hearlier] <;> dsimp only <;>
        rw [if_pos hcurrent]
    · refine .inr ⟨l.forget header path, .inr ⟨path, rfl⟩, ?_, ?_⟩ <;> rw [find, hearlier] <;>
        dsimp only <;> rw [if_neg hcurrent]

theorem earlier?_mem {path : String} (h : l.earlier? header = some path) :
    ∃ answer ∈ l.found, answer.2 = path := by
  obtain ⟨answer, hfind, rfl⟩ := Option.map_eq_some_iff.mp h
  exact ⟨answer, List.mem_of_find?_eq_some hfind, rfl⟩

theorem Remembers.find (h : Remembers moments l) (hw : tree.WellFormed) (header : List UInt8) :
    Remembers (tree :: moments) (l.find tree header).2.1 := by
  rcases find_cases l tree header with ⟨path, -, -, -, hl⟩ | ⟨_, rfl | ⟨path, rfl⟩, -, hl⟩
  · rw [hl]
    exact h.mono fun _ => List.mem_cons_of_mem _
  · rw [hl]
    exact h.search hw header
  · rw [hl]
    exact (h.forget header path).search hw header

theorem Remembers.rightAnswer (h : Remembers moments l) (hw : tree.WellFormed)
    (hdated : ∀ moment ∈ moments, Redated (· < ·) moment tree) (header : List UInt8) :
    RightAnswer tree l.searchPaths header (l.find tree header).1 := by
  have hsearch : ∀ searched : Locator, Remembers moments searched →
      RightAnswer tree searched.searchPaths header (searched.search tree header).1 :=
    fun searched h => h.rightAnswer_search hw (freshIsRight_of_seenAt hw h.seen hdated) header
  rcases find_cases l tree header with
    ⟨path, hearlier, hread, hanswer, -⟩ | ⟨_, rfl | ⟨path, rfl⟩, hanswer, -⟩
  · rw [hanswer]
    refine ⟨fun found hfound => ?_, nofun⟩
    obtain ⟨answer, hmem, rfl⟩ := earlier?_mem hearlier
    obtain rfl := Option.some.inj hfound
    exact (h.found answer hmem).exists_moduleIn hread
  · rw [hanswer]
    exact hsearch _ h
  · rw [hanswer]
    exact hsearch _ (h.forget header path)

/-- What there is after some changes of a tree, added directories and looks at headers: the tree,
the trees of the moments at which something was looked for, and the locator. -/
inductive History : FileTree → List FileTree → Locator → Prop where
  | start {tree : FileTree} (hw : tree.WellFormed) (searchPaths : List String) :
      History tree [] { searchPaths }
  | change {tree next : FileTree} {moments : List FileTree} {l : Locator}
      (h : History tree moments l) (hchange : Change tree next) : History next moments l
  | addSearchPath {tree : FileTree} {moments : List FileTree} {l : Locator}
      (h : History tree moments l) (path : String) : History tree moments (l.addSearchPath path)
  | find {tree : FileTree} {moments : List FileTree} {l : Locator}
      (h : History tree moments l) (header : List UInt8) :
      History tree (tree :: moments) (l.find tree header).2.1

theorem History.wellFormed (h : History tree moments l) : tree.WellFormed := by
  induction h with
  | start hw => exact hw
  | change _ hchange ih => exact ih.of_change hchange
  | addSearchPath _ _ ih => exact ih
  | find _ _ ih => exact ih

theorem History.remembers (h : History tree moments l) : Remembers moments l := by
  induction h with
  | start hw searchPaths => exact remembers_start searchPaths
  | change _ _ ih => exact ih
  | addSearchPath _ path ih => exact ih.addSearchPath path
  | find h header ih => exact ih.find h.wellFormed header

/-- After any history the next answer is right, if each path that leads to other first bytes than
at an earlier look leads to a file that was changed later. -/
theorem History.rightAnswer_find (h : History tree moments l)
    (hdated : ∀ moment ∈ moments, Redated (· < ·) moment tree) (header : List UInt8) :
    RightAnswer tree l.searchPaths header (l.find tree header).1 :=
  h.remembers.rightAnswer h.wellFormed hdated header

def oneModule (stackTop : Cell) (modified : Int) : FileTree where
  entries := [(["d"], .directory), (["d", "gm.amx"], .file (Header.bareFile stackTop) modified)]

theorem redated_oneModule {relation : Int → Int → Prop} {stackTop stackTop' : Cell}
    {modified modified' : Int} (h : relation modified modified') :
    Redated relation (oneModule stackTop modified) (oneModule stackTop' modified') := by
  have htime : ∀ {stackTop : Cell} {time : Int} {path content found},
      (oneModule stackTop time).node path = .ok (.file content found) → found = time := by
    intro stackTop time path content found hnode
    obtain ⟨place, -, hplace⟩ := node_eq_ok_iff.mp hnode
    have hne : place ≠ [] := fun hroot => by rw [hroot] at hplace; exact nomatch hplace
    have hentry := nodeAt?_eq_some hne hplace
    simp only [oneModule, List.mem_cons, List.not_mem_nil, or_false, Prod.mk.injEq, reduceCtorEq,
      and_false, false_or, FileNode.file.injEq] at hentry
    exact hentry.2.2
  intro path first firstTime second secondTime hfirst hsecond _
  rw [htime hfirst, htime hsecond]
  exact h

/-- What a locator knows that has looked for what is not there. -/
def beforeOverwriting : Locator :=
  (({ searchPaths := ["d"] } : Locator).find (oneModule 56 10) (Header.bare 64).toBytes).2.1

theorem history_overwritten (modified : Int) :
    History (oneModule 60 modified) [oneModule 56 10] beforeOverwriting := by
  have hstart : History (oneModule 56 10) [] { searchPaths := ["d"] } := .start (by decide) ["d"]
  have hdirectory : (oneModule 56 10).nodeAt? ["d"] = some .directory := rfl
  have hname : IsName "gm.amx" := by decide
  have hfile : (oneModule 56 10).nodeAt? (["d"] ++ ["gm.amx"]) ≠ some .directory := by decide
  exact (hstart.find (Header.bare 64).toBytes).change
    (.write (Header.bareFile 60) modified hdirectory hname hfile)

theorem rightAnswer_find_overwritten :
    (∀ moment ∈ [oneModule 56 10], Redated (· < ·) moment (oneModule 60 11)) ∧
      History (oneModule 60 11) [oneModule 56 10] beforeOverwriting ∧
      RightAnswer (oneModule 60 11) ["d"] (Header.bare 60).toBytes
        (beforeOverwriting.find (oneModule 60 11) (Header.bare 60).toBytes).1 := by
  have hdated : ∀ moment ∈ [oneModule 56 10], Redated (· < ·) moment (oneModule 60 11) :=
    List.forall_mem_singleton.mpr (redated_oneModule (by decide))
  exact ⟨hdated, history_overwritten 11, (history_overwritten 11).rightAnswer_find hdated _⟩

/-- A module that is overwritten with an older one is not found, and the one that was there before
is. -/
theorem wrongAnswer_find_overwritten :
    (∀ moment ∈ [oneModule 56 10], Redated (· ≠ ·) moment (oneModule 60 5)) ∧
      History (oneModule 60 5) [oneModule 56 10] beforeOverwriting ∧
      ¬ RightAnswer (oneModule 60 5) ["d"] (Header.bare 60).toBytes
        (beforeOverwriting.find (oneModule 60 5) (Header.bare 60).toBytes).1 ∧
      ¬ RightAnswer (oneModule 60 5) ["d"] (Header.bare 56).toBytes
        (beforeOverwriting.find (oneModule 60 5) (Header.bare 56).toBytes).1 := by
  have hw : (oneModule 60 5).WellFormed := by decide
  have hread : (readHeader (oneModule 60 5) "d/gm.amx").1 = some (Header.bare 60).toBytes := by
    decide
  refine ⟨List.forall_mem_singleton.mpr (redated_oneModule (by decide)), history_overwritten 5,
    fun hright => ?_, fun hright => ?_⟩
  · have hmodule : ModuleIn (oneModule 60 5) "d" "d/gm.amx" (Header.bare 60).toBytes :=
      moduleIn_of_mem_candidates hw 5 (by decide) hread
    exact hright.complete (by decide) "d" (List.mem_singleton_self _) _ hmodule
  · obtain ⟨_, -, hmodule⟩ := hright.sound "d/gm.amx" (by decide)
    have hold := readHeader_eq_some_iff.mpr hmodule.begins
    rw [hread] at hold
    exact absurd hold (by decide)

end AmxTrace.Locator
