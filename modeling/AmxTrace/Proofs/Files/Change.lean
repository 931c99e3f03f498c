import AmxTrace.Proofs.Files.Tree

/-! # Changes of a tree -/

namespace AmxTrace.FileTree

inductive Change (tree : FileTree) : FileTree → Prop where
  | write {directory : Place} {name : String} (content : ByteArray) (modified : Int)
      (hdirectory : tree.nodeAt? directory = some .directory) (hname : IsName name)
      (hfile : tree.nodeAt? (directory ++ [name]) ≠ some .directory) :
      Change tree (tree.put (directory ++ [name]) (.file content modified))
  | makeDirectory {directory : Place} {name : String}
      (hdirectory : tree.nodeAt? directory = some .directory) (hname : IsName name)
      (hfree : tree.nodeAt? (directory ++ [name]) = none) :
      Change tree (tree.put (directory ++ [name]) .directory)
  | remove (place : Place) : Change tree (tree.remove place)
  /-- A file or a directory is moved, over what stood at its new place. -/
  | rename {source directory : Place} {name : String}
      (hdirectory : tree.nodeAt? directory = some .directory) (hname : IsName name)
      (hapart : ¬ source <+: directory ++ [name]) :
      Change tree (tree.rename source (directory ++ [name]))

variable {tree : FileTree} {directory : Place} {name : String} {node : FileNode}

theorem WellFormed.isName_of_directory (hw : tree.WellFormed)
    (hdirectory : tree.nodeAt? directory = some .directory) : ∀ n ∈ directory, IsName n := by
  rcases (nodeAt?_eq_directory_iff hw.distinct).mp hdirectory with rfl | h
  · exact nofun
  · exact hw.named _ h

theorem WellFormed.isName_of_concat (hw : tree.WellFormed)
    (hdirectory : tree.nodeAt? directory = some .directory) (hname : IsName name) :
    ∀ n ∈ directory ++ [name], IsName n := by
  intro n hn
  rcases List.mem_append.mp hn with hn | hn
  · exact hw.isName_of_directory hdirectory n hn
  · exact List.mem_singleton.mp hn ▸ hname

theorem wellFormed_of_directories (hdistinct : (tree.entries.map Prod.fst).Nodup)
    (hnamed : ∀ entry ∈ tree.entries, ∀ name ∈ entry.1, IsName name)
    (hhoused : ∀ entry ∈ tree.entries,
      entry.1.dropLast = [] ∨ (entry.1.dropLast, .directory) ∈ tree.entries) :
    tree.WellFormed :=
  ⟨hdistinct, hnamed, fun entry hentry =>
    (nodeAt?_eq_directory_iff hdistinct).mpr (hhoused entry hentry)⟩

theorem WellFormed.directory_of_entry (hw : tree.WellFormed) {entry : Place × FileNode}
    (hentry : entry ∈ tree.entries) :
    entry.1.dropLast = [] ∨ (entry.1.dropLast, .directory) ∈ tree.entries :=
  (nodeAt?_eq_directory_iff hw.distinct).mp (hw.housed entry hentry)

theorem mem_entries_put_iff {place : Place} {entry : Place × FileNode} :
    entry ∈ (tree.put place node).entries ↔
      (entry ∈ tree.entries ∧ entry.1 ≠ place) ∨ entry = (place, node) := by
  simp [put]

theorem mem_entries_remove_iff {place : Place} {entry : Place × FileNode} :
    entry ∈ (tree.remove place).entries ↔ entry ∈ tree.entries ∧ ¬ place <+: entry.1 := by
  rw [remove, List.mem_filter, Bool.not_eq_true', Bool.eq_false_iff, ne_eq,
    List.isPrefixOf_iff_prefix]

theorem mem_entries_rename_iff {source target : Place} {entry : Place × FileNode} :
    entry ∈ (tree.rename source target).entries ↔
      (entry ∈ tree.entries ∧ ¬ source <+: entry.1 ∧ ¬ target <+: entry.1) ∨
        ∃ rest, (source ++ rest, entry.2) ∈ tree.entries ∧ entry.1 = target ++ rest := by
  rw [rename, List.mem_append]
  refine or_congr ?_ ?_
  · rw [List.mem_filter, Bool.and_eq_true, Bool.not_eq_true', Bool.not_eq_true',
      Bool.eq_false_iff, Bool.eq_false_iff, ne_eq, ne_eq, List.isPrefixOf_iff_prefix,
      List.isPrefixOf_iff_prefix]
  · constructor
    · intro h
      obtain ⟨⟨place, node⟩, hold, rfl⟩ := List.mem_map.mp h
      obtain ⟨hold, hbelow⟩ := List.mem_filter.mp hold
      obtain ⟨rest, rfl⟩ := List.isPrefixOf_iff_prefix.mp hbelow
      exact ⟨rest, hold, by rw [List.drop_left]⟩
    · obtain ⟨place, node⟩ := entry
      rintro ⟨rest, hold, rfl⟩
      refine List.mem_map.mpr ⟨_, List.mem_filter.mpr ⟨hold, ?_⟩, ?_⟩
      · exact List.isPrefixOf_iff_prefix.mpr (List.prefix_append _ _)
      · rw [List.drop_left]

theorem WellFormed.put (hw : tree.WellFormed)
    (hdirectory : tree.nodeAt? directory = some .directory) (hname : IsName name)
    (hnode : node = .directory ∨ tree.nodeAt? (directory ++ [name]) ≠ some .directory) :
    (tree.put (directory ++ [name]) node).WellFormed := by
  -- a directory that had entries is a directory still
  have hkept : ∀ place, (place, .directory) ∈ tree.entries →
      (place, .directory) ∈ (tree.put (directory ++ [name]) node).entries := by
    intro place hplace
    by_cases hsame : place = directory ++ [name]
    · subst hsame
      have hold := (nodeAt?_eq_directory_iff hw.distinct).mpr (.inr hplace)
      rcases hnode with rfl | hnot
      · exact mem_entries_put_iff.mpr (.inr rfl)
      · exact absurd hold hnot
    · exact mem_entries_put_iff.mpr (.inl ⟨hplace, hsame⟩)
  apply wellFormed_of_directories
  · rw [FileTree.put, List.map_append, List.nodup_append]
    refine ⟨hw.distinct.sublist (List.filter_sublist.map _), List.nodup_singleton _, ?_⟩
    intro place hplace other hother
    obtain ⟨entry, hentry, rfl⟩ := List.mem_map.mp hplace
    rw [List.map_singleton, List.mem_singleton] at hother
    rw [hother]
    exact bne_iff_ne.mp (List.mem_filter.mp hentry).2
  · intro entry hentry
    rcases mem_entries_put_iff.mp hentry with ⟨hentry, -⟩ | rfl
    · exact hw.named entry hentry
    · exact hw.isName_of_concat hdirectory hname
  · intro entry hentry
    rcases mem_entries_put_iff.mp hentry with ⟨hentry, -⟩ | rfl
    · exact (hw.directory_of_entry hentry).imp_right (hkept _)
    · rw [List.dropLast_concat]
      exact ((nodeAt?_eq_directory_iff hw.distinct).mp hdirectory).imp_right (hkept _)

theorem WellFormed.remove (hw : tree.WellFormed) (place : Place) :
    (tree.remove place).WellFormed := by
  apply wellFormed_of_directories
  · exact hw.distinct.sublist (List.filter_sublist.map _)
  · exact fun entry hentry => hw.named entry (mem_entries_remove_iff.mp hentry).1
  · intro entry hentry
    obtain ⟨hentry, hnot⟩ := mem_entries_remove_iff.mp hentry
    refine (hw.directory_of_entry hentry).imp_right fun h => mem_entries_remove_iff.mpr ⟨h, ?_⟩
    exact fun hbelow => hnot (hbelow.trans (List.dropLast_prefix _))

theorem nodup_rename (hdistinct : (tree.entries.map Prod.fst).Nodup) (source target : Place) :
    ((tree.rename source target).entries.map Prod.fst).Nodup := by
  rw [FileTree.rename, List.map_append, List.nodup_append]
  refine ⟨hdistinct.sublist (List.filter_sublist.map _), ?_, ?_⟩
  · rw [List.map_map]
    refine (hdistinct.of_map.sublist List.filter_sublist).map_on ?_
    intro first hfirst second hsecond
    obtain ⟨hfirst, hbelow⟩ := List.mem_filter.mp hfirst
    obtain ⟨hsecond, hbelow'⟩ := List.mem_filter.mp hsecond
    intro hsame
    apply List.inj_on_of_nodup_map hdistinct hfirst hsecond
    -- what was below the old place keeps its way from there
    obtain ⟨rest, hrest⟩ := List.isPrefixOf_iff_prefix.mp hbelow
    obtain ⟨rest', hrest'⟩ := List.isPrefixOf_iff_prefix.mp hbelow'
    dsimp only [Function.comp_apply] at hsame
    rw [← hrest, ← hrest', List.drop_left, List.drop_left, List.append_cancel_left_eq] at hsame
    rw [← hrest, ← hrest', hsame]
  · intro place hplace other hother hsame
    obtain ⟨entry, hentry, rfl⟩ := List.mem_map.mp hplace
    obtain ⟨moved, hmoved, rfl⟩ := List.mem_map.mp hother
    obtain ⟨old, -, rfl⟩ := List.mem_map.mp hmoved
    have hnot := (Bool.and_eq_true_iff.mp (List.mem_filter.mp hentry).2).2
    rw [hsame, Bool.not_eq_true', Bool.eq_false_iff, ne_eq, List.isPrefixOf_iff_prefix] at hnot
    exact hnot (List.prefix_append _ _)

theorem WellFormed.rename (hw : tree.WellFormed) {source : Place}
    (hdirectory : tree.nodeAt? directory = some .directory) (hname : IsName name)
    (hapart : ¬ source <+: directory ++ [name]) :
    (tree.rename source (directory ++ [name])).WellFormed := by
  have hsource : source ≠ [] := fun h => hapart (h ▸ List.nil_prefix)
  apply wellFormed_of_directories (nodup_rename hw.distinct source _)
  · intro entry hentry
    rcases mem_entries_rename_iff.mp hentry with ⟨hentry, -⟩ | ⟨rest, hold, hplace⟩
    · exact hw.named entry hentry
    · rw [hplace]
      intro n hn
      rcases List.mem_append.mp hn with hn | hn
      · exact hw.isName_of_concat hdirectory hname n hn
      · exact hw.named _ hold n (List.mem_append_right _ hn)
  · intro entry hentry
    rcases mem_entries_rename_iff.mp hentry with ⟨hentry, hnot, hnot'⟩ | ⟨rest, hold, hplace⟩
    · refine (hw.directory_of_entry hentry).imp_right fun h =>
        mem_entries_rename_iff.mpr (.inl ⟨h, ?_, ?_⟩)
      · exact fun hbelow => hnot (hbelow.trans (List.dropLast_prefix _))
      · exact fun hbelow => hnot' (hbelow.trans (List.dropLast_prefix _))
    · rw [hplace]
      cases hrest : rest.getLast? with
      | none =>
        -- what was moved itself stands in the directory it was moved to
        rw [List.getLast?_eq_none_iff.mp hrest, List.append_nil, List.dropLast_concat]
        refine ((nodeAt?_eq_directory_iff hw.distinct).mp hdirectory).imp_right fun h =>
          mem_entries_rename_iff.mpr (.inl ⟨h, ?_, ?_⟩)
        · exact fun hbelow => hapart (hbelow.trans (List.prefix_append _ _))
        · exact fun hbelow => absurd hbelow.length_le (by simp)
      | some last =>
        obtain ⟨front, rfl⟩ := List.getLast?_eq_some_iff.mp hrest
        have hdir := hw.directory_of_entry hold
        rw [← List.append_assoc, List.dropLast_concat] at hdir
        rw [← List.append_assoc, List.dropLast_concat]
        have hmoved := hdir.resolve_left (List.append_ne_nil_of_left_ne_nil hsource _)
        exact .inr (mem_entries_rename_iff.mpr (.inr ⟨front, hmoved, rfl⟩))

theorem WellFormed.of_change (hw : tree.WellFormed) {next : FileTree} (h : Change tree next) :
    next.WellFormed := by
  cases h with
  | write content modified hdirectory hname hfile => exact hw.put hdirectory hname (.inr hfile)
  | makeDirectory hdirectory hname hfree => exact hw.put hdirectory hname (.inl rfl)
  | remove place => exact hw.remove place
  | rename hdirectory hname hapart => exact hw.rename hdirectory hname hapart

end AmxTrace.FileTree
