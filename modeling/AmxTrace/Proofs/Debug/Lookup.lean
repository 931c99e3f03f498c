import AmxTrace.Debug.Store
import Mathlib.Data.List.TakeWhile

/-! # Looking up debug entries -/

namespace AmxTrace.DebugStore

/-- The tables of files and of lines are in order of address, as the compiler writes them. -/
structure Ordered (d : DebugStore) : Prop where
  files : d.files.Pairwise fun f g => f.address ≤ g.address
  lines : d.lines.Pairwise fun l k => l.address ≤ k.address

theorem Ordered.later {d : DebugStore} (hd : d.Ordered) {earlier later : List SourceFile}
    {f : SourceFile} (hfiles : d.files = earlier ++ f :: later) :
    later.Pairwise fun g h => g.address ≤ h.address := by
  have hordered := hd.files
  rw [hfiles] at hordered
  exact (List.pairwise_cons.mp (List.pairwise_append.mp hordered).2.1).2

/-- Where code of an entry ends that is followed by others. -/
def nextStart (later : List SourceFile) : Cell :=
  (later.head?.map (·.address)).getD Cell.greatest

def InFirstPart (d : DebugStore) (name : String) (address : Cell) : Prop :=
  ∃ range ∈ d.fileRange? name, range.1 ≤ address ∧ address < range.2

instance (d : DebugStore) (name : String) (address : Cell) :
    Decidable (d.InFirstPart name address) :=
  inferInstanceAs (Decidable (∃ range ∈ d.fileRange? name, range.1 ≤ address ∧ address < range.2))

/-- The last entry of a table that starts at or before an address. -/
def covering? {α : Type} (start : α → Cell) (entries : List α) (address : Cell) : Option α :=
  entries.reverse.find? fun e => start e ≤ address

theorem covering?_eq_some_iff {α : Type} {start : α → Cell} {entries : List α} {address : Cell}
    {e : α} : covering? start entries address = some e ↔
      ∃ earlier later, entries = earlier ++ e :: later ∧ start e ≤ address ∧
        ∀ g ∈ later, address < start g := by
  simp only [covering?, List.find?_eq_some_iff_append, List.reverse_eq_append_iff, decide_eq_true_eq,
    List.reverse_cons, List.append_assoc, List.singleton_append, Bool.not_eq_true',
    decide_eq_false_iff_not, Int32.not_le]
  constructor
  · rintro ⟨hle, later, earlier, hentries, hlater⟩
    exact ⟨earlier.reverse, later.reverse, hentries, hle,
      fun g hg => hlater g (List.mem_reverse.mp hg)⟩
  · rintro ⟨earlier, later, hentries, hle, hlater⟩
    exact ⟨hle, later.reverse, earlier.reverse, by rw [List.reverse_reverse, List.reverse_reverse,
      hentries], fun g hg => hlater g (List.mem_reverse.mp hg)⟩

theorem file?_eq_some_iff {d : DebugStore} {address : Cell} {f : SourceFile} :
    d.file? address = some f ↔
      ∃ earlier later, d.files = earlier ++ f :: later ∧ f.address ≤ address ∧
        ∀ g ∈ later, address < g.address :=
  covering?_eq_some_iff

theorem entryAndNext?_eq_some_iff {name : String} {files : List SourceFile} {start stop : Cell} :
    entryAndNext? name files = some (start, stop) ↔
      ∃ earlier f later, files = earlier ++ f :: later ∧ f.name = name ∧
        (∀ g ∈ earlier, g.name ≠ name) ∧ f.address = start ∧ nextStart later = stop := by
  induction files with
  | nil => simp [entryAndNext?]
  | cons first rest ih =>
    rw [entryAndNext?]
    split
    next hname =>
      constructor
      · rintro ⟨⟩
        exact ⟨[], first, rest, rfl, hname, nofun, rfl, rfl⟩
      · rintro ⟨earlier, f, later, hfiles, hf, hearlier, rfl, rfl⟩
        cases earlier with
        | nil =>
          cases hfiles
          rfl
        | cons g earlier =>
          cases hfiles
          exact absurd hname (hearlier _ List.mem_cons_self)
    next hname =>
      rw [ih]
      constructor
      · rintro ⟨earlier, f, later, rfl, hf, hearlier, hrange⟩
        exact ⟨first :: earlier, f, later, rfl, hf, List.forall_mem_cons.mpr ⟨hname, hearlier⟩,
          hrange⟩
      · rintro ⟨earlier, f, later, hfiles, hf, hearlier, hrange⟩
        cases earlier with
        | nil =>
          cases hfiles
          exact absurd hf hname
        | cons g earlier =>
          cases hfiles
          exact ⟨earlier, f, later, rfl, hf, (List.forall_mem_cons.mp hearlier).2, hrange⟩

theorem lt_nextStart_iff {later : List SourceFile} {address : Cell}
    (h : later.Pairwise fun f g => f.address ≤ g.address) :
    address < nextStart later ↔ (later = [] → address < Cell.greatest) ∧
      ∀ g ∈ later, address < g.address := by
  cases later with
  | nil => simp [nextStart]
  | cons next others =>
    obtain ⟨hnext, -⟩ := List.pairwise_cons.mp h
    simp only [nextStart, List.head?_cons, Option.map_some, Option.getD_some, reduceCtorEq,
      IsEmpty.forall_iff, true_and, List.forall_mem_cons, iff_self_and]
    intro hlt g hg
    exact Int32.lt_of_lt_of_le hlt (hnext g hg)

theorem InFirstPart.exists_file? {d : DebugStore} (hd : d.Ordered) {name : String} {address : Cell}
    (h : d.InFirstPart name address) : ∃ f, d.file? address = some f ∧ f.name = name := by
  obtain ⟨⟨start, stop⟩, hrange, hstart, hstop⟩ := h
  obtain ⟨earlier, f, later, hfiles, hname, -, rfl, rfl⟩ := entryAndNext?_eq_some_iff.mp hrange
  obtain ⟨-, hpast⟩ := (lt_nextStart_iff (hd.later hfiles)).mp hstop
  exact ⟨f, file?_eq_some_iff.mpr ⟨earlier, later, hfiles, hstart, hpast⟩, hname⟩

theorem window_eq_filter {lines : List LineEntry} (start stop : Cell)
    (h : lines.Pairwise fun l k => l.address ≤ k.address) :
    ((lines.dropWhile fun l => l.address < start).takeWhile fun l => l.address < stop) =
      lines.filter fun l => start ≤ l.address ∧ l.address < stop := by
  induction lines with
  | nil => rfl
  | cons first rest ih =>
    obtain ⟨hfirst, hrest⟩ := List.pairwise_cons.mp h
    have ih := ih hrest
    by_cases hbefore : first.address < start
    · have hout : ¬ (start ≤ first.address ∧ first.address < stop) :=
        fun hin => Int32.not_le.mpr hbefore hin.1
      rw [List.dropWhile_cons_of_pos (by simpa using hbefore), ih,
        List.filter_cons_of_neg (by simpa using hout)]
    · have hfrom : start ≤ first.address := Int32.not_lt.mp hbefore
      -- once a line is in the window, no later line lies before it
      have hdrop : (rest.dropWhile fun l => l.address < start) = rest := by
        rw [List.dropWhile_eq_self_iff]
        intro hlength
        simpa [Int32.not_lt] using Int32.le_trans hfrom (hfirst _ (List.getElem_mem hlength))
      rw [hdrop] at ih
      rw [List.dropWhile_cons_of_neg (by simpa using hbefore)]
      by_cases hin : first.address < stop
      · rw [List.takeWhile_cons_of_pos (by simpa using hin), ih,
          List.filter_cons_of_pos (by simpa using And.intro hfrom hin)]
      · have hnone : ∀ l ∈ first :: rest, ¬ (start ≤ l.address ∧ l.address < stop) := by
          rintro l hl ⟨-, hlt⟩
          rcases List.mem_cons.mp hl with rfl | hl
          · exact hin hlt
          · exact hin (Int32.lt_of_le_of_lt (hfirst l hl) hlt)
        rw [List.takeWhile_cons_of_neg (by simpa using hin), eq_comm, List.filter_eq_nil_iff]
        simpa using hnone

/-- The start of a function of a name is found exactly when one starts in the first part of the
file; it is the start of such a function. -/
theorem functionAddress?_eq_some {d : DebugStore} {name file : String} {address : Cell}
    (h : d.functionAddress? name file = some address) :
    d.InFirstPart file address ∧
      ∃ s ∈ d.symbols, s.isFunction = true ∧ s.name = name ∧ s.codeStart = address := by
  simp only [functionAddress?, Option.bind_eq_bind, Option.bind_eq_some_iff, Option.pure_def,
    Option.some.injEq, Prod.exists] at h
  obtain ⟨start, stop, hrange, s, hfind, rfl⟩ := h
  have hs := List.find?_some hfind
  simp only [Bool.and_eq_true, beq_iff_eq, decide_eq_true_eq] at hs
  obtain ⟨⟨⟨hfunction, hname⟩, hstart⟩, hstop⟩ := hs
  exact ⟨⟨(start, stop), hrange, hstart, hstop⟩, s, List.mem_of_find?_eq_some hfind, hfunction,
    hname, rfl⟩

theorem exists_functionAddress? {d : DebugStore} {file : String} {s : DebugSymbol}
    (hs : s ∈ d.symbols) (hfunction : s.isFunction = true)
    (hpart : d.InFirstPart file s.codeStart) :
    ∃ address, d.functionAddress? s.name file = some address := by
  obtain ⟨⟨start, stop⟩, hrange, hstart, hstop⟩ := hpart
  have hfound : (d.symbols.find? fun other => other.isFunction && other.name == s.name &&
      decide (start ≤ other.codeStart) && decide (other.codeStart < stop)).isSome := by
    rw [List.find?_isSome]
    exact ⟨s, hs, by simp [hfunction, hstart, hstop]⟩
  obtain ⟨other, hother⟩ := Option.isSome_iff_exists.mp hfound
  exact ⟨other.codeStart, by
    rw [functionAddress?, Option.mem_def.mp hrange]
    simp [hother]⟩

/-- A line of a file has an address exactly when an entry of that line or a later one lies in the
first part of the file. -/
theorem exists_lineAddress?_iff {d : DebugStore} (hd : d.Ordered) {number : Cell} {file : String} :
    (∃ address, d.lineAddress? number file = some address) ↔
      ∃ l ∈ d.lines, number - 1 ≤ l.line ∧ d.InFirstPart file l.address := by
  simp only [lineAddress?, Option.bind_eq_bind, Option.bind_eq_some_iff, Option.pure_def,
    Option.some.injEq, Prod.exists, window_eq_filter _ _ hd.lines]
  constructor
  · rintro ⟨_, start, stop, hrange, l, hfind, rfl⟩
    have hl := List.mem_of_find?_eq_some hfind
    rw [List.mem_filter, decide_eq_true_eq] at hl
    exact ⟨l, hl.1, by simpa using List.find?_some hfind, (start, stop), hrange, hl.2⟩
  · rintro ⟨l, hl, hline, ⟨start, stop⟩, hrange, hstart, hstop⟩
    have hfound : ((d.lines.filter fun l => start ≤ l.address ∧ l.address < stop).find?
        fun l => number - 1 ≤ l.line).isSome := by
      rw [List.find?_isSome]
      exact ⟨l, List.mem_filter.mpr ⟨hl, by simp [hstart, hstop]⟩, by simpa using hline⟩
    obtain ⟨entry, hentry⟩ := Option.isSome_iff_exists.mp hfound
    exact ⟨entry.address, start, stop, hrange, entry, hentry, rfl⟩

end AmxTrace.DebugStore
