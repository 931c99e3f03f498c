import AmxTrace.Proofs.Debug.OwnFile

/-! # Symbolic answers -/

namespace AmxTrace

namespace LineEntry

variable {entry : LineEntry} {number : Cell}

theorem minValue_le_number (entry : LineEntry) : Int32.minValue ≤ entry.number :=
  Int32.minValue_le entry.number

theorem le_number_iff (hnumber : number ≠ Int32.minValue) :
    number ≤ entry.number ↔ number - 1 ≤ entry.line ∧ entry.line ≠ Cell.greatest := by
  have hone : (1 : Cell).toInt = 1 := by decide
  have hleast : Int32.minValue.toInt = -2 ^ 31 := by decide
  have hgreatest : Cell.greatest.toInt = 2 ^ 31 - 1 := by decide
  have hlow := number.le_toInt
  have hhigh := number.toInt_lt
  have hlineLow := entry.line.le_toInt
  have hlineHigh := entry.line.toInt_lt
  rw [ne_eq, ← Int32.toInt_inj, hleast] at hnumber
  rw [Int32.le_iff_toInt_le, Int32.le_iff_toInt_le, ne_eq, ← Int32.toInt_inj, hgreatest,
    Int32.toInt_sub, hone, Int.bmod_eq_of_le (by omega) (by omega), LineEntry.number, Int32.toInt_add, hone]
  by_cases hline : entry.line.toInt = 2 ^ 31 - 1
  · rw [hline]
    have hwrap : Int.bmod (2 ^ 31 - 1 + 1) (2 ^ 32) = -2 ^ 31 := by decide
    rw [hwrap]
    omega
  · rw [Int.bmod_eq_of_le (by omega) (by omega)]
    omega

end LineEntry

namespace DebugStore

variable {d : DebugStore} {number a : Cell} {name file : String}

theorem lineAddress?_eq_some (hd : d.Ordered) (h : d.lineAddress? number file = some a) :
    d.InFirstPart file a ∧ (∃ l ∈ d.lines, l.address = a ∧ number - 1 ≤ l.line) ∧
      ∀ l ∈ d.lines, d.InFirstPart file l.address → number - 1 ≤ l.line → a ≤ l.address := by
  simp only [lineAddress?, Option.bind_eq_bind, Option.bind_eq_some_iff, Option.pure_def,
    Option.some.injEq, Prod.exists, window_eq_filter _ _ hd.lines] at h
  obtain ⟨start, stop, hrange, entry, hfind, rfl⟩ := h
  obtain ⟨hline, earlier, later, hsplit, hearlier⟩ := List.find?_eq_some_iff_append.mp hfind
  have hentry := List.mem_filter.mp (List.mem_of_find?_eq_some hfind)
  simp only [decide_eq_true_eq] at hline hentry
  refine ⟨⟨(start, stop), hrange, hentry.2⟩, ⟨entry, hentry.1, rfl, hline⟩, ?_⟩
  rintro l hl ⟨range, hrange', hin⟩ hwanted
  obtain rfl := Option.some.inj (hrange.symm.trans hrange')
  have hmem : l ∈ earlier ++ entry :: later := by
    rw [← hsplit, List.mem_filter]
    exact ⟨hl, by simpa using hin⟩
  have hordered := hd.lines.filter fun l => decide (start ≤ l.address ∧ l.address < stop)
  rw [hsplit] at hordered
  rcases List.mem_append.mp hmem with hmem | hmem
  · simpa [hwanted] using hearlier l hmem
  · rcases List.mem_cons.mp hmem with rfl | hmem
    · exact Int32.le_refl _
    · exact (List.pairwise_cons.mp (List.pairwise_append.mp hordered).2.1).1 l hmem

theorem line?_address (hlines : d.lines.Pairwise fun l k => l.address < k.address) {l : LineEntry}
    (hl : l ∈ d.lines) : d.line? l.address = some l := by
  obtain ⟨earlier, later, hsplit⟩ := List.append_of_mem hl
  rw [hsplit] at hlines
  exact covering?_eq_some_iff.mpr ⟨earlier, later, hsplit, Int32.le_refl _,
    (List.pairwise_cons.mp (List.pairwise_append.mp hlines).2.1).1⟩

/-- What the address queries say about the address of a line of a file. -/
structure LineConfirmed (d : DebugStore) (number : Cell) (file : String) (a : Cell) : Prop where
  inFile : ∃ f, d.file? a = some f ∧ f.name = file
  line : ∃ l, d.line? a = some l ∧ number ≤ l.number
  first : d.InFirstPart file a ∧ ∃ l ∈ d.lines, l.address = a
  least : ∀ l ∈ d.lines, d.InFirstPart file l.address → number ≤ l.number → a ≤ l.address

/-- The count of lines does not turn over at the ends of the cells. Lines are stored counted from zero:
the least number has no cell before it to look for, and the greatest line none after it to count as. -/
structure CountsTo (d : DebugStore) (number : Cell) (file : String) (a : Cell) : Prop where
  search : number = Int32.minValue → ∀ l ∈ d.lines, d.InFirstPart file l.address → a ≤ l.address
  answer : number ≠ Int32.minValue → ∀ l ∈ d.lines, l.address = a → l.line ≠ Cell.greatest

/-- The answer for a line lies in its file, and is confirmed as the first at or after that line exactly
when no count turns over. -/
theorem lineConfirmed_iff (hd : d.Ordered)
    (hlines : d.lines.Pairwise fun l k => l.address < k.address)
    (h : d.lineAddress? number file = some a) :
    (∃ f, d.file? a = some f ∧ f.name = file) ∧
      (d.LineConfirmed number file a ↔ d.CountsTo number file a) := by
  obtain ⟨hfirst, ⟨entry, hentry, rfl, hline⟩, hleast⟩ := lineAddress?_eq_some hd h
  have hfile := hfirst.exists_file? hd
  have hown := line?_address hlines hentry
  have hsame : ∀ l ∈ d.lines, l.address = entry.address → l = entry := by
    intro l hl haddress
    have hl' := line?_address hlines hl
    rw [haddress, hown] at hl'
    exact (Option.some.inj hl').symm
  refine ⟨hfile, ?_, ?_⟩
  · intro hconfirmed
    constructor
    · rintro rfl l hl hin
      exact hconfirmed.least l hl hin l.minValue_le_number
    · intro hnumber l hl haddress
      obtain rfl := hsame l hl haddress
      obtain ⟨l', hl', hcount⟩ := hconfirmed.line
      obtain rfl := Option.some.inj (hown.symm.trans hl')
      exact ((LineEntry.le_number_iff hnumber).mp hcount).2
  · intro hcounts
    refine ⟨hfile, ⟨entry, hown, ?_⟩, ⟨hfirst, entry, hentry, rfl⟩, ?_⟩
    · by_cases hnumber : number = Int32.minValue
      · rw [hnumber]
        exact entry.minValue_le_number
      · exact (LineEntry.le_number_iff hnumber).mpr ⟨hline, hcounts.answer hnumber entry hentry rfl⟩
    · intro l hl hin hcount
      by_cases hnumber : number = Int32.minValue
      · exact hcounts.search hnumber l hl hin
      · exact hleast l hl hin ((LineEntry.le_number_iff hnumber).mp hcount).1

theorem exactFunction?_codeStart
    (hstarts : d.functions.Pairwise fun s t => s.codeStart ≠ t.codeStart) {s : DebugSymbol}
    (hs : s ∈ d.functions) : d.exactFunction? s.codeStart = some s := by
  obtain ⟨earlier, later, hsplit⟩ := List.append_of_mem hs
  rw [hsplit] at hstarts
  have hearlier := (List.pairwise_append.mp hstarts).2.2
  refine List.find?_eq_some_iff_append.mpr ⟨by simp, earlier, later, hsplit, ?_⟩
  intro t ht
  simpa using hearlier t ht s List.mem_cons_self

/-- What the address queries say about the address of a function of a file. -/
structure FunctionConfirmed (d : DebugStore) (name file : String) (a : Cell) : Prop where
  symbol : ∃ s ∈ d.symbols, s.isFunction = true ∧ s.name = name ∧ s.codeStart = a
  inFile : ∃ f, d.file? a = some f ∧ f.name = file
  exact : (d.functions.Pairwise fun s t => s.codeStart ≠ t.codeStart) →
    name.toList.head? ≠ some '@' → ∃ s, d.exactFunction? a = some s ∧ s.name = name

theorem functionConfirmed_of_functionAddress? (hd : d.Ordered)
    (h : d.functionAddress? name file = some a) : d.FunctionConfirmed name file a := by
  obtain ⟨hfirst, s, hs, hfunction, rfl, rfl⟩ := functionAddress?_eq_some h
  refine ⟨⟨s, hs, hfunction, rfl, rfl⟩, hfirst.exists_file? hd, ?_⟩
  intro hstarts hname
  have hown : s ∈ d.functions := by
    have hforwarded : s.isForwarded = false := by simpa [DebugSymbol.isForwarded] using hname
    exact List.mem_filter.mpr ⟨hs, by simp [hfunction, hforwarded]⟩
  exact ⟨s, exactFunction?_codeStart hstarts hown, rfl⟩

/-- The answers to symbolic queries are confirmed by the queries for their addresses, those for lines
where no count of lines turns over. -/
theorem symbolic_answers_confirmed_iff
    (hfiles : d.files.Pairwise fun f g => f.address ≤ g.address)
    (hlines : d.lines.Pairwise fun l k => l.address < k.address) :
    (∀ number file a, d.lineAddress? number file = some a →
      (∃ f, d.file? a = some f ∧ f.name = file) ∧
        (d.LineConfirmed number file a ↔ d.CountsTo number file a)) ∧
      ∀ name file a, d.functionAddress? name file = some a → d.FunctionConfirmed name file a := by
  have hd : d.Ordered := ⟨hfiles, hlines.imp Int32.le_of_lt⟩
  constructor
  · intro number file a h
    exact lineConfirmed_iff hd hlines h
  · intro name file a h
    exact functionConfirmed_of_functionAddress? hd h

/-- A line that stands in both parts of its file, and a function of the file between them. -/
theorem symbolic_answers_confirmed_aroundInclude :
    ((aroundInclude "Tail" 19).files.Pairwise fun f g => f.address ≤ g.address) ∧
    ((aroundInclude "Tail" 19).lines.Pairwise fun l k => l.address < k.address) ∧
    (aroundInclude "Tail" 19).LineConfirmed 10 "gm.pwn" 0 ∧
    (aroundInclude "Tail" 19).FunctionConfirmed "Helper" "lib.inc" 32 := by
  have hfiles : (aroundInclude "Tail" 19).files.Pairwise fun f g => f.address ≤ g.address := by
    decide
  have hlines : (aroundInclude "Tail" 19).lines.Pairwise fun l k => l.address < k.address := by
    decide
  have hcounts : (aroundInclude "Tail" 19).CountsTo 10 "gm.pwn" 0 := ⟨by decide, by decide⟩
  obtain ⟨hline, hfunction⟩ := symbolic_answers_confirmed_iff hfiles hlines
  exact ⟨hfiles, hlines, (hline 10 "gm.pwn" 0 (by decide)).2.mpr hcounts,
    hfunction "Helper" "lib.inc" 32 (by decide)⟩

def twoLines (first second : Cell) : DebugStore where
  loaded := true
  files := [⟨0, "gm.pwn"⟩]
  lines := [⟨0, first⟩, ⟨8, second⟩]

/-- The search for the least number passes over the first line, which counts more, and a line after the
greatest is found though it counts less than the number. -/
theorem lineAddress?_turns_over :
    ((∀ first second, (twoLines first second).files.Pairwise fun f g => f.address ≤ g.address) ∧
      ∀ first second, (twoLines first second).lines.Pairwise fun l k => l.address < k.address) ∧
    ((twoLines 3 Cell.greatest).lineAddress? Int32.minValue "gm.pwn" = some 8 ∧
      ¬ (twoLines 3 Cell.greatest).LineConfirmed Int32.minValue "gm.pwn" 8) ∧
    ((twoLines Cell.greatest 10).lineAddress? 5 "gm.pwn" = some 0 ∧
      ¬ (twoLines Cell.greatest 10).LineConfirmed 5 "gm.pwn" 0) := by
  refine ⟨⟨fun _ _ => ?_, fun _ _ => ?_⟩, ⟨by decide, fun h => ?_⟩, by decide, fun h => ?_⟩
  · simp [twoLines]
  · simp [twoLines]
  · have hleast := h.least ⟨0, 3⟩ (by decide) (by decide) (by decide)
    exact absurd hleast (by decide)
  · obtain ⟨l, hl, hcount⟩ := h.line
    have hfirst : (twoLines Cell.greatest 10).line? 0 = some ⟨0, Cell.greatest⟩ := by decide
    obtain rfl := Option.some.inj (hfirst.symm.trans hl)
    exact absurd hcount (by decide)

end DebugStore

end AmxTrace
