import AmxTrace.Proofs.Debug.Lookup

/-! # Functions and lines under their own file

The compiler writes an entry for a file each time it goes back into that file, so a file may have
several parts. -/

namespace AmxTrace.DebugStore

/-- Each function and line is found under the name of the file that covers it. -/
structure FoundUnderOwnFile (d : DebugStore) : Prop where
  functions : ∀ s ∈ d.symbols, s.isFunction = true → s.codeStart < Cell.greatest →
    ∀ f ∈ d.file? s.codeStart, ∃ address, d.functionAddress? s.name f.name = some address ∧
      (∃ s' ∈ d.symbols, s'.isFunction = true ∧ s'.name = s.name ∧ s'.codeStart = address) ∧
      ∃ g, d.file? address = some g ∧ g.name = f.name
  lines : ∀ l ∈ d.lines, l.address < Cell.greatest → l.line < Cell.greatest →
    ∀ f ∈ d.file? l.address, ∃ address, d.lineAddress? l.number f.name = some address

/-- The first part of each file has a function of each name that the file has, and a line as late
as each line that the file has. -/
structure FirstPartAnswers (d : DebugStore) : Prop where
  functions : ∀ s ∈ d.symbols, s.isFunction = true → s.codeStart < Cell.greatest →
    ∀ f ∈ d.file? s.codeStart, ∃ s' ∈ d.symbols, s'.isFunction = true ∧ s'.name = s.name ∧
      d.InFirstPart f.name s'.codeStart
  lines : ∀ l ∈ d.lines, l.address < Cell.greatest → l.line < Cell.greatest →
    ∀ f ∈ d.file? l.address, ∃ l' ∈ d.lines, l.line ≤ l'.line ∧ d.InFirstPart f.name l'.address

variable {d : DebugStore}

theorem FirstPartAnswers.foundUnderOwnFile (hd : d.Ordered) (h : d.FirstPartAnswers) :
    d.FoundUnderOwnFile := by
  constructor
  · intro s hs hfunction hstart f hf
    obtain ⟨s', hs', hfunction', hname, hpart⟩ := h.functions s hs hfunction hstart f hf
    obtain ⟨address, haddress⟩ := exists_functionAddress? hs' hfunction' hpart
    rw [hname] at haddress
    obtain ⟨hfirst, hstarts⟩ := functionAddress?_eq_some haddress
    exact ⟨address, haddress, hstarts, hfirst.exists_file? hd⟩
  · intro l hl haddress hline f hf
    obtain ⟨l', hl', hle, hpart⟩ := h.lines l hl haddress hline f hf
    rw [exists_lineAddress?_iff hd, l.number_sub_one]
    exact ⟨l', hl', hle, hpart⟩

/-- In ordered tables each function and line is found under its own file exactly when the first
part of that file answers for all its parts. -/
theorem foundUnderOwnFile_iff (hd : d.Ordered) : d.FoundUnderOwnFile ↔ d.FirstPartAnswers := by
  refine ⟨fun h => ⟨?_, ?_⟩, FirstPartAnswers.foundUnderOwnFile hd⟩
  · intro s hs hfunction hstart f hf
    obtain ⟨address, haddress, -⟩ := h.functions s hs hfunction hstart f hf
    obtain ⟨hpart, s', hs', hfunction', hname, rfl⟩ := functionAddress?_eq_some haddress
    exact ⟨s', hs', hfunction', hname, hpart⟩
  · intro l hl haddress hline f hf
    have hfound := (exists_lineAddress?_iff hd).mp (h.lines l hl haddress hline f hf)
    rwa [l.number_sub_one] at hfound

/-- A file with another included in the middle of it. -/
def aroundInclude (tail : String) (tailLine : Cell) : DebugStore where
  loaded := true
  files := [⟨0, "gm.pwn"⟩, ⟨32, "lib.inc"⟩, ⟨64, "gm.pwn"⟩]
  lines := [⟨0, 9⟩, ⟨32, 0⟩, ⟨64, tailLine⟩]
  symbols := [⟨"Tick", 0, 0, 0, 32, .function, .global, []⟩,
    ⟨"Helper", 32, 0, 32, 64, .function, .global, []⟩,
    ⟨tail, 64, 0, 64, 96, .function, .global, []⟩]

/-- The second part has a function of the same name and a line that comes before one of the first
part. -/
theorem foundUnderOwnFile_aroundInclude :
    (aroundInclude "Tick" 4).Ordered ∧ (aroundInclude "Tick" 4).FoundUnderOwnFile := by
  have hordered : (aroundInclude "Tick" 4).Ordered := ⟨by decide, by decide⟩
  exact ⟨hordered, (foundUnderOwnFile_iff hordered).mpr ⟨by decide, by decide⟩⟩

/-- A function and a line that stand only in the second part of their file are not found there. -/
theorem aroundInclude_not_found :
    (aroundInclude "Tail" 19).Ordered ∧ ¬ (aroundInclude "Tail" 19).FoundUnderOwnFile ∧
      ((aroundInclude "Tail" 19).file? 64 = some ⟨64, "gm.pwn"⟩ ∧
        (aroundInclude "Tail" 19).functionAddress? "Tail" "gm.pwn" = none ∧
        (aroundInclude "Tail" 19).lineAddress? 20 "gm.pwn" = none) := by
  refine ⟨⟨by decide, by decide⟩, ?_, by decide, by decide, by decide⟩
  intro h
  obtain ⟨address, haddress⟩ := h.lines ⟨64, 19⟩ (by decide) (by decide) (by decide)
    ⟨64, "gm.pwn"⟩ (by decide)
  revert haddress
  exact nofun

end AmxTrace.DebugStore
