import AmxTrace.Image
import AmxTrace.Proofs.Reader.Written

/-! # Function tables in a file -/

namespace AmxTrace

/-- Two files have the same bytes from `low` on and before `high`. -/
def AgreeOn (low high : Nat) (file other : List UInt8) : Prop :=
  ∀ i, low ≤ i → i < high → file[i]? = other[i]?

namespace AgreeOn

variable {low high : Nat} {file other part : List UInt8}

theorem of_take_eq (h : file.take high = other.take high) : AgreeOn low high file other := by
  intro i _ hhigh
  rw [← List.getElem?_take_of_lt hhigh, h, List.getElem?_take_of_lt hhigh]

/-- Bytes that stand inside the common part of two files stand in both. -/
theorem stands (h : AgreeOn low high file other) {offset : Nat} (hpart : part <+: file.drop offset)
    (hlow : low ≤ offset) (hhigh : offset + part.length ≤ high) : part <+: other.drop offset := by
  rw [List.prefix_iff_getElem?] at hpart ⊢
  intro i hi
  rw [← hpart i hi, List.getElem?_drop, List.getElem?_drop]
  exact (h _ (by omega) (by omega)).symm

theorem slice_eq (h : AgreeOn low high file other) {start stop : Nat} (hlow : low ≤ start)
    (hhigh : stop ≤ high) :
    (file.drop start).take (stop - start) = (other.drop start).take (stop - start) := by
  apply List.ext_getElem?
  intro i
  rw [List.getElem?_take, List.getElem?_take]
  split
  next hi =>
    rw [List.getElem?_drop, List.getElem?_drop]
    exact h _ (by omega) (by omega)
  next => rfl

end AgreeOn

namespace Image

/-- A function table entry, with the bytes of its name. -/
structure TableRow where
  address : UInt32
  nameOffset : UInt32
  name : List UInt8

namespace TableRow

def written (row : TableRow) : List UInt8 :=
  Word.toBytes32 row.address ++ Word.toBytes32 row.nameOffset

def entry (row : TableRow) : UInt32 × String := (row.address, Utf8.decodeLossy row.name)

/-- The offset past the closing zero byte of the name. -/
def nameEnd (row : TableRow) : Nat := row.nameOffset.toNat + row.name.length + 1

/-- The name stands in a file, closed by a zero byte. -/
structure NamedIn (row : TableRow) (file : List UInt8) : Prop where
  zero_not_mem : 0 ∉ row.name
  stands : row.name ++ [0] <+: file.drop row.nameOffset.toNat

theorem NamedIn.of_agree {row : TableRow} {file other : List UInt8} (h : row.NamedIn file)
    {low high : Nat} (hagree : AgreeOn low high file other) (hlow : low ≤ row.nameOffset.toNat)
    (hhigh : row.nameEnd ≤ high) : row.NamedIn other where
  zero_not_mem := h.zero_not_mem
  stands := hagree.stands h.stands hlow (by simpa [nameEnd, Nat.add_assoc] using hhigh)

end TableRow

/-- Rows stand one after the other from an offset of a file on, and their names in the file. -/
structure TableAt (file : List UInt8) (offset : Nat) (rows : List TableRow) : Prop where
  stands : rows.flatMap TableRow.written <+: file.drop offset
  named : ∀ row ∈ rows, row.NamedIn file

theorem length_flatMap_written (rows : List TableRow) :
    (rows.flatMap TableRow.written).length = 8 * rows.length := by
  induction rows with
  | nil => rfl
  | cons row rows ih =>
    rw [List.flatMap_cons, List.length_append, ih, List.length_cons]
    simp only [TableRow.written, List.length_append, Word.length_toBytes32]
    omega

theorem readEntry_eq_ok_iff {file : List UInt8} {cursor after : Cursor} {entry : UInt32 × String} :
    readEntry file cursor = .ok (entry, after) ↔
      ∃ row : TableRow, row.NamedIn file ∧ row.entry = entry ∧
        cursor.rest = row.written ++ after.rest ∧ after.offset = cursor.offset + 8 := by
  obtain ⟨offset, bytes⟩ := cursor
  obtain ⟨last, rest⟩ := after
  simp only [readEntry, Reader.field_word32.bind_eq_ok_iff]
  constructor
  · rintro ⟨address, _, rfl, nameOffset, _, rfl, h⟩
    cases hname : Reader.terminated.valueAt file nameOffset.toNat with
    | error short => rw [hname] at h; cases h
    | ok name =>
      rw [hname] at h
      obtain ⟨rfl, hafter⟩ := Reader.pure_eq_ok_iff.mp h
      cases hafter
      obtain ⟨hzero, hstands⟩ := Reader.valueAt_terminated_eq_ok_iff.mp hname
      exact ⟨⟨address, nameOffset, name⟩, ⟨hzero, hstands⟩, rfl, by simp [TableRow.written], rfl⟩
  · rintro ⟨⟨address, nameOffset, name⟩, ⟨hzero, hstands⟩, rfl, hbytes, rfl⟩
    have hname := Reader.valueAt_terminated_eq_ok_iff.mpr ⟨hzero, hstands⟩
    refine ⟨address, _, by simpa [TableRow.written] using hbytes, nameOffset, _, rfl, ?_⟩
    rw [hname]
    rfl

private theorem readEntries_eq_ok_iff {file : List UInt8} {count : Nat} {cursor after : Cursor}
    {entries : List (UInt32 × String)} :
    Reader.repeated (readEntry file) count cursor = .ok (entries, after) ↔
      ∃ rows : List TableRow, rows.length = count ∧ (∀ row ∈ rows, row.NamedIn file) ∧
        rows.map TableRow.entry = entries ∧
          cursor.rest = rows.flatMap TableRow.written ++ after.rest ∧
            after.offset = cursor.offset + 8 * count := by
  induction count generalizing cursor entries with
  | zero =>
    obtain ⟨offset, bytes⟩ := cursor
    obtain ⟨last, rest⟩ := after
    simp only [Reader.repeated, Reader.pure_eq_ok_iff, List.length_eq_zero_iff]
    constructor
    · rintro ⟨rfl, hafter⟩
      cases hafter
      exact ⟨[], rfl, by simp, rfl, rfl, rfl⟩
    · rintro ⟨_, rfl, -, rfl, rfl, rfl⟩
      exact ⟨rfl, rfl⟩
  | succ count ih =>
    simp only [Reader.repeated, Reader.bind_eq_ok_iff, Reader.pure_eq_ok_iff]
    constructor
    · rintro ⟨first, middle, hfirst, others, last, hothers, rfl, rfl⟩
      obtain ⟨row, hrow, rfl, hbytes, hmiddle⟩ := readEntry_eq_ok_iff.mp hfirst
      obtain ⟨rows, hcount, hrows, rfl, hrest, hlast⟩ := ih.mp hothers
      refine ⟨row :: rows, by rw [List.length_cons, hcount], ?_, rfl, ?_, by omega⟩
      · exact List.forall_mem_cons.mpr ⟨hrow, hrows⟩
      · rw [hbytes, hrest, List.flatMap_cons, List.append_assoc]
    · rintro ⟨rows, hcount, hrows, rfl, hbytes, hlast⟩
      obtain _ | ⟨row, rows⟩ := rows
      · cases hcount
      · obtain ⟨hrow, hrows⟩ := List.forall_mem_cons.mp hrows
        rw [List.flatMap_cons, List.append_assoc] at hbytes
        refine ⟨row.entry, ⟨cursor.offset + 8, _⟩,
          readEntry_eq_ok_iff.mpr ⟨row, hrow, rfl, hbytes, rfl⟩, rows.map TableRow.entry, after,
          ih.mpr ⟨rows, Nat.succ.inj hcount, hrows, rfl, rfl, by dsimp only; omega⟩, rfl, rfl⟩

theorem readTable_eq_ok_iff {file : List UInt8} {offset : Cell} {count : Nat}
    {entries : List (UInt32 × String)} :
    readTable file offset count = .ok entries ↔
      offset.toNatClampNeg ≤ file.length ∧ ∃ rows : List TableRow, rows.length = count ∧
        TableAt file offset.toNatClampNeg rows ∧ rows.map TableRow.entry = entries := by
  simp only [readTable, except_mapError_eq_ok_iff, Reader.valueAt_eq_ok_iff, readEntries_eq_ok_iff]
  refine and_congr_right fun _ => ?_
  constructor
  · rintro ⟨after, rows, hcount, hrows, hentries, hbytes, -⟩
    exact ⟨rows, hcount, ⟨⟨after.rest, hbytes.symm⟩, hrows⟩, hentries⟩
  · rintro ⟨rows, hcount, ⟨⟨rest, hbytes⟩, hrows⟩, hentries⟩
    exact ⟨⟨_, rest⟩, rows, hcount, hrows, hentries, hbytes.symm, rfl⟩

/-- The function table at an offset of a file has all its names, closing zero bytes included, from
`low` on and before `high`. -/
def NamesWithin (file : List UInt8) (low high offset count : Nat) : Prop :=
  ∃ rows : List TableRow, rows.length = count ∧ TableAt file offset rows ∧
    ∀ row ∈ rows, low ≤ row.nameOffset.toNat ∧ row.nameEnd ≤ high

theorem namesWithin_singleton {file : List UInt8} {low high offset : Nat} {row : TableRow}
    (hstands : row.written <+: file.drop offset) (hnamed : row.NamedIn file)
    (hlow : low ≤ row.nameOffset.toNat) (hhigh : row.nameEnd ≤ high) :
    NamesWithin file low high offset 1 :=
  ⟨[row], rfl, ⟨by simpa using hstands, List.forall_mem_singleton.mpr hnamed⟩,
    List.forall_mem_singleton.mpr ⟨hlow, hhigh⟩⟩

/-- A table whose rows and names lie in the common part of two files is the same in both. -/
theorem readTable_eq_of_agree {file other : List UInt8} {low high count : Nat} {offset : Cell}
    (hagree : AgreeOn low high file other)
    (hnames : NamesWithin file low high offset.toNatClampNeg count)
    (hlow : low ≤ offset.toNatClampNeg) (hhigh : offset.toNatClampNeg + 8 * count ≤ high)
    (hfile : offset.toNatClampNeg ≤ file.length) (hother : offset.toNatClampNeg ≤ other.length) :
    readTable other offset count = readTable file offset count := by
  obtain ⟨rows, hcount, hat, hwithin⟩ := hnames
  have hreads : readTable file offset count = .ok (rows.map TableRow.entry) :=
    readTable_eq_ok_iff.mpr ⟨hfile, rows, hcount, hat, rfl⟩
  rw [hreads, readTable_eq_ok_iff]
  refine ⟨hother, rows, hcount, ⟨?_, fun row hrow => ?_⟩, rfl⟩
  · exact hagree.stands hat.stands hlow (by rw [length_flatMap_written, hcount]; exact hhigh)
  · exact (hat.named row hrow).of_agree hagree (hwithin row hrow).1 (hwithin row hrow).2

end Image

end AmxTrace
