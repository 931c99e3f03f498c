import AmxTrace.Proofs.Debug.Layout
import AmxTrace.Proofs.Reader.Written

/-! # Reading a written debug section -/

namespace AmxTrace

open Reader (Reads)

theorem SymbolKind.ofCode_code {kind : SymbolKind} (h : kind.Proper) : ofCode kind.code = kind := by
  cases kind with
  | other code =>
    simp only [SymbolKind.Proper, List.map_cons, List.map_nil, List.mem_cons, other.injEq,
      not_or] at h
    simp [ofCode, SymbolKind.code, h]
  | _ => rfl

theorem StorageClass.ofCode_code {storage : StorageClass} (h : storage.Proper) :
    ofCode storage.code = storage := by
  cases storage with
  | other code =>
    simp only [StorageClass.Proper, List.map_cons, List.map_nil, List.mem_cons, other.injEq,
      not_or] at h
    simp [ofCode, StorageClass.code, h]
  | _ => rfl

namespace DebugSection

open Reader

theorem reads_name (name : StoredName) : Reads readName name.written name.text :=
  (reads_terminated name.zero_not_mem).map Utf8.decodeLossy

theorem reads_file (file : StoredFile) : Reads readFile file.written file.entry :=
  (field_cell.reads file.address).bind ((reads_name file.name).map _)

theorem reads_line (entry : LineEntry) : Reads readLine entry.written entry :=
  (field_cell.reads entry.address).bind ((field_cell.reads entry.line).map _)

theorem reads_dimension (dimension : Dimension) :
    Reads readDimension dimension.written dimension :=
  (field_short.reads dimension.tag).bind ((field_word32.reads dimension.size).map _)

theorem reads_tag (tag : StoredTag) : Reads readTag tag.written tag.entry :=
  (field_short.reads tag.id).bind ((reads_name tag.name).map _)

theorem reads_automaton (automaton : StoredAutomaton) :
    Reads readAutomaton automaton.written automaton.entry :=
  (field_short.reads automaton.id).bind
    ((field_cell.reads automaton.address).bind ((reads_name automaton.name).map _))

theorem reads_state (state : StoredState) : Reads readState state.written state.entry :=
  (field_short.reads state.id).bind
    ((field_short.reads state.automaton).bind ((reads_name state.name).map _))

theorem reads_symbol (symbol : StoredSymbol) : Reads readSymbol symbol.written symbol.entry := by
  have hcount : Reads short (Word.toBytes16 (UInt16.ofNat symbol.dimensions.length))
      (Int16.ofNat symbol.dimensions.length) := by
    have h := field_short.reads (Int16.ofNat symbol.dimensions.length)
    rwa [← UInt16.toInt16_ofNat', UInt16.toUInt16_toInt16] at h
  have hdimensions : Reads
      (repeated readDimension (Int16.ofNat symbol.dimensions.length).toNatClampNeg)
      (symbol.dimensions.flatMap Dimension.written) symbol.dimensions := by
    rw [Int16.toNatClampNeg_ofNat_of_lt (Nat.lt_succ_of_le symbol.dimensions_length)]
    have h : Reads (repeated readDimension symbol.dimensions.length)
        (symbol.dimensions.flatMap Dimension.written) (symbol.dimensions.map id) :=
      Reads.repeated fun dimension _ => reads_dimension dimension
    rwa [List.map_id] at h
  have hentry : symbol.entry =
      { name := symbol.name.text, address := symbol.address, tag := symbol.tag,
        codeStart := symbol.codeStart, codeEnd := symbol.codeEnd,
        kind := .ofCode symbol.kind.code, storage := .ofCode symbol.storage.code,
        dimensions := symbol.dimensions } := by
    rw [SymbolKind.ofCode_code symbol.kind_proper, StorageClass.ofCode_code symbol.storage_proper]
    rfl
  rw [hentry]
  exact (field_cell.reads symbol.address).bind <| (field_short.reads symbol.tag).bind <|
    (field_cell.reads symbol.codeStart).bind <| (field_cell.reads symbol.codeEnd).bind <|
    (field_byte.reads symbol.kind.code).bind <| (field_byte.reads symbol.storage.code).bind <|
    hcount.bind <| (reads_name symbol.name).bind <| hdimensions.map _

/-- A table is read back entry by entry if its size fits the field it is written in. -/
theorem reads_table {ι α : Type} {reader : Reader α} {written : ι → List UInt8} {value : ι → α}
    {items : List ι} (hlength : items.length ≤ 65535)
    (h : ∀ item, Reads reader (written item) (value item)) :
    Reads (repeated reader (UInt16.ofNat items.length).toNat) (items.flatMap written)
      (items.map value) := by
  rw [UInt16.toNat_ofNat_of_lt' (by simp [UInt16.size]; omega)]
  exact Reads.repeated fun item _ => h item

theorem reads_signature (preamble : SectionPreamble) :
    Reads readSignature preamble.signed expectedSignature :=
  (field_word32.reads preamble.size).bind (field_word16.reads expectedSignature)

theorem reads_tables (preamble : SectionPreamble) (tables : StoredTables) :
    Reads readTables (tables.sizes preamble ++ tables.body) tables.store := by
  have hlines : Reads (repeated readLine (UInt16.ofNat tables.lines.length).toNat)
      (tables.lines.flatMap LineEntry.written) (tables.lines.map id) :=
    reads_table tables.lines_length reads_line
  rw [List.map_id] at hlines
  simp only [StoredTables.sizes, StoredTables.body, List.append_assoc]
  exact (field_byte.reads preamble.fileVersion).bind <|
    (field_byte.reads preamble.machineVersion).bind <| (field_word16.reads preamble.flags).bind <|
    (field_word16.reads _).bind <| (field_word16.reads _).bind <| (field_word16.reads _).bind <|
    (field_word16.reads _).bind <| (field_word16.reads _).bind <| (field_word16.reads _).bind <|
    (reads_table tables.files_length reads_file).bind <| hlines.bind <|
    (reads_table tables.symbols_length reads_symbol).bind <|
    (reads_table tables.tags_length reads_tag).bind <|
    (reads_table tables.automata_length reads_automaton).bind <|
    (reads_table tables.states_length reads_state).map _

end DebugSection

namespace DebugStore

theorem ofSection_of_signed {bytes : List UInt8} {after : Cursor}
    (h : DebugSection.readSignature ⟨0, bytes⟩ = .ok (DebugSection.expectedSignature, after)) :
    ofSection bytes = ((DebugSection.readTables after).map (·.1)).mapError .truncated := by
  unfold ofSection
  rw [h]
  cases hread : DebugSection.readTables after with
  | error short => simp [Except.mapError, Except.map, hread, bind, Except.bind]
  | ok read =>
    simp only [Except.mapError, Except.map, hread, bind, Except.bind, ne_eq, not_true_eq_false,
      if_false]
    rfl

theorem ofSection_of_short {bytes : List UInt8} {short : ShortRead}
    (h : DebugSection.readSignature ⟨0, bytes⟩ = .error short) :
    ofSection bytes = .error (.truncated short) := by
  rw [ofSection, h]
  rfl

/-- A written section is read back whatever follows it, and no strict initial part of it is. -/
theorem ofSection_written (preamble : SectionPreamble) (tables : StoredTables) :
    (∀ following, ofSection (tables.written preamble ++ following) = .ok tables.store) ∧
      ∀ part, part <+: tables.written preamble → part ≠ tables.written preamble →
        ∃ short, ofSection part = .error (.truncated short) := by
  have hsigned := DebugSection.reads_signature preamble
  have htables := DebugSection.reads_tables preamble tables
  constructor
  · intro following
    rw [StoredTables.written, List.append_assoc, ofSection_of_signed (hsigned.whole 0 _),
      htables.whole]
    rfl
  · intro part hpart hne
    -- the section is cut either after its signature or inside it
    rcases Reader.strictPrefix_append hpart hne with ⟨rest, rfl, hrest, hne'⟩ | ⟨hinside, hne'⟩
    · obtain ⟨short, hshort⟩ := htables.cut (0 + preamble.signed.length) rest hrest hne'
      refine ⟨short, ?_⟩
      rw [ofSection_of_signed (hsigned.whole 0 rest), hshort]
      rfl
    · obtain ⟨short, hshort⟩ := hsigned.cut 0 part hinside hne'
      exact ⟨short, ofSection_of_short hshort⟩

/-- Tables of a script whose names were written in a legacy code page. -/
def legacyTables : StoredTables where
  files := [⟨0, ⟨[0xE9, 0x67, 0x6D], by decide⟩⟩]
  files_length := by decide
  lines := [⟨16, -1⟩]
  lines_length := by decide
  symbols := [⟨⟨[0x52, 0xE9, 0x73], by decide⟩, -4, 1, 16, 64, .other 0xC8, by decide, .frame,
    by decide, [⟨-2, 0xFFFFFFFF⟩], by decide⟩]
  symbols_length := by decide
  tags := [⟨1, ⟨[0xC3, 0xA9], by decide⟩⟩]
  tags_length := by decide
  automata := [⟨0, 128, ⟨[], by decide⟩⟩]
  automata_length := by decide
  states := [⟨0, 0, ⟨[0x69], by decide⟩⟩]
  states_length := by decide

/-- The legacy tables are read back from a section with bytes after it, and not from one that
ends inside its header. -/
theorem ofSection_legacyTables :
    ofSection (legacyTables.written ⟨99, 8, 8, 0⟩ ++ [0xF1]) = .ok legacyTables.store ∧
      ((legacyTables.written ⟨99, 8, 8, 0⟩).take 21 <+: legacyTables.written ⟨99, 8, 8, 0⟩ ∧
        (legacyTables.written ⟨99, 8, 8, 0⟩).take 21 ≠ legacyTables.written ⟨99, 8, 8, 0⟩) ∧
      ∃ short, ofSection ((legacyTables.written ⟨99, 8, 8, 0⟩).take 21) =
        .error (.truncated short) :=
  have hcut := ofSection_written ⟨99, 8, 8, 0⟩ legacyTables
  have hne : (legacyTables.written ⟨99, 8, 8, 0⟩).take 21 ≠ legacyTables.written ⟨99, 8, 8, 0⟩ := by
    decide
  ⟨hcut.1 [0xF1], ⟨List.take_prefix _ _, hne⟩, hcut.2 _ (List.take_prefix _ _) hne⟩

end DebugStore

end AmxTrace
