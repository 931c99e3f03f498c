import AmxTrace.Backtrace.Interchange
import AmxTrace.Debug.Section
import AmxTrace.Proofs.Frame.ArgumentCount
import AmxTrace.Proofs.Frame.Checked
import AmxTrace.Proofs.Image.Parse
import AmxTrace.Proofs.Json.Records

/-! # Resolved frames read back from JSON -/

namespace AmxTrace

theorem Addr.ofOption_get?_eq_self_iff {a : Addr} : ofOption a.get? = a ↔ a ≠ .present 0 := by
  refine ⟨?_, ofOption_get?⟩
  rintro h rfl
  cases h

namespace ScriptFrame

theorem ofJson?_members (f : ScriptFrame) :
    ofJson? (.object f.members) =
      if f.omittedArguments < 2 ^ 64 then
        some { f with returnAddress := Addr.ofOption f.returnAddress.get? }
      else none := by
  have hnames : fieldNames.Nodup := by decide
  rw [ofJson?, members, Json.fields?_zip hnames rfl]
  simp only [addressField?, Json.Fields.required?_map_some, Json.Fields.optional?_map_some,
    fieldValues, List.getElem?_cons_zero, List.getElem?_cons_succ, Option.elim_some,
    Option.bind_eq_bind, Option.bind_some, Addr.toJson, Json.nullable?_ofOptionCell,
    Json.nullable?_ofOptionString, Json.listOf?_ofStrings, Json.bool?, Json.size?_integer,
    Option.map_some]
  split_ifs with hfits
  · rfl
  · rfl

end ScriptFrame

namespace NativeFrame

theorem ofJson?_members (f : NativeFrame) :
    ofJson? (.object f.members) =
      if ∀ address ∈ f.address, address < 2 ^ 64 then some f else none := by
  have hnames : fieldNames.Nodup := by decide
  rw [ofJson?, members, Json.fields?_zip hnames rfl]
  simp only [Json.Fields.required?_map_some, Json.Fields.optional?_map_some,
    fieldValues, List.getElem?_cons_zero, List.getElem?_cons_succ, Option.elim_some,
    Option.bind_eq_bind, Option.bind_some, Json.cell?_integer, Json.nullable?_ofOptionString,
    Json.nullable?_ofOptionSize]
  split_ifs with hfits
  · rfl
  · rfl

end NativeFrame

namespace ResolvedFrame

/-- JSON can tell the frame apart: its return address is no present zero, and its numbers are of 64
bits. -/
def Portable : ResolvedFrame → Prop
  | .script f => f.returnAddress ≠ .present 0 ∧ f.omittedArguments < 2 ^ 64
  | .native f => ∀ address ∈ f.address, address < 2 ^ 64

theorem ofJson?_kind {kind : String} {members : List (String × Json)}
    (h : "kind" ∉ members.map (·.1)) :
    ofJson? (.object (("kind", .string kind) :: members)) = ofKind? kind (.object members) := by
  rw [ofJson?, Json.givenOnce?_cons h, Json.filter_name_ne h]
  rfl

theorem ofJson?_toJson_eq_some_iff {frame : ResolvedFrame} :
    ofJson? frame.toJson = some frame ↔ frame.Portable := by
  cases frame with
  | script f =>
    have hkind : "kind" ∉ f.members.map (·.1) := by
      change "kind" ∉ ScriptFrame.fieldNames
      decide
    rw [toJson, ofJson?_kind hkind]
    change (ScriptFrame.ofJson? (.object f.members)).map script = _ ↔ _
    rw [ScriptFrame.ofJson?_members, Portable, ← Addr.ofOption_get?_eq_self_iff]
    split_ifs with hfits
    · rw [Option.map_some, Option.some_inj, script.injEq, and_iff_left hfits]
      constructor
      · intro h
        exact congrArg ScriptFrame.returnAddress h
      · intro h
        rw [h]
    · exact iff_of_false (Option.some_ne_none _).symm fun h => hfits h.2
  | native f =>
    have hkind : "kind" ∉ f.members.map (·.1) := by
      change "kind" ∉ NativeFrame.fieldNames
      decide
    rw [toJson, ofJson?_kind hkind]
    change (NativeFrame.ofJson? (.object f.members)).map native = _ ↔ _
    rw [NativeFrame.ofJson?_members, Portable]
    split_ifs with hfits
    · exact iff_of_true rfl hfits
    · exact iff_of_false (Option.some_ne_none _).symm hfits

theorem listOfJson?_listToJson_eq_some_iff {frames : List ResolvedFrame} :
    listOfJson? (listToJson frames) = some frames ↔ ∀ frame ∈ frames, frame.Portable := by
  simp only [listOfJson?, listToJson, Json.listOf?_map_eq_some_iff, ofJson?_toJson_eq_some_iff]

end ResolvedFrame

/-- The addresses of the natives and the number of debug symbols are numbers of a host with 64-bit
words. -/
structure FitsHost (m : Machine) (debug : DebugStore) : Prop where
  natives : ∀ native ∈ m.natives, native.address < 2 ^ 64
  symbols : debug.symbols.length < 2 ^ 64

theorem DebugStore.length_symbols_lt {bytes : List UInt8} {store : DebugStore}
    (h : DebugStore.ofSection bytes = .ok store) : store.symbols.length < 2 ^ 16 := by
  -- of all that is read only the count before the symbols and the symbols themselves matter
  unfold DebugStore.ofSection at h
  obtain ⟨⟨signature, cursor⟩, -, hrest⟩ := except_bind_eq_ok_iff.mp h
  dsimp only at hrest
  by_cases hsignature : signature = DebugSection.expectedSignature
  · rw [if_neg (not_not.mpr hsignature)] at hrest
    obtain ⟨⟨read, last⟩, htables, hstore⟩ := except_bind_eq_ok_iff.mp hrest
    obtain rfl := Except.ok.inj hstore
    rw [except_mapError_eq_ok_iff] at htables
    simp only [DebugSection.readTables, Reader.bind_eq_ok_iff, Reader.pure_eq_ok_iff] at htables
    obtain ⟨_, _, -, _, _, -, _, _, -, _, _, -, _, _, -, symbolCount, _, -, _, _, -, _, _, -, _, _, -,
      _, _, -, _, _, -, symbols, _, hsymbols, _, _, -, _, _, -, _, _, -, rfl, -⟩ := htables
    dsimp only
    rw [Reader.length_repeated hsymbols]
    exact symbolCount.toNat_lt
  · rw [if_pos hsignature] at hrest
    cases hrest

theorem fitsHost_machineWith {file : ByteArray} {image : Image} (h : Image.parse file = .ok image)
    {bytes : List UInt8} {store : DebugStore} (hstore : DebugStore.ofSection bytes = .ok store)
    (id : Nat) (data : ByteArray) (registers : Registers) :
    FitsHost (image.machineWith id data registers) store := by
  obtain ⟨segments, publics, natives, -, himage⟩ := Image.parse_eq_ok_iff.mp h
  have hnatives : natives.map (fun row => ⟨row.2, row.1.toNat⟩) = image.natives :=
    congrArg Image.natives himage
  refine ⟨?_, Nat.lt_trans (DebugStore.length_symbols_lt hstore) (by decide)⟩
  change ∀ native ∈ image.natives, native.address < 2 ^ 64
  rw [← hnatives]
  refine List.forall_mem_map.mpr fun row _ => ?_
  exact Nat.lt_trans row.1.toNat_lt (by decide)

theorem Frame.wholeArguments_lt (size : Cell) : wholeArguments size < 2 ^ 32 := by
  have hhigh := size.toInt_lt
  unfold wholeArguments
  omega

theorem Frame.ownArguments_lt (m : Machine) (frame : Frame) : frame.ownArguments m < 2 ^ 32 := by
  unfold ownArguments
  cases frame.argumentSize? m with
  | none => decide
  | some size => exact wholeArguments_lt size

theorem Frame.argumentCount_lt (m : Machine) (frame : Frame) : frame.argumentCount m < 2 ^ 32 := by
  rw [argumentCount_eq]
  cases (frame.previous m).argumentSize? m with
  | none => exact Nat.two_pow_pos 32
  | some size =>
    dsimp only
    split_ifs
    · exact ownArguments_lt m _
    · exact wholeArguments_lt size

theorem DebugStore.length_arguments_le (d : DebugStore) (function : DebugSymbol) :
    (d.arguments function).length ≤ d.symbols.length := by
  rw [arguments, List.length_mergeSort]
  exact List.length_filter_le _ _

namespace Renderer

theorem omittedArguments_lt {r : Renderer} (hsymbols : r.debug.symbols.length < 2 ^ 64) (m : Machine)
    (frame : Frame) : (r.resolve m frame).omittedArguments < 2 ^ 64 := by
  have hpassed := frame.argumentCount_lt m
  have htotal : r.totalArguments m frame < 2 ^ 64 := by
    unfold totalArguments
    split_ifs
    · decide
    · cases r.function? frame with
      | none => exact Nat.lt_trans hpassed (by decide)
      | some function =>
        have hdeclared := r.debug.length_arguments_le function
        dsimp only
        omega
  exact Nat.lt_of_le_of_lt (Nat.sub_le _ _) htotal

end Renderer

namespace Backtrace

variable {m : Machine} {modules : ModuleResolver} {maxDepth : Nat}

theorem exists_nativeFrame_of_mem_captureFrom {log : CallLog} {frm cip : Cell} {f : NativeFrame}
    (hf : .native f ∈ captureFrom m modules maxDepth log frm cip) :
    ∃ index, f = nativeFrame m modules index := by
  induction log generalizing frm cip with
  | nil => simp [captureFrom] at hf
  | cons record older ih =>
    rw [captureFrom] at hf
    split at hf
    · simp at hf
    · rcases List.mem_append.mp hf with hf | hf
      · unfold recordEntries at hf
        split at hf
        · obtain ⟨rfl⟩ := List.mem_singleton.mp hf
          exact ⟨record.index, rfl⟩
        · simp at hf
      · exact ih hf

theorem portable_nativeFrame (hnatives : ∀ native ∈ m.natives, native.address < 2 ^ 64)
    (index : Cell) : (ResolvedFrame.native (nativeFrame m modules index)).Portable := by
  intro address haddress
  obtain ⟨hbound, -⟩ := Option.filter_eq_some_iff.mp haddress
  obtain ⟨native, hnative, rfl⟩ := Option.map_eq_some_iff.mp hbound
  obtain ⟨place, -, hplace⟩ := Option.bind_eq_some_iff.mp hnative
  exact hnatives native (List.mem_of_getElem? hplace)

theorem portable_of_mem_resolve {r : Renderer} (hfits : FitsHost m r.debug) {log : CallLog}
    {frame : ResolvedFrame} (hframe : frame ∈ resolve r m (capture m log modules maxDepth)) :
    frame.Portable := by
  obtain ⟨entry, hentry, rfl⟩ := List.mem_map.mp hframe
  cases entry with
  | script f =>
    have hchecked : f.Checked m := checked_of_mem_captureFrom hentry
    -- zero stands in memory for a frame without a caller and never passes the check of an address
    refine ⟨fun hzero => ?_, Renderer.omittedArguments_lt hfits.symbols m f⟩
    exact (hchecked.returnAddress 0 hzero).1 rfl
  | native f =>
    obtain ⟨index, rfl⟩ := exists_nativeFrame_of_mem_captureFrom hentry
    exact portable_nativeFrame hfits.natives index

/-- The frames of a backtrace are read back from JSON as they were, whatever the memory and the log,
and so they give the lines of the backtrace. -/
theorem listOfJson?_listToJson_resolve {r : Renderer} (hfits : FitsHost m r.debug) (log : CallLog)
    (modules : ModuleResolver) (maxDepth : Nat) :
    let entries := capture m log modules maxDepth
    let decoded := ResolvedFrame.listOfJson? (ResolvedFrame.listToJson (resolve r m entries))
    decoded = some (resolve r m entries) ∧ decoded.map numberedLines = some (lines r m entries) := by
  intro entries decoded
  have hdecoded : decoded = some (resolve r m entries) :=
    ResolvedFrame.listOfJson?_listToJson_eq_some_iff.mpr fun _ => portable_of_mem_resolve hfits
  refine ⟨hdecoded, ?_⟩
  rw [hdecoded]
  rfl

/-- A machine in a native that the host bound, under a public that was entered a second time at a
code address that is not there. -/
def hosted : Machine := { Frame.selfLinked with natives := [⟨"Ask", 0x1000⟩] }

def hostedCalls : CallLog :=
  [⟨0, .nativeCall, 0, 16, 12⟩, ⟨0, .publicCall, 0, 0, 64⟩, ⟨0, .publicCall, 0, 0, 0⟩]

/-- Its frames at a depth limit of two. -/
def hostedFrames : List ResolvedFrame :=
  [.native ⟨0, some "Ask", some 0x1000, some "host"⟩, .script { returnAddress := .present 12 },
    .script { returnAddress := .present 12, function := some "OnTick", isPublic := true },
    .script { function := some "OnTick", isPublic := true }]

theorem listOfJson?_listToJson_hostedFrames :
    FitsHost hosted .empty ∧
      resolve {} hosted (capture hosted hostedCalls (fun _ => some "host") 2) = hostedFrames ∧
      ResolvedFrame.listOfJson? (ResolvedFrame.listToJson hostedFrames) = some hostedFrames := by
  have hfits : FitsHost hosted .empty := ⟨by decide, by decide⟩
  have hframes : resolve {} hosted (capture hosted hostedCalls (fun _ => some "host") 2) =
      hostedFrames := by decide +kernel
  have hdecoded := (listOfJson?_listToJson_resolve (r := {}) hfits hostedCalls
    (fun _ => some "host") 2).1
  rw [hframes] at hdecoded
  exact ⟨hfits, hframes, hdecoded⟩

end Backtrace

end AmxTrace
