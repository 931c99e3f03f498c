import AmxTrace.Backtrace
import AmxTrace.Proofs.Frame.Neighbours
import Mathlib.Data.List.Forall2
import Mathlib.Data.List.Nodup

/-! # Shape of a backtrace -/

namespace AmxTrace

/-- The records of a log can all be taken from a cursor: each belongs to the machine, and the
cursor before it is not zero. -/
def Machine.Takes (m : Machine) : Cell → CallLog → Prop
  | _, [] => True
  | cip, record :: older => record.instanceId = m.id ∧ cip ≠ 0 ∧ m.Takes record.cip older

/-- The part of a log that is taken from a cursor: the longest run of records from the most
recent on that can all be taken. -/
structure Machine.LongestTaken (m : Machine) (cip : Cell) (log taken : CallLog) : Prop where
  initial : taken <+: log
  takes : m.Takes cip taken
  longest : ∀ other, other <+: log → m.Takes cip other → other <+: taken

/-- No two publics start at the same address, and none starts at the entry point. -/
def Machine.PublicsDistinct (m : Machine) : Prop :=
  (m.publics.map (·.address)).Nodup ∧ ∀ p ∈ m.publics, m.entryPoint ≠ some p.address

/-- A frame runs the public at an index. Its caller is the address of the public, if that is not
zero and lies in the code. Without debug entries such a frame resolves to the public's own name,
and all but the entry point show as public. -/
structure Frame.RunsPublic (m : Machine) (index : Cell) (f : Frame) : Prop where
  caller : ∀ entry, f.caller = .present entry ↔
    m.publicAddress? index = some entry ∧ entry ≠ 0 ∧ 0 ≤ entry.toInt ∧ entry.toInt < m.code.size
  named : ∀ renderer : Renderer, renderer.debug = .empty → m.PublicsDistinct →
    f.caller ≠ .absent → ∃ name, m.publicName? index = some name ∧
      (renderer.resolve m f).function = some name ∧
      ((renderer.resolve m f).isPublic = true ↔ index ≠ Machine.mainIndex)

/-- What one record adds to a backtrace: a native call its entry, and a public call from one to
`max 1 maxDepth` frames, the last of which runs the public. -/
def CallRecord.Adds (m : Machine) (modules : ModuleResolver) (maxDepth : Nat) (record : CallRecord)
    (part : List BacktraceEntry) : Prop :=
  match record.kind with
  | .nativeCall => part = [.native (Backtrace.nativeFrame m modules record.index)]
  | .publicCall => ∃ inner outermost, part = (inner ++ [outermost]).map .script ∧
      part.length ≤ max 1 maxDepth ∧ outermost.RunsPublic m record.index

namespace Machine

theorem exists_longestTaken (m : Machine) (cip : Cell) (log : CallLog) :
    ∃ taken, m.LongestTaken cip log taken := by
  induction log generalizing cip with
  | nil =>
    refine ⟨[], List.prefix_rfl, trivial, ?_⟩
    intro other h _
    exact h
  | cons record older ih =>
    by_cases hrecord : record.instanceId = m.id ∧ cip ≠ 0
    · obtain ⟨taken, hinitial, htakes, hlongest⟩ := ih record.cip
      refine ⟨record :: taken, ?_, ⟨hrecord.1, hrecord.2, htakes⟩, ?_⟩
      · exact List.cons_prefix_cons.mpr ⟨rfl, hinitial⟩
      · intro other h ht
        cases other with
        | nil => exact List.nil_prefix
        | cons first rest =>
          obtain ⟨rfl, hrest⟩ := List.cons_prefix_cons.mp h
          exact List.cons_prefix_cons.mpr ⟨rfl, hlongest rest hrest ht.2.2⟩
    · refine ⟨[], List.nil_prefix, trivial, ?_⟩
      intro other h ht
      cases other with
      | nil => exact List.prefix_rfl
      | cons first rest =>
        obtain ⟨rfl, _⟩ := List.cons_prefix_cons.mp h
        exact absurd ⟨ht.1, ht.2.1⟩ hrecord

theorem findPublic?_of_publicAddress? {m : Machine} (hm : m.PublicsDistinct) {index entry : Cell}
    (h : m.publicAddress? index = some entry) :
    ∃ name, m.publicName? index = some name ∧ m.findPublic? entry = some name ∧
      (m.isMainAddress entry = true ↔ index = mainIndex) := by
  by_cases hmain : index = mainIndex
  · rw [publicAddress?, if_pos hmain] at h
    refine ⟨mainName, ?_, ?_, ?_⟩ <;> simp [publicName?, findPublic?, isMainAddress, h, hmain]
  · rw [publicAddress?, if_neg hmain] at h
    obtain ⟨p, hp, rfl⟩ := Option.map_eq_some_iff.mp h
    have hmem : p ∈ m.publics := by
      obtain ⟨n, _, hn⟩ := Option.bind_eq_some_iff.mp hp
      exact List.mem_of_getElem? hn
    have hnot : m.isMainAddress p.address = false := by simpa [isMainAddress] using hm.2 p hmem
    have hfound : m.publics.find? (fun q => q.address == p.address) = some p := by
      obtain ⟨q, hq⟩ : ∃ q, m.publics.find? (fun q => q.address == p.address) = some q := by
        rw [← Option.isSome_iff_exists, List.find?_isSome]
        exact ⟨p, hmem, beq_self_eq_true p.address⟩
      have haddress : q.address = p.address := by simpa using List.find?_some hq
      rw [hq, List.inj_on_of_nodup_map hm.1 (List.mem_of_find?_eq_some hq) hmem haddress]
    refine ⟨p.name, ?_, ?_, ?_⟩ <;> simp [publicName?, findPublic?, hnot, hfound, hp, hmain]

theorem publicEntry_eq_present_iff {m : Machine} {index entry : Cell} :
    m.codeAddr ((m.publicAddress? index).getD 0) = .present entry ↔
      m.publicAddress? index = some entry ∧ entry ≠ 0 ∧
        0 ≤ entry.toInt ∧ entry.toInt < m.code.size := by
  rw [codeAddr, Addr.checked_eq_present_iff]
  constructor
  · rintro ⟨rfl, hz, hc⟩
    cases h : m.publicAddress? index with
    | none => simp [h] at hz
    | some address =>
      rw [h, Option.getD_some] at hz hc
      exact ⟨rfl, hz, (m.isCodeAddress_iff address).mp hc⟩
  · rintro ⟨h, hz, hc⟩
    simp [h, hz, m.isCodeAddress_iff, hc]

end Machine

namespace Renderer

theorem function?_of_empty {r : Renderer} (h : r.debug = .empty) (f : Frame) :
    r.function? f = none := by
  unfold function?
  cases f.caller.get? with
  | none => rfl
  | some address =>
    simp [h, DebugStore.exactFunction?, DebugStore.function?, DebugStore.functions,
      DebugStore.empty]

end Renderer

namespace Frame

theorem runsPublic_of_caller {m : Machine} {index : Cell} {f : Frame}
    (h : f.caller = m.codeAddr ((m.publicAddress? index).getD 0)) : f.RunsPublic m index where
  caller := by
    intro entry
    rw [h, Machine.publicEntry_eq_present_iff]
  named := by
    intro renderer hempty hm hcaller
    cases hf : f.caller with
    | absent => exact absurd hf hcaller
    | present entry =>
      have haddress := (Machine.publicEntry_eq_present_iff.mp (h.symm.trans hf)).1
      obtain ⟨name, hname, hfind, hmain⟩ := Machine.findPublic?_of_publicAddress? hm haddress
      refine ⟨name, hname, ?_, ?_⟩
      · simp [Renderer.resolve, Renderer.function?_of_empty hempty, hf, Addr.get?, hfind]
      · rw [Ne, ← hmain]
        simp [Renderer.resolve, hf, Addr.get?, Machine.isPublicAddress, hfind]

end Frame

theorem Walk.length_fromFrame_le (m : Machine) (limit : Nat) (f : Frame) :
    (fromFrame m limit f).length ≤ limit := by
  induction limit generalizing f with
  | zero => simp [fromFrame]
  | succ limit ih =>
    rw [fromFrame]
    split
    · simp
    · have := ih (f.previous m)
      simp only [List.length_cons]
      omega

namespace Backtrace

theorem withOutermostCaller_concat (m : Machine) (address : Cell) (inner : List Frame)
    (outermost : Frame) :
    withOutermostCaller m address (inner ++ [outermost]) =
      inner ++ [outermost.withCaller m address] := by
  induction inner with
  | nil => rfl
  | cons f inner ih =>
    cases h : inner ++ [outermost] with
    | nil => simp at h
    | cons g rest =>
      rw [h] at ih
      rw [List.cons_append, h, withOutermostCaller, ih]
      rfl

/-- A public call adds at least one frame and at most `max 1 maxDepth`; the last one runs it. -/
theorem publicFrames_eq_concat (m : Machine) (maxDepth : Nat) (index frm cip : Cell) :
    ∃ inner outermost, publicFrames m maxDepth index frm cip = inner ++ [outermost] ∧
      inner.length + 1 ≤ max 1 maxDepth ∧ outermost.RunsPublic m index := by
  have hlength := Walk.length_fromFrame_le m maxDepth (Walk.head m frm cip)
  rcases List.eq_nil_or_concat (Walk.fromRegisters m frm cip maxDepth) with h | ⟨inner, last, h⟩
  · refine ⟨[], Frame.ofParts m frm 0 0 ((m.publicAddress? index).getD 0), ?_, ?_, ?_⟩
    · rw [publicFrames, h]
      rfl
    · exact Nat.le_max_left 1 maxDepth
    · exact Frame.runsPublic_of_caller rfl
  · refine ⟨inner, last.withCaller m ((m.publicAddress? index).getD 0), ?_, ?_, ?_⟩
    · rw [publicFrames_of_walk_ne_nil (by simp [h]), h, List.concat_eq_append,
        withOutermostCaller_concat]
    · rw [Walk.fromRegisters] at h
      rw [h] at hlength
      simp at hlength
      omega
    · exact Frame.runsPublic_of_caller rfl

private theorem recordEntries_adds (m : Machine) (modules : ModuleResolver) (maxDepth : Nat)
    (record : CallRecord) (frm cip : Cell) :
    record.Adds m modules maxDepth (recordEntries m modules maxDepth record frm cip) := by
  unfold CallRecord.Adds recordEntries
  cases record.kind with
  | nativeCall => rfl
  | publicCall =>
    obtain ⟨inner, outermost, heq, hlength, hruns⟩ :=
      publicFrames_eq_concat m maxDepth record.index frm cip
    refine ⟨inner, outermost, by rw [heq], ?_, hruns⟩
    rw [heq]
    simpa using hlength

theorem captureFrom_eq_flatten {m : Machine} {log : CallLog} {cip : Cell}
    (h : m.Takes cip log) (frm : Cell) (modules : ModuleResolver) (maxDepth : Nat) :
    ∃ parts, captureFrom m modules maxDepth log frm cip = parts.flatten ∧
      List.Forall₂ (CallRecord.Adds m modules maxDepth) log parts := by
  induction log generalizing frm cip with
  | nil => exact ⟨[], rfl, .nil⟩
  | cons record older ih =>
    obtain ⟨hid, hz, hrest⟩ := h
    obtain ⟨parts, hparts, hadds⟩ := ih hrest record.frm
    refine ⟨recordEntries m modules maxDepth record frm cip :: parts, ?_, ?_⟩
    · rw [captureFrom, if_neg (by simp [hid, hz]), hparts, List.flatten_cons]
    · exact .cons (recordEntries_adds m modules maxDepth record frm cip) hadds

theorem captureFrom_append_failing {m : Machine} {taken : CallLog} {failing : CallRecord}
    {frm cip : Cell} (ht : m.Takes cip taken) (hf : ¬ m.Takes cip (taken ++ [failing]))
    (modules : ModuleResolver) (maxDepth : Nat) (older : CallLog) :
    captureFrom m modules maxDepth (taken ++ failing :: older) frm cip =
      captureFrom m modules maxDepth taken frm cip := by
  induction taken generalizing frm cip with
  | nil =>
    have hstop : cip = 0 ∨ failing.instanceId ≠ m.id := by
      by_contra h
      rw [not_or, not_not] at h
      exact hf ⟨h.2, h.1, trivial⟩
    simp only [List.nil_append, captureFrom, if_pos hstop]
  | cons record taken ih =>
    obtain ⟨hid, hz, hrest⟩ := ht
    have hgo : ¬ (cip = 0 ∨ record.instanceId ≠ m.id) := by simp [hid, hz]
    rw [List.cons_append, captureFrom, captureFrom, if_neg hgo, if_neg hgo,
      ih hrest (fun h => hf ⟨hid, hz, h⟩)]

private theorem length_flatten_le {m : Machine} {modules : ModuleResolver} {maxDepth : Nat}
    {taken : CallLog} {parts : List (List BacktraceEntry)}
    (h : List.Forall₂ (CallRecord.Adds m modules maxDepth) taken parts) :
    parts.flatten.length ≤
      taken.countP (·.isNative) + taken.countP (·.isPublic) * max 1 maxDepth := by
  induction h with
  | nil => simp
  | @cons record part taken parts hadds _ ih =>
    rw [List.flatten_cons, List.length_append, List.countP_cons, List.countP_cons]
    unfold CallRecord.Adds at hadds
    split at hadds
    next hk =>
      have hn : record.isNative = true := by simp [CallRecord.isNative, hk]
      have hp : ¬ record.isPublic = true := by simp [CallRecord.isPublic, hk]
      rw [hadds, if_pos hn, if_neg hp, List.length_singleton]
      simp only [Nat.add_zero]
      omega
    next hk =>
      obtain ⟨_, _, _, hlength, _⟩ := hadds
      have hn : ¬ record.isNative = true := by simp [CallRecord.isNative, hk]
      have hp : record.isPublic = true := by simp [CallRecord.isPublic, hk]
      rw [if_neg hn, if_pos hp, Nat.succ_mul]
      omega

/-- The shape of every backtrace, whatever the memory and the log hold. The entries are those of
the longest run of records that can be taken, one part for each record in order. What follows
that run, and what the first record after it is, makes no difference. -/
theorem capture_shape (m : Machine) (log : CallLog) (modules : ModuleResolver) (maxDepth : Nat) :
    ∃ taken parts, m.LongestTaken m.registers.cip log taken ∧
      capture m log modules maxDepth = parts.flatten ∧
      List.Forall₂ (CallRecord.Adds m modules maxDepth) taken parts ∧
      capture m taken modules maxDepth = capture m log modules maxDepth ∧
      (∀ failing older, ¬ m.Takes m.registers.cip (taken ++ [failing]) →
        capture m (taken ++ failing :: older) modules maxDepth =
          capture m log modules maxDepth) ∧
      (capture m log modules maxDepth).length ≤
        taken.countP (·.isNative) + taken.countP (·.isPublic) * max 1 maxDepth := by
  obtain ⟨taken, htaken⟩ := m.exists_longestTaken m.registers.cip log
  obtain ⟨parts, hparts, hadds⟩ :=
    captureFrom_eq_flatten htaken.takes m.registers.frm modules maxDepth
  have hfailing (failing : CallRecord) (older : CallLog)
      (hf : ¬ m.Takes m.registers.cip (taken ++ [failing])) :
      capture m (taken ++ failing :: older) modules maxDepth = capture m taken modules maxDepth :=
    captureFrom_append_failing htaken.takes hf modules maxDepth older
  have hlog : capture m log modules maxDepth = capture m taken modules maxDepth := by
    obtain ⟨rest, rfl⟩ := htaken.initial
    cases rest with
    | nil => rw [List.append_nil]
    | cons failing older =>
      apply hfailing
      intro ht
      have hlong := (htaken.longest (taken ++ [failing]) (by simp) ht).length_le
      simp only [List.length_append, List.length_singleton] at hlong
      omega
  rw [hlog]
  refine ⟨taken, parts, htaken, hparts, hadds, rfl, hfailing, ?_⟩
  rw [capture, hparts]
  exact length_flatten_le hadds

end Backtrace

end AmxTrace
