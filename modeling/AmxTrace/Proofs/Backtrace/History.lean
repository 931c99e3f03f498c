import AmxTrace.Backtrace
import AmxTrace.Proofs.Frame.Activation
import Mathlib.Data.List.Forall2

/-! # Reconstruction of the call history -/

namespace AmxTrace

namespace Machine.HoldsChain

variable {m : Machine} {entry : Cell} {a : Activation} {outer : List Activation}

/-- A walk from a frame on top of a chain shows every activation of the chain, once the caller
of its last frame is replaced by the function the host entered. -/
theorem walk_shows (h : m.HoldsChain entry a outer) (hentry : m.codeAddr entry = .present entry)
    {f : Frame} {site : Cell} {limit : Nat}
    (hsite : f.returnAddress = .present site) (hprev : f.previous m = Frame.ofAddress m a.base)
    (hcaller : f.caller = (Frame.ofAddress m a.base).callee)
    (hlimit : (a :: outer).length ≤ limit) :
    List.Forall₂ (Frame.Shows m) (Activation.stoppedAt site (a :: outer))
      (Backtrace.withOutermostCaller m entry (Walk.fromFrame m limit f)) := by
  -- induction outward along the chain: the walk has reached the frame on top of `a`
  induction h generalizing f site limit with
  | outermost a frame stop function =>
    cases limit with
    | zero => simp at hlimit
    | succ limit =>
      have hstop : (f.previous m).returnAddress = .absent := by
        rw [hprev]
        exact frame.returnAddress_of_outermost stop
      have hpinned : (f.withCaller m entry).caller = .present a.function := by
        change m.codeAddr entry = _
        rw [hentry, function]
      rw [Walk.fromFrame_of_present hsite, Walk.fromFrame_of_absent hstop]
      exact .cons (Frame.shows_of_above frame hprev hsite hpinned) .nil
  | called a caller outer frame link call rest ih =>
    cases limit with
    | zero => simp at hlimit
    | succ limit =>
      have hnext : (Frame.ofAddress m a.base).previous m = Frame.ofAddress m caller.base := by
        rw [Frame.previous_of_present frame.address_ofAddress, frame.link_ofAddress link]
      have hrest := ih (frame.returnAddress_of_call call) hnext
        (by rw [Frame.caller_ofAddress, hnext]) (by simpa using hlimit)
      have hshows := Frame.shows_of_above frame hprev hsite
        (hcaller.trans (frame.callee_of_call call))
      rw [Walk.fromFrame_of_present hsite, hprev]
      cases hwalk : Walk.fromFrame m limit (Frame.ofAddress m a.base) with
      | nil =>
        rw [hwalk] at hrest
        cases hrest
      | cons g gs =>
        rw [hwalk] at hrest
        exact .cons hshows hrest

end Machine.HoldsChain

/-- A call in flight with the activations it stands for, the innermost first. A native call has
none. -/
structure PendingCall where
  record : CallRecord
  chain : List Activation

/-- One level of the call history: a native call, or an activation with the address where it
stopped. -/
inductive CallLevel where
  | native (index : Cell)
  | script (stopped : Cell × Activation)

/-- The activations of a public in memory: they start at the cursor's frame, and the outermost
one runs the public. -/
def Machine.HoldsPublic (m : Machine) (index frm : Cell) (chain : List Activation) : Prop :=
  ∃ entry innermost outer,
    m.publicAddress? index = some entry ∧ entry ≠ 0 ∧ m.isCodeAddress entry = true ∧
      chain = innermost :: outer ∧ innermost.base = frm ∧ m.HoldsChain entry innermost outer

/-- The calls of a log in memory, from a cursor: every one belongs to the machine and is reached
at a non-zero code address, and each public call has its activations from there on. -/
def Machine.HoldsCalls (m : Machine) : Cell → Cell → List PendingCall → Prop
  | _, _, [] => True
  | frm, cip, call :: older =>
    call.record.instanceId = m.id ∧ cip ≠ 0 ∧ m.isCodeAddress cip = true ∧
      (call.record.kind = .publicCall → m.HoldsPublic call.record.index frm call.chain) ∧
      m.HoldsCalls call.record.frm call.record.cip older

/-- Levels of one call that is reached at a code address. -/
def PendingCall.levels (cip : Cell) (call : PendingCall) : List CallLevel :=
  match call.record.kind with
  | .nativeCall => [.native call.record.index]
  | .publicCall => (Activation.stoppedAt cip call.chain).map .script

/-- The call history: the levels of every call, each reached where the call after it was made. -/
def PendingCall.history : Cell → List PendingCall → List CallLevel
  | _, [] => []
  | cip, call :: older => call.levels cip ++ history call.record.cip older

/-- A native stands in the machine's table at an index. -/
def Machine.HasNative (m : Machine) (index : Cell) (native : Native) : Prop :=
  ∃ i : Nat, index.toInt = i ∧ m.natives[i]? = some native

theorem Machine.native?_eq_some_iff {m : Machine} {index : Cell} {native : Native} :
    m.native? index = some native ↔ m.HasNative index native := by
  rw [Machine.native?, Option.bind_eq_some_iff]
  exact exists_congr fun i => and_congr_left fun _ => Cell.offset?_eq_some_iff

/-- What a frame shows of a native call: the index it was called by, the name and the host address
that the table has there, if the address is bound, and the module at that address. -/
structure NativeFrame.Shows (m : Machine) (modules : ModuleResolver) (called : Cell)
    (frame : NativeFrame) : Prop where
  index : frame.index = called
  name : ∀ text, frame.name = some text ↔ ∃ native, m.HasNative called native ∧ native.name = text
  address : ∀ host, frame.address = some host ↔
    host ≠ 0 ∧ ∃ native, m.HasNative called native ∧ native.address = host
  module : ∀ text, frame.module = some text ↔
    ∃ host, frame.address = some host ∧ modules host = some text

theorem Backtrace.nativeFrame_shows (m : Machine) (modules : ModuleResolver) (index : Cell) :
    (nativeFrame m modules index).Shows m modules index where
  index := rfl
  name text := by
    rw [nativeFrame, Option.map_eq_some_iff]
    simp only [Machine.native?_eq_some_iff]
  address host := by
    rw [nativeFrame, Option.filter_eq_some_iff, Option.map_eq_some_iff, and_comm]
    simp only [Machine.native?_eq_some_iff, decide_eq_true_eq]
  module _ := Option.bind_eq_some_iff

def BacktraceEntry.Shows (m : Machine) (modules : ModuleResolver) :
    CallLevel → BacktraceEntry → Prop
  | .native index, .native frame => frame.Shows m modules index
  | .script stopped, .script frame => frame.Shows m stopped
  | _, _ => False

namespace Backtrace

private theorem publicFrames_shows {m : Machine} {maxDepth : Nat} {index frm cip : Cell}
    {chain : List Activation} (h : m.HoldsPublic index frm chain) (hz : cip ≠ 0)
    (hc : m.isCodeAddress cip = true) (hd : chain.length ≤ maxDepth) :
    List.Forall₂ (Frame.Shows m) (Activation.stoppedAt cip chain)
      (publicFrames m maxDepth index frm cip) := by
  obtain ⟨entry, innermost, outer, hindex, hentry, hcode, rfl, rfl, hchain⟩ := h
  have hwalk := hchain.walk_shows (Addr.checked_of_valid hentry hcode)
    (f := Walk.head m innermost.base cip) (Addr.checked_of_valid hz hc)
    (Walk.previous_head m _ _) (Walk.caller_head m _ _) hd
  rw [publicFrames_of_walk_ne_nil, hindex]
  · exact hwalk
  · intro hnil
    rw [Walk.fromRegisters] at hnil
    rw [hnil] at hwalk
    cases hwalk

private theorem recordEntries_shows {m : Machine} {modules : ModuleResolver} {maxDepth : Nat}
    {call : PendingCall} {frm cip : Cell} (hz : cip ≠ 0) (hc : m.isCodeAddress cip = true)
    (hp : call.record.kind = .publicCall → m.HoldsPublic call.record.index frm call.chain)
    (hd : call.record.kind = .publicCall → call.chain.length ≤ maxDepth) :
    List.Forall₂ (BacktraceEntry.Shows m modules) (call.levels cip)
      (recordEntries m modules maxDepth call.record frm cip) := by
  unfold PendingCall.levels recordEntries
  cases hk : call.record.kind with
  | nativeCall => exact .cons (nativeFrame_shows m modules _) .nil
  | publicCall =>
    rw [List.forall₂_map_left_iff, List.forall₂_map_right_iff]
    exact publicFrames_shows (hp hk) hz hc (hd hk)

private theorem captureFrom_shows {m : Machine} {modules : ModuleResolver} {maxDepth : Nat}
    {calls : List PendingCall} {frm cip : Cell} (h : m.HoldsCalls frm cip calls)
    (hd : ∀ call ∈ calls, call.record.kind = .publicCall → call.chain.length ≤ maxDepth) :
    List.Forall₂ (BacktraceEntry.Shows m modules) (PendingCall.history cip calls)
      (captureFrom m modules maxDepth (calls.map (·.record)) frm cip) := by
  induction calls generalizing frm cip with
  | nil => exact .nil
  | cons call older ih =>
    obtain ⟨hid, hz, hc, hp, hrest⟩ := h
    rw [List.map_cons, captureFrom, if_neg (by simp [hid, hz])]
    apply List.rel_append
    · exact recordEntries_shows hz hc hp (hd call (by simp))
    · exact ih hrest (fun c hmem => hd c (List.mem_cons_of_mem _ hmem))

/-- A backtrace reconstructs the call history. If memory holds, from the live registers on, the
calls of a log with their activations, and no public call has more activations than the depth
limit, the entries are exactly the levels of the history in order: one for every native call,
and one for every activation, with the address where it stopped, its function, its frame and
its arguments. -/
theorem capture_shows_history (m : Machine) (calls : List PendingCall) (modules : ModuleResolver)
    (maxDepth : Nat) (h : m.HoldsCalls m.registers.frm m.registers.cip calls)
    (hd : ∀ call ∈ calls, call.record.kind = .publicCall → call.chain.length ≤ maxDepth) :
    List.Forall₂ (BacktraceEntry.Shows m modules) (PendingCall.history m.registers.cip calls)
      (capture m (calls.map (·.record)) modules maxDepth) :=
  captureFrom_shows h hd

/-- A machine stopped in the native `Ask` that a function called by the public `OnReply` calls. The
host entered `OnReply` from the native `Start` that `main` calls. Calls are relocated. -/
def reentrant : Machine :=
  { id := 7
    code := Segment.ofCells
      ((List.replicate 17 0 ++ [4196]) ++ List.replicate 14 0)
    data := Segment.ofCells
      (List.replicate 15 0 ++ [80, 72, 4, 7, 0, 112, 0, 4, 3, 0, 0, 0, 0, 0, 0, 0, 0])
    registers := { frm := 60, cip := 108, hlw := 16, stp := 128 }
    publics := [⟨"OnReply", 56⟩]
    natives := [⟨"Start", 0⟩, ⟨"Ask", 8192⟩]
    entryPoint := some 4
    codeBase := 4096 }

def reentrantCalls : List PendingCall :=
  [⟨⟨7, .nativeCall, 1, 60, 108⟩, []⟩,
    ⟨⟨7, .publicCall, 0, 112, 20⟩, [⟨60, 100, 72, [7]⟩, ⟨80, 56, 0, [3]⟩]⟩,
    ⟨⟨7, .nativeCall, 0, 112, 20⟩, []⟩,
    ⟨⟨7, .publicCall, -1, 0, 0⟩, [⟨112, 4, 0, []⟩]⟩]

private theorem reentrant_holdsFrame {a : Activation}
    (ha : a ∈ reentrantCalls.flatMap (·.chain)) : reentrant.HoldsFrame a := by
  have hall : ∀ a ∈ reentrantCalls.flatMap (·.chain),
      (a.base ≠ 0 ∧ reentrant.isStackAddress a.base = true) ∧
        reentrant.cellPast? a.base 4 = some a.site ∧
        reentrant.cellPast? a.base 8 = some (4 * Int32.ofNat a.arguments.length) ∧
        (4 * Int32.ofNat a.arguments.length).toInt = 4 * a.arguments.length ∧
        ∀ index (h : index < a.arguments.length),
          reentrant.cellPast? a.base (12 + 4 * index) = some a.arguments[index] := by decide +kernel
  obtain ⟨⟨hz, hs⟩, hsite, hsize, hlength, harguments⟩ := hall a ha
  exact ⟨hz, hs, hsite, ⟨_, hsize, hlength⟩, harguments⟩

private theorem reentrant_holdsCalls : reentrant.HoldsCalls 60 108 reentrantCalls := by
  have hmain : reentrant.HoldsChain 4 ⟨112, 4, 0, []⟩ [] :=
    .outermost _ (reentrant_holdsFrame (by decide)) (.inl rfl) rfl
  have hreply : reentrant.HoldsChain 56 ⟨60, 100, 72, [7]⟩ [⟨80, 56, 0, [3]⟩] := by
    apply Machine.HoldsChain.called
    · exact reentrant_holdsFrame (by decide)
    · decide +kernel
    · exact ⟨by decide, by decide +kernel, by decide +kernel, by decide, by decide +kernel⟩
    · exact .outermost _ (reentrant_holdsFrame (by decide)) (.inl rfl) rfl
  have hcursors : reentrant.isCodeAddress 108 = true ∧ reentrant.isCodeAddress 20 = true ∧
      reentrant.isCodeAddress 56 = true ∧ reentrant.isCodeAddress 4 = true := by decide +kernel
  obtain ⟨h108, h20, h56, h4⟩ := hcursors
  refine ⟨rfl, by decide, h108, by simp, rfl, by decide, h108, ?_, rfl, by decide, h20, by simp,
    rfl, by decide, h20, ?_, trivial⟩
  · exact fun _ => ⟨56, _, _, rfl, by decide, h56, rfl, rfl, hreply⟩
  · exact fun _ => ⟨4, _, _, rfl, by decide, h4, rfl, rfl, hmain⟩

/-- The five levels of the re-entrant machine are shown at a depth limit of two. -/
theorem capture_shows_reentrant :
    reentrant.HoldsCalls 60 108 reentrantCalls ∧
      List.Forall₂ (BacktraceEntry.Shows reentrant noModules)
        [.native 1, .script (108, ⟨60, 100, 72, [7]⟩), .script (72, ⟨80, 56, 0, [3]⟩), .native 0,
          .script (20, ⟨112, 4, 0, []⟩)]
        (capture reentrant (reentrantCalls.map (·.record)) noModules 2) ∧
      (capture reentrant (reentrantCalls.map (·.record)) noModules 2).head? =
        some (.native { index := 1, name := some "Ask", address := some 8192 }) :=
  ⟨reentrant_holdsCalls,
    capture_shows_history reentrant reentrantCalls noModules 2 reentrant_holdsCalls (by decide),
    by decide +kernel⟩

end Backtrace

end AmxTrace
