import AmxTrace.Proofs.Registry.Nesting

/-! # Discipline of the call log -/

namespace AmxTrace

/-- A call that has begun and is not over: what it enters, the view that makes it, and the index. -/
structure OpenCall where
  kind : CallKind
  view : Machine
  index : Cell

/-- The record of a call, with the registers of the view that makes it. -/
def OpenCall.record (call : OpenCall) : CallRecord where
  instanceId := call.view.id
  kind := call.kind
  index := call.index
  frm := call.view.registers.frm
  cip := call.view.registers.cip

namespace Registry

/-- The registry at a moment while events happen, inside of calls that are open, outermost first. -/
inductive Moment : Registry → List HostEvent → List OpenCall → Registry → Prop where
  /-- The first of the events has not begun. -/
  | now {r : Registry} {events : List HostEvent} : Moment r events [] r
  /-- The first of the events is a call that has begun. -/
  | inside {r point : Registry} {kind : CallKind} {m : Machine} {index : Cell}
      {body events : List HostEvent} {opened : List OpenCall}
      (h : Moment (r.enter kind m index).1 body opened point) :
      Moment r (.call kind m index body :: events) (⟨kind, m, index⟩ :: opened) point
  | later {r next point : Registry} {event : HostEvent} {log : List LogEntry}
      {events : List HostEvent} {opened : List OpenCall} (hrun : r.run? event = some (next, log))
      (h : Moment next events opened point) : Moment r (event :: events) opened point

/-- A run comes to its end, with the calls in flight as they were. -/
def Returns (r : Registry) (outcome : Option (Registry × List LogEntry)) : Prop :=
  ∃ after log, outcome = some (after, log) ∧ after.calls = r.calls

theorem returns_runAll?_of_forall {events : List HostEvent}
    (hevents : ∀ event ∈ events, ∀ r : Registry, r.Returns (r.run? event)) (r : Registry) :
    r.Returns (r.runAll? events) := by
  induction events generalizing r with
  | nil => exact ⟨r, [], by rw [runAll?], rfl⟩
  | cons event others ih =>
    obtain ⟨hfirst, hothers⟩ := List.forall_mem_cons.mp hevents
    obtain ⟨next, first, hnext, hcalls⟩ := hfirst r
    obtain ⟨after, rest, hafter, hsame⟩ := ih hothers next
    exact ⟨after, first ++ rest,
      runAll?_cons_eq_some_iff.mpr ⟨next, first, rest, hnext, hafter, rfl⟩, hsame.trans hcalls⟩

/-- What ends a call is the record that its beginning has put on top. -/
theorem returns_run? (event : HostEvent) (r : Registry) : r.Returns (r.run? event) := by
  induction event generalizing r with
  | call kind m index body ih =>
    obtain ⟨inner, inside, hbody, hcalls⟩ := returns_runAll?_of_forall ih (r.enter kind m index).1
    rw [calls_enter] at hcalls
    refine ⟨{ inner with calls := r.calls }, (r.enter kind m index).2 ++ inside, ?_, rfl⟩
    exact run?_call_eq_some_iff.mpr
      ⟨inner, inside, hbody, leave?_eq_some_iff.mpr ⟨_, _, hcalls, rfl⟩, rfl⟩
  | entered m => exact ⟨(r.functionEntered m).1, (r.functionEntered m).2, by rw [run?], rfl⟩
  | attach id script => exact ⟨r.attach id script, [], by rw [run?], rfl⟩
  | detach id => exact ⟨r.detach id, [], by rw [run?], rfl⟩

theorem returns_runAll? (events : List HostEvent) (r : Registry) : r.Returns (r.runAll? events) :=
  returns_runAll?_of_forall (fun event _ => returns_run? event) r

theorem calls_of_run? {r after : Registry} {event : HostEvent} {log : List LogEntry}
    (h : r.run? event = some (after, log)) : after.calls = r.calls := by
  obtain ⟨after', log', h', hcalls⟩ := returns_run? event r
  rw [h] at h'
  cases h'
  exact hcalls

theorem Moment.calls_eq {r point : Registry} {events : List HostEvent} {opened : List OpenCall}
    (h : Moment r events opened point) :
    point.calls = (opened.map OpenCall.record).reverse ++ r.calls := by
  induction h with
  | now => rfl
  | inside _ ih =>
    rw [ih, calls_enter, List.map_cons, List.reverse_cons, List.append_assoc]
    rfl
  | later hrun _ ih => rw [ih, calls_of_run? hrun]

/-- While events happen, the log is the log at the start with the records of the open calls; the
innermost one is on top, and every event that happens comes to its end and leaves the log as it was. -/
theorem callLog_disciplined (r : Registry) (events : List HostEvent) :
    (∃ after log, r.runAll? events = some (after, log) ∧ after.calls = r.calls) ∧
      ∀ opened point, Moment r events opened point →
        point.calls.oldestFirst = r.calls.oldestFirst ++ opened.map OpenCall.record ∧
          (∀ innermost, opened.getLast? = some innermost →
            point.calls.top? = some innermost.record ∧ point.isInside = true) ∧
          ∀ event, ∃ after log, point.run? event = some (after, log) ∧ after.calls = point.calls := by
  refine ⟨returns_runAll? events r, fun opened point hmoment => ?_⟩
  have hcalls := hmoment.calls_eq
  refine ⟨?_, fun innermost hinnermost => ?_, fun event => returns_run? event point⟩
  · rw [CallLog.oldestFirst, hcalls, List.reverse_append, List.reverse_reverse]
    rfl
  · obtain ⟨outer, rfl⟩ := List.getLast?_eq_some_iff.mp hinnermost
    rw [List.map_append, List.reverse_append] at hcalls
    rw [CallLog.top?, isInside, hcalls]
    exact ⟨rfl, rfl⟩

/-- A view of an instance that stands in a function. -/
def standing (id : Nat) (frm : Cell) : Machine :=
  { id, code := .empty, data := .empty, registers := { frm, cip := 4 } }

/-- A public of one instance calls a native that runs a public of another, attached on the way. -/
def reentrantEvents : List HostEvent :=
  [.call .publicCall (standing 1 40) 0
    [.attach 2 { name := "lib" },
      .call .nativeCall (standing 1 32) 5
        [.call .publicCall (standing 2 16) 3 [.entered (standing 2 8)]],
      .detach 2]]

/-- The calls that are open when the other instance has entered a function. -/
def reentrantCalls : List OpenCall :=
  [⟨.publicCall, standing 1 40, 0⟩, ⟨.nativeCall, standing 1 32, 5⟩,
    ⟨.publicCall, standing 2 16, 3⟩]

theorem top?_inside_reentrant :
    ∃ point, Moment {} reentrantEvents reentrantCalls point ∧
      point.calls.top? = some ⟨2, .publicCall, 3, 16, 4⟩ ∧ point.isInside = true := by
  obtain ⟨-, hmoments⟩ := callLog_disciplined {} reentrantEvents
  have hattach (r : Registry) (id : Nat) (script : Script) :
      r.run? (.attach id script) = some (r.attach id script, []) := by rw [run?]
  have hentered (r : Registry) (m : Machine) :
      r.run? (.entered m) = some ((r.functionEntered m).1, (r.functionEntered m).2) := by rw [run?]
  have hmoment : ∃ point, Moment {} reentrantEvents reentrantCalls point :=
    ⟨_, .inside (.later (hattach _ _ _) (.inside (.inside (.later (hentered _ _) .now))))⟩
  obtain ⟨point, hpoint⟩ := hmoment
  obtain ⟨-, htop, -⟩ := hmoments reentrantCalls point hpoint
  exact ⟨point, hpoint, htop _ rfl⟩

end Registry

end AmxTrace
