import AmxTrace.Proofs.Registry.Isolation
import Mathlib.Data.List.Induction

/-! # Bounds of function entries -/

namespace AmxTrace

/-- One step of a run. -/
inductive HostStep where
  | begins (kind : CallKind) (m : Machine) (index : Cell)
  | ends
  | entered (m : Machine)
  | attach (id : Nat) (script : Script)
  | detach (id : Nat)

namespace HostEvent

mutual

/-- The steps of an event; those of what happens inside a call stand between its two ends. -/
def steps : HostEvent → List HostStep
  | .call kind m index body => .begins kind m index :: (stepsAll body ++ [.ends])
  | .entered m => [.entered m]
  | .attach id script => [.attach id script]
  | .detach id => [.detach id]

def stepsAll : List HostEvent → List HostStep
  | [] => []
  | event :: events => steps event ++ stepsAll events

end

end HostEvent

namespace HostStep

/-- The bound that a step sets for an instance: all frames lie below it once a script is attached, none
once a public call has begun, and those below its own frame once a function is entered. -/
def bound? (id : Nat) : HostStep → Option Cell
  | .begins .publicCall m _ => if m.id = id then some 0 else none
  | .begins .nativeCall _ _ => none
  | .ends => none
  | .entered m => if m.id = id then some m.registers.frm else none
  | .attach other _ => if other = id then some Cell.greatest else none
  | .detach _ => none

/-- The bound that the last of the steps to set one has set. -/
def lastBound? (id : Nat) (steps : List HostStep) : Option Cell :=
  (steps.filterMap (bound? id)).getLast?

/-- A step has nothing to do with the bound of an instance: it begins a native call, ends a call, or
belongs to another instance. -/
inductive Spares (id : Nat) : HostStep → Prop where
  | native (m : Machine) (index : Cell) : Spares id (.begins .nativeCall m index)
  | ends : Spares id .ends
  | others {m : Machine} (index : Cell) (hm : m.id ≠ id) : Spares id (.begins .publicCall m index)
  | entered {m : Machine} (hm : m.id ≠ id) : Spares id (.entered m)
  | attach {other : Nat} (script : Script) (hother : other ≠ id) : Spares id (.attach other script)
  | detach {other : Nat} (hother : other ≠ id) : Spares id (.detach other)

theorem bound?_of_spares {id : Nat} {step : HostStep} (h : step.Spares id) :
    step.bound? id = none := by
  cases h with
  | native m index => rfl
  | ends => rfl
  | others index hm => exact if_neg hm
  | entered hm => exact if_neg hm
  | attach script hother => exact if_neg hother
  | detach hother => rfl

theorem lastBound?_concat (id : Nat) (steps : List HostStep) (step : HostStep) :
    lastBound? id (steps ++ [step]) = (step.bound? id).or (lastBound? id steps) := by
  rw [lastBound?, lastBound?, List.filterMap_append]
  cases hbound : step.bound? id <;> simp [hbound]

end HostStep

namespace Registry

def step (r : Registry) : HostStep → Registry × List LogEntry
  | .begins kind m index => r.enter kind m index
  | .ends => (r.leave?.getD r, [])
  | .entered m => r.functionEntered m
  | .attach id script => (r.attach id script, [])
  | .detach id => (r.detach id, [])

def play (r : Registry) : List HostStep → Registry × List LogEntry
  | [] => (r, [])
  | step :: steps =>
    (((r.step step).1.play steps).1, (r.step step).2 ++ ((r.step step).1.play steps).2)

theorem play_append (r : Registry) (front back : List HostStep) :
    r.play (front ++ back) =
      (((r.play front).1.play back).1, (r.play front).2 ++ ((r.play front).1.play back).2) := by
  induction front generalizing r with
  | nil => rfl
  | cons step front ih => rw [List.cons_append, play, ih, play, List.append_assoc]

theorem play_concat (r : Registry) (steps : List HostStep) (step : HostStep) :
    (r.play (steps ++ [step])).1 = ((r.play steps).1.step step).1 := by
  rw [play_append]
  rfl

theorem runAll?_eq_play_of_forall {events : List HostEvent}
    (hevents : ∀ event ∈ events, ∀ r : Registry, r.run? event = some (r.play event.steps))
    (r : Registry) : r.runAll? events = some (r.play (HostEvent.stepsAll events)) := by
  induction events generalizing r with
  | nil => rw [runAll?, HostEvent.stepsAll, play]
  | cons event others ih =>
    obtain ⟨hfirst, hothers⟩ := List.forall_mem_cons.mp hevents
    rw [HostEvent.stepsAll, play_append]
    exact runAll?_cons_eq_some_iff.mpr ⟨_, _, _, hfirst r, ih hothers _, rfl⟩

theorem run?_eq_play (event : HostEvent) (r : Registry) :
    r.run? event = some (r.play event.steps) := by
  induction event generalizing r with
  | call kind m index body ih =>
    obtain ⟨inner, inside, hbody, hcalls⟩ := returns_runAll? body (r.enter kind m index).1
    have hplay := runAll?_eq_play_of_forall ih (r.enter kind m index).1
    have hinner : (r.enter kind m index).1.play (HostEvent.stepsAll body) = (inner, inside) :=
      Option.some.inj (hplay.symm.trans hbody)
    rw [calls_enter] at hcalls
    have hleave : inner.leave? = some { inner with calls := r.calls } :=
      leave?_eq_some_iff.mpr ⟨_, _, hcalls, rfl⟩
    refine run?_call_eq_some_iff.mpr ⟨inner, inside, hbody, ?_, ?_⟩
    · simp [play, play_append, step, hinner, hleave]
    · simp [play, play_append, step, hinner]
  | entered m => rw [run?, HostEvent.steps, play, play, List.append_nil]; rfl
  | attach id script => rw [run?, HostEvent.steps, play, play]; rfl
  | detach id => rw [run?, HostEvent.steps, play, play]; rfl

theorem runAll?_eq_play (events : List HostEvent) (r : Registry) :
    r.runAll? events = some (r.play (HostEvent.stepsAll events)) :=
  runAll?_eq_play_of_forall (fun event _ => run?_eq_play event) r

variable {r : Registry}

theorem share_ends (r : Registry) (id : Nat) : (r.step .ends).1.share id = r.share id := by
  rw [step]
  cases hleave : r.leave? with
  | none => rfl
  | some after =>
    obtain ⟨record, older, -, rfl⟩ := leave?_eq_some_iff.mp hleave
    rfl

theorem attachment?_of_spares {id : Nat} {step : HostStep} (h : step.Spares id) (r : Registry) :
    (r.step step).1.attachment? id = r.attachment? id := by
  cases h with
  | native m index => rfl
  | ends => exact congrArg Share.attachment (share_ends r id)
  | @others m index hm =>
    have hshare := share_enter r .publicCall m index id
    rw [if_neg fun hcall => hm hcall.1.symm] at hshare
    exact congrArg Share.attachment hshare
  | @entered m hm =>
    have hshare := share_setBound r m.id id m.registers.frm
    rw [if_neg (Ne.symm hm)] at hshare
    exact congrArg Share.attachment hshare
  | @attach other script hother =>
    exact (attachment?_attach r other id script).trans (if_neg (Ne.symm hother))
  | @detach other hother => exact (attachment?_detach r other id).trans (if_neg (Ne.symm hother))

theorem trace_step (r : Registry) (step : HostStep) : (r.step step).1.trace = r.trace := by
  cases step with
  | begins kind m index =>
    have hshare := congrArg Share.trace (share_enter r kind m index m.id)
    rw [apply_ite Share.trace] at hshare
    exact hshare.trans (ite_self _)
  | ends => exact congrArg Share.trace (share_ends r 0)
  | entered m => rfl
  | attach id script => rfl
  | detach id => rfl

theorem trace_play (r : Registry) (steps : List HostStep) : (r.play steps).1.trace = r.trace := by
  induction steps generalizing r with
  | nil => rfl
  | cons step steps ih => exact (ih (r.step step).1).trans (trace_step r step)

theorem bound_step (hfunctions : r.trace.functions = true) (step : HostStep) {id : Nat}
    {attached : Attachment} (h : (r.step step).1.attachment? id = some attached) :
    (step.bound? id).or ((r.attachment? id).map (·.bound)) = some attached.bound := by
  by_cases hspares : step.Spares id
  · rw [attachment?_of_spares hspares] at h
    rw [HostStep.bound?_of_spares hspares, h]
    rfl
  cases step with
  | begins kind m index =>
    cases kind with
    | nativeCall => exact absurd (.native m index) hspares
    | publicCall =>
      obtain rfl : m.id = id := by_contra fun hm => hspares (.others index hm)
      have hshare := share_enter r .publicCall m index m.id
      rw [if_pos ⟨rfl, rfl, hfunctions⟩] at hshare
      have hfallen := (congrArg Share.attachment hshare).symm.trans h
      obtain ⟨old, -, rfl⟩ := Option.map_eq_some_iff.mp hfallen
      rw [HostStep.bound?, if_pos rfl, Option.some_or]
  | ends => exact absurd .ends hspares
  | entered m =>
    obtain rfl : m.id = id := by_contra fun hm => hspares (.entered hm)
    have hmoved := (attachment?_setBound r m.id m.id m.registers.frm).symm.trans h
    obtain ⟨old, -, rfl⟩ := Option.map_eq_some_iff.mp hmoved
    rw [HostStep.bound?, if_pos rfl, if_pos rfl, Option.some_or]
  | attach other script =>
    obtain rfl : other = id := by_contra fun hother => hspares (.attach script hother)
    have hnew := (attachment?_attach r other other script).symm.trans h
    rw [if_pos rfl] at hnew
    obtain rfl := Option.some.inj hnew
    rw [HostStep.bound?, if_pos rfl, Option.some_or]
  | detach other =>
    obtain rfl : other = id := by_contra fun hother => hspares (.detach hother)
    have hgone := (attachment?_detach r other other).symm.trans h
    rw [if_pos rfl] at hgone
    cases hgone

/-- The bound of an instance in the course of a run: what the last of the steps to set it has set, or
the bound from before the run. -/
def boundAfter? (r : Registry) (steps : List HostStep) (id : Nat) : Option Cell :=
  (HostStep.lastBound? id steps).or ((r.attachment? id).map (·.bound))

theorem bound_play (hfunctions : r.trace.functions = true) (steps : List HostStep) {id : Nat}
    {attached : Attachment} (h : (r.play steps).1.attachment? id = some attached) :
    r.boundAfter? steps id = some attached.bound := by
  induction steps using List.reverseRecOn generalizing attached with
  | nil => simpa [boundAfter?, HostStep.lastBound?, play] using congrArg (Option.map (·.bound)) h
  | append_singleton steps step ih =>
    rw [play_concat] at h
    have hstep := bound_step (by rwa [trace_play]) step h
    rw [boundAfter?, HostStep.lastBound?_concat, Option.or_assoc]
    rcases Option.or_eq_some_iff.mp hstep with hset | ⟨hset, hkept⟩
    · rw [hset, Option.some_or]
    · -- the step sets no bound, so that the one before it is still there
      obtain ⟨old, hold, hbound⟩ := Option.map_eq_some_iff.mp hkept
      rw [hset, Option.none_or, ← hbound]
      exact ih hold

/-- The line that shows the function which a view stands in. -/
def enteredLine (r : Registry) (m : Machine) : String :=
  ((r.renderer m.id).resolve m (Walk.head m m.registers.frm m.registers.cip)).signature

/-- A view of an attached script with a debug store stands in code below a bound, and its line passes
the filter. -/
structure IsNewEntry (r : Registry) (m : Machine) (bound : Option Cell) : Prop where
  script : ∃ script, r.script? m.id = some script ∧ script.debug.loaded = true
  cip_ne_zero : m.registers.cip ≠ 0
  cip_inCode : m.isCodeAddress m.registers.cip = true
  below : ∃ limit, bound = some limit ∧ m.registers.frm < limit
  passes : r.passes (r.enteredLine m) = true

theorem head?_fromRegisters (m : Machine) (frm cip : Cell) :
    (Walk.fromRegisters m frm cip 1).head? =
      if cip ≠ 0 ∧ m.isCodeAddress cip = true then some (Walk.head m frm cip) else none := by
  have hreturn : (Walk.head m frm cip).returnAddress = Addr.checked m.isCodeAddress cip := rfl
  rw [Walk.fromRegisters, Walk.fromFrame, hreturn, Addr.checked]
  split <;> rfl

theorem entryLine?_eq_some_iff {m : Machine} {line : String} :
    r.entryLine? m = some line ↔
      ∃ attached, r.attachment? m.id = some attached ∧
        (attached.script.debug.loaded = true ∧ m.registers.frm < attached.bound) ∧
        (m.registers.cip ≠ 0 ∧ m.isCodeAddress m.registers.cip = true) ∧ r.enteredLine m = line := by
  simp only [entryLine?, Option.bind_eq_bind, Option.bind_eq_some_iff, head?_fromRegisters]
  refine exists_congr fun attached => and_congr_right fun _ => ?_
  by_cases hbelow : attached.script.debug.loaded = true ∧ m.registers.frm < attached.bound
  · rw [if_pos hbelow, Option.bind_eq_some_iff]
    by_cases hcode : m.registers.cip ≠ 0 ∧ m.isCodeAddress m.registers.cip = true
    · rw [if_pos hcode]
      simp [hbelow, hcode, enteredLine]
    · rw [if_neg hcode]
      exact iff_of_false (by simp) fun h => hcode h.2.1
  · rw [if_neg hbelow]
    exact iff_of_false (by simp) fun h => hbelow h.1

theorem log_functionEntered (hfunctions : r.trace.functions = true) {m : Machine} {bound : Option Cell}
    (hbound : ∀ attached, r.attachment? m.id = some attached → bound = some attached.bound) :
    (r.IsNewEntry m bound → (r.functionEntered m).2 = [.traced .functionEntry (r.enteredLine m)]) ∧
    (¬ r.IsNewEntry m bound → (r.functionEntered m).2 = []) := by
  have hlog : (r.functionEntered m).2 =
      ((r.entryLine? m).filter r.passes).toList.map (LogEntry.traced .functionEntry) := by
    rw [functionEntered, functionLine?, if_pos hfunctions]
    cases r.entryLine? m with
    | none => rfl
    | some line =>
      rw [Option.filter_some]
      cases hpasses : r.passes line <;> simp [traced, TraceFlags.has, hfunctions, hpasses]
  rw [hlog]
  constructor
  · rintro ⟨⟨script, hscript, hloaded⟩, hcip, hcode, ⟨limit, rfl, hbelow⟩, hpasses⟩
    obtain ⟨attached, hattached, rfl⟩ := Option.map_eq_some_iff.mp hscript
    obtain rfl := Option.some.inj (hbound attached hattached)
    have hline : r.entryLine? m = some (r.enteredLine m) :=
      entryLine?_eq_some_iff.mpr ⟨attached, hattached, ⟨hloaded, hbelow⟩, ⟨hcip, hcode⟩, rfl⟩
    rw [hline, Option.filter_some, if_pos hpasses]
    rfl
  · intro hnot
    cases hline : r.entryLine? m with
    | none => rfl
    | some line =>
      obtain ⟨attached, hattached, ⟨hloaded, hbelow⟩, ⟨hcip, hcode⟩, rfl⟩ :=
        entryLine?_eq_some_iff.mp hline
      have hscript : r.script? m.id = some attached.script := by rw [script?, hattached]; rfl
      have hfiltered : ¬ r.passes (r.enteredLine m) = true := fun hpasses =>
        hnot ⟨⟨_, hscript, hloaded⟩, hcip, hcode, ⟨_, hbound attached hattached, hbelow⟩, hpasses⟩
      rw [Option.filter_some, if_neg hfiltered]
      rfl

/-- The line of a function entry is logged if the frame lies below the bound that the last step to set
it has set. Such steps are those of the instance itself: the others spare its bound. -/
theorem entry_logged_iff_below_bound (r : Registry) (hfunctions : r.trace.functions = true)
    (events : List HostEvent) :
    r.runAll? events = some (r.play (HostEvent.stepsAll events)) ∧
    ∀ before step later, HostEvent.stepsAll events = before ++ step :: later →
      let now := (r.play before).1
      (∃ rest, (r.play (HostEvent.stepsAll events)).2 =
        (r.play before).2 ++ (now.step step).2 ++ rest) ∧
      (∀ id, step.Spares id → (now.step step).1.attachment? id = now.attachment? id) ∧
      ∀ m, step = .entered m →
        (now.IsNewEntry m (r.boundAfter? before m.id) →
          (now.step step).2 = [.traced .functionEntry (now.enteredLine m)]) ∧
        (¬ now.IsNewEntry m (r.boundAfter? before m.id) → (now.step step).2 = []) := by
  refine ⟨runAll?_eq_play events r, fun before step later hsteps => ⟨?_, ?_, ?_⟩⟩
  · refine ⟨((((r.play before).1.step step).1).play later).2, ?_⟩
    rw [hsteps, play_append, play, List.append_assoc]
  · exact fun id hspares => attachment?_of_spares hspares _
  · rintro m rfl
    exact log_functionEntered (by rwa [trace_play]) fun attached => bound_play hfunctions before

/-- A view of an instance that stands in code. -/
def running (id : Nat) (frm : Cell) : Machine :=
  { id, code := Segment.zeros 8, data := .empty, registers := { frm, cip := 4 } }

/-- A script with a debug store enters a function inside a public call and another one after it. -/
def publicCallEvents : List HostEvent :=
  [.attach 1 { name := "gm", debug := { loaded := true } },
    .call .publicCall (running 1 40) 0 [.entered (running 1 32)],
    .entered (running 2 8),
    .entered (running 1 24)]

/-- Frame 32 does not lie below the bound that the call has set, but becomes the bound itself, and frame
24 lies below that. -/
theorem entry_logged_after_publicCall :
    let r : Registry := { trace := { functions := true } }
    ∃ front back : List HostStep,
      HostEvent.stepsAll publicCallEvents =
        front ++ .entered (running 1 32) :: (back ++ [.entered (running 1 24)]) ∧
      ((r.play front).1.step (.entered (running 1 32))).2 = [] ∧
      ((r.play (front ++ .entered (running 1 32) :: back)).1.step (.entered (running 1 24))).2 =
        [.traced .functionEntry ((r.play (front ++ .entered (running 1 32) :: back)).1.enteredLine
          (running 1 24))] := by
  intro r
  obtain ⟨-, hsteps⟩ := entry_logged_iff_below_bound r rfl publicCallEvents
  let front : List HostStep :=
    [.attach 1 { name := "gm", debug := { loaded := true } },
      .begins .publicCall (running 1 40) 0]
  let back : List HostStep := [.ends, .entered (running 2 8)]
  have hevents : HostEvent.stepsAll publicCallEvents =
      front ++ .entered (running 1 32) :: (back ++ [.entered (running 1 24)]) := rfl
  refine ⟨front, back, hevents, ?_, ?_⟩
  · obtain ⟨-, -, hlog⟩ := hsteps front _ _ hevents
    refine (hlog _ rfl).2 ?_
    rintro ⟨-, -, -, ⟨limit, hlimit, hbelow⟩, -⟩
    obtain rfl : (0 : Cell) = limit := Option.some.inj hlimit
    exact absurd hbelow (by decide)
  · have hevents' : HostEvent.stepsAll publicCallEvents =
        (front ++ .entered (running 1 32) :: back) ++ .entered (running 1 24) :: [] := rfl
    obtain ⟨-, -, hlog⟩ := hsteps _ _ _ hevents'
    exact (hlog _ rfl).1 ⟨⟨_, rfl, rfl⟩, by decide, by decide, ⟨32, rfl, by decide⟩, rfl⟩

end Registry

end AmxTrace
