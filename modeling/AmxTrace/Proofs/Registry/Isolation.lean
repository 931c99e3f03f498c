import AmxTrace.Proofs.Registry.Selection

/-! # Isolation of instances

Instances share one registry, and calls of one nest in calls of another. What the lines of an
instance depend on is its share of the registry: its own attachment, and the flags, the filter and
the limits. -/

namespace AmxTrace

namespace HostEvent

mutual

/-- What is left of an event when one instance acts alone; of a call made by another instance, what
happens inside of it. -/
def only (id : Nat) : HostEvent → List HostEvent
  | .call kind m index body =>
    if m.id = id then [.call kind m index (onlyAll id body)] else onlyAll id body
  | .entered m => if m.id = id then [.entered m] else []
  | .attach other script => if other = id then [.attach other script] else []
  | .detach other => if other = id then [.detach other] else []

/-- What is left of events when one instance acts alone. -/
def onlyAll (id : Nat) : List HostEvent → List HostEvent
  | [] => []
  | event :: events => only id event ++ onlyAll id events

end

end HostEvent

namespace Registry

mutual

/-- The registry after an event, and what it logs, each line with the instance whose view made it. -/
def runBy (r : Registry) : HostEvent → Registry × List (Nat × LogEntry)
  | .call kind m index body =>
    let inner := runAllBy (r.enter kind m index).1 body
    ({ inner.1 with calls := inner.1.calls.tail },
      (r.enter kind m index).2.map (m.id, ·) ++ inner.2)
  | .entered m => ((r.functionEntered m).1, (r.functionEntered m).2.map (m.id, ·))
  | .attach id script => (r.attach id script, [])
  | .detach id => (r.detach id, [])

/-- The registry after events in turn, and what they log, each line with its instance. -/
def runAllBy (r : Registry) : List HostEvent → Registry × List (Nat × LogEntry)
  | [] => (r, [])
  | event :: events =>
    let next := runBy r event
    let after := runAllBy next.1 events
    (after.1, next.2 ++ after.2)

end

theorem runAllBy_append (r : Registry) (events later : List HostEvent) :
    r.runAllBy (events ++ later) =
      (((r.runAllBy events).1.runAllBy later).1,
        (r.runAllBy events).2 ++ ((r.runAllBy events).1.runAllBy later).2) := by
  induction events generalizing r with
  | nil => simp [runAllBy]
  | cons event others ih => simp [runAllBy, ih]

theorem runAllBy_singleton (r : Registry) (event : HostEvent) :
    r.runAllBy [event] = r.runBy event := by
  simp [runAllBy]

theorem runAll?_eq_of_forall {events : List HostEvent}
    (hevents : ∀ event ∈ events, ∀ r : Registry,
      r.run? event = some ((r.runBy event).1, (r.runBy event).2.map (·.2)))
    (r : Registry) :
    r.runAll? events = some ((r.runAllBy events).1, (r.runAllBy events).2.map (·.2)) := by
  induction events generalizing r with
  | nil => rw [runAll?, runAllBy]; rfl
  | cons event others ih =>
    obtain ⟨hfirst, hothers⟩ := List.forall_mem_cons.mp hevents
    have hnext := hfirst r
    have hafter := ih hothers (r.runBy event).1
    apply runAll?_cons_eq_some_iff.mpr
    exact ⟨_, _, _, hnext, hafter, by simp [runAllBy]⟩

theorem run?_eq_runBy (event : HostEvent) (r : Registry) :
    r.run? event = some ((r.runBy event).1, (r.runBy event).2.map (·.2)) := by
  induction event generalizing r with
  | call kind m index body ih =>
    have hbody := runAll?_eq_of_forall ih (r.enter kind m index).1
    -- the record that the call has put on top is there when the body is over
    have hcalls : ((r.enter kind m index).1.runAllBy body).1.calls =
        .capture m kind index :: r.calls := by
      obtain ⟨inner, inside, hinner, hsame⟩ := returns_runAll? body (r.enter kind m index).1
      rw [hbody] at hinner
      cases hinner
      rw [hsame, calls_enter]
    apply run?_call_eq_some_iff.mpr
    refine ⟨_, _, hbody, leave?_eq_some_iff.mpr ⟨_, _, hcalls, ?_⟩, ?_⟩
    · simp [runBy, hcalls]
    · simp [runBy, Function.comp_def]
  | entered m => simp [run?, runBy, Function.comp_def]
  | attach id script => rw [run?, runBy]; rfl
  | detach id => rw [run?, runBy]; rfl

theorem runAll?_eq_runAllBy (events : List HostEvent) (r : Registry) :
    r.runAll? events = some ((r.runAllBy events).1, (r.runAllBy events).2.map (·.2)) :=
  runAll?_eq_of_forall (fun event _ => run?_eq_runBy event) r

/-- What an instance finds in a registry, the calls in flight apart. -/
structure Share where
  attachment : Option Attachment
  trace : TraceFlags
  filter : Option LineFilter
  limits : Limits

def Share.withBound (share : Share) (bound : Cell) : Share :=
  { share with attachment := share.attachment.map fun attached => { attached with bound } }

def share (r : Registry) (id : Nat) : Share := ⟨r.attachment? id, r.trace, r.filter, r.limits⟩

theorem share_setBound (r : Registry) (id other : Nat) (bound : Cell) :
    (r.setBound id bound).share other =
      if other = id then (r.share other).withBound bound else r.share other := by
  rw [share, attachment?_setBound]
  split
  · rfl
  · rw [Option.map_id']
    rfl

theorem share_attach (r : Registry) (id other : Nat) (script : Script) :
    (r.attach id script).share other =
      if other = id then { r.share other with attachment := some { script, bound := Cell.greatest } }
      else r.share other := by
  rw [share, attachment?_attach]
  split <;> rfl

theorem share_detach (r : Registry) (id other : Nat) :
    (r.detach id).share other =
      if other = id then { r.share other with attachment := none } else r.share other := by
  rw [share, attachment?_detach]
  split <;> rfl

/-- The bound falls for a public call, if function entries are traced; nothing else changes. -/
theorem share_enter (r : Registry) (kind : CallKind) (m : Machine) (index : Cell) (id : Nat) :
    (r.enter kind m index).1.share id =
      if id = m.id ∧ kind = .publicCall ∧ r.trace.functions = true then (r.share id).withBound 0
      else r.share id := by
  let pushed : Registry := { r with calls := r.calls.push (.capture m kind index) }
  have hpushed : pushed.share id = r.share id := rfl
  cases kind with
  | nativeCall =>
    rw [if_neg (by simp)]
    exact hpushed
  | publicCall =>
    dsimp only [enter]
    cases hfunctions : r.trace.functions with
    | false =>
      simp only [Bool.false_eq_true, and_false, if_false]
      exact hpushed
    | true =>
      have hfallen := share_setBound pushed m.id id 0
      simp only [if_true, and_true]
      rw [hpushed] at hfallen
      exact hfallen

variable {r alone : Registry}

theorem script?_of_share {id : Nat} (h : r.share id = alone.share id) :
    r.script? id = alone.script? id := by
  have hattached : r.attachment? id = alone.attachment? id := congrArg Share.attachment h
  rw [script?, script?, hattached]

theorem traced_of_share {id : Nat} (h : r.share id = alone.share id) (event : TraceEvent)
    (line : Option String) : r.traced event line = alone.traced event line := by
  have htrace : r.trace = alone.trace := congrArg Share.trace h
  have hfilter : r.filter = alone.filter := congrArg Share.filter h
  cases line with
  | none => rfl
  | some line =>
    have hpasses : r.passes line = alone.passes line := by rw [passes, passes, hfilter]
    dsimp only [traced]
    rw [htrace, hpasses]

theorem publicLine?_of_share {m : Machine} (h : r.share m.id = alone.share m.id) (index : Cell) :
    r.publicLine? m index = alone.publicLine? m index :=
  publicLine?_congr index (script?_of_share h) (congrArg Share.limits h)

theorem functionLine?_of_share {m : Machine} (h : r.share m.id = alone.share m.id) :
    r.functionLine? m = alone.functionLine? m := by
  have htrace : r.trace = alone.trace := congrArg Share.trace h
  have hattached : r.attachment? m.id = alone.attachment? m.id := congrArg Share.attachment h
  rw [functionLine?, functionLine?, htrace, entryLine?_congr m hattached (congrArg Share.limits h)]

theorem share_enter_congr {m : Machine} (h : r.share m.id = alone.share m.id) (kind : CallKind)
    (index : Cell) :
    (r.enter kind m index).1.share m.id = (alone.enter kind m index).1.share m.id := by
  have htrace : r.trace = alone.trace := congrArg Share.trace h
  rw [share_enter, share_enter, h, htrace]

theorem log_enter_congr {m : Machine} (h : r.share m.id = alone.share m.id) (kind : CallKind)
    (index : Cell) : (r.enter kind m index).2 = (alone.enter kind m index).2 := by
  have hentered := share_enter_congr h kind index
  cases kind with
  | nativeCall =>
    dsimp only [enter] at hentered ⊢
    exact traced_of_share hentered .nativeCall _
  | publicCall =>
    have hline := publicLine?_of_share hentered index
    dsimp only [enter] at hentered hline ⊢
    rw [hline]
    exact traced_of_share hentered .publicCall _

theorem share_functionEntered_congr {m : Machine} (h : r.share m.id = alone.share m.id) :
    (r.functionEntered m).1.share m.id = (alone.functionEntered m).1.share m.id := by
  rw [functionEntered, functionEntered, share_setBound, share_setBound, h]

theorem log_functionEntered_congr {m : Machine} (h : r.share m.id = alone.share m.id) :
    (r.functionEntered m).2 = (alone.functionEntered m).2 := by
  rw [functionEntered, functionEntered, functionLine?_of_share h]
  exact traced_of_share h .functionEntry _

/-- A run and one in which an instance acts alone: it has the same share at the end, and what is
logged is the same, apart from lines of others in the first run. -/
structure SameFor (id : Nat) (full lone : Registry × List (Nat × LogEntry)) : Prop where
  share : full.1.share id = lone.1.share id
  lines : full.2.filter (·.1 == id) = lone.2

private theorem filter_map_owner (id owner : Nat) (lines : List LogEntry) :
    (lines.map (owner, ·)).filter (·.1 == id) = if owner = id then lines.map (owner, ·) else [] := by
  by_cases heq : owner = id <;> simp [List.filter_map, Function.comp_def, heq]

theorem SameFor.append {id : Nat} {full lone after loneAfter : Registry × List (Nat × LogEntry)}
    (hfirst : SameFor id full lone) (hrest : SameFor id after loneAfter) :
    SameFor id (after.1, full.2 ++ after.2) (loneAfter.1, lone.2 ++ loneAfter.2) :=
  ⟨hrest.share, by rw [List.filter_append, hfirst.lines, hrest.lines]⟩

theorem sameFor_runAllBy_of_forall {id : Nat} {events : List HostEvent}
    (hevents : ∀ event ∈ events, ∀ {r alone : Registry}, r.share id = alone.share id →
      SameFor id (r.runBy event) (alone.runAllBy (event.only id)))
    (h : r.share id = alone.share id) :
    SameFor id (r.runAllBy events) (alone.runAllBy (HostEvent.onlyAll id events)) := by
  induction events generalizing r alone with
  | nil => exact ⟨h, rfl⟩
  | cons event others ih =>
    obtain ⟨hevent, hothers⟩ := List.forall_mem_cons.mp hevents
    have hfirst := hevent h
    have hrest := ih hothers hfirst.share
    rw [HostEvent.onlyAll, runAllBy_append, runAllBy]
    exact hfirst.append hrest

/-- Side by side, an event changes the share alike on both sides, and what it logs for the instance is
what is left of it. -/
theorem sameFor_runBy {id : Nat} (event : HostEvent) (h : r.share id = alone.share id) :
    SameFor id (r.runBy event) (alone.runAllBy (event.only id)) := by
  induction event generalizing r alone with
  | call kind m index body ih =>
    have hmade := filter_map_owner id m.id (r.enter kind m index).2
    rw [HostEvent.only, runBy]
    by_cases hown : m.id = id
    · subst hown
      have hinner := sameFor_runAllBy_of_forall ih (share_enter_congr h kind index)
      rw [if_pos rfl] at hmade
      rw [if_pos rfl, runAllBy_singleton, runBy, ← log_enter_congr h kind index]
      exact ⟨hinner.share, by rw [List.filter_append, hmade, hinner.lines]⟩
    · -- nothing is left of the call itself, and it has not touched the share
      have hentered : (r.enter kind m index).1.share id = alone.share id := by
        rw [share_enter, if_neg fun hcall => hown hcall.1.symm, h]
      have hinner := sameFor_runAllBy_of_forall ih hentered
      rw [if_neg hown] at hmade
      rw [if_neg hown]
      exact ⟨hinner.share, by rw [List.filter_append, hmade, List.nil_append, hinner.lines]⟩
  | entered m =>
    have hmade := filter_map_owner id m.id (r.functionEntered m).2
    rw [HostEvent.only, runBy]
    by_cases hown : m.id = id
    · subst hown
      rw [if_pos rfl] at hmade
      rw [if_pos rfl, runAllBy_singleton, runBy, ← log_functionEntered_congr h]
      exact ⟨share_functionEntered_congr h, hmade⟩
    · have hshare : (r.functionEntered m).1.share id = alone.share id := by
        rw [functionEntered, share_setBound, if_neg (Ne.symm hown), h]
      rw [if_neg hown] at hmade
      rw [if_neg hown, runAllBy]
      exact ⟨hshare, hmade⟩
  | attach other script =>
    rw [HostEvent.only, runBy]
    by_cases hown : other = id
    · rw [if_pos hown, runAllBy_singleton, runBy]
      exact ⟨by rw [share_attach, share_attach, h], rfl⟩
    · rw [if_neg hown, runAllBy]
      exact ⟨by rw [share_attach, if_neg (Ne.symm hown), h], rfl⟩
  | detach other =>
    rw [HostEvent.only, runBy]
    by_cases hown : other = id
    · rw [if_pos hown, runAllBy_singleton, runBy]
      exact ⟨by rw [share_detach, share_detach, h], rfl⟩
    · rw [if_neg hown, runAllBy]
      exact ⟨by rw [share_detach, if_neg (Ne.symm hown), h], rfl⟩

/-- The lines that a run logs for an instance, and the script it leaves for it, are those of the run in
which the instance acts alone: there all lines are its own. -/
theorem isolated_from_others (r : Registry) (events : List HostEvent) (id : Nat) :
    let full := r.runAllBy events
    let lone := r.runAllBy (HostEvent.onlyAll id events)
    r.runAll? events = some (full.1, full.2.map (·.2)) ∧
    r.runAll? (HostEvent.onlyAll id events) = some (lone.1, lone.2.map (·.2)) ∧
    full.2.filter (·.1 == id) = lone.2 ∧
    full.1.script? id = lone.1.script? id := by
  have hsame : SameFor id (r.runAllBy events) (r.runAllBy (HostEvent.onlyAll id events)) :=
    sameFor_runAllBy_of_forall (fun event _ => sameFor_runBy event) rfl
  exact ⟨runAll?_eq_runAllBy events r, runAll?_eq_runAllBy _ r, hsame.lines,
    script?_of_share hsame.share⟩

end Registry

end AmxTrace
