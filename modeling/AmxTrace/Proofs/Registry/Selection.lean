import AmxTrace.Proofs.Registry.Discipline

/-! # Selection of traced lines

The flags and the filter of a registry choose which lines of a run are logged. -/

namespace AmxTrace

/-- Whether an entry is logged under the flags and the filter; they choose among traced lines only. -/
def LogEntry.chosen (flags : TraceFlags) (filter : Option LineFilter) : LogEntry → Bool
  | .traced event line => flags.has event && filter.all fun filter => filter.accepts line
  | .reported _ => true
  | .noted _ => true

@[simp] theorem TraceFlags.has_all (event : TraceEvent) : TraceFlags.all.has event = true := by
  cases event <;> rfl

namespace Registry

variable {flags : TraceFlags} {filter : Option LineFilter} {r full : Registry}

theorem renderer_congr {r r' : Registry} {id : Nat} (hscript : r.script? id = r'.script? id)
    (hlimits : r.limits = r'.limits) : r.renderer id = r'.renderer id := by
  rw [renderer, renderer, debug, debug, hscript, hlimits]

theorem publicLine?_congr {r r' : Registry} {m : Machine} (index : Cell)
    (hscript : r.script? m.id = r'.script? m.id) (hlimits : r.limits = r'.limits) :
    r.publicLine? m index = r'.publicLine? m index := by
  rw [publicLine?, publicLine?, renderer_congr hscript hlimits]

theorem entryLine?_congr {r r' : Registry} (m : Machine)
    (hattached : r.attachment? m.id = r'.attachment? m.id) (hlimits : r.limits = r'.limits) :
    r.entryLine? m = r'.entryLine? m := by
  have hscript : r.script? m.id = r'.script? m.id := by rw [script?, script?, hattached]
  rw [entryLine?, entryLine?, hattached, renderer_congr hscript hlimits]

/-- A registry with the flags and the filter, and one that traces everything, at the same point of
a run. Bounds need only agree where a line can show them. -/
structure Selects (flags : TraceFlags) (filter : Option LineFilter) (r full : Registry) : Prop where
  trace : r.trace = flags
  lines : r.filter = filter
  everyEvent : full.trace = .all
  everyLine : full.filter = none
  calls : r.calls = full.calls
  limits : r.limits = full.limits
  scripts : ∀ id, r.script? id = full.script? id
  bounds : flags.functions = true → r.attachments = full.attachments

theorem selects_start (r : Registry) (flags : TraceFlags) (filter : Option LineFilter) :
    Selects flags filter { r with trace := flags, filter } { r with trace := .all, filter := none } :=
  ⟨rfl, rfl, rfl, rfl, rfl, rfl, fun _ => rfl, fun _ => rfl⟩

theorem Selects.traced_eq (h : Selects flags filter r full) {event : TraceEvent}
    {line fullLine : Option String} (hline : flags.has event = true → line = fullLine) :
    r.traced event line = (full.traced event fullLine).filter (LogEntry.chosen flags filter) := by
  have hpasses (line : String) : r.passes line = filter.all fun filter => filter.accepts line := by
    rw [passes, h.lines]
    cases filter <;> rfl
  have hfull : full.traced event fullLine = (fullLine.map (LogEntry.traced event)).toList := by
    cases fullLine with
    | none => rfl
    | some line => simp [traced, passes, h.everyEvent, h.everyLine]
  rw [hfull]
  cases hhas : flags.has event with
  | false => cases line <;> cases fullLine <;> simp [traced, LogEntry.chosen, h.trace, hhas]
  | true =>
    rw [hline hhas]
    cases fullLine with
    | none => rfl
    | some line => simp [traced, LogEntry.chosen, h.trace, hhas, hpasses, List.filter_cons]

theorem Selects.pushed (h : Selects flags filter r full) (record : CallRecord) :
    Selects flags filter { r with calls := r.calls.push record }
      { full with calls := full.calls.push record } :=
  { h with
    calls := congrArg (CallLog.push · record) h.calls
    scripts := h.scripts
    bounds := h.bounds }

theorem Selects.setBound (h : Selects flags filter r full) (id : Nat) (bound : Cell) :
    Selects flags filter (r.setBound id bound) (full.setBound id bound) :=
  { h with
    scripts := fun other => by rw [script?_setBound, script?_setBound, h.scripts]
    bounds := fun hfunctions => by rw [Registry.setBound, Registry.setBound, h.bounds hfunctions] }

theorem Selects.fall (h : Selects flags filter r full) (id : Nat) (bound : Cell) :
    Selects flags filter (if r.trace.functions then r.setBound id bound else r)
      (if full.trace.functions then full.setBound id bound else full) := by
  have hfull : (if full.trace.functions then full.setBound id bound else full) =
      full.setBound id bound := by rw [h.everyEvent]; rfl
  rw [hfull, h.trace]
  cases hfunctions : flags.functions with
  | true => exact h.setBound id bound
  | false =>
    exact { h with
      scripts := fun other => by rw [script?_setBound]; exact h.scripts other
      bounds := fun htrue => absurd (hfunctions.symm.trans htrue) Bool.false_ne_true }

theorem Selects.enter (h : Selects flags filter r full) (kind : CallKind) (m : Machine)
    (index : Cell) :
    Selects flags filter (r.enter kind m index).1 (full.enter kind m index).1 ∧
      (r.enter kind m index).2 =
        (full.enter kind m index).2.filter (LogEntry.chosen flags filter) := by
  have hpushed := h.pushed (.capture m kind index)
  cases kind with
  | nativeCall =>
    dsimp only [Registry.enter]
    exact ⟨hpushed, hpushed.traced_eq fun _ => rfl⟩
  | publicCall =>
    have hfallen := hpushed.fall m.id 0
    dsimp only [Registry.enter]
    exact ⟨hfallen, hfallen.traced_eq fun _ =>
      publicLine?_congr index (hfallen.scripts m.id) hfallen.limits⟩

theorem Selects.functionEntered (h : Selects flags filter r full) (m : Machine) :
    Selects flags filter (r.functionEntered m).1 (full.functionEntered m).1 ∧
      (r.functionEntered m).2 =
        (full.functionEntered m).2.filter (LogEntry.chosen flags filter) := by
  refine ⟨h.setBound m.id m.registers.frm, h.traced_eq fun hfunctions => ?_⟩
  -- traced function entries show the bounds, which agree where they are traced
  have hline : r.functionLine? m = r.entryLine? m := by
    rw [functionLine?, h.trace]
    exact if_pos hfunctions
  have hfullLine : full.functionLine? m = full.entryLine? m := by
    rw [functionLine?, h.everyEvent]
    rfl
  have hattached : r.attachment? m.id = full.attachment? m.id := by
    rw [attachment?, attachment?, h.bounds hfunctions]
  rw [hline, hfullLine]
  exact entryLine?_congr m hattached h.limits

theorem Selects.detach (h : Selects flags filter r full) (id : Nat) :
    Selects flags filter (r.detach id) (full.detach id) :=
  { h with
    scripts := fun other => by rw [script?_detach, script?_detach, h.scripts]
    bounds := fun hfunctions => by rw [Registry.detach, Registry.detach, h.bounds hfunctions] }

theorem Selects.attach (h : Selects flags filter r full) (id : Nat) (script : Script) :
    Selects flags filter (r.attach id script) (full.attach id script) :=
  { h with
    scripts := fun other => by rw [script?_attach, script?_attach, h.scripts]
    bounds := fun hfunctions => by
      rw [Registry.attach, Registry.attach, (h.detach id).bounds hfunctions] }

theorem Selects.leave? (h : Selects flags filter r full) {after fullAfter : Registry}
    (hleave : r.leave? = some after) (hfull : full.leave? = some fullAfter) :
    Selects flags filter after fullAfter := by
  obtain ⟨record, older, hcalls, rfl⟩ := leave?_eq_some_iff.mp hleave
  obtain ⟨fullRecord, fullOlder, hfullCalls, rfl⟩ := leave?_eq_some_iff.mp hfull
  have hsame := h.calls
  rw [hcalls, hfullCalls] at hsame
  exact { h with calls := (List.cons.inj hsame).2, scripts := h.scripts, bounds := h.bounds }

theorem selects_runAll?_of_forall {events : List HostEvent}
    (hevents : ∀ event ∈ events, ∀ {r full after fullAfter : Registry} {log fullLog : List LogEntry},
      Selects flags filter r full → r.run? event = some (after, log) →
        full.run? event = some (fullAfter, fullLog) →
          Selects flags filter after fullAfter ∧
            log = fullLog.filter (LogEntry.chosen flags filter))
    (h : Selects flags filter r full) {after fullAfter : Registry} {log fullLog : List LogEntry}
    (hrun : r.runAll? events = some (after, log))
    (hfull : full.runAll? events = some (fullAfter, fullLog)) :
    Selects flags filter after fullAfter ∧ log = fullLog.filter (LogEntry.chosen flags filter) := by
  induction events generalizing r full log fullLog with
  | nil =>
    rw [runAll?] at hrun hfull
    cases hrun
    cases hfull
    exact ⟨h, rfl⟩
  | cons event others ih =>
    obtain ⟨next, first, rest, hfirst, hrest, rfl⟩ := runAll?_cons_eq_some_iff.mp hrun
    obtain ⟨fullNext, fullFirst, fullRest, hfullFirst, hfullRest, rfl⟩ :=
      runAll?_cons_eq_some_iff.mp hfull
    obtain ⟨hevent, hothers⟩ := List.forall_mem_cons.mp hevents
    obtain ⟨hnext, rfl⟩ := hevent h hfirst hfullFirst
    obtain ⟨hafter, rfl⟩ := ih hothers hnext hrest hfullRest
    exact ⟨hafter, (List.filter_append ..).symm⟩

/-- Side by side, an event leaves the two as they belong together and logs what is chosen. -/
theorem selects_run? (event : HostEvent) {r full after fullAfter : Registry}
    {log fullLog : List LogEntry} (h : Selects flags filter r full)
    (hrun : r.run? event = some (after, log))
    (hfull : full.run? event = some (fullAfter, fullLog)) :
    Selects flags filter after fullAfter ∧ log = fullLog.filter (LogEntry.chosen flags filter) := by
  induction event generalizing r full after fullAfter log fullLog with
  | call kind m index body ih =>
    obtain ⟨inner, inside, hbody, hleave, rfl⟩ := run?_call_eq_some_iff.mp hrun
    obtain ⟨fullInner, fullInside, hfullBody, hfullLeave, rfl⟩ := run?_call_eq_some_iff.mp hfull
    obtain ⟨hentered, hfirst⟩ := h.enter kind m index
    obtain ⟨hinner, rfl⟩ := selects_runAll?_of_forall (fun event hmem => ih event hmem)
      hentered hbody hfullBody
    rw [hfirst]
    exact ⟨hinner.leave? hleave hfullLeave, (List.filter_append ..).symm⟩
  | entered m =>
    rw [run?] at hrun hfull
    cases hrun
    cases hfull
    exact h.functionEntered m
  | attach id script =>
    rw [run?] at hrun hfull
    cases hrun
    cases hfull
    exact ⟨h.attach id script, rfl⟩
  | detach id =>
    rw [run?] at hrun hfull
    cases hrun
    cases hfull
    exact ⟨h.detach id, rfl⟩

/-- What a run logs under flags and a filter is chosen from what it logs without them, and the run
leaves the same scripts and the same calls. -/
theorem log_eq_filter_full (r : Registry) (flags : TraceFlags) (filter : Option LineFilter)
    (events : List HostEvent) :
    ∃ after log fullAfter fullLog,
      { r with trace := flags, filter }.runAll? events = some (after, log) ∧
      { r with trace := .all, filter := none }.runAll? events = some (fullAfter, fullLog) ∧
      log = fullLog.filter (LogEntry.chosen flags filter) ∧
      (∀ id, after.script? id = fullAfter.script? id) ∧ after.calls = fullAfter.calls := by
  obtain ⟨after, log, hrun, -⟩ := returns_runAll? events { r with trace := flags, filter }
  obtain ⟨fullAfter, fullLog, hfull, -⟩ :=
    returns_runAll? events { r with trace := .all, filter := none }
  obtain ⟨hafter, hlog⟩ := selects_runAll?_of_forall (fun event _ => selects_run? event)
    (selects_start r flags filter) hrun hfull
  exact ⟨after, log, fullAfter, fullLog, hrun, hfull, hlog, hafter.scripts, hafter.calls⟩

end Registry

end AmxTrace
