import AmxTrace.Registry
import Mathlib.Data.List.Basic

/-! # Nested calls -/

namespace AmxTrace

@[induction_eliminator]
theorem HostEvent.induction {P : HostEvent → Prop}
    (call : ∀ kind m index body, (∀ event ∈ body, P event) → P (.call kind m index body))
    (entered : ∀ m, P (.entered m)) (attach : ∀ id script, P (.attach id script))
    (detach : ∀ id, P (.detach id)) (event : HostEvent) : P event :=
  @HostEvent.rec P (fun body => ∀ event ∈ body, P event) call entered attach detach
    (fun _ hmem => absurd hmem List.not_mem_nil)
    (fun _ _ hfirst hothers => List.forall_mem_cons.mpr ⟨hfirst, hothers⟩) event

/-- An event of one instance: calls that its views make and functions that they enter. -/
inductive HostEvent.MadeBy (id : Nat) : HostEvent → Prop where
  | call {kind : CallKind} {m : Machine} {index : Cell} {body : List HostEvent} (hm : m.id = id)
      (hbody : ∀ event ∈ body, event.MadeBy id) : HostEvent.MadeBy id (.call kind m index body)
  | entered {m : Machine} (hm : m.id = id) : HostEvent.MadeBy id (.entered m)

namespace Registry

variable {r r' : Registry} {id : Nat}

theorem attachment?_setBound (r : Registry) (id other : Nat) (bound : Cell) :
    (r.setBound id bound).attachment? other =
      (r.attachment? other).map fun attached =>
        if other = id then { attached with bound } else attached := by
  rw [attachment?, attachment?, setBound, List.find?_map, Option.map_map, Option.map_map]
  have hkey : ((fun entry : Nat × Attachment => entry.1 == other) ∘ fun entry =>
      if entry.1 = id then (entry.1, { entry.2 with bound }) else entry) =
        fun entry => entry.1 == other := by
    funext entry
    dsimp only [Function.comp_apply]
    split <;> rfl
  rw [hkey]
  refine Option.map_congr fun entry hentry => ?_
  have hother := List.find?_some hentry
  rw [beq_iff_eq] at hother
  dsimp only [Function.comp_apply]
  rw [hother]
  split <;> rfl

@[simp] theorem script?_setBound (r : Registry) (id other : Nat) (bound : Cell) :
    (r.setBound id bound).script? other = r.script? other := by
  rw [script?, script?, attachment?_setBound, Option.map_map]
  refine congrFun (congrArg Option.map (funext fun attached => ?_)) _
  dsimp only [Function.comp_apply]
  split <;> rfl

theorem attachment?_detach (r : Registry) (id other : Nat) :
    (r.detach id).attachment? other = if other = id then none else r.attachment? other := by
  rw [attachment?, attachment?, detach, List.find?_filter]
  by_cases heq : other = id
  · rw [if_pos heq, List.find?_eq_none.mpr fun entry _ => by simp [heq]]
    rfl
  · have hkey : (fun entry : Nat × Attachment =>
        decide ((entry.1 != id) = true ∧ (entry.1 == other) = true)) =
          fun entry => entry.1 == other := by
      funext entry
      by_cases hentry : entry.1 = other <;> simp [hentry, heq]
    rw [if_neg heq, hkey]

theorem attachment?_attach (r : Registry) (id other : Nat) (script : Script) :
    (r.attach id script).attachment? other =
      if other = id then some { script, bound := Cell.greatest } else r.attachment? other := by
  rw [attachment?, attach, List.find?_cons]
  by_cases heq : other = id
  · simp [heq]
  · have hkey : (id == other) = false := beq_false_of_ne (Ne.symm heq)
    rw [if_neg heq, hkey]
    exact (attachment?_detach r id other).trans (if_neg heq)

theorem script?_detach (r : Registry) (id other : Nat) :
    (r.detach id).script? other = if other = id then none else r.script? other := by
  rw [script?, script?, attachment?_detach]
  split <;> rfl

theorem script?_attach (r : Registry) (id other : Nat) (script : Script) :
    (r.attach id script).script? other = if other = id then some script else r.script? other := by
  rw [script?, script?, attachment?_attach]
  split <;> rfl

theorem calls_enter (r : Registry) (kind : CallKind) (m : Machine) (index : Cell) :
    (r.enter kind m index).1.calls = .capture m kind index :: r.calls := by
  cases kind with
  | nativeCall => rfl
  | publicCall =>
    dsimp only [enter]
    split <;> rfl

theorem limits_enter (r : Registry) (kind : CallKind) (m : Machine) (index : Cell) :
    (r.enter kind m index).1.limits = r.limits := by
  cases kind with
  | nativeCall => rfl
  | publicCall =>
    dsimp only [enter]
    split <;> rfl

theorem script?_enter (r : Registry) (kind : CallKind) (m : Machine) (index : Cell) (other : Nat) :
    (r.enter kind m index).1.script? other = r.script? other := by
  cases kind with
  | nativeCall => rfl
  | publicCall =>
    dsimp only [enter]
    split
    · exact script?_setBound { r with calls := _ } m.id other 0
    · rfl

theorem leave?_eq_some_iff :
    r.leave? = some r' ↔
      ∃ record older, r.calls = record :: older ∧ r' = { r with calls := older } := by
  rw [leave?]
  cases r.calls with
  | nil => exact ⟨nofun, nofun⟩
  | cons record older =>
    constructor
    · rintro ⟨⟩
      exact ⟨record, older, rfl, rfl⟩
    · rintro ⟨_, _, ⟨⟩, rfl⟩
      rfl

/-- A registry with the calls, scripts and limits of another. -/
structure SameBooks (r r' : Registry) : Prop where
  calls : r'.calls = r.calls
  scripts : ∀ id, r'.script? id = r.script? id
  limits : r'.limits = r.limits

theorem SameBooks.trans {r'' : Registry} (h : SameBooks r r') (h' : SameBooks r' r'') :
    SameBooks r r'' :=
  ⟨h'.calls.trans h.calls, fun id => (h'.scripts id).trans (h.scripts id),
    h'.limits.trans h.limits⟩

theorem sameBooks_functionEntered (r : Registry) (m : Machine) :
    SameBooks r (r.functionEntered m).1 :=
  ⟨rfl, fun other => script?_setBound r m.id other m.registers.frm, rfl⟩

theorem sameBooks_of_leave? {kind : CallKind} {m : Machine} {index : Cell} {inner after : Registry}
    (hinner : SameBooks (r.enter kind m index).1 inner) (hleave : inner.leave? = some after) :
    SameBooks r after := by
  obtain ⟨record, older, hcalls, rfl⟩ := leave?_eq_some_iff.mp hleave
  rw [hinner.calls, calls_enter] at hcalls
  refine ⟨(List.cons.inj hcalls).2.symm, fun other => ?_, ?_⟩
  · exact (hinner.scripts other).trans (script?_enter r kind m index other)
  · exact hinner.limits.trans (limits_enter r kind m index)

theorem run?_call_eq_some_iff {kind : CallKind} {m : Machine} {index : Cell}
    {body : List HostEvent} {log : List LogEntry} :
    r.run? (.call kind m index body) = some (r', log) ↔
      ∃ inner inside, (r.enter kind m index).1.runAll? body = some (inner, inside) ∧
        inner.leave? = some r' ∧ log = (r.enter kind m index).2 ++ inside := by
  rw [run?]
  simp only [Option.bind_eq_bind, Option.bind_eq_some_iff, Option.some.injEq, Prod.mk.injEq,
    Prod.exists]
  constructor
  · rintro ⟨inner, inside, hbody, _, hleave, rfl, rfl⟩
    exact ⟨inner, inside, hbody, hleave, rfl⟩
  · rintro ⟨inner, inside, hbody, hleave, rfl⟩
    exact ⟨inner, inside, hbody, r', hleave, rfl, rfl⟩

theorem runAll?_cons_eq_some_iff {event : HostEvent} {events : List HostEvent}
    {log : List LogEntry} :
    r.runAll? (event :: events) = some (r', log) ↔
      ∃ next first others, r.run? event = some (next, first) ∧
        next.runAll? events = some (r', others) ∧ log = first ++ others := by
  rw [runAll?]
  simp only [Option.bind_eq_bind, Option.bind_eq_some_iff, Option.some.injEq, Prod.mk.injEq,
    Prod.exists]
  constructor
  · rintro ⟨next, first, hevent, _, others, hevents, rfl, rfl⟩
    exact ⟨next, first, others, hevent, hevents, rfl⟩
  · rintro ⟨next, first, others, hevent, hevents, rfl⟩
    exact ⟨next, first, hevent, r', others, hevents, rfl, rfl⟩

theorem sameBooks_runAll? {events : List HostEvent} {log : List LogEntry}
    (hevents : ∀ event ∈ events, ∀ {r r' : Registry} {log : List LogEntry},
      r.run? event = some (r', log) → SameBooks r r')
    (h : r.runAll? events = some (r', log)) : SameBooks r r' := by
  induction events generalizing r log with
  | nil =>
    rw [runAll?] at h
    cases h
    exact ⟨rfl, fun _ => rfl, rfl⟩
  | cons event others ih =>
    obtain ⟨next, first, rest, hevent, hothers, -⟩ := runAll?_cons_eq_some_iff.mp h
    exact (hevents event List.mem_cons_self hevent).trans
      (ih (fun event hmem => hevents event (List.mem_cons_of_mem _ hmem)) hothers)

theorem sameBooks_run? {event : HostEvent} (hmade : event.MadeBy id) {log : List LogEntry}
    (h : r.run? event = some (r', log)) : SameBooks r r' := by
  induction hmade generalizing r r' log with
  | call _ _ ih =>
    -- the events inside the call leave the record on top that the call has put there
    obtain ⟨inner, inside, hbody, hleave, -⟩ := run?_call_eq_some_iff.mp h
    exact sameBooks_of_leave? (sameBooks_runAll? (fun event hmem => ih event hmem) hbody) hleave
  | @entered m _ =>
    rw [run?] at h
    cases h
    exact sameBooks_functionEntered r m

/-- The registries inside calls that views of one instance make one within the other, after
whatever other calls they have made on the way. -/
inductive Nested (id : Nat) (r : Registry) : Registry → Prop where
  | here : Nested id r r
  | enter {inner : Registry} (h : Nested id r inner) (kind : CallKind) {m : Machine}
      (hm : m.id = id) (index : Cell) : Nested id r (inner.enter kind m index).1
  | past {inner after : Registry} (h : Nested id r inner) {event : HostEvent}
      (hevent : event.MadeBy id) {log : List LogEntry}
      (hrun : inner.run? event = some (after, log)) : Nested id r after

theorem Nested.scripts (h : Nested id r r') (other : Nat) : r'.script? other = r.script? other := by
  induction h with
  | here => rfl
  | enter _ kind _ index ih => exact (script?_enter _ kind _ index other).trans ih
  | past _ hevent hrun ih => exact ((sameBooks_run? hevent hrun).scripts other).trans ih

theorem Nested.exists_calls (h : Nested id r r') :
    ∃ newer : CallLog, r'.calls = newer ++ r.calls ∧ ∀ record ∈ newer, record.instanceId = id := by
  induction h with
  | here => exact ⟨[], rfl, nofun⟩
  | @enter _ _ kind m hm index ih =>
    obtain ⟨newer, hcalls, hnewer⟩ := ih
    refine ⟨.capture m kind index :: newer, ?_, List.forall_mem_cons.mpr ⟨hm, hnewer⟩⟩
    rw [calls_enter, hcalls]
    rfl
  | past _ hevent hrun ih =>
    obtain ⟨newer, hcalls, hnewer⟩ := ih
    exact ⟨newer, (sameBooks_run? hevent hrun).calls.trans hcalls, hnewer⟩

end Registry

end AmxTrace
