import FlowView.Proofs.Histories
/-!
# Sequence flows

Flows are only ever added, until the deletion of an instance takes its flows away. What a history adds is
told from its events alone: one row for every event that takes a flow for the first time, in their order
(`flows_once`). An event without an id takes its flow for the first time whenever it comes.
-/

namespace FlowView

open Projection

variable {u : Supply} {e : Event} {s s₁ s' : Store} {k : EventKind} {es es' : List Event}

/-! ## Flows taken for the first time -/

def Event.takesFlow (e : Event) : Bool := e.kind? = some .sequenceFlowTaken

/-- Is there a row of the event of an id, or was such an event handled since? -/
def Store.flowSeen (s : Store) (earlier : List Event) (id : String) : Bool :=
  s.flowRecorded id || earlier.any fun e => e.takesFlow && e.id = some id

/-- Does the event take a flow for the first time, after events that were handled on the tables? -/
def Store.takenFirst (s : Store) (earlier : List Event) (e : Event) : Bool :=
  e.takesFlow && e.id.all fun id => !s.flowSeen earlier id

/-- The events that take a flow for the first time, of those that are handled after earlier ones. -/
def Store.flowsTaken (s : Store) (earlier : List Event) : List Event → List Event
  | [] => []
  | e :: es => (if s.takenFirst earlier e then [e] else []) ++ s.flowsTaken (earlier ++ [e]) es

/-- Each column of the row is as an event and its payload have it. The row's id is its own; of the definition
only the id may come from the payload, which then counts before the envelope. -/
structure SequenceFlow.Tells (f : SequenceFlow) (e : Event) (p : FlowPayload) : Prop where
  eventId : f.eventId = e.id
  elementId : f.elementId = p.elementId
  instanceId : f.instanceId = p.instanceId
  source : f.source = p.source
  target : f.target = p.target
  definitionId : f.definition.id = p.definitionId.or e.definition.id
  definitionKey : f.definition.key = e.definition.key
  definitionVersion : f.definition.version = e.definition.version
  businessKey : f.businessKey = e.businessKey
  date : f.date = some e.time
  service : f.service = e.service

/-- The row holds what the event says. -/
def SequenceFlow.Records (f : SequenceFlow) (e : Event) : Prop :=
  ∃ p : FlowPayload, e.payload = .ok p ∧ f.Tells e p

/-- Besides its id there is nothing else in a row. -/
theorem SequenceFlow.tells_iff {f : SequenceFlow} {p : FlowPayload} : f.Tells e p ↔ f = newFlow e p f.id := by
  constructor
  · obtain ⟨id, eventId, elementId, instanceId, ⟨definitionId, key, version⟩, _⟩ := f
    rintro ⟨⟨⟩, ⟨⟩, ⟨⟩, ⟨⟩, ⟨⟩, ⟨⟩, ⟨⟩, ⟨⟩, ⟨⟩, ⟨⟩, ⟨⟩⟩
    rfl
  · intro heq
    rw [heq]
    exact ⟨rfl, rfl, rfl, rfl, rfl, rfl, rfl, rfl, rfl, rfl, rfl⟩

namespace Store

theorem flowSeen_append (s : Store) (earlier later : List Event) (id : String) :
    s.flowSeen (earlier ++ later) id =
      (s.flowSeen earlier id || later.any fun e => e.takesFlow && e.id = some id) := by
  simp [flowSeen, Bool.or_assoc]

theorem flowsTaken_append (s : Store) (earlier es es' : List Event) :
    s.flowsTaken earlier (es ++ es') = s.flowsTaken earlier es ++ s.flowsTaken (earlier ++ es) es' := by
  induction es generalizing earlier with
  | nil => simp [flowsTaken]
  | cons e es ih => simp [flowsTaken, ih]

/-- Tables that have a row of every event handled so far tell by themselves what is taken first. -/
theorem flowsTaken_of_seen {earlier : List Event} (h : ∀ id, s₁.flowRecorded id = s.flowSeen earlier id) :
    s₁.flowsTaken [] es = s.flowsTaken earlier es := by
  suffices hafter : ∀ later, s₁.flowsTaken later es = s.flowsTaken (earlier ++ later) es by
    simpa using hafter []
  induction es with
  | nil => exact fun _ => rfl
  | cons e es ih =>
    intro later
    have hseen (id : String) : s₁.flowSeen later id = s.flowSeen (earlier ++ later) id := by
      rw [flowSeen, h, flowSeen_append]
    have hfirst : s₁.takenFirst later e = s.takenFirst (earlier ++ later) e := by
      simp only [takenFirst, hseen]
    rw [flowsTaken, flowsTaken, hfirst, ih, List.append_assoc]

/-- The flows after some events: those from before, and one for every event that takes a flow for the first
time. The tables have a row of every event with an id. -/
structure TakesFlows (s : Store) (events : List Event) (s' : Store) : Prop where
  rows : ∃ fs, s'.flows = s.flows ++ fs ∧ List.Forall₂ SequenceFlow.Records fs (s.flowsTaken [] events)
  seen : ∀ id, s'.flowRecorded id = s.flowSeen events id

namespace TakesFlows

theorem none (s : Store) : s.TakesFlows [] s :=
  ⟨⟨[], by simp, .nil⟩, fun id => by simp [flowSeen]⟩

theorem append (h : s.TakesFlows es s₁) (h' : s₁.TakesFlows es' s') : s.TakesFlows (es ++ es') s' := by
  obtain ⟨fs, hflows, hrecords⟩ := h.rows
  obtain ⟨fs', hflows', hrecords'⟩ := h'.rows
  refine ⟨⟨fs ++ fs', by rw [hflows', hflows, List.append_assoc], ?_⟩, fun id => ?_⟩
  · rw [flowsTaken_append]
    exact List.rel_append hrecords (flowsTaken_of_seen h.seen ▸ hrecords')
  · rw [h'.seen, flowSeen, h.seen, flowSeen_append]

/-- An event that is no new flow leaves the flows. -/
theorem same (hflows : s'.flows = s.flows)
    (hknown : e.takesFlow = true → ∃ id, e.id = some id ∧ s.flowRecorded id = true) :
    s.TakesFlows [e] s' := by
  have hrecorded (id : String) : s'.flowRecorded id = s.flowRecorded id := by
    rw [flowRecorded, hflows, ← flowRecorded]
  cases htakes : e.takesFlow with
  | false =>
    exact ⟨⟨[], by simp [hflows], by simp [flowsTaken, takenFirst, htakes]⟩,
      fun id => by simp [hrecorded, flowSeen, htakes]⟩
  | true =>
    obtain ⟨id, hid, hold⟩ := hknown htakes
    refine ⟨⟨[], by simp [hflows], by simp [flowsTaken, takenFirst, flowSeen, hid, hold]⟩, fun id' => ?_⟩
    by_cases heq : id = id'
    · simp [hrecorded, flowSeen, ← heq, hold]
    · simp [hrecorded, flowSeen, hid, heq]

theorem new {f : SequenceFlow} (htakes : e.takesFlow = true)
    (hnew : ∀ id, e.id = some id → s.flowRecorded id = false) (hf : f.Records e)
    (hflows : s'.flows = s.flows ++ [f]) : s.TakesFlows [e] s' := by
  have hfirst : s.flowsTaken [] [e] = [e] := by
    cases hid : e.id with
    | none => simp [flowsTaken, takenFirst, htakes, hid]
    | some id => simp [flowsTaken, takenFirst, flowSeen, htakes, hid, hnew id hid]
  refine ⟨⟨[f], hflows, by rw [hfirst]; exact .cons hf .nil⟩, fun id => ?_⟩
  obtain ⟨p, -, htells⟩ := hf
  simp [flowRecorded, flowSeen, hflows, htells.eventId, htakes]

end TakesFlows
end Store

/-! ## One event -/

/-- An event that deletes no instance adds the flow that it takes for the first time, or leaves the flows. -/
theorem Effect.takesFlows (h : Effect u e s k s') (hk : e.kind? = some k) (hspared : k ≠ .processDeleted) :
    s.TakesFlows [e] s' := by
  have other (hne : k ≠ .sequenceFlowTaken) (hflows : s'.flows = s.flows) : s.TakesFlows [e] s' :=
    .same hflows fun htakes => absurd (Option.some.inj (hk.symm.trans (of_decide_eq_true htakes))) hne
  cases h with
  | @definitionDeployed p hp =>
    obtain ⟨ds, ms, heq⟩ := s.withDefinition_eq e p
    exact other (by decide) (by rw [heq])
  | instanceDeleted => exact absurd rfl hspared
  | flowKnown hp hid hf => exact .same rfl fun _ => ⟨_, hid, hf⟩
  | @flowRecorded p hp hf =>
    exact .new (by simp [Event.takesFlow, hk]) hf ⟨p, hp, SequenceFlow.tells_iff.2 rfl⟩ rfl
  | instancePassed hc | instanceChanged hc | taskPassed hc | taskChanged hc | candidatePassed hc
  | taskCandidateChanged hc | starterChanged hc | activityEntered hc | callChanged hc =>
    exact other (by cases hc <;> decide) rfl
  | _ => exact other (by decide) rfl

/-! ## Runs -/

/-- An event of an id has at most one row. -/
theorem Store.Sound.flows_unique (hs : s.Sound) (id : String) :
    (s.flows.countP fun f => f.eventId = some id) ≤ 1 := by
  have hcount := List.nodup_iff_count_le_one.1 hs.flowEvents id
  simpa only [List.count_filterMap, beq_eq_decide] using hcount

/-- In all tables an event of an id has at most one row. Over batches that delete no instance the flows
from before stay as they are, and after them comes one row for every event that takes a flow for the first
time, with what this event says. -/
theorem flows_once (hs : s.Reachable) :
    (∀ id, (s.flows.countP fun f => f.eventId = some id) ≤ 1) ∧
    ∀ past s', s.History past s' → (∀ m ∈ past, m.event.kind? ≠ some .processDeleted) →
      ∃ fs, s'.flows = s.flows ++ fs ∧
        List.Forall₂ SequenceFlow.Records fs (s.flowsTaken [] (past.map Moment.event)) := by
  refine ⟨hs.inv.flows_unique, fun past s' h hspared => ?_⟩
  refine ((h.course hs.inv).records (fun past m => s.TakesFlows (past.map Moment.event) m)
    (fun e => e.kind? ≠ some .processDeleted) hs.inv hspared (.none s) ?_).rows
  intro u e k past m m' _ _ _ hspared hk heffect htaken
  rw [List.map_append]
  exact htaken.append (heffect.takesFlows hk fun heq => hspared (heq ▸ hk))

namespace Sample

/-- An event of an id, or of none, that takes a flow of the first order. -/
def flow (id : Option String) : Event :=
  { event "SEQUENCE_FLOW_TAKEN" [("processInstanceId", .str "p1")] with id }

/-- Flows of which one comes again in its batch, a batch that fails, and a batch with flows of both. -/
def taken : List Event := [flow (some "e1"), flow none, flow (some "e1"), flow none]

def refused : List Event := [flow (some "e2"), ofInstance "PROCESS_STARTED" "p3"]

def retaken : List Event := [flow (some "e1"), flow (some "e2")]

end Sample

/-- The flow of the batch that failed is recorded when it comes again, and flows without an id always. -/
theorem flows_once_retaken :
    ∃ past s', Sample.store.History past s' ∧
      past.map (fun m => m.event.id) = [some "e1", none, some "e1", none, some "e1", some "e2"] ∧
      (∃ fs, s'.flows = Sample.store.flows ++ fs ∧
        List.Forall₂ SequenceFlow.Records fs (Sample.store.flowsTaken [] (past.map Moment.event))) ∧
      s'.flows.map SequenceFlow.eventId = [some "e1", none, none, some "e2"] := by
  have hrun := (((Store.History.start Sample.store).consume Registry.full Supply.counting Sample.taken).consume
    Registry.full Supply.counting Sample.refused).consume Registry.full Supply.counting Sample.retaken
  refine ⟨_, _, hrun, by decide +kernel, (flows_once Sample.reachable).2 _ _ hrun ?_, by decide +kernel⟩
  decide +kernel

end FlowView
