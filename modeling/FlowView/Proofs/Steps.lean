import FlowView.Projection
import FlowView.Proofs.Answers
/-!
# The steps that projections share

Reading a payload and asking for a row that must be there leave sound tables as they are; what comes of
them depends on the payload and on the row alone.
-/

namespace FlowView.Projection

open Program

variable {α σ : Type} {b : Backend σ} {s : Store} (u : Supply)

/-- The fault of an event's payload as the failure of a program. -/
theorem run_payload [Payload α] (e : Event) (s : σ) :
    (payload e : Program α).run b s = ((e.payload : Except EventFault α).mapError Failure.event, s) := by
  unfold payload
  cases (e.payload : Except EventFault α) <;> rfl

theorem run_requireInstance (hs : s.Sound) (id : String) :
    (requireInstance id).run u.backend s =
      match s.instance? id with
      | some r => (.ok r, s)
      | none => (.error (.notFound "process instance" id), s) := by
  rw [requireInstance, run_bind, run_ask, Store.answer_findInstance u hs]
  cases s.instance? id <;> rfl

theorem run_requireTask (hs : s.Sound) (id : String) :
    (requireTask id).run u.backend s =
      match s.task? id with
      | some t => (.ok t, s)
      | none => (.error (.notFound "task" id), s) := by
  rw [requireTask, run_bind, run_ask, Store.answer_findTask u hs]
  cases s.task? id <;> rfl

theorem run_owningInstance (e : Event) (p : VariablePayload) (s : σ) :
    (owningInstance e p).run b s =
      match p.instanceId.or e.instanceId with
      | some id => (.ok id, s)
      | none => (.error (noOwner e "processInstanceId"), s) := by
  unfold owningInstance
  cases p.instanceId.or e.instanceId <;> rfl

theorem run_owningTask (e : Event) (p : VariablePayload) (s : σ) :
    (owningTask e p).run b s =
      match p.taskId with
      | some id => (.ok id, s)
      | none => (.error (noOwner e "taskId"), s) := by
  unfold owningTask
  cases p.taskId <;> rfl

theorem run_findOrMakeActivity (hs : s.Sound) (e : Event) (seed : ActivitySeed) :
    (findOrMakeActivity e seed).run u.backend s = (.ok (refresh e seed (s.activity? seed.id)), s) := by
  rw [findOrMakeActivity, run_bind, run_ask, Store.answer_findActivity u hs]
  rfl

theorem run_findOrMakeIntegration (hs : s.Sound) (e : Event) (p : IntegrationPayload) :
    (findOrMakeIntegration e p).run u.backend s =
      (.ok ((s.integration? p.callKey).getD (newIntegration e p)), s) := by
  rw [findOrMakeIntegration, run_bind, run_ask, Store.answer_findIntegration u hs]
  rfl

/-- An element is refreshed under its key, whether it was there or not. -/
theorem refresh_id {s : Store} (e : Event) (seed : ActivitySeed) :
    (refresh e seed (s.activity? seed.id)).id = seed.id := by
  cases h : s.activity? seed.id with
  | none => rfl
  | some a => exact (Table.lookup_mem h).2

end FlowView.Projection
