import FlowView.Proofs.Deletion
import FlowView.Proofs.Handling.Basic
/-!
# Deployments and process instances, handled

A completion goes through the open tasks of its instance one after the other, and comes to one change of
all of them.
-/

namespace FlowView.Projection

open Program

variable {u : Supply} {e : Event} {s : Store} {k : EventKind}

/-! ## Deployments -/

/-- The definition is saved, and then its model if the payload has one. -/
theorem run_deploy (u : Supply) (s : Store) (e : Event) (p : DefinitionPayload) :
    (do
      let old ← ask (.findDefinition p.id)
      ask (.saveDefinition (deploy e p old))
      match p.modelContent with
      | some content => ask (.saveModel { definitionId := (deploy e p old).id, content })
      | none => return ()).run u.backend s = (.ok (), s.withDefinition e p) := by
  rw [run_ask_ok (r := s.findDefinition p.id) rfl, run_ask_ok rfl, Store.withDefinition]
  cases p.modelContent <;> rfl

theorem handled_definitionDeployed :
    Handled u e s .processDeployed ((definitionDeployed e).run u.backend s) :=
  handled_payload rfl fun p hp => run_deploy u s e p ▸ .done (.definitionDeployed hp)

theorem handled_applicationDeployed :
    Handled u e s .applicationDeployed ((applicationDeployed e).run u.backend s) :=
  handled_payload rfl fun _ hp => handled_ask rfl (.done (.applicationDeployed hp))

/-! ## Process instances -/

theorem handled_instanceCreated (hs : s.Sound) :
    Handled u e s .processCreated ((instanceCreated e).run u.backend s) := by
  refine handled_payload rfl fun p hp => handled_ask (Store.answer_findInstance u hs p.id) ?_
  cases hr : s.instance? p.id with
  | some r => exact .done (.instanceKnown hp hr)
  | none => exact .done (.instanceMade hp hr)

theorem handled_changeInstance (hs : s.Sound) {passes : InstanceStatus → Bool}
    {change : InstancePayload → Instant → ProcessInstance → ProcessInstance}
    (hk : InstanceChange k passes change) :
    Handled u e s k ((changeInstance passes change e).run u.backend s) := by
  apply handled_payload (by cases hk <;> rfl)
  intro p hp
  apply handled_requireInstance hs (.noInstance (.change hk) hp)
  intro r hr
  cases hpass : passes r.status with
  | true => exact .done (.instancePassed hk hp hr hpass)
  | false => exact .done (.instanceChanged hk hp hr hpass)

/-- Saving tasks cancelled, one after the other, cancels them in their places. -/
theorem foldl_cancelTask (hs : s.foreignStatuses = []) (time : Instant) (ts : List UserTask) :
    ts.foldl (fun s t => if t.status.isFinal then s else s.saveTask (cancelTask time t)) s =
      { s with
        tasks := (ts.filter fun t => !t.status.isFinal).foldl
          (fun ts t => Table.upsert UserTask.id (fun _ new => new) (cancelTask time t) ts) s.tasks } := by
  induction ts generalizing s with
  | nil => rfl
  | cons t ts ih =>
    rw [List.foldl_cons]
    cases hf : t.status.isFinal with
    | true => simpa [hf] using ih hs
    | false =>
      rw [if_neg Bool.false_ne_true, ih (by simp [Store.saveTask, Store.settle, hs])]
      simp [hf, Store.saveTask, Store.settle, hs]

/-- Cancelling the tasks of an instance that are open, one after the other in any order, cancels them all in
their places. -/
theorem run_cancelEach (hs : s.Sound) (instanceId : String) (time : Instant) {ts : List UserTask}
    (hts : ∀ t, t ∈ ts ↔ t ∈ s.tasksOf instanceId) :
    (each ts fun t =>
        if t.status.isFinal then return () else ask (.saveTask (cancelTask time t))).run u.backend s =
      (.ok (), s.cancelTasksOf instanceId time) := by
  have hstep : ∀ t ∈ ts, ∀ s : Store, s.Sound →
      (if t.status.isFinal then (return ()) else ask (.saveTask (cancelTask time t))).run u.backend s =
        (.ok (), if t.status.isFinal then s else s.saveTask (cancelTask time t)) ∧
      (if t.status.isFinal then s else s.saveTask (cancelTask time t)).Sound := by
    intro t _ s hs
    cases t.status.isFinal with
    | true => exact ⟨rfl, hs⟩
    | false => exact ⟨run_ask _ _, hs.saveTask _⟩
  have hloop := run_each _ hstep s hs
  rw [hloop.1, foldl_cancelTask hs.statuses, Store.cancelTasksOf]
  -- At first no task is cancelled, in the end those that were listed and open.
  have hput := Table.foldl_upsert hs.taskIds (cancelTask time) (fun _ => rfl)
    (ts.filter fun t => !t.status.isFinal)
    (fun t ht => (Store.mem_tasksOf.1 ((hts t).1 (List.mem_filter.1 ht).1)).1) fun _ => false
  simp only [Bool.false_eq_true, if_false, List.map_id', false_or] at hput
  rw [hput, List.map_congr_left]
  intro t ht
  simp [hts, Store.mem_tasksOf, ht]

theorem run_cancelOpenTasks (hs : s.Sound) (instanceId : String) (time : Instant) :
    (cancelOpenTasks instanceId time).run u.backend s = (.ok (), s.cancelTasksOf instanceId time) := by
  rw [cancelOpenTasks, run_ask_ok (Store.answer_listTasks u hs instanceId)]
  exact run_cancelEach hs instanceId time fun _ => Iff.rfl

theorem handled_instanceCompleted (hs : s.Sound) :
    Handled u e s .processCompleted ((instanceCompleted e).run u.backend s) := by
  apply handled_payload rfl
  intro p hp
  apply handled_requireInstance hs (.noInstance .completed hp)
  intro r hr
  cases hf : r.status.isFinal with
  | true => exact .done (.completionPassed hp hr hf)
  | false =>
    have hrun := run_cancelOpenTasks (u := u) (hs.saveInstance (complete p e.time r)) r.id e.time
    rw [if_neg Bool.false_ne_true, run_ask_ok rfl]
    exact hrun ▸ .done (.instanceCompleted hp hr hf)

theorem handled_instanceDeleted (hs : s.Sound) :
    Handled u e s .processDeleted ((instanceDeleted e).run u.backend s) := by
  apply handled_payload rfl
  intro p hp
  apply handled_requireInstance hs (.noInstance .deleted hp)
  intro r hr
  cases hf : r.status.isFinal with
  | true =>
    have hrun := run_deletion u hs r.id
    exact hrun ▸ .done (.instanceDeleted hp hr hf)
  | false => exact .refused (.notEnded hp hr hf)

end FlowView.Projection
